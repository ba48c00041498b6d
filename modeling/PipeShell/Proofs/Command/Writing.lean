import PipeShell.Proofs.Command.Verdict

/-!
# Writing a line

A list of commands is written as a line, word by word: a word stands between quotes, with a
backslash before every quote in it. A word that ends in a backslash is written bare, since the
backslash would take the closing quote for itself; so it must get along without quotes
(`IsExpressible`).

* `words_writtenCommand` reads the words of a command back from what has been written, and
  `texts_intercalate` the texts of the commands.
* `parse_written` is the round trip: the line is accepted, and its stages have the words that were
  written.
-/

namespace PipeShell

/-- Whether a word ends in a backslash. -/
def EndsInEscape (word : List Char) : Prop :=
  word.getLast? = some escape

instance (word : List Char) : Decidable (EndsInEscape word) :=
  inferInstanceAs (Decidable (_ = _))

/-- A text with a backslash before every quote. -/
def escaped (text : List Char) : List Char :=
  text.flatMap fun c => if c = quote then [escape, quote] else [c]

/-- A word as it is written. -/
def writtenWord (word : List Char) : List Char :=
  if EndsInEscape word then escaped word else quote :: (escaped word ++ [quote])

/-- A command as it is written: its words with a space between them. -/
def writtenCommand (command : List String) : List Char :=
  [' '].intercalate (command.map fun word => writtenWord word.toList)

/-- A line as it is written: its commands with a delimiter between them. -/
def writtenLine (commands : List (List String)) : String :=
  String.ofList ([' ', delimiter, ' '].intercalate (commands.map writtenCommand))

/-- A command whose words can get along without quotes where they must. -/
structure IsExpressible (command : List String) : Prop where
  /-- A word that ends in a backslash has no blank and no delimiter. -/
  bare : ∀ word ∈ command, EndsInEscape word.toList →
    ∀ c ∈ word.toList, isBlank c = false ∧ c ≠ delimiter
  /-- If it is the first word, it does not begin with white space either. -/
  first : ∀ word, command.head? = some word → EndsInEscape word.toList →
    ∀ c, word.toList.head? = some c → Text.isWhiteSpace c = false

/-- Commands that a line may ask for under the settings. -/
structure IsRequest (settings : Settings) (commands : List (List String)) : Prop where
  ne_nil : commands ≠ []
  command_ne_nil : ∀ command ∈ commands, command ≠ []
  nul : ∀ command ∈ commands, ∀ word ∈ command, '\x00' ∉ word.toList
  fewCommands : commands.length ≤ settings.maxStages
  fewWords : ∀ command ∈ commands, command.length ≤ settings.maxWords
  /-- A terminator that stands alone asks for a number of 32 bits, if it asks for any. -/
  status : ∀ command, commands = [command] → command[0]? = some settings.terminator →
    ∀ word, command[1]? = some word → Text.IsInt32 word.toList

/-! ### Escaping -/

@[simp] theorem escaped_nil : escaped [] = [] := rfl

@[simp] theorem escaped_quote_cons (rest : List Char) :
    escaped (quote :: rest) = escape :: quote :: escaped rest := rfl

theorem escaped_cons {c : Char} (hc : c ≠ quote) (rest : List Char) :
    escaped (c :: rest) = c :: escaped rest := by
  simp [escaped, hc]

/-- What has been escaped may follow anything. -/
theorem apart_escaped (text word : List Char) : Apart text (escaped word) := by
  rcases word with _ | ⟨c, rest⟩
  · exact apart_nil_right text
  · by_cases hc : c = quote
    · subst hc
      exact apart_cons text (by decide) _
    · rw [escaped_cons hc]
      exact apart_cons text hc _

/-- No quote that has been escaped is a mark. -/
theorem marks_escaped (word : List Char) : marks (escaped word) = 0 := by
  induction word with
  | nil => rfl
  | cons c rest ih =>
    by_cases hc : c = quote
    · rw [hc, escaped_quote_cons, marks_pair_cons, ih]
    · rw [escaped_cons hc, marks_cons hc (apart_escaped [c] rest), ih]

theorem unescape_escaped (word : List Char) : unescape (escaped word) = word := by
  induction word with
  | nil => rfl
  | cons c rest ih =>
    by_cases hc : c = quote
    · subst hc
      have hquote : ¬(quote = escape ∧ (escaped rest).head? = some quote) := fun h =>
        absurd h.1 (by decide)
      rw [escaped_quote_cons, unescape, if_pos ⟨rfl, rfl⟩, unescape, if_neg hquote, ih]
    · have hplain : ¬(c = escape ∧ (escaped rest).head? = some quote) := fun h =>
        apart_escaped [c] rest (congrArg some h.1) h.2
      rw [escaped_cons hc, unescape, if_neg hplain, ih]

theorem getLast?_escaped (word : List Char) : (escaped word).getLast? = word.getLast? := by
  rcases List.eq_nil_or_concat word with rfl | ⟨rest, c, rfl⟩
  · rfl
  · by_cases hc : c = quote <;> simp [escaped, hc]

/-- Escaping adds nothing but backslashes. -/
theorem mem_of_mem_escaped {c : Char} (hc : c ≠ escape) {word : List Char} (h : c ∈ escaped word) :
    c ∈ word := by
  obtain ⟨d, hd, hmem⟩ := List.mem_flatMap.mp h
  by_cases hquote : d = quote <;> simp_all

/-! ### Words -/

theorem marks_writtenWord (word : List Char) : Even (marks (writtenWord word)) := by
  by_cases h : EndsInEscape word
  · rw [writtenWord, if_pos h, marks_escaped]
    exact ⟨0, rfl⟩
  · have hclose : Spot.isMark ⟨escaped word, quote⟩ = true := by
      rw [Spot.isMark, getLast?_escaped]
      exact decide_eq_true ⟨rfl, h⟩
    rw [writtenWord, if_neg h, marks_quote_cons, marks_snoc, if_pos hclose, marks_escaped]
    exact ⟨1, rfl⟩

/-- A word is read back from what has been written. -/
theorem words_writtenWord {word : List Char}
    (h : EndsInEscape word → ∀ c ∈ word, isBlank c = false) :
    words (writtenWord word) = [word] := by
  by_cases hend : EndsInEscape word
  · have hne : word ≠ [] := by
      rintro rfl
      exact absurd hend (by decide)
    rw [writtenWord, if_pos hend, words, stretches_eq_singleton (marks_escaped word),
      unescape_escaped, spelled_false_cons, bareWords_eq_singleton hne (h hend)]
    rfl
  · have hclose : (escaped word).getLast? ≠ some escape := by rwa [getLast?_escaped]
    have hrun := words_run (a := []) ⟨0, rfl⟩ (by simp) (marks_escaped word) hclose []
    rw [writtenWord, if_neg hend]
    rwa [unescape_escaped] at hrun

theorem isPiece_nil : IsPiece [] :=
  ⟨⟨0, rfl⟩, by simp⟩

/-- Two pieces with a character between them that means nothing are a piece. -/
theorem IsPiece.append_cons {a b : List Char} (ha : IsPiece a) {c : Char} (hq : c ≠ quote)
    (he : c ≠ escape) (hd : c ≠ delimiter) (hb : IsPiece b) : IsPiece (a ++ c :: b) where
  closed := by
    rw [marks_append_cons a hq he]
    exact ha.closed.add hb.closed
  whole s hs := by
    rw [spots_append_cons, List.mem_append, List.mem_cons, List.mem_map] at hs
    rcases hs with hs | rfl | ⟨s, hs, rfl⟩
    · exact ha.whole s hs
    · simp [Spot.isCut, hd]
    · have hmarks : marks (a ++ [c] ++ s.before) = marks a + marks s.before := by
        rw [← List.append_cons, marks_append_cons a hq he]
      have hwhole := hb.whole s hs
      simp only [Spot.isCut, Spot.shift, hmarks, Nat.even_add, ha.closed, true_iff] at hwhole ⊢
      exact hwhole

/-- There are no more marks before a character than in the text. -/
theorem marks_before_le {text : List Char} {s : Spot} (hs : s ∈ spots text) :
    marks s.before ≤ marks text := by
  obtain ⟨after, rfl⟩ := mem_spots.mp hs
  rw [marks, marks, spots_append, List.countP_append]
  exact Nat.le_add_right _ _

/-- A delimiter in a word that has been written stands between its quotes. -/
theorem isPiece_writtenWord {word : List Char} (h : EndsInEscape word → delimiter ∉ word) :
    IsPiece (writtenWord word) where
  closed := marks_writtenWord word
  whole s hs := by
    by_cases hend : EndsInEscape word
    · rw [writtenWord, if_pos hend] at hs
      have hchar : s.char ≠ delimiter := fun hchar => by
        obtain ⟨after, hword⟩ := mem_spots.mp hs
        have hmem : delimiter ∈ escaped word := by simp [hword, hchar]
        exact h hend (mem_of_mem_escaped delimiter_ne_escape hmem)
      simp [Spot.isCut, hchar]
    · rw [writtenWord, if_neg hend, spots_cons, spots_snoc, List.map_append, List.mem_cons,
        List.mem_append, List.map_singleton, List.mem_singleton, List.mem_map] at hs
      rcases hs with rfl | ⟨s, hs, rfl⟩ | rfl
      · simp [Spot.isCut, delimiter_ne_quote.symm]
      · have hnone : marks s.before = 0 :=
          Nat.le_zero.mp (marks_escaped word ▸ marks_before_le hs)
        simp [Spot.isCut, Spot.shift, hnone]
      · simp [Spot.isCut, Spot.shift, delimiter_ne_quote.symm]

/-! ### Commands -/

theorem writtenCommand_singleton (word : String) :
    writtenCommand [word] = writtenWord word.toList := by
  simp [writtenCommand]

theorem writtenCommand_cons (word : String) {rest : List String} (hrest : rest ≠ []) :
    writtenCommand (word :: rest) = writtenWord word.toList ++ ' ' :: writtenCommand rest := by
  have hmap : rest.map (fun word => writtenWord word.toList) ≠ [] := by simpa using hrest
  rw [writtenCommand, List.map_cons, List.intercalate_cons_of_ne_nil hmap, List.append_assoc,
    List.singleton_append]
  rfl

/-- The words of a command are read back from what has been written. -/
theorem words_writtenCommand {command : List String}
    (h : ∀ word ∈ command, EndsInEscape word.toList → ∀ c ∈ word.toList, isBlank c = false) :
    words (writtenCommand command) = command.map String.toList := by
  induction command with
  | nil => rfl
  | cons word rest ih =>
    have hword := words_writtenWord (h word List.mem_cons_self)
    by_cases hrest : rest = []
    · subst hrest
      rw [writtenCommand_singleton, hword]
      rfl
    · have hwords := ih fun w hw => h w (List.mem_cons_of_mem word hw)
      rw [writtenCommand_cons word hrest, words_append_cons (marks_writtenWord _) (by decide),
        hword, hwords]
      rfl

theorem isPiece_writtenCommand {command : List String}
    (h : ∀ word ∈ command, EndsInEscape word.toList → delimiter ∉ word.toList) :
    IsPiece (writtenCommand command) := by
  induction command with
  | nil => exact isPiece_nil
  | cons word rest ih =>
    have hword := isPiece_writtenWord (h word List.mem_cons_self)
    by_cases hrest : rest = []
    · subst hrest
      rwa [writtenCommand_singleton]
    · have hpiece := ih fun w hw => h w (List.mem_cons_of_mem word hw)
      rw [writtenCommand_cons word hrest]
      exact hword.append_cons (by decide) (by decide) (by decide) hpiece

theorem IsExpressible.words_eq {command : List String} (h : IsExpressible command) :
    words (writtenCommand command) = command.map String.toList :=
  words_writtenCommand fun word hword hend c hc => (h.bare word hword hend c hc).1

theorem IsExpressible.isPiece {command : List String} (h : IsExpressible command) :
    IsPiece (writtenCommand command) :=
  isPiece_writtenCommand fun word hword hend hmem => (h.bare word hword hend delimiter hmem).2 rfl

/-- A word that has been written ends in a quote or in a backslash. -/
theorem getLast?_writtenWord {word : List Char} {c : Char}
    (h : (writtenWord word).getLast? = some c) : Text.isWhiteSpace c = false := by
  by_cases hend : EndsInEscape word
  · rw [writtenWord, if_pos hend, getLast?_escaped, hend] at h
    exact Option.some.inj h ▸ by decide
  · rw [writtenWord, if_neg hend, ← List.cons_append, List.getLast?_concat] at h
    exact Option.some.inj h ▸ by decide

theorem writtenWord_ne_nil (word : List Char) : writtenWord word ≠ [] := by
  by_cases hend : EndsInEscape word
  · intro hnil
    rw [writtenWord, if_pos hend] at hnil
    have hlast := getLast?_escaped word
    rw [hnil, hend] at hlast
    cases hlast
  · rw [writtenWord, if_neg hend]
    exact List.cons_ne_nil _ _

theorem writtenCommand_ne_nil {command : List String} (h : command ≠ []) :
    writtenCommand command ≠ [] := by
  obtain ⟨word, rest, rfl⟩ := List.exists_cons_of_ne_nil h
  by_cases hrest : rest = []
  · subst hrest
    rw [writtenCommand_singleton]
    exact writtenWord_ne_nil _
  · rw [writtenCommand_cons word hrest]
    exact List.append_ne_nil_of_left_ne_nil (writtenWord_ne_nil _) _

/-- A word that is written first begins with no white space. -/
theorem head?_writtenWord {word : List Char}
    (h : EndsInEscape word → ∀ c, word.head? = some c → Text.isWhiteSpace c = false) {c : Char}
    (hc : (writtenWord word).head? = some c) : Text.isWhiteSpace c = false := by
  by_cases hend : EndsInEscape word
  · rw [writtenWord, if_pos hend] at hc
    rcases word with _ | ⟨d, rest⟩
    · cases hc
    · by_cases hd : d = quote
      · subst hd
        exact Option.some.inj hc ▸ by decide
      · rw [escaped_cons hd] at hc
        exact h hend c hc
  · rw [writtenWord, if_neg hend] at hc
    exact Option.some.inj hc ▸ by decide

/-- There is no white space around a command that has been written. -/
theorem isTrimmed_writtenCommand {command : List String}
    (h : ∀ word, command.head? = some word → EndsInEscape word.toList →
      ∀ c, word.toList.head? = some c → Text.isWhiteSpace c = false) :
    Text.IsTrimmed (writtenCommand command) where
  head c hc := by
    rcases command with _ | ⟨word, rest⟩
    · cases hc
    · refine head?_writtenWord (h word rfl) ?_
      by_cases hrest : rest = []
      · subst hrest
        rwa [writtenCommand_singleton] at hc
      · obtain ⟨d, others, hword⟩ := List.exists_cons_of_ne_nil (writtenWord_ne_nil word.toList)
        rw [writtenCommand_cons word hrest, hword] at hc
        rwa [hword]
  last c hc := by
    clear h
    induction command with
    | nil => cases hc
    | cons word rest ih =>
      by_cases hrest : rest = []
      · subst hrest
        rw [writtenCommand_singleton] at hc
        exact getLast?_writtenWord hc
      · have hne := writtenCommand_ne_nil hrest
        refine ih ?_
        rwa [writtenCommand_cons word hrest, List.append_cons, List.getLast?_append,
          List.getLast?_eq_some_getLast hne, Option.some_or, ← List.getLast?_eq_some_getLast hne]
          at hc

/-! ### Lines -/

theorem texts_append_cons {a : List Char} (ha : Even (marks a)) (b : List Char) :
    texts (a ++ delimiter :: b) = texts a ++ texts b := by
  rw [texts, pieces_append_cons ha, List.map_append]
  rfl

theorem IsPiece.texts_eq {text : List Char} (h : IsPiece text) : texts text = [Text.trim text] := by
  rw [texts, pieces_eq_singleton h.whole, List.map_singleton]

/-- White space at the beginning of a line is in no text. -/
theorem texts_cons_of_white {c : Char} (hc : Text.isWhiteSpace c = true) (line : List Char) :
    texts (c :: line) = texts line := by
  have hq := ne_quote_of_isWhiteSpace hc
  have hd : c ≠ delimiter := by
    rintro rfl
    exact absurd hc (by decide)
  have hone : ∀ s ∈ spots [c], s.isCut = false := by simp [spots_cons, Spot.isCut, hd]
  have hshift : ∀ s ∈ spots line, (s.shift [c]).isCut = s.isCut := fun s _ => by
    have hmarks := marks_cons hq (apart_singleton (ne_escape_of_isWhiteSpace hc) s.before)
    simp [Spot.isCut, Spot.shift, hmarks]
  have hcut : pieces (c :: line) = (pieces line).modifyHead ([c] ++ ·) :=
    cutBy_append_of_forall hone hshift
  obtain ⟨first, others, hfirst⟩ := List.exists_cons_of_ne_nil (pieces_ne_nil line)
  have htrim : Text.trim ([c] ++ first) = Text.trim first := by
    rw [Text.trim, Text.trimStart_append (by simpa using hc), Text.trim]
  rw [texts, hcut, texts, hfirst, List.modifyHead_cons, List.map_cons, List.map_cons, htrim]

/-- The texts of a line are read back from what has been written. -/
theorem texts_intercalate {list : List (List Char)} (hne : list ≠ [])
    (hpiece : ∀ text ∈ list, IsPiece text) (htrimmed : ∀ text ∈ list, Text.IsTrimmed text) :
    texts ([' ', delimiter, ' '].intercalate list) = list ∧
      Even (marks ([' ', delimiter, ' '].intercalate list)) := by
  induction list with
  | nil => exact absurd rfl hne
  | cons text rest ih =>
    have htext := hpiece text List.mem_cons_self
    have htrim := htrimmed text List.mem_cons_self
    by_cases hrest : rest = []
    · rw [hrest, List.intercalate_singleton, htext.texts_eq, htrim.trim_eq]
      exact ⟨rfl, htext.closed⟩
    · obtain ⟨htexts, hclosed⟩ := ih hrest (fun t ht => hpiece t (List.mem_cons_of_mem text ht))
        fun t ht => htrimmed t (List.mem_cons_of_mem text ht)
      have hspaced : IsPiece (text ++ [' ']) :=
        htext.append_cons (by decide) (by decide) (by decide) isPiece_nil
      have htrim' : Text.trim (text ++ [' ']) = text :=
        Text.trim_append (u := []) (by simp) htrim (List.forall_mem_singleton.mpr rfl)
      have hline : [' ', delimiter, ' '].intercalate (text :: rest) =
          (text ++ [' ']) ++ delimiter :: ' ' :: [' ', delimiter, ' '].intercalate rest := by
        simp [List.intercalate_cons_of_ne_nil hrest]
      rw [hline]
      constructor
      · rw [texts_append_cons hspaced.closed, texts_cons_of_white (by decide), htexts,
          hspaced.texts_eq, htrim']
        rfl
      · rw [marks_append_delimiter, marks_cons (by decide) (apart_singleton (by decide) _)]
        exact hspaced.closed.add hclosed

section Written

variable {settings : Settings} {commands : List (List String)}

theorem texts_writtenLine (hne : commands ≠ []) (h : ∀ command ∈ commands, IsExpressible command) :
    texts (writtenLine commands).toList = commands.map writtenCommand ∧
      Even (marks (writtenLine commands).toList) := by
  rw [writtenLine, String.toList_ofList]
  refine texts_intercalate (by simpa using hne) ?_ ?_
  · intro text htext
    obtain ⟨command, hcommand, rfl⟩ := List.mem_map.mp htext
    exact (h command hcommand).isPiece
  · intro text htext
    obtain ⟨command, hcommand, rfl⟩ := List.mem_map.mp htext
    exact isTrimmed_writtenCommand (h command hcommand).first

/-- Nothing is wrong with a command that has been written. -/
theorem IsRequest.not_stageFault (hrequest : IsRequest settings commands)
    {command : List String} (hcommand : command ∈ commands) (h : IsExpressible command) (i : Nat)
    (fault : LineError) : ¬StageFault settings.maxWords i (writtenCommand command) fault := by
  intro hfault
  cases hfault with
  | empty hnone => exact writtenCommand_ne_nil (hrequest.command_ne_nil command hcommand) hnone
  | tooMany hmany =>
    rw [h.words_eq, List.length_map] at hmany
    exact Nat.not_lt.mpr (hrequest.fewWords command hcommand) hmany
  | nul hfew hnul =>
    have hmem := mem_words_iff (c := '\x00') (by decide) (by decide) (by decide) h.isPiece.closed
    obtain ⟨read, hread, hc⟩ := hmem.mpr hnul
    rw [h.words_eq] at hread
    obtain ⟨word, hword, rfl⟩ := List.mem_map.mp hread
    exact hrequest.nul command hcommand word hword hc

/-- A terminator that has been written asks for a valid status. -/
theorem IsRequest.not_badStatus (hrequest : IsRequest settings commands)
    (h : ∀ command ∈ commands, IsExpressible command) (word : List Char) :
    ¬BadStatus settings.terminator (writtenLine commands).toList word := by
  rintro ⟨text, htexts, hread, hread', hword⟩
  rw [(texts_writtenLine hrequest.ne_nil h).1] at htexts
  obtain ⟨command, rfl, rfl⟩ := List.map_eq_singleton_iff.mp htexts
  rw [(h command List.mem_cons_self).words_eq, List.getElem?_map] at hread hread'
  obtain ⟨first, hfirst, hterminator⟩ := Option.map_eq_some_iff.mp hread
  obtain ⟨second, hsecond, rfl⟩ := Option.map_eq_some_iff.mp hread'
  obtain rfl := String.toList_injective hterminator
  exact hword (hrequest.status command rfl hfirst second hsecond)

/-- **What has been written is read back**: the line is accepted, with the stages that were asked
for. -/
theorem parse_written (hrequest : IsRequest settings commands)
    (h : ∀ command ∈ commands, IsExpressible command) :
    (parse settings (writtenLine commands)).stages =
      .ok ((commands.map writtenCommand).mapIdx Stage.ofText) := by
  obtain ⟨htexts, hclosed⟩ := texts_writtenLine hrequest.ne_nil h
  have hgood : ∀ i text, (texts (writtenLine commands).toList)[i]? = some text →
      ∀ fault, ¬StageFault settings.maxWords i text fault := by
    intro i text hi
    rw [htexts, List.getElem?_map] at hi
    obtain ⟨command, hcommand, rfl⟩ := Option.map_eq_some_iff.mp hi
    have hmem := List.mem_of_getElem? hcommand
    exact hrequest.not_stageFault hmem (h command hmem) i
  have hbusy : ¬IsIdle (writtenLine commands).toList := by
    rw [← texts_all_isEmpty_iff, htexts]
    obtain ⟨command, rest, rfl⟩ := List.exists_cons_of_ne_nil hrequest.ne_nil
    have hne := writtenCommand_ne_nil (hrequest.command_ne_nil command List.mem_cons_self)
    simp [hne]
  have hfew : (texts (writtenLine commands).toList).length ≤ settings.maxStages := by
    rw [htexts, List.length_map]
    exact hrequest.fewCommands
  rw [← htexts]
  exact (Verdict.accepted hclosed hbusy hfew hgood (hrequest.not_badStatus h)).parse_eq

/-- The stages of a line that has been written have the words that were written. -/
theorem map_words_written (h : ∀ command ∈ commands, IsExpressible command) :
    ((commands.map writtenCommand).mapIdx Stage.ofText).map Stage.words = commands := by
  have hstage : ∀ command ∈ commands,
      (words (writtenCommand command)).map String.ofList = command := by
    intro command hcommand
    simp [(h command hcommand).words_eq, Function.comp_def]
  refine List.ext_getElem? fun i => ?_
  rw [List.getElem?_map, List.getElem?_mapIdx, List.getElem?_map]
  rcases hi : commands[i]? with _ | command
  · rfl
  · exact congrArg some (hstage command (List.mem_of_getElem? hi))

end Written

end PipeShell
