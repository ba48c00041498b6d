import PipeShell.Command.Line
import PipeShell.Proofs.Command.Pieces
import PipeShell.Proofs.Command.Joins
import PipeShell.Proofs.Text.Integer

/-!
# Which lines are accepted

A line can be wrong in six ways, and several of them may hold of it at once. `Verdict` says which
one is reported, rule by rule and without the readers: by the marks of the line, the texts between
its delimiters outside quotes, and the words of these texts.

* `split_eq` and `read_eq` say what each reader does with a line and with a command.
* `readAll_of_fault` and `readAll_of_good` are the inductions over the commands: the first fault
  from the left is the one reported.
* `Verdict.parse_eq` follows each rule through the readers, and `exists_verdict` finds the rule that
  applies.
* `parse_eq_iff_verdict` is the theorem: a line is read exactly as the rules say.
-/

namespace PipeShell

/-- The texts of the commands of a line: its pieces without the white space around them. -/
def texts (line : List Char) : List (List Char) :=
  (pieces line).map Text.trim

/-- Whether there is nothing in a line but delimiters and white space. -/
def IsIdle (line : List Char) : Prop :=
  ∀ c ∈ line, c = delimiter ∨ Text.isWhiteSpace c = true

/-- A command that has been read. -/
def Stage.ofText (index : Nat) (text : List Char) : Stage where
  index := index
  text := String.ofList text
  words := (PipeShell.words text).map String.ofList

/-- What is wrong with the command that stands at a position and may have `most` words. -/
inductive StageFault (most index : Nat) (text : List Char) : LineError → Prop where
  | empty (none : text = []) : StageFault most index text (.emptyStage index)
  | tooMany (many : most < (words text).length) :
    StageFault most index text (.tooManyWords (String.ofList text) most)
  | nul (few : (words text).length ≤ most) (nul : '\x00' ∈ text) :
    StageFault most index text (.nulInWord (String.ofList text))

/-- Whether a line is the terminator alone, with a second word that is no number of 32 bits. -/
def BadStatus (terminator : String) (line word : List Char) : Prop :=
  ∃ text, texts line = [text] ∧ (words text)[0]? = some terminator.toList ∧
    (words text)[1]? = some word ∧ ¬Text.IsInt32 word

/-- **What becomes of a line.** Each rule applies where none of those before it does. -/
inductive Verdict (settings : Settings) (line : List Char) :
    Except LineError (List Stage) → Prop where
  | unclosed (opened : Odd (marks line)) :
    Verdict settings line (.error (.unclosedQuote (String.ofList (Text.trim line))))
  | idle (closed : Even (marks line)) (idle : IsIdle line) : Verdict settings line (.ok [])
  | tooManyStages (closed : Even (marks line)) (busy : ¬IsIdle line)
    (many : settings.maxStages < (texts line).length) :
    Verdict settings line (.error (.tooManyStages settings.maxStages))
  | stage (closed : Even (marks line)) (busy : ¬IsIdle line)
    (few : (texts line).length ≤ settings.maxStages)
    {i : Nat} {text : List Char} {fault : LineError}
    (here : (texts line)[i]? = some text) (bad : StageFault settings.maxWords i text fault)
    (first : ∀ j < i, ∀ text', (texts line)[j]? = some text' →
      ∀ fault', ¬StageFault settings.maxWords j text' fault') :
    Verdict settings line (.error fault)
  | status (closed : Even (marks line)) (busy : ¬IsIdle line)
    (few : (texts line).length ≤ settings.maxStages)
    (good : ∀ i text, (texts line)[i]? = some text →
      ∀ fault, ¬StageFault settings.maxWords i text fault)
    {word : List Char} (bad : BadStatus settings.terminator line word) :
    Verdict settings line (.error (.badExitStatus (String.ofList word)))
  | accepted (closed : Even (marks line)) (busy : ¬IsIdle line)
    (few : (texts line).length ≤ settings.maxStages)
    (good : ∀ i text, (texts line)[i]? = some text →
      ∀ fault, ¬StageFault settings.maxWords i text fault)
    (fine : ∀ word, ¬BadStatus settings.terminator line word) :
    Verdict settings line (.ok ((texts line).mapIdx Stage.ofText))

/-! ### Splitting -/

/-- There is no mark among delimiters and white space. -/
theorem IsIdle.marks_eq_zero {line : List Char} (h : IsIdle line) : marks line = 0 := by
  induction line with
  | nil => rfl
  | cons c rest ih =>
    have hc : c ≠ quote ∧ c ≠ escape := by
      rcases h c List.mem_cons_self with rfl | hwhite
      · exact ⟨delimiter_ne_quote, delimiter_ne_escape⟩
      · exact ⟨ne_quote_of_isWhiteSpace hwhite, ne_escape_of_isWhiteSpace hwhite⟩
    rw [marks_cons hc.1 (apart_singleton hc.2 rest)]
    exact ih fun d hd => h d (List.mem_cons_of_mem c hd)

/-- All texts are empty exactly if there is nothing in the line. -/
theorem texts_all_isEmpty_iff (line : List Char) :
    (texts line).all List.isEmpty = true ↔ IsIdle line := by
  induction line using pieces_induction with
  | one line h =>
    have htrim : (texts line).all List.isEmpty = true ↔
        ∀ c ∈ line, Text.isWhiteSpace c = true := by
      simp [texts, pieces_eq_singleton h, Text.trim_eq_nil_iff]
    rw [htrim]
    refine ⟨fun hwhite c hc => .inr (hwhite c hc), fun hidle c hc => ?_⟩
    refine (hidle c hc).resolve_left ?_
    rintro rfl
    -- before a delimiter of an idle line there is no mark, so that it would cut the line
    obtain ⟨before, after, hline⟩ := List.append_of_mem hc
    have hbefore : IsIdle before := fun d hd => hidle d (hline ▸ List.mem_append_left _ hd)
    have hcut := h ⟨before, delimiter⟩ (mem_spots.mpr ⟨after, hline⟩)
    simp [Spot.isCut, hbefore.marks_eq_zero] at hcut
  | more a b ha iha ihb =>
    rw [texts, pieces_append_cons ha, List.map_append, List.all_append, Bool.and_eq_true]
    change (texts a).all List.isEmpty = true ∧ (texts b).all List.isEmpty = true ↔ _
    rw [iha, ihb]
    simp only [IsIdle, List.mem_append, List.mem_cons]
    grind

theorem split_eq (most : Nat) (line : String) :
    split most line =
      if Odd (marks line.toList) then
        .error (.unclosedQuote (String.ofList (Text.trim line.toList)))
      else if (texts line.toList).all List.isEmpty then .ok []
      else if most < (texts line.toList).length then .error (.tooManyStages most)
      else .ok ((texts line.toList).map String.ofList) := by
  rw [split, pieces?_eq]
  by_cases hodd : Odd (marks line.toList)
  · rw [if_pos hodd, if_pos hodd]
    rfl
  · rw [if_neg hodd, if_neg hodd]
    rfl

/-! ### Commands -/

/-- Trimming a piece leaves every delimiter in quotes. -/
theorem IsPiece.trim {text : List Char} (h : IsPiece text) : IsPiece (Text.trim text) where
  closed := by rw [marks_trim]; exact h.closed
  whole s hs := by
    have hshift : s.shift (Text.front text) ∈ spots text := by
      have hmem : s.shift (Text.front text) ∈
          spots (Text.front text ++ Text.trim text ++ Text.back text) := by
        rw [spots_append, spots_append]
        exact List.mem_append_left _ (List.mem_append_right _ (List.mem_map_of_mem hs))
      rwa [Text.front_append_trim_append_back] at hmem
    have hmarks : marks (Text.front text ++ s.before) = marks s.before :=
      marks_append_of_white (fun _ => Text.isWhiteSpace_of_mem_front) s.before
    have hwhole := h.whole _ hshift
    simpa [Spot.isCut, Spot.shift, hmarks] using hwhole

/-- A text that is left when the piece of a closed line is trimmed. -/
structure IsText (text : List Char) : Prop where
  closed : Even (marks text)
  trimmed : Text.IsTrimmed text

theorem isText_of_mem_texts {line text : List Char} (h : Even (marks line))
    (htext : text ∈ texts line) : IsText text := by
  obtain ⟨piece, hpiece, rfl⟩ := List.mem_map.mp htext
  have hclosed := (isPiece_of_mem_pieces h piece hpiece).closed
  exact ⟨by rwa [marks_trim], Text.isTrimmed_trim piece⟩

/-- A text has no word exactly if it is empty. -/
theorem IsText.words_eq_nil_iff {text : List Char} (h : IsText text) :
    words text = [] ↔ text = [] := by
  rcases text with _ | ⟨c, rest⟩
  · simp
  · have hblank : isBlank c = false := isBlank_of_not_isWhiteSpace (h.trimmed.head c rfl)
    simp [words_ne_nil hblank h.closed]

/-- A word has a nul character exactly if the text has one. -/
theorem IsText.any_hasNul_iff {text : List Char} (h : IsText text) :
    ((words text).map String.ofList).any Stage.hasNul = true ↔ '\x00' ∈ text := by
  have hmem := mem_words_iff (c := '\x00') (by decide) (by decide) (by decide) h.closed
  rw [← hmem]
  simp [Stage.hasNul]

/-- What reading a command gives. -/
theorem read_eq {text : List Char} (h : IsText text) (index most : Nat) :
    Stage.read index (String.ofList text) most =
      if most < (words text).length then .error (.tooManyWords (String.ofList text) most)
      else if text = [] then .error (.emptyStage index)
      else if '\x00' ∈ text then .error (.nulInWord (String.ofList text))
      else .ok (Stage.ofText index text) := by
  have hodd : ¬Odd (marks text) := Nat.not_odd_iff_even.mpr h.closed
  rw [Stage.read, readWords_eq, String.toList_ofList, if_neg hodd]
  by_cases hmany : most < (words text).length
  · rw [if_pos hmany, if_pos hmany]
    rfl
  · rw [if_neg hmany, if_neg hmany]
    by_cases hempty : text = []
    · subst hempty
      rfl
    · have hwords : ((words text).map String.ofList).isEmpty = false := by
        simp [h.words_eq_nil_iff, hempty]
      rw [if_neg hempty]
      by_cases hnul : '\x00' ∈ text
      · have hany := h.any_hasNul_iff.mpr hnul
        rw [if_pos hnul]
        simp only [bind, Except.bind, hwords, hany]
        rfl
      · have hany : ((words text).map String.ofList).any Stage.hasNul = false :=
          Bool.eq_false_iff.mpr fun hany => hnul (h.any_hasNul_iff.mp hany)
        rw [if_neg hnul]
        simp only [bind, Except.bind, hwords, hany]
        rfl

/-- A faulty command is refused with its fault. -/
theorem read_of_fault {most index : Nat} {text : List Char} {fault : LineError}
    (hfault : StageFault most index text fault) (h : IsText text) :
    Stage.read index (String.ofList text) most = .error fault := by
  rw [read_eq h]
  cases hfault with
  | empty hnone =>
    subst hnone
    rfl
  | tooMany hmany => rw [if_pos hmany]
  | nul hfew hnul =>
    rw [if_neg (Nat.not_lt.mpr hfew), if_neg (List.ne_nil_of_mem hnul), if_pos hnul]

/-- Any other command is read. -/
theorem read_of_good {most index : Nat} {text : List Char} (h : IsText text)
    (hgood : ∀ fault, ¬StageFault most index text fault) :
    Stage.read index (String.ofList text) most = .ok (Stage.ofText index text) := by
  have hfew : ¬most < (words text).length := fun hmany => hgood _ (.tooMany hmany)
  have hempty : text ≠ [] := fun hnone => hgood _ (.empty hnone)
  have hnul : '\x00' ∉ text := fun hnul => hgood _ (.nul (Nat.not_lt.mp hfew) hnul)
  rw [read_eq h, if_neg hfew, if_neg hempty, if_neg hnul]

/-! ### The commands of a line -/

/-- The first fault from the left is the one reported. -/
theorem readAll_of_fault {most start i : Nat} {list : List (List Char)} {text : List Char}
    {fault : LineError} (hlist : ∀ text ∈ list, IsText text) (here : list[i]? = some text)
    (bad : StageFault most (start + i) text fault)
    (first : ∀ j < i, ∀ text', list[j]? = some text' →
      ∀ fault', ¬StageFault most (start + j) text' fault') :
    readAll most start (list.map String.ofList) = .error fault := by
  induction list generalizing start i with
  | nil => cases here
  | cons head rest ih =>
    have hhead := hlist head List.mem_cons_self
    rcases i with _ | i
    · obtain rfl : head = text := Option.some.inj here
      rw [Nat.add_zero] at bad
      rw [List.map_cons, readAll, read_of_fault bad hhead]
      rfl
    · have hread := read_of_good hhead (first 0 (Nat.zero_lt_succ i) head rfl)
      have hrest : readAll most (start + 1) (rest.map String.ofList) = .error fault :=
        ih (fun t ht => hlist t (List.mem_cons_of_mem head ht)) here
          (by rwa [Nat.add_right_comm, Nat.add_assoc]) fun j hj text' htext' fault' hfault' =>
            first (j + 1) (Nat.succ_lt_succ hj) text' htext' fault'
              (by rwa [Nat.add_right_comm, Nat.add_assoc] at hfault')
      rw [Nat.add_zero] at hread
      rw [List.map_cons, readAll, hread]
      simp only [bind, Except.bind, hrest]

theorem readAll_of_good {most start : Nat} {list : List (List Char)}
    (hlist : ∀ text ∈ list, IsText text)
    (good : ∀ j text, list[j]? = some text → ∀ fault, ¬StageFault most (start + j) text fault) :
    readAll most start (list.map String.ofList) =
      .ok (list.mapIdx fun j => Stage.ofText (start + j)) := by
  induction list generalizing start with
  | nil => rfl
  | cons head rest ih =>
    have hread := read_of_good (hlist head List.mem_cons_self) (good 0 head rfl)
    have hrest : readAll most (start + 1) (rest.map String.ofList) =
        .ok (rest.mapIdx fun j => Stage.ofText (start + 1 + j)) :=
      ih (fun t ht => hlist t (List.mem_cons_of_mem head ht)) fun j text htext fault hfault =>
        good (j + 1) text htext fault (by rwa [Nat.add_right_comm, Nat.add_assoc] at hfault)
    rw [Nat.add_zero] at hread
    rw [List.map_cons, readAll, hread]
    have hshift : (fun j => Stage.ofText (start + 1 + j)) =
        fun j => Stage.ofText (start + (j + 1)) :=
      funext fun j => by rw [Nat.add_right_comm, Nat.add_assoc]
    simp only [bind, Except.bind, hrest, List.mapIdx_cons, hshift]
    rfl

/-! ### The status of a terminator -/

theorem isTerminator_iff (index : Nat) {text : List Char} {terminator : String}
    (hne : words text ≠ []) : (Stage.ofText index text).isTerminator terminator = true ↔
      (words text)[0]? = some terminator.toList := by
  obtain ⟨first, others, hwords⟩ := List.exists_cons_of_ne_nil hne
  have hprogram : (Stage.ofText index text).program = String.ofList first := by
    simp [Stage.program, Stage.ofText, hwords]
  rw [Stage.isTerminator, hprogram, hwords, beq_iff_eq]
  constructor
  · rintro rfl
    simp
  · intro h
    rw [← String.ofList_toList (s := terminator), ← Option.some.inj h]

/-- A status is refused exactly if it is no number of 32 bits. -/
theorem exitStatus_cases (index : Nat) (text : List Char) :
    (∃ word, (words text)[1]? = some word ∧ ¬Text.IsInt32 word ∧
      (Stage.ofText index text).exitStatus = .error (.badExitStatus (String.ofList word))) ∨
    ((∀ word, (words text)[1]? = some word → Text.IsInt32 word) ∧
      ∃ status, (Stage.ofText index text).exitStatus = .ok status) := by
  have hword : (Stage.ofText index text).words[1]? = (words text)[1]?.map String.ofList :=
    List.getElem?_map
  rcases hsecond : (words text)[1]? with _ | word
  · exact .inr ⟨nofun, none, by rw [Stage.exitStatus, hword, hsecond]; rfl⟩
  · rcases hread : Text.readInt32 word with e | n
    · refine .inl ⟨word, rfl, ?_, ?_⟩
      · rintro ⟨n, hn⟩
        rw [Text.readInt32_eq_ok_iff.mpr hn] at hread
        cases hread
      · simp [Stage.exitStatus, hword, hsecond, hread]
    · refine .inr ⟨?_, some n, by simp [Stage.exitStatus, hword, hsecond, hread]⟩
      rintro _ ⟨⟩
      exact ⟨n, Text.readInt32_eq_ok_iff.mp hread⟩

section CheckStatus

variable {settings : Settings} {line : List Char}

theorem checkStatus_of_bad {word : List Char} (hbad : BadStatus settings.terminator line word) :
    checkStatus settings ((texts line).mapIdx Stage.ofText) =
      .error (.badExitStatus (String.ofList word)) := by
  obtain ⟨text, htexts, hfirst, hsecond, hword⟩ := hbad
  have hne : words text ≠ [] := by
    intro hnone
    simp [hnone] at hfirst
  have hterminator := (isTerminator_iff 0 hne).mpr hfirst
  rw [htexts]
  simp only [List.mapIdx_cons, List.mapIdx_nil, checkStatus, hterminator, if_true]
  rcases exitStatus_cases 0 text with ⟨word', hword', -, hstatus⟩ | ⟨hfine, -⟩
  · obtain rfl : word = word' := Option.some.inj (hsecond.symm.trans hword')
    rw [hstatus]
    rfl
  · exact absurd (hfine word hsecond) hword

theorem checkStatus_of_fine (hclosed : Even (marks line))
    (hgood : ∀ i text, (texts line)[i]? = some text →
      ∀ fault, ¬StageFault settings.maxWords i text fault)
    (hfine : ∀ word, ¬BadStatus settings.terminator line word) :
    checkStatus settings ((texts line).mapIdx Stage.ofText) =
      .ok ((texts line).mapIdx Stage.ofText) := by
  rcases htexts : texts line with _ | ⟨text, _ | ⟨second, rest⟩⟩
  · rfl
  · have htext : text ∈ texts line := by simp [htexts]
    have hne : words text ≠ [] := by
      rw [Ne, (isText_of_mem_texts hclosed htext).words_eq_nil_iff]
      exact fun hnone => hgood 0 text (by simp [htexts]) _ (.empty hnone)
    simp only [List.mapIdx_cons, List.mapIdx_nil, checkStatus]
    by_cases hterminator : (Stage.ofText 0 text).isTerminator settings.terminator = true
    · rw [if_pos hterminator]
      rcases exitStatus_cases 0 text with ⟨word, hword, hbad, -⟩ | ⟨-, status, hstatus⟩
      · have hfirst := (isTerminator_iff 0 hne).mp hterminator
        exact absurd ⟨text, htexts, hfirst, hword, hbad⟩ (hfine word)
      · rw [hstatus]
        rfl
    · rw [if_neg hterminator]
  · simp only [List.mapIdx_cons, checkStatus]

end CheckStatus

/-! ### The verdict -/

section Reading

variable {settings : Settings} {line : String}

theorem parse_of_readStages_error {fault : LineError}
    (h : readStages settings line = .error fault) :
    (parse settings line).stages = .error fault := by
  rw [parse, h]

theorem parse_of_readStages_ok {stages : List Stage} (h : readStages settings line = .ok stages) :
    (parse settings line).stages = checkStatus settings stages := by
  rw [parse, h]

theorem readStages_of_split_error {fault : LineError}
    (h : split settings.maxStages line = .error fault) :
    readStages settings line = .error fault := by
  rw [readStages, h]
  rfl

theorem readStages_of_split_ok {list : List String} (h : split settings.maxStages line = .ok list) :
    readStages settings line = readAll settings.maxWords 0 list := by
  rw [readStages, h]
  rfl

/-- A line that is closed, not idle and not too long is split into its texts. -/
theorem split_eq_ok (hclosed : Even (marks line.toList)) (hbusy : ¬IsIdle line.toList)
    (hfew : (texts line.toList).length ≤ settings.maxStages) :
    split settings.maxStages line = .ok ((texts line.toList).map String.ofList) := by
  have hopen : ¬Odd (marks line.toList) := Nat.not_odd_iff_even.mpr hclosed
  have hfull : ¬(texts line.toList).all List.isEmpty = true := mt (texts_all_isEmpty_iff _).mp hbusy
  rw [split_eq, if_neg hopen, if_neg hfull, if_neg (Nat.not_lt.mpr hfew)]

/-- Where all commands of such a line are good, they are read. -/
theorem readStages_of_good (hclosed : Even (marks line.toList)) (hbusy : ¬IsIdle line.toList)
    (hfew : (texts line.toList).length ≤ settings.maxStages)
    (hgood : ∀ i text, (texts line.toList)[i]? = some text →
      ∀ fault, ¬StageFault settings.maxWords i text fault) :
    readStages settings line = .ok ((texts line.toList).mapIdx Stage.ofText) := by
  have hgood' : ∀ i text, (texts line.toList)[i]? = some text →
      ∀ fault, ¬StageFault settings.maxWords (0 + i) text fault := by
    simpa only [Nat.zero_add] using hgood
  rw [readStages_of_split_ok (split_eq_ok hclosed hbusy hfew),
    readAll_of_good (fun text htext => isText_of_mem_texts hclosed htext) hgood']
  simp only [Nat.zero_add]

/-- What a rule says is what becomes of the line. -/
theorem Verdict.parse_eq {result : Except LineError (List Stage)}
    (h : Verdict settings line.toList result) : (parse settings line).stages = result := by
  cases h with
  | unclosed hopened =>
    have hsplit := split_eq settings.maxStages line
    rw [if_pos hopened] at hsplit
    exact parse_of_readStages_error (readStages_of_split_error hsplit)
  | idle hclosed hidle =>
    have hsplit := split_eq settings.maxStages line
    rw [if_neg (Nat.not_odd_iff_even.mpr hclosed), if_pos ((texts_all_isEmpty_iff _).mpr hidle)]
      at hsplit
    exact parse_of_readStages_ok (readStages_of_split_ok hsplit)
  | tooManyStages hclosed hbusy hmany =>
    have hsplit := split_eq settings.maxStages line
    rw [if_neg (Nat.not_odd_iff_even.mpr hclosed), if_neg (mt (texts_all_isEmpty_iff _).mp hbusy),
      if_pos hmany] at hsplit
    exact parse_of_readStages_error (readStages_of_split_error hsplit)
  | @stage hclosed hbusy hfew i text fault here bad first =>
    refine parse_of_readStages_error ?_
    rw [readStages_of_split_ok (split_eq_ok hclosed hbusy hfew)]
    refine readAll_of_fault (fun text htext => isText_of_mem_texts hclosed htext) here ?_ ?_
    · rwa [Nat.zero_add]
    · simpa only [Nat.zero_add] using first
  | status hclosed hbusy hfew good bad =>
    rw [parse_of_readStages_ok (readStages_of_good hclosed hbusy hfew good)]
    exact checkStatus_of_bad bad
  | accepted hclosed hbusy hfew good fine =>
    rw [parse_of_readStages_ok (readStages_of_good hclosed hbusy hfew good)]
    exact checkStatus_of_fine hclosed good fine

end Reading

/-- Among faulty commands there is a first one. -/
theorem exists_first_fault {settings : Settings} {line : List Char}
    (h : ∃ i text, (texts line)[i]? = some text ∧
      ∃ fault, StageFault settings.maxWords i text fault) :
    ∃ i text, (texts line)[i]? = some text ∧
      (∃ fault, StageFault settings.maxWords i text fault) ∧
      ∀ j < i, ∀ text', (texts line)[j]? = some text' →
        ∀ fault', ¬StageFault settings.maxWords j text' fault' := by
  classical
  obtain ⟨text, here, bad⟩ := Nat.find_spec h
  refine ⟨Nat.find h, text, here, bad, fun j hj text' htext' fault' hfault' => ?_⟩
  exact Nat.find_min h hj ⟨text', htext', fault', hfault'⟩

/-- Some rule applies to every line. -/
theorem exists_verdict (settings : Settings) (line : List Char) :
    ∃ result, Verdict settings line result := by
  by_cases hopened : Odd (marks line)
  · exact ⟨_, .unclosed hopened⟩
  have hclosed : Even (marks line) := Nat.not_odd_iff_even.mp hopened
  by_cases hidle : IsIdle line
  · exact ⟨_, .idle hclosed hidle⟩
  by_cases hmany : settings.maxStages < (texts line).length
  · exact ⟨_, .tooManyStages hclosed hidle hmany⟩
  have hfew := Nat.not_lt.mp hmany
  by_cases hfault : ∃ i text, (texts line)[i]? = some text ∧
      ∃ fault, StageFault settings.maxWords i text fault
  · obtain ⟨i, text, here, ⟨fault, bad⟩, first⟩ := exists_first_fault hfault
    exact ⟨_, .stage hclosed hidle hfew here bad first⟩
  have hgood : ∀ i text, (texts line)[i]? = some text →
      ∀ fault, ¬StageFault settings.maxWords i text fault :=
    fun i text here fault bad => hfault ⟨i, text, here, fault, bad⟩
  by_cases hstatus : ∃ word, BadStatus settings.terminator line word
  · obtain ⟨word, bad⟩ := hstatus
    exact ⟨_, .status hclosed hidle hfew hgood bad⟩
  · exact ⟨_, .accepted hclosed hidle hfew hgood fun word bad => hstatus ⟨word, bad⟩⟩

/-- **A line becomes what the rules say, and nothing else.** Every line is accepted with its stages
or refused with the first fault that applies, under every limit and with every terminator. -/
theorem parse_eq_iff_verdict (settings : Settings) (line : String)
    (result : Except LineError (List Stage)) :
    (parse settings line).stages = result ↔ Verdict settings line.toList result := by
  constructor
  · rintro rfl
    obtain ⟨result, hresult⟩ := exists_verdict settings line.toList
    rwa [hresult.parse_eq]
  · exact Verdict.parse_eq

end PipeShell
