import PipeShell.Proofs.Command.Writing

/-!
# What a line can ask for

Not every list of words can be the words of a line. A quoted word never ends in a backslash, since a
backslash in front of its closing quote would keep the run open; so a word that ends in a backslash
is bare, and a bare word has no blanks and, in an accepted line, no delimiter. The first word of a
command also begins where the command does, and there trimming has left no white space.

* `bare_of_mem_wordsFrom` and `head_of_head?_words` are these facts about the words of a text.
* `isExpressible_of_asks` puts them together for every line.
* `asks_iff_isExpressible` is the theorem: the words that some line asks for are exactly those that
  can be written, and then the line that has been written asks for them.
-/

namespace PipeShell

/-- Whether a line is accepted, with stages of these words. -/
def Asks (settings : Settings) (line : String) (commands : List (List String)) : Prop :=
  ∃ stages, (parse settings line).stages = .ok stages ∧ stages.map Stage.words = commands

/-! ### Words that end in a backslash -/

/-- Whether every delimiter of a text stands in a quoted run, when a run is open before the text or
not. -/
def Hides (quoted : Bool) (text : List Char) : Prop :=
  ∀ s ∈ spots text, s.char = delimiter → Odd (marks s.before + quoted.toNat)

section Hides

variable {quoted : Bool}

/-- Delimiters stay hidden when the beginning of a text is left out. -/
theorem Hides.of_append {quoted' : Bool} {a rest : List Char} (h : Hides quoted (a ++ rest))
    (hrest : ∀ s ∈ spots rest,
      Odd (marks (a ++ s.before) + quoted.toNat) → Odd (marks s.before + quoted'.toNat)) :
    Hides quoted' rest := by
  intro s hs hchar
  refine hrest s hs (h (s.shift a) ?_ hchar)
  rw [spots_append]
  exact List.mem_append_right _ (List.mem_map_of_mem hs)

theorem Hides.mark {rest : List Char} (h : Hides quoted (quote :: rest)) :
    Hides (!quoted) rest := by
  refine Hides.of_append (a := [quote]) h fun s _ hodd => ?_
  rw [List.singleton_append, marks_quote_cons] at hodd
  cases quoted
  · exact hodd
  · simpa [Nat.odd_add] using hodd

theorem Hides.plain {c : Char} {rest : List Char} (hc : c ≠ quote) (happart : Apart [c] rest)
    (h : Hides quoted (c :: rest)) : Hides quoted rest := by
  refine Hides.of_append (a := [c]) h fun s hs hodd => ?_
  obtain ⟨after, rfl⟩ := mem_spots.mp hs
  have hbefore : Apart [c] s.before := by
    rcases hbefore : s.before with _ | ⟨d, others⟩
    · exact apart_nil_right [c]
    · rwa [hbefore] at happart
  rwa [List.singleton_append, marks_cons hc hbefore] at hodd

theorem Hides.pair {rest : List Char} (h : Hides quoted (escape :: quote :: rest)) :
    Hides quoted rest := by
  refine Hides.of_append (a := [escape, quote]) h fun s _ hodd => ?_
  rwa [List.cons_append, List.singleton_append, marks_pair_cons] at hodd

/-- A delimiter at the beginning is hidden by a run that is open. -/
theorem Hides.ne_delimiter {c : Char} {rest : List Char} (h : Hides false (c :: rest)) :
    c ≠ delimiter := by
  intro hc
  have hodd : Odd 0 := h ⟨[], c⟩ (mem_spots.mpr ⟨rest, rfl⟩) hc
  exact absurd hodd (by decide)

theorem IsPiece.hides {text : List Char} (h : IsPiece text) : Hides false text := by
  intro s hs hchar
  simpa [Spot.isCut, hchar] using h.whole s hs

end Hides

/-- A bare stretch without delimiters has bare words without delimiters. -/
theorem bare_of_mem_bareWords {read word : List Char} (h : delimiter ∉ read)
    (hword : word ∈ bareWords read) : ∀ c ∈ word, isBlank c = false ∧ c ≠ delimiter := by
  intro c hc
  have hblank := isBlank_of_mem_bareWords hword c hc
  refine ⟨hblank, ?_⟩
  rintro rfl
  exact h ((mem_bareWords_iff hblank).mp ⟨word, hword, hc⟩)

/-- A word that ends in a backslash is bare. What has been read of a run must not end in a backslash
where the run is closed, which is what `hend` says. -/
theorem bare_of_mem_wordsFrom {quoted : Bool} {read text : List Char} (hhides : Hides quoted text)
    (hread : quoted = false → delimiter ∉ read) (hend : quoted = true → Apart read text) :
    ∀ word ∈ wordsFrom quoted read text, EndsInEscape word →
      ∀ c ∈ word, isBlank c = false ∧ c ≠ delimiter := by
  induction text using quotes_induction generalizing quoted read with
  | nil =>
    intro word hword _
    cases quoted
    · rw [wordsFrom_bare_nil] at hword
      exact bare_of_mem_bareWords (hread rfl) hword
    · rw [wordsFrom_run_nil] at hword
      cases hword
  | mark rest ih =>
    have hrest : ∀ word ∈ wordsFrom (!quoted) [] rest, EndsInEscape word →
        ∀ c ∈ word, isBlank c = false ∧ c ≠ delimiter :=
      ih hhides.mark (fun _ => List.not_mem_nil) fun _ => apart_nil_left rest
    intro word hword hescape
    cases quoted
    · rw [wordsFrom_bare_quote, List.mem_append] at hword
      rcases hword with hword | hword
      · exact bare_of_mem_bareWords (hread rfl) hword
      · exact hrest word hword hescape
    · rw [wordsFrom_run_quote, List.mem_cons] at hword
      rcases hword with rfl | hword
      · exact absurd rfl (hend rfl hescape)
      · exact hrest word hword hescape
  | plain c rest hc happart ih =>
    rw [wordsFrom_cons _ _ hc happart]
    refine ih (hhides.plain hc happart) ?_ ?_
    · rintro rfl
      simpa [hread rfl] using hhides.ne_delimiter.symm
    · intro _ hlast
      exact happart (by simpa using hlast)
  | pair rest ih =>
    rw [wordsFrom_pair]
    refine ih hhides.pair ?_ fun _ => apart_snoc read (by decide) rest
    intro hquoted
    simp [hread hquoted, delimiter_ne_quote]

/-! ### The first word -/

/-- A bare word begins where its stretch does. -/
theorem bareWords_cons {c : Char} (hc : isBlank c = false) (rest : List Char) :
    ∃ first others, bareWords (c :: rest) = (c :: first) :: others := by
  obtain ⟨first, others, hsplit⟩ := List.exists_cons_of_ne_nil (List.splitOnP_ne_nil isBlank rest)
  refine ⟨first, others.filter (· ≠ []), ?_⟩
  rw [bareWords, List.splitOnP_cons_eq_if_modifyHead, hsplit]
  simp [hc]

theorem head?_of_head?_wordsFrom_bare {c : Char} (hc : isBlank c = false) {read text : List Char}
    {word : List Char} (h : (wordsFrom false (c :: read) text).head? = some word) :
    word.head? = some c := by
  induction text using quotes_induction generalizing read with
  | nil =>
    obtain ⟨first, others, hread⟩ := bareWords_cons hc read
    rw [wordsFrom_bare_nil, hread] at h
    exact Option.some.inj h ▸ rfl
  | mark rest ih =>
    obtain ⟨first, others, hread⟩ := bareWords_cons hc read
    rw [wordsFrom_bare_quote, hread] at h
    exact Option.some.inj h ▸ rfl
  | plain d rest hd happart ih =>
    rw [wordsFrom_cons _ _ hd happart] at h
    exact ih h
  | pair rest ih =>
    rw [wordsFrom_pair] at h
    exact ih h

/-- A run that is read first does not end in a backslash. -/
theorem not_endsInEscape_of_head?_wordsFrom {read text word : List Char} (hend : Apart read text)
    (h : (wordsFrom true read text).head? = some word) : ¬EndsInEscape word := by
  induction text using quotes_induction generalizing read with
  | nil => simp at h
  | mark rest ih =>
    rw [wordsFrom_run_quote] at h
    obtain rfl : read = word := Option.some.inj h
    exact fun hescape => hend hescape rfl
  | plain c rest hc happart ih =>
    rw [wordsFrom_cons _ _ hc happart] at h
    exact ih (fun hlast => happart (by simpa using hlast)) h
  | pair rest ih =>
    rw [wordsFrom_pair] at h
    exact ih (apart_snoc read (by decide) rest) h

/-- The first word of a command that begins without white space begins without it too, unless it is
quoted. -/
theorem head_of_head?_words {text word : List Char}
    (htext : ∀ c, text.head? = some c → Text.isWhiteSpace c = false)
    (hword : (words text).head? = some word) (hend : EndsInEscape word) :
    ∀ c, word.head? = some c → Text.isWhiteSpace c = false := by
  rw [words_eq_wordsFrom] at hword
  intro c hc
  induction text using quotes_induction with
  | nil => simp at hword
  | mark rest _ =>
    rw [wordsFrom_bare_quote] at hword
    exact absurd hend (not_endsInEscape_of_head?_wordsFrom (apart_nil_left rest) hword)
  | plain d rest hd happart _ =>
    have hwhite := htext d rfl
    rw [wordsFrom_cons _ _ hd happart] at hword
    have hhead := head?_of_head?_wordsFrom_bare (isBlank_of_not_isWhiteSpace hwhite) hword
    rwa [Option.some.inj (hhead.symm.trans hc)] at hwhite
  | pair rest _ =>
    rw [wordsFrom_pair] at hword
    have hhead := head?_of_head?_wordsFrom_bare (by decide) hword
    exact Option.some.inj (hhead.symm.trans hc) ▸ by decide

/-! ### Lines -/

/-- The words of a text of an accepted line can be written. -/
theorem isExpressible_of_mem_texts {line text : List Char} (hclosed : Even (marks line))
    (htext : text ∈ texts line) : IsExpressible ((words text).map String.ofList) := by
  obtain ⟨piece, hpiece, rfl⟩ := List.mem_map.mp htext
  have hhides := (isPiece_of_mem_pieces hclosed piece hpiece).trim.hides
  constructor
  · intro word hword hend
    obtain ⟨read, hread, rfl⟩ := List.mem_map.mp hword
    rw [String.toList_ofList] at hend ⊢
    rw [words_eq_wordsFrom] at hread
    exact bare_of_mem_wordsFrom hhides (fun _ => List.not_mem_nil) nofun read hread hend
  · intro word hword hend
    rw [List.head?_map] at hword
    obtain ⟨read, hread, rfl⟩ := Option.map_eq_some_iff.mp hword
    rw [String.toList_ofList] at hend ⊢
    exact head_of_head?_words (Text.isTrimmed_trim piece).head hread hend

section Asks

variable {settings : Settings} {commands : List (List String)}

/-- What a line asks for can be written. -/
theorem isExpressible_of_asks {line : String} (h : Asks settings line commands) :
    ∀ command ∈ commands, IsExpressible command := by
  obtain ⟨stages, hparse, rfl⟩ := h
  obtain ⟨result, hverdict⟩ := exists_verdict settings line.toList
  rw [hverdict.parse_eq] at hparse
  subst hparse
  intro command hcommand
  obtain ⟨stage, hstage, rfl⟩ := List.mem_map.mp hcommand
  cases hverdict with
  | idle => cases hstage
  | accepted hclosed =>
    obtain ⟨i, hi, rfl⟩ := List.mem_mapIdx.mp hstage
    exact isExpressible_of_mem_texts hclosed (List.getElem_mem hi)

/-- What can be written is asked for by the line that is written. -/
theorem asks_written (hrequest : IsRequest settings commands)
    (h : ∀ command ∈ commands, IsExpressible command) :
    Asks settings (writtenLine commands) commands :=
  ⟨_, parse_written hrequest h, map_words_written h⟩

/-- **What lines can ask for.** Some line asks for given words if and only if every word among them
that ends in a backslash can stand bare, and then the line that is written by the rules does. -/
theorem asks_iff_isExpressible (hrequest : IsRequest settings commands) :
    ((∃ line, Asks settings line commands) ↔ ∀ command ∈ commands, IsExpressible command) ∧
      ((∀ command ∈ commands, IsExpressible command) →
        Asks settings (writtenLine commands) commands) := by
  refine ⟨⟨?_, fun h => ⟨_, asks_written hrequest h⟩⟩, asks_written hrequest⟩
  rintro ⟨line, hline⟩
  exact isExpressible_of_asks hline

/-- A line with a quote and a delimiter in a word, and with a word that ends in a backslash. -/
theorem asks_iff_isExpressible_two_commands :
    writtenLine [["a|\"", ""], ["\\", "b c"]] = "\"a|\\\"\" \"\" | \\ \"b c\"" ∧
      Asks {} (writtenLine [["a|\"", ""], ["\\", "b c"]]) [["a|\"", ""], ["\\", "b c"]] := by
  have hrequest : IsRequest {} [["a|\"", ""], ["\\", "b c"]] := by
    constructor <;> simp
  have hfirst : IsExpressible ["a|\"", ""] := by
    constructor <;> simp [EndsInEscape, escape]
  have hsecond : IsExpressible ["\\", "b c"] := by
    constructor <;> simp [EndsInEscape, escape] <;> decide
  refine ⟨by decide, (asks_iff_isExpressible hrequest).2 ?_⟩
  rintro command hcommand
  rcases List.mem_cons.mp hcommand with rfl | hcommand
  · exact hfirst
  · exact List.mem_singleton.mp hcommand ▸ hsecond

end Asks

end PipeShell
