import PipeShell.Proofs.Command.Segments

/-!
# What trimming does to words

White space at the two ends of a segment goes before its words are read. Only four of the characters
that are white space are blanks between words; the others are read like letters. So trimming keeps
the words exactly if it takes nothing but blanks away.

The argument counts characters. `inked` is what a text has besides blanks. White space in front of a
text adds what it has besides blanks to the characters of the words (`flatten_wordsFrom`), white
space behind it does so too if every run is closed (`flatten_wordsFrom_append_white`), and no words
of one length are those of another (`words_whole_eq_iff`).

* `isRun_whole_iff`: white space that goes is in no run.
* `words_of_trimmed` is the theorem for the segments of a line.
-/

namespace PipeShell

/-- A text without its blanks. -/
def inked (text : List Char) : List Char :=
  text.filter fun c => !isBlank c

theorem inked_append (a b : List Char) : inked (a ++ b) = inked a ++ inked b :=
  List.filter_append a b

theorem inked_eq_nil_iff {text : List Char} : inked text = [] ↔ ∀ c ∈ text, isBlank c = true := by
  simp [inked, List.filter_eq_nil_iff]

/-! ### The characters of words -/

theorem flatten_bareWords (text : List Char) : (bareWords text).flatten = inked text := by
  rw [bareWords, List.flatten_filter_ne_nil]
  induction text with
  | nil => rfl
  | cons c rest ih =>
    obtain ⟨first, others, hsplit⟩ := List.exists_cons_of_ne_nil (List.splitOnP_ne_nil isBlank rest)
    rw [hsplit, List.flatten_cons] at ih
    rw [List.splitOnP_cons_eq_if_modifyHead, hsplit]
    by_cases hc : isBlank c = true
    · simp [hc, ih, inked]
    · simp [hc, ih, inked]

/-- What has been read of a bare stretch comes first among the characters of the words. -/
theorem flatten_wordsFrom (read text : List Char) :
    (wordsFrom false read text).flatten = inked read ++ (words text).flatten := by
  obtain ⟨first, others, hfirst⟩ := List.exists_cons_of_ne_nil (stretches_ne_nil text)
  rw [wordsFrom, words, hfirst, List.modifyHead_cons, spelled_false_cons, spelled_false_cons,
    List.flatten_append, List.flatten_append, flatten_bareWords, flatten_bareWords, inked_append,
    List.append_assoc]

/-- White space goes into the stretch that is being read, like letters. -/
theorem wordsFrom_append_of_white (quoted : Bool) (read : List Char) {u : List Char}
    (hu : ∀ c ∈ u, Text.isWhiteSpace c = true) (text : List Char) :
    wordsFrom quoted read (u ++ text) = wordsFrom quoted (read ++ u) text := by
  induction u generalizing read with
  | nil => rw [List.nil_append, List.append_nil]
  | cons c rest ih =>
    have hc := hu c List.mem_cons_self
    rw [List.cons_append, wordsFrom_cons _ _ (ne_quote_of_isWhiteSpace hc)
      (apart_singleton (ne_escape_of_isWhiteSpace hc) _),
      ih _ fun d hd => hu d (List.mem_cons_of_mem c hd), List.append_assoc, List.singleton_append]

theorem flatten_words_of_white {u : List Char} (hu : ∀ c ∈ u, Text.isWhiteSpace c = true)
    (text : List Char) : (words (u ++ text)).flatten = inked u ++ (words text).flatten := by
  rw [words_eq_wordsFrom, wordsFrom_append_of_white false [] hu, List.nil_append, flatten_wordsFrom]

/-- What stands apart from a text does so with white space behind it. -/
theorem Apart.append_white {c : Char} {rest : List Char} (h : Apart [c] rest) {v : List Char}
    (hv : ∀ d ∈ v, Text.isWhiteSpace d = true) : Apart [c] (rest ++ v) := by
  rcases rest with _ | ⟨d, rest⟩
  · rcases v with _ | ⟨d, v⟩
    · exact h
    · exact apart_cons _ (ne_quote_of_isWhiteSpace (hv d List.mem_cons_self)) v
  · exact h

/-- Behind the last run white space goes into the last bare stretch, or is one of its own. -/
theorem flatten_wordsFrom_append_white (quoted : Bool) (read text : List Char)
    (h : Even (marks text + quoted.toNat)) {v : List Char}
    (hv : ∀ c ∈ v, Text.isWhiteSpace c = true) :
    (wordsFrom quoted read (text ++ v)).flatten =
      (wordsFrom quoted read text).flatten ++ inked v := by
  induction text using quotes_induction generalizing quoted read with
  | nil =>
    have hbare : quoted = false := by
      cases quoted
      · rfl
      · exact absurd h (by decide)
    have hwhite := wordsFrom_append_of_white false read hv []
    rw [List.append_nil, wordsFrom_bare_nil] at hwhite
    rw [hbare, List.nil_append, hwhite, wordsFrom_bare_nil, flatten_bareWords, flatten_bareWords,
      inked_append]
  | mark rest ih =>
    rw [marks_quote_cons] at h
    cases quoted
    · have hrest := ih true [] h
      simp [hrest]
    · have hrest := ih false [] (by simpa [Nat.even_add] using h)
      simp [hrest]
  | plain c rest hc happart ih =>
    rw [marks_cons hc happart] at h
    rw [List.cons_append, wordsFrom_cons _ _ hc (happart.append_white hv),
      wordsFrom_cons _ _ hc happart, ih _ _ h]
  | pair rest ih =>
    rw [marks_pair_cons] at h
    rw [List.cons_append, List.cons_append, wordsFrom_pair, wordsFrom_pair, ih _ _ h]

theorem flatten_words_white {text : List Char} (h : Even (marks text)) {v : List Char}
    (hv : ∀ c ∈ v, Text.isWhiteSpace c = true) :
    (words (text ++ v)).flatten = (words text).flatten ++ inked v := by
  rw [words_eq_wordsFrom, words_eq_wordsFrom,
    flatten_wordsFrom_append_white false [] text (by simpa using h) hv]

/-! ### The words of a segment -/

namespace Segment

variable {s : Segment}

theorem IsTight.marks_whole (h : s.IsTight) : marks s.whole = marks s.text := by
  rw [whole, marks_append_white _ h.back, marks_append_of_white h.front]

/-- The characters of the words of a segment are those of its text, between what the white space
around it has besides blanks. -/
theorem IsTight.flatten_words_whole (h : s.IsTight) (hclosed : Even (marks s.text)) :
    (words s.whole).flatten = inked s.front ++ (words s.text).flatten ++ inked s.back := by
  rw [whole, List.append_assoc, flatten_words_of_white h.front,
    flatten_words_white hclosed h.back, List.append_assoc]

/-- **Trimming keeps the words of a segment exactly if it takes nothing but blanks away.** Anything
else is a character more in the words. -/
theorem IsTight.words_whole_eq_iff (h : s.IsTight) (hclosed : Even (marks s.text)) :
    words s.whole = words s.text ↔ ∀ c ∈ s.front ++ s.back, isBlank c = true := by
  constructor
  · intro hwords
    have hcount := congrArg List.length (h.flatten_words_whole hclosed)
    rw [hwords, List.length_append, List.length_append] at hcount
    have hnone : inked (s.front ++ s.back) = [] := by
      rw [inked_append, ← List.length_eq_zero_iff, List.length_append]
      omega
    exact inked_eq_nil_iff.mp hnone
  · intro hblank
    rw [whole, List.append_assoc,
      words_append_of_blank fun c hc => hblank c (List.mem_append_left _ hc),
      words_append_blank hclosed fun c hc => hblank c (List.mem_append_right _ hc)]

/-- A text that is left has a word, since it begins with no white space. -/
theorem IsTight.words_ne_nil (h : s.IsTight) (hclosed : Even (marks s.text)) (hne : s.text ≠ []) :
    words s.text ≠ [] := by
  obtain ⟨c, rest, htext⟩ := List.exists_cons_of_ne_nil hne
  have hwhite : Text.isWhiteSpace c = false := h.text.head c (by rw [htext, List.head?_cons])
  rw [htext] at hclosed ⊢
  exact PipeShell.words_ne_nil (isBlank_of_not_isWhiteSpace hwhite) hclosed

end Segment

/-! ### Runs -/

section Margins

variable {α : Type} {x : α} {a b l : List α}

/-- What has no `x` ends before the place of an `x`. -/
theorem exists_eq_append_of_not_mem {u : List α} (hu : x ∉ u) (h : u ++ l = a ++ x :: b) :
    ∃ a', a = u ++ a' ∧ l = a' ++ x :: b := by
  rcases List.append_eq_append_iff.mp h with ⟨a', rfl, hl⟩ | ⟨w, rfl, hw⟩
  · exact ⟨a', rfl, hl⟩
  · rcases w with _ | ⟨y, w⟩
    · exact ⟨[], by simp, hw.symm⟩
    · have hxy : x = y := (List.cons.inj hw).1
      exact absurd (by simp [hxy]) hu

/-- What has no `x` begins behind the place of an `x`. -/
theorem exists_append_eq_of_not_mem {v : List α} (hv : x ∉ v) (h : l ++ v = a ++ x :: b) :
    ∃ b', b = b' ++ v ∧ l = a ++ x :: b' := by
  have hrev : v.reverse ++ l.reverse = b.reverse ++ x :: a.reverse := by
    rw [← List.reverse_append, h, List.reverse_append, List.reverse_cons, List.append_assoc,
      List.singleton_append]
  obtain ⟨b', hb, hl⟩ := exists_eq_append_of_not_mem (by simpa using hv) hrev
  refine ⟨b'.reverse, ?_, ?_⟩
  · rw [← List.reverse_reverse b, hb, List.reverse_append, List.reverse_reverse]
  · rw [← List.reverse_reverse l, hl, List.reverse_append, List.reverse_cons, List.reverse_reverse,
      List.append_assoc, List.singleton_append]

end Margins

/-- No backslash stands right behind white space. -/
theorem getLast?_append_of_white {u : List Char} (hu : ∀ c ∈ u, Text.isWhiteSpace c = true)
    (b : List Char) : (u ++ b).getLast? = some escape ↔ b.getLast? = some escape := by
  rcases List.eq_nil_or_concat b with rfl | ⟨b, c, rfl⟩
  · rw [List.append_nil]
    refine iff_of_false (fun hlast => ?_) (by simp)
    exact ne_escape_of_isWhiteSpace (hu _ (List.mem_of_getLast? hlast)) rfl
  · rw [List.concat_eq_append, ← List.append_assoc, List.getLast?_concat, List.getLast?_concat]

/-- **The runs of a segment are those of its text.** White space that goes stands before the first
of them or behind the last one. -/
theorem Segment.IsTight.isRun_whole_iff {s : Segment} (h : s.IsTight)
    {before inside after : List Char} :
    IsRun s.whole before inside after ↔
      ∃ b a, before = s.front ++ b ∧ after = a ++ s.back ∧ IsRun s.text b inside a := by
  have hquote : ∀ {u : List Char}, (∀ c ∈ u, Text.isWhiteSpace c = true) → quote ∉ u :=
    fun hu hmem => ne_quote_of_isWhiteSpace (hu quote hmem) rfl
  constructor
  · rintro ⟨heq, hclosed, hopens, hcloses, hinner⟩
    rw [whole, List.append_assoc] at heq
    obtain ⟨b, rfl, hrest⟩ := exists_eq_append_of_not_mem (hquote h.front) heq
    rw [← List.cons_append, ← List.append_assoc] at hrest
    obtain ⟨a, rfl, htext⟩ := exists_append_eq_of_not_mem (hquote h.back) hrest
    refine ⟨b, a, rfl, rfl, ?_, ?_, ?_, hcloses, hinner⟩
    · rw [htext, List.append_assoc, List.cons_append]
    · rwa [marks_append_of_white h.front] at hclosed
    · rwa [Ne, getLast?_append_of_white h.front] at hopens
  · rintro ⟨b, a, rfl, rfl, heq, hclosed, hopens, hcloses, hinner⟩
    refine ⟨?_, ?_, ?_, hcloses, hinner⟩
    · simp [whole, heq]
    · rwa [marks_append_of_white h.front]
    · rwa [Ne, getLast?_append_of_white h.front]

/-! ### The segments of a line -/

/-- **What trimming does to the words of a command.** The commands of a line that has been split are
its segments without the white space around them. None of this white space is in a quoted run. The
words of a command are those of the whole segment exactly if nothing but blanks has gone; whatever
else has gone is missing from their characters, and nothing more. A command that is not empty has a
word. -/
theorem words_of_trimmed {maxStages : Nat} {line : String} {list : List String}
    (h : split maxStages line = .ok list) (hlist : list ≠ []) :
    ∃ segments : List Segment,
      IsCutInto line.toList segments ∧
      list = segments.map (fun s => String.ofList s.text) ∧
      ∀ s ∈ segments,
        (∀ before inside after, IsRun s.whole before inside after ↔
          ∃ b a, before = s.front ++ b ∧ after = a ++ s.back ∧ IsRun s.text b inside a) ∧
        ∀ most, Admits most (String.ofList s.text) → ∃ trimmed,
          readWords most (String.ofList s.text) = .ok trimmed ∧
          (s.text ≠ [] → trimmed ≠ []) ∧
          (Admits most (String.ofList s.whole) → ∃ raw,
            readWords most (String.ofList s.whole) = .ok raw ∧
            (raw = trimmed ↔ ∀ c ∈ s.front ++ s.back, isBlank c = true) ∧
            raw.flatMap String.toList =
              inked s.front ++ trimmed.flatMap String.toList ++ inked s.back) := by
  obtain ⟨hclosed, ⟨hnil, -⟩ | htexts⟩ := split_eq_ok_cases h
  · exact absurd hnil hlist
  have hcut := isCutInto_pieces hclosed
  refine ⟨_, hcut, by simp [htexts, texts], fun s hs => ?_⟩
  have htight := hcut.tight s hs
  have htext := hcut.closed s hs
  have hchars : ∀ list : List (List Char), (list.map String.ofList).flatMap String.toList =
      list.flatten := fun list => by simp [List.flatMap_map, List.flatMap_id']
  refine ⟨fun _ _ _ => htight.isRun_whole_iff, fun most hfew => ?_⟩
  rw [admits_iff, String.toList_ofList] at hfew
  refine ⟨(words s.text).map String.ofList, readWords_of_even htext hfew, fun hne => ?_,
    fun hwhole => ?_⟩
  · simpa using htight.words_ne_nil htext hne
  · rw [admits_iff, String.toList_ofList] at hwhole
    refine ⟨(words s.whole).map String.ofList,
      readWords_of_even (by rwa [htight.marks_whole]) hwhole, ?_, ?_⟩
    · rw [List.map_inj_right fun _ _ => String.ofList_injective, htight.words_whole_eq_iff htext]
    · rw [hchars, hchars, htight.flatten_words_whole htext]

/-- A line with a no-break space before a command, and with spaces in a run and behind it. -/
theorem words_of_trimmed_no_break_space :
    ∃ segments : List Segment,
      IsCutInto "\u00a0x \" a\" | y\n".toList segments ∧
      ["x \" a\"", "y"] = segments.map (fun s => String.ofList s.text) ∧
      ∀ s ∈ segments,
        (∀ before inside after, IsRun s.whole before inside after ↔
          ∃ b a, before = s.front ++ b ∧ after = a ++ s.back ∧ IsRun s.text b inside a) ∧
        ∀ most, Admits most (String.ofList s.text) → ∃ trimmed,
          readWords most (String.ofList s.text) = .ok trimmed ∧
          (s.text ≠ [] → trimmed ≠ []) ∧
          (Admits most (String.ofList s.whole) → ∃ raw,
            readWords most (String.ofList s.whole) = .ok raw ∧
            (raw = trimmed ↔ ∀ c ∈ s.front ++ s.back, isBlank c = true) ∧
            raw.flatMap String.toList =
              inked s.front ++ trimmed.flatMap String.toList ++ inked s.back) := by
  have hsplit : split 2 "\u00a0x \" a\" | y\n" = .ok ["x \" a\"", "y"] := by decide
  exact words_of_trimmed hsplit (by decide)

/-- The no-break space is read as a part of the first word. -/
example :
    readWords 2 "\u00a0x \" a\" " = .ok ["\u00a0x", " a"] ∧
    readWords 2 "x \" a\"" = .ok ["x", " a"] := by decide

end PipeShell
