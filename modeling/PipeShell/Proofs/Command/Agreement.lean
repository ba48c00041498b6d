import Mathlib.Data.List.Basic
import Mathlib.Data.List.Induction
import PipeShell.Proofs.Command.Verdict

/-!
# The two readers see the same quotes

Quotes are read twice and in two ways. The reader of lines looks back at one character and turns a
flag over; the reader of commands looks ahead at one character and takes a backslash together with
the quote behind it. Both are known by the marks of the text (`pieces?_eq`, `readWords_eq`), and so
they agree:

* a line is left open for one exactly if it is for the other, and no command of a line that has been
  split is left open;
* the words of the commands are those of the line with a space in the place of every delimiter
  outside quotes (`words_spaced`), if trimming has taken away nothing but blanks;
* a delimiter in a command stands in a quoted run (`exists_isRun`), and so in the word that the run
  is.
-/

namespace PipeShell

/-- Whether the limit on words does not matter for a text. -/
def Admits (most : Nat) (text : String) : Prop :=
  readWords most text ≠ .error (.tooManyWords text most)

/-- Whether trimming takes nothing but blanks away from a text. -/
def TrimsBlanks (text : List Char) : Prop :=
  ∃ u v, text = u ++ Text.trim text ++ v ∧ ∀ c ∈ u ++ v, isBlank c = true

/-- Whether the reader of lines finds a delimiter outside quotes at a character. -/
def Spot.isEnd (s : Spot) : Bool :=
  s.char = delimiter ∧ (Reading.run s.before).quoted = false

/-- A line with a space in the place of every delimiter outside quotes. -/
def spaced (line : List Char) : List Char :=
  (spots line).map fun s => if s.isEnd then ' ' else s.char

/-- A quoted run of a text, with what stands before it and behind it. -/
structure IsRun (text before inside after : List Char) : Prop where
  eq : text = before ++ quote :: (inside ++ quote :: after)
  /-- Every run before it is closed. -/
  closed : Even (marks before)
  /-- Its first quote is a mark, -/
  opens : before.getLast? ≠ some escape
  /-- so is its last one, -/
  closes : inside.getLast? ≠ some escape
  /-- and there is none between them. -/
  inner : marks inside = 0

/-! ### What each reader refuses -/

theorem admits_iff {most : Nat} {text : String} :
    Admits most text ↔ (words text.toList).length ≤ most := by
  rw [Admits, readWords_eq]
  by_cases hmany : most < (words text.toList).length
  · simp [hmany]
  · rw [if_neg hmany]
    by_cases hodd : Odd (marks text.toList) <;> simp [hodd, Nat.not_lt.mp hmany]

theorem split_eq_unclosed_iff (most : Nat) (line : String) :
    (∃ text, split most line = .error (.unclosedQuote text)) ↔ Odd (marks line.toList) := by
  rw [split_eq]
  by_cases hodd : Odd (marks line.toList)
  · simp [hodd]
  · rw [if_neg hodd]
    split_ifs <;> simp [hodd]

theorem readWords_eq_unclosed_iff {most : Nat} {text : String} (h : Admits most text) :
    (∃ text', readWords most text = .error (.unclosedQuote text')) ↔ Odd (marks text.toList) := by
  have hfew : ¬most < (words text.toList).length := Nat.not_lt.mpr (admits_iff.mp h)
  rw [readWords_eq, if_neg hfew]
  by_cases hodd : Odd (marks text.toList) <;> simp [hodd]

/-- A closed text within the limit is read. -/
theorem readWords_of_even {most : Nat} {text : List Char} (hclosed : Even (marks text))
    (hfew : (words text).length ≤ most) :
    readWords most (String.ofList text) = .ok ((words text).map String.ofList) := by
  rw [readWords_eq, String.toList_ofList, if_neg (Nat.not_lt.mpr hfew),
    if_neg (Nat.not_odd_iff_even.mpr hclosed)]

/-- What a line is split into, if it is. -/
theorem split_eq_ok_cases {most : Nat} {line : String} {list : List String}
    (h : split most line = .ok list) :
    Even (marks line.toList) ∧
      (list = [] ∧ (∀ text ∈ texts line.toList, text = []) ∨
        list = (texts line.toList).map String.ofList) := by
  rw [split_eq] at h
  by_cases hodd : Odd (marks line.toList)
  · rw [if_pos hodd] at h
    cases h
  · refine ⟨Nat.not_odd_iff_even.mp hodd, ?_⟩
    rw [if_neg hodd] at h
    by_cases hempty : (texts line.toList).all List.isEmpty = true
    · rw [if_pos hempty] at h
      exact .inl ⟨(Except.ok.inj h).symm, by simpa using hempty⟩
    · rw [if_neg hempty] at h
      by_cases hmany : most < (texts line.toList).length
      · rw [if_pos hmany] at h
        cases h
      · rw [if_neg hmany] at h
        exact .inr (Except.ok.inj h).symm

/-- Every run in a text that a line is split into is closed, and every delimiter is in one. -/
theorem isPiece_of_mem_split {most : Nat} {line : String} {list : List String}
    (h : split most line = .ok list) {text : String} (htext : text ∈ list) :
    IsPiece text.toList := by
  obtain ⟨hclosed, ⟨rfl, -⟩ | rfl⟩ := split_eq_ok_cases h
  · cases htext
  · obtain ⟨trimmed, htrimmed, rfl⟩ := List.mem_map.mp htext
    obtain ⟨piece, hpiece, rfl⟩ := List.mem_map.mp htrimmed
    rw [String.toList_ofList]
    exact (isPiece_of_mem_pieces hclosed piece hpiece).trim

/-! ### The words of the commands -/

theorem isEnd_eq (s : Spot) : s.isEnd = s.isCut := by
  have hstart : Reading.Knows {} [] := ⟨rfl, by simp⟩
  have hquoted : (Reading.run s.before).quoted = decide (Odd (marks s.before)) :=
    (Reading.foldl_next hstart s.before).1.quoted
  simp [Spot.isEnd, Spot.isCut, hquoted]

theorem spaced_of_forall {line : List Char} (h : ∀ s ∈ spots line, s.isCut = false) :
    spaced line = line := by
  have hchar : ∀ s ∈ spots line, (if s.isEnd then ' ' else s.char) = s.char := fun s hs => by
    simp [isEnd_eq, h s hs]
  rw [spaced, List.map_congr_left hchar, map_char_spots]

theorem spaced_append_cons {a : List Char} (ha : Even (marks a)) (b : List Char) :
    spaced (a ++ delimiter :: b) = spaced a ++ ' ' :: spaced b := by
  have hcut : Spot.isEnd ⟨a, delimiter⟩ = true := by simp [isEnd_eq, Spot.isCut, ha]
  have hshift : ∀ s : Spot, (s.shift (a ++ [delimiter])).isEnd = s.isEnd := fun s => by
    have hmarks := marks_append_delimiter a s.before
    simp [isEnd_eq, Spot.isCut, Spot.shift, hmarks, Nat.even_add, ha]
  simp only [spaced, spots_append_cons, List.map_append, List.map_cons, hcut, if_true, List.map_map,
    Function.comp_def, hshift]
  rfl

theorem marks_spaced (line : List Char) : marks (spaced line) = marks line := by
  induction line using pieces_induction with
  | one line h => rw [spaced_of_forall h]
  | more a b ha iha ihb =>
    rw [spaced_append_cons ha, marks_append_cons _ (by decide) (by decide),
      marks_append_delimiter, iha, ihb]

/-- **A space separates words where a delimiter separates pieces.** -/
theorem words_spaced (line : List Char) : words (spaced line) = (pieces line).flatMap words := by
  induction line using pieces_induction with
  | one line h => simp [spaced_of_forall h, pieces_eq_singleton h]
  | more a b ha iha ihb =>
    have hclosed : Even (marks (spaced a)) := by rwa [marks_spaced]
    rw [spaced_append_cons ha, words_append_cons hclosed (by decide), iha, ihb,
      pieces_append_cons ha, List.flatMap_append]

/-- Trimming changes no word if it takes away nothing but blanks. -/
theorem TrimsBlanks.words_trim {text : List Char} (h : TrimsBlanks text)
    (hclosed : Even (marks text)) : words (Text.trim text) = words text := by
  obtain ⟨u, v, htext, hblank⟩ := h
  have hu : ∀ c ∈ u, isBlank c = true := fun c hc => hblank c (List.mem_append_left v hc)
  have hv : ∀ c ∈ v, isBlank c = true := fun c hc => hblank c (List.mem_append_right u hc)
  conv_rhs => rw [htext]
  rw [List.append_assoc, words_append_of_blank hu, words_append_blank (by rwa [marks_trim]) hv]

/-- The words of the commands are those of the line. -/
theorem flatMap_words_texts {line : List Char} (hclosed : Even (marks line))
    (htrims : ∀ piece ∈ pieces line, TrimsBlanks piece) :
    (texts line).flatMap words = words (spaced line) := by
  rw [words_spaced, texts, List.flatMap_map]
  refine List.flatMap_congr fun piece hpiece => ?_
  exact (htrims piece hpiece).words_trim (isPiece_of_mem_pieces hclosed piece hpiece).closed

theorem mapM_eq_ok {ε α β : Type} {f : α → Except ε β} {g : α → β} {list : List α}
    (h : ∀ x ∈ list, f x = .ok (g x)) : list.mapM f = .ok (list.map g) := by
  induction list with
  | nil => rfl
  | cons x rest ih =>
    rw [List.mapM_cons, h x List.mem_cons_self, ih fun y hy => h y (List.mem_cons_of_mem x hy)]
    rfl

/-- Reading the commands one by one finds the words of the whole line. -/
theorem mapM_readWords_split {most maxStages : Nat} {line : String} {list : List String}
    (h : split maxStages line = .ok list) (htrims : ∀ piece ∈ pieces line.toList, TrimsBlanks piece)
    (hadmits : Admits most (String.ofList (spaced line.toList))) :
    ∃ found, list.mapM (readWords most) = .ok found ∧
      readWords most (String.ofList (spaced line.toList)) = .ok found.flatten := by
  obtain ⟨hclosed, hlist⟩ := split_eq_ok_cases h
  have hwords := flatMap_words_texts hclosed htrims
  rw [admits_iff, String.toList_ofList] at hadmits
  have hspaced := readWords_of_even (by rwa [marks_spaced]) hadmits
  rcases hlist with ⟨rfl, hempty⟩ | rfl
  · -- without any command there is no word in the line
    have hnone : words (spaced line.toList) = [] := by
      rw [← hwords, List.flatMap_eq_nil_iff]
      rintro text htext
      rw [hempty text htext, words_nil]
    exact ⟨[], rfl, by rw [hspaced, hnone]; rfl⟩
  · refine ⟨(texts line.toList).map fun text => (words text).map String.ofList, ?_, ?_⟩
    · rw [List.mapM_map]
      refine mapM_eq_ok fun text htext => ?_
      have hfew : (words text).length ≤ ((texts line.toList).flatMap words).length :=
        (List.sublist_flatten_of_mem (List.mem_map_of_mem htext)).length_le
      exact readWords_of_even (isText_of_mem_texts hclosed htext).closed
        (hfew.trans (hwords ▸ hadmits))
    · rw [hspaced, ← hwords, List.map_flatMap]
      rfl

/-! ### Delimiters in a command -/

theorem marks_append_quote {a : List Char} (ha : a.getLast? ≠ some escape) (b : List Char) :
    marks (a ++ quote :: b) = marks a + (marks b + 1) := by
  rw [marks_append fun h => absurd h ha, marks_quote_cons]

/-- A text with marks has a last one. -/
theorem exists_last_mark {text : List Char} (h : marks text ≠ 0) :
    ∃ a b, text = a ++ quote :: b ∧ a.getLast? ≠ some escape ∧ marks b = 0 := by
  induction text using List.reverseRecOn with
  | nil => exact absurd rfl h
  | append_singleton text c ih =>
    by_cases hmark : Spot.isMark ⟨text, c⟩ = true
    · obtain ⟨rfl, hlast⟩ : c = quote ∧ text.getLast? ≠ some escape := by
        simpa [Spot.isMark] using hmark
      exact ⟨text, [], rfl, hlast, rfl⟩
    · have hsame : marks (text ++ [c]) = marks text := by rw [marks_snoc, if_neg hmark]; rfl
      obtain ⟨a, b, rfl, hlast, hb⟩ := ih (hsame ▸ h)
      refine ⟨a, b ++ [c], by simp, hlast, ?_⟩
      rw [List.append_assoc, List.cons_append, marks_append_quote hlast, marks_append_quote hlast]
        at hsame
      omega

/-- A text with marks has a first one. -/
theorem exists_first_mark {text : List Char} (h : marks text ≠ 0) :
    ∃ a b, text = a ++ quote :: b ∧ a.getLast? ≠ some escape ∧ marks a = 0 := by
  induction text using quotes_induction with
  | nil => exact absurd rfl h
  | mark rest _ => exact ⟨[], rest, rfl, by simp, rfl⟩
  | plain c rest hc happart ih =>
    rw [marks_cons hc happart] at h
    obtain ⟨a, b, rfl, hlast, ha⟩ := ih h
    rcases a with _ | ⟨d, a⟩
    · have hescape : c ≠ escape := by
        rintro rfl
        exact happart rfl rfl
      exact ⟨[c], b, rfl, by simpa using hescape, marks_cons hc (apart_nil_right [c])⟩
    · have hcons : marks (c :: d :: a) = marks (d :: a) := marks_cons hc happart
      exact ⟨c :: d :: a, b, rfl, by simpa using hlast, hcons.trans ha⟩
  | pair rest ih =>
    rw [marks_pair_cons] at h
    obtain ⟨a, b, rfl, hlast, ha⟩ := ih h
    refine ⟨escape :: quote :: a, b, rfl, ?_, by rw [marks_pair_cons, ha]⟩
    rcases a with _ | ⟨d, a⟩
    · decide
    · simpa using hlast

/-- A delimiter in a piece stands in a quoted run. -/
theorem exists_isRun {a b : List Char} (h : IsPiece (a ++ delimiter :: b)) :
    ∃ before x y after, a = before ++ quote :: x ∧ b = y ++ quote :: after ∧
      IsRun (a ++ delimiter :: b) before (x ++ delimiter :: y) after := by
  have hodd : Odd (marks a) := by
    simpa [Spot.isCut] using h.whole ⟨a, delimiter⟩ (mem_spots.mpr ⟨b, rfl⟩)
  have hclosed : Even (marks a + marks b) := by
    rw [← marks_append_delimiter]
    exact h.closed
  have hodd' : Odd (marks b) := Nat.not_even_iff_odd.mp fun heven =>
    Nat.not_even_iff_odd.mpr hodd ((Nat.even_add.mp hclosed).mpr heven)
  obtain ⟨before, x, rfl, hopens, hx⟩ := exists_last_mark hodd.pos.ne'
  obtain ⟨y, after, rfl, hcloses, hy⟩ := exists_first_mark hodd'.pos.ne'
  refine ⟨before, x, y, after, rfl, rfl, by simp, ?_, hopens, ?_, ?_⟩
  · rw [marks_append_quote hopens, hx] at hodd
    simpa [Nat.odd_add_one] using hodd
  · rcases List.eq_nil_or_concat y with rfl | ⟨y, c, rfl⟩
    · simp [delimiter_ne_escape]
    · rw [List.concat_eq_append, List.getLast?_concat] at hcloses
      rwa [List.concat_eq_append, ← List.cons_append, ← List.append_assoc, List.getLast?_concat]
  · rw [marks_append_delimiter, hx, hy]

theorem mem_unescape {c : Char} (hc : c ≠ escape) {text : List Char} (h : c ∈ text) :
    c ∈ unescape text := by
  induction text with
  | nil => cases h
  | cons d rest ih =>
    rw [unescape]
    rcases List.mem_cons.mp h with rfl | hrest
    · rw [if_neg fun hpair => hc hpair.1]
      exact List.mem_cons_self
    · split_ifs
      · exact ih hrest
      · exact List.mem_cons_of_mem d (ih hrest)

/-- A run is read as a word of its own, between the words before it and those behind it. -/
theorem IsRun.readWords_eq {text : String} {before inside after : List Char}
    (h : IsRun text.toList before inside after) {most : Nat} {found : List String}
    (hread : readWords most text = .ok found) :
    ∃ first others, readWords most (String.ofList before) = .ok first ∧
      readWords most (String.ofList after) = .ok others ∧
      found = first ++ String.ofList (unescape inside) :: others := by
  have hwords := words_run h.closed h.opens h.inner h.closes after
  rw [← h.eq] at hwords
  have hmarks : marks text.toList = marks before + (marks after + 2) := by
    rw [h.eq, marks_append_quote h.opens, marks_append_quote h.closes, h.inner]
    omega
  have hfew : (words text.toList).length ≤ most := admits_iff.mp fun hmany => by
    rw [hread] at hmany
    cases hmany
  have hclosed : Even (marks text.toList) := by
    have hopen : ¬∃ text', readWords most text = .error (.unclosedQuote text') := by
      rintro ⟨text', herror⟩
      rw [hread] at herror
      cases herror
    rwa [readWords_eq_unclosed_iff (admits_iff.mpr hfew), Nat.not_odd_iff_even] at hopen
  have hafter : Even (marks after) := by
    rw [hmarks, Nat.even_add, iff_true_left h.closed] at hclosed
    simpa [Nat.even_add] using hclosed
  have hall := readWords_of_even hclosed hfew
  rw [String.ofList_toList, hread, hwords, List.map_append, List.map_cons] at hall
  rw [hwords, List.length_append, List.length_cons] at hfew
  refine ⟨_, _, readWords_of_even h.closed (by omega), readWords_of_even hafter (by omega), ?_⟩
  exact Except.ok.inj hall

/-- **The two readers agree on quotes.** Wherever the limit on words does not matter, a line is open
for both or for neither. Once a line has been split, none of its commands is open; their words
together are the words of the line with a space in the place of every delimiter outside quotes, as
long as trimming takes nothing but blanks away; and a delimiter that is left in a command is in the
word that a quoted run is. -/
theorem readers_agree (line : String) (most maxStages : Nat) :
    (Admits most line →
      ((∃ text, split maxStages line = .error (.unclosedQuote text)) ↔
        ∃ text, readWords most line = .error (.unclosedQuote text))) ∧
    ∀ list, split maxStages line = .ok list →
      (∀ text ∈ list, ∀ text', readWords most text ≠ .error (.unclosedQuote text')) ∧
      (∀ cut, pieces? line.toList = some cut → (∀ piece ∈ cut, TrimsBlanks piece) →
        Admits most (String.ofList (spaced line.toList)) →
        ∃ found, list.mapM (readWords most) = .ok found ∧
          readWords most (String.ofList (spaced line.toList)) = .ok found.flatten) ∧
      ∀ text ∈ list, ∀ a b, text.toList = a ++ delimiter :: b →
        ∃ before x y after, a = before ++ quote :: x ∧ b = y ++ quote :: after ∧
          IsRun text.toList before (x ++ delimiter :: y) after ∧
          delimiter ∈ unescape (x ++ delimiter :: y) ∧
          ∀ found, readWords most text = .ok found →
            ∃ first others, readWords most (String.ofList before) = .ok first ∧
              readWords most (String.ofList after) = .ok others ∧
              found = first ++ String.ofList (unescape (x ++ delimiter :: y)) :: others := by
  refine ⟨fun hadmits => ?_, fun list hlist => ⟨?_, ?_, ?_⟩⟩
  · rw [split_eq_unclosed_iff, readWords_eq_unclosed_iff hadmits]
  · intro text htext text' herror
    have hadmits : Admits most text := fun hmany => by
      rw [herror] at hmany
      cases hmany
    have hodd := (readWords_eq_unclosed_iff hadmits).mp ⟨text', herror⟩
    exact Nat.not_even_iff_odd.mpr hodd (isPiece_of_mem_split hlist htext).closed
  · intro cut hcut htrims hadmits
    rw [pieces?_eq, if_neg (Nat.not_odd_iff_even.mpr (split_eq_ok_cases hlist).1)] at hcut
    exact mapM_readWords_split hlist (Option.some.inj hcut ▸ htrims) hadmits
  · intro text htext a b htexteq
    have hpiece := isPiece_of_mem_split hlist htext
    rw [htexteq] at hpiece
    obtain ⟨before, x, y, after, ha, hb, hrun⟩ := exists_isRun hpiece
    rw [← htexteq] at hrun
    exact ⟨before, x, y, after, ha, hb, hrun, mem_unescape delimiter_ne_escape (by simp),
      fun found hread => hrun.readWords_eq hread⟩

/-- A line with a delimiter in quotes and one outside. -/
theorem readers_agree_two_commands :
    ((∃ text, split 200 "x \"a|b\" | y" = .error (.unclosedQuote text)) ↔
      ∃ text, readWords 64 "x \"a|b\" | y" = .error (.unclosedQuote text)) ∧
    (∃ found, ["x \"a|b\"", "y"].mapM (readWords 64) = .ok found ∧
      readWords 64 "x \"a|b\"   y" = .ok found.flatten) ∧
    ∃ before x y after, "x \"a".toList = before ++ quote :: x ∧ "b\"".toList = y ++ quote :: after ∧
      IsRun "x \"a|b\"".toList before (x ++ delimiter :: y) after := by
  have hsplit : split 200 "x \"a|b\" | y" = .ok ["x \"a|b\"", "y"] := by decide
  have hcut : pieces? "x \"a|b\" | y".toList = some ["x \"a|b\" ".toList, " y".toList] := by decide
  have htrims : ∀ piece ∈ ["x \"a|b\" ".toList, " y".toList], TrimsBlanks piece := by
    have hspace : ∀ c ∈ [' '], isBlank c = true := List.forall_mem_singleton.mpr rfl
    simp only [List.forall_mem_cons, List.not_mem_nil, false_implies, implies_true, and_true]
    exact ⟨⟨[], [' '], by decide, hspace⟩, ⟨[' '], [], by decide, hspace⟩⟩
  obtain ⟨hopen, hrest⟩ := readers_agree "x \"a|b\" | y" 64 200
  obtain ⟨-, hwords, hruns⟩ := hrest _ hsplit
  refine ⟨hopen (by unfold Admits; decide), hwords _ hcut htrims (by unfold Admits; decide), ?_⟩
  obtain ⟨before, x, y, after, ha, hb, hrun, -⟩ :=
    hruns _ List.mem_cons_self "x \"a".toList "b\"".toList (by decide)
  exact ⟨before, x, y, after, ha, hb, hrun⟩

end PipeShell
