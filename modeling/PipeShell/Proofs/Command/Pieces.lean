import PipeShell.Proofs.Command.Quotes

/-!
# The pieces of a line

A delimiter cuts a line if an even number of marks stands before it. Here the pieces are said by
position, and the reader of lines, which goes through the line once and remembers one character and
one flag, is shown to find them.

* `pieces?_eq` says that the reader cuts exactly at the delimiters outside quotes, and that it
  refuses exactly the lines with an odd number of marks.
* `pieces_induction` is the induction over a line by its pieces.
-/

namespace PipeShell

/-- Whether a character is a delimiter outside quotes: an even number of marks stands before it. -/
def Spot.isCut (s : Spot) : Bool :=
  s.char = delimiter ∧ Even (marks s.before)

/-- The texts between the delimiters outside quotes. -/
def pieces (line : List Char) : List (List Char) :=
  cutBy Spot.isCut line

/-! ### The reader of lines -/

namespace Reading

/-- What a reading knows behind a text: its last character, and whether a quote is open. -/
structure Knows (r : Reading) (before : List Char) : Prop where
  previous : r.previous = before.getLast?
  quoted : r.quoted = decide (Odd (marks before))

variable {r : Reading} {before : List Char}

theorem knows_next (h : r.Knows before) (c : Char) : (r.next c).Knows (before ++ [c]) := by
  have hmark : Spot.isMark ⟨before, c⟩ = decide (c = quote ∧ r.previous ≠ some escape) := by
    simp [Spot.isMark, h.previous]
  refine ⟨?_, ?_⟩
  · rw [List.getLast?_concat, next]
    split_ifs <;> rfl
  · rw [marks_snoc, hmark]
    by_cases hc : c = quote ∧ r.previous ≠ some escape
    · have hquoted : (r.next c).quoted = !r.quoted := by rw [next, if_pos hc]
      rw [hquoted, h.quoted, if_pos (decide_eq_true hc)]
      simp only [Nat.odd_add_one, decide_not]
    · have hquoted : (r.next c).quoted = r.quoted := by
        rw [next, if_neg hc]
        split_ifs <;> rfl
      simp [hc, hquoted, h.quoted]

/-- A delimiter outside quotes ends a piece. -/
theorem next_of_isCut (h : r.Knows before) {c : Char} (hcut : Spot.isCut ⟨before, c⟩ = true) :
    (r.next c).finished = r.piece.reverse :: r.finished ∧ (r.next c).piece = [] := by
  obtain ⟨rfl, heven⟩ : c = delimiter ∧ Even (marks before) := by simpa [Spot.isCut] using hcut
  have hopen : r.quoted = false := by simpa [h.quoted] using heven
  simp [next, hopen, show delimiter ≠ quote by decide]

/-- Any other character is added to the piece. -/
theorem next_of_not_isCut (h : r.Knows before) {c : Char}
    (hcut : Spot.isCut ⟨before, c⟩ = false) :
    (r.next c).finished = r.finished ∧ (r.next c).piece = c :: r.piece := by
  have hopen : ¬(c = delimiter ∧ r.quoted = false) := by
    simpa [Spot.isCut, h.quoted] using hcut
  rw [next, if_neg hopen]
  split_ifs <;> exact ⟨rfl, rfl⟩

/-- What is known, and what has been cut, once a further text has been read. -/
theorem foldl_next (h : r.Knows before) (text : List Char) :
    (text.foldl next r).Knows (before ++ text) ∧
      (text.foldl next r).pieces = r.finished.reverse ++
        (((spotsAfter before text).splitOnP Spot.isCut).map (List.map Spot.char)).modifyHead
          (r.piece.reverse ++ ·) := by
  induction text generalizing before r with
  | nil => exact ⟨by simpa using h, by simp [spotsAfter, Reading.pieces]⟩
  | cons c rest ih =>
    obtain ⟨hknows, hpieces⟩ := ih (knows_next h c)
    refine ⟨by simpa using hknows, ?_⟩
    obtain ⟨first, others, hsplit⟩ := List.exists_cons_of_ne_nil
      (List.splitOnP_ne_nil Spot.isCut (spotsAfter (before ++ [c]) rest))
    rw [List.foldl_cons, hpieces, spotsAfter, List.splitOnP_cons_eq_if_modifyHead, hsplit]
    by_cases hcut : Spot.isCut ⟨before, c⟩ = true
    · obtain ⟨hfinished, hpiece⟩ := next_of_isCut h hcut
      simp [hcut, hfinished, hpiece]
    · rw [Bool.not_eq_true] at hcut
      obtain ⟨hfinished, hpiece⟩ := next_of_not_isCut h hcut
      simp [hcut, hfinished, hpiece]

end Reading

/-- **The reader of lines cuts at the delimiters outside quotes**, and refuses a line exactly if it
has an odd number of marks. -/
theorem pieces?_eq (line : List Char) :
    pieces? line = if Odd (marks line) then none else some (pieces line) := by
  have hstart : Reading.Knows {} [] := ⟨rfl, by simp⟩
  obtain ⟨hknows, hpieces⟩ := Reading.foldl_next hstart line
  have hrun : (Reading.run line).pieces = pieces line := by
    rw [Reading.run, hpieces, pieces, cutBy, spots]
    cases ((spotsAfter [] line).splitOnP Spot.isCut).map (List.map Spot.char) <;> rfl
  have hquoted : (Reading.run line).quoted = decide (Odd (marks line)) := hknows.quoted
  simp [pieces?, hrun, hquoted]

/-! ### Taking a line apart -/

theorem pieces_ne_nil (line : List Char) : pieces line ≠ [] :=
  cutBy_ne_nil _ _

theorem delimiter_ne_quote : delimiter ≠ quote := by decide

theorem delimiter_ne_escape : delimiter ≠ escape := by decide

theorem marks_append_delimiter (a b : List Char) :
    marks (a ++ delimiter :: b) = marks a + marks b :=
  marks_append_cons a delimiter_ne_quote delimiter_ne_escape b

/-- Behind a delimiter outside quotes the marks are counted anew. -/
theorem even_marks_append_delimiter_iff {a : List Char} (ha : Even (marks a)) {b : List Char} :
    Even (marks (a ++ delimiter :: b)) ↔ Even (marks b) := by
  rw [marks_append_delimiter, Nat.even_add, iff_true_left ha]

/-- A delimiter outside quotes separates the pieces before it from those behind it. -/
theorem pieces_append_cons {a : List Char} (ha : Even (marks a)) (b : List Char) :
    pieces (a ++ delimiter :: b) = pieces a ++ pieces b := by
  refine cutBy_append_cons a b (by simp [Spot.isCut, ha]) fun s _ => ?_
  have hmarks := marks_append_delimiter a s.before
  simp [Spot.isCut, Spot.shift, hmarks, Nat.even_add, ha]

/-- Either a text has no delimiter outside quotes, or it can be taken apart at one. -/
theorem pieces_cases (line : List Char) :
    (∀ s ∈ spots line, s.isCut = false) ∨
      ∃ a b, line = a ++ delimiter :: b ∧ Even (marks a) := by
  by_cases h : ∃ s ∈ spots line, s.isCut = true
  · obtain ⟨s, hs, hcut⟩ := h
    obtain ⟨after, hline⟩ := mem_spots.mp hs
    obtain ⟨hchar, heven⟩ : s.char = delimiter ∧ Even (marks s.before) := by
      simpa [Spot.isCut] using hcut
    exact .inr ⟨s.before, after, hchar ▸ hline, heven⟩
  · refine .inl fun s hs => Bool.eq_false_iff.mpr fun hcut => h ⟨s, hs, hcut⟩

/-- **Induction over the pieces of a line.** -/
@[elab_as_elim]
theorem pieces_induction {motive : List Char → Prop}
    (one : ∀ line, (∀ s ∈ spots line, s.isCut = false) → motive line)
    (more : ∀ a b, Even (marks a) → motive a → motive b → motive (a ++ delimiter :: b))
    (line : List Char) : motive line := by
  rcases pieces_cases line with h | ⟨a, b, rfl, ha⟩
  · exact one line h
  · exact more a b ha (pieces_induction one more a) (pieces_induction one more b)
termination_by line.length
decreasing_by
  all_goals
    subst_vars
    simp only [List.length_append, List.length_cons]
    omega

/-- A text that can be the piece of a line: every run in it is closed, and no delimiter in it stands
outside a run. -/
structure IsPiece (text : List Char) : Prop where
  closed : Even (marks text)
  whole : ∀ s ∈ spots text, s.isCut = false

theorem pieces_eq_singleton {text : List Char} (h : ∀ s ∈ spots text, s.isCut = false) :
    pieces text = [text] := by
  rw [pieces, cutBy, List.splitOnP_eq_singleton h, List.map_singleton, map_char_spots]

theorem intercalate_append {α : Type} (sep : List α) {xs ys : List (List α)} (hxs : xs ≠ [])
    (hys : ys ≠ []) :
    sep.intercalate (xs ++ ys) = sep.intercalate xs ++ sep ++ sep.intercalate ys := by
  induction xs with
  | nil => exact absurd rfl hxs
  | cons x rest ih =>
    by_cases hrest : rest = []
    · subst hrest
      simp [List.intercalate_cons_of_ne_nil hys]
    · have happend : rest ++ ys ≠ [] := by simp [hrest]
      rw [List.cons_append, List.intercalate_cons_of_ne_nil happend,
        List.intercalate_cons_of_ne_nil hrest, ih hrest]
      simp only [List.append_assoc]

/-- Nothing of a line is lost when it is cut. -/
theorem intercalate_pieces (line : List Char) : [delimiter].intercalate (pieces line) = line := by
  induction line using pieces_induction with
  | one line h => rw [pieces_eq_singleton h, List.intercalate_singleton]
  | more a b ha iha ihb =>
    rw [pieces_append_cons ha, intercalate_append _ (pieces_ne_nil a) (pieces_ne_nil b)]
    simp [iha, ihb]

theorem isPiece_of_mem_pieces {line : List Char} (h : Even (marks line)) :
    ∀ text ∈ pieces line, IsPiece text := by
  induction line using pieces_induction with
  | one line hline =>
    intro text htext
    rw [pieces_eq_singleton hline, List.mem_singleton] at htext
    exact htext ▸ ⟨h, hline⟩
  | more a b ha iha ihb =>
    have hb : Even (marks b) := (even_marks_append_delimiter_iff ha).mp h
    intro text htext
    rw [pieces_append_cons ha, List.mem_append] at htext
    exact htext.elim (iha ha text) (ihb hb text)

end PipeShell
