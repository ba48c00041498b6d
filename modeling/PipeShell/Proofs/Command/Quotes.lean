import Mathlib.Algebra.Ring.Parity
import PipeShell.Command.Piece

/-!
# Quotes in a text

Which double quotes of a text open or close a run is said here by position: a `Spot` is a character
together with all that stands before it, and a quote is a mark unless a backslash stands right
before it. `marks` counts the marks of a text.

* `Apart` says that no backslash is torn from a quote where one text follows another. Marks are then
  counted text by text (`marks_append`).
* `quotes_induction` is the induction over a text by what a reader takes at once: a mark, a
  backslash with the quote behind it, or any other character.
* `cutBy` cuts a text at the characters with a property, and `cutBy_append_cons` and
  `cutBy_append_of_forall` say how the parts of a text follow from those of its two sides.
-/

namespace PipeShell

/-- A character of a text, with all that stands before it. -/
structure Spot where
  /-- What stands before the character. -/
  before : List Char
  /-- The character. -/
  char : Char

/-- The characters of a text that stands behind another one. -/
def spotsAfter (before : List Char) : List Char → List Spot
  | [] => []
  | c :: rest => ⟨before, c⟩ :: spotsAfter (before ++ [c]) rest

/-- The characters of a text. -/
def spots (text : List Char) : List Spot :=
  spotsAfter [] text

/-- Whether a character is a double quote that opens or closes a run: no backslash stands right
before it. -/
def Spot.isMark (s : Spot) : Bool :=
  s.char = quote ∧ s.before.getLast? ≠ some escape

/-- How many marks a text has. -/
def marks (text : List Char) : Nat :=
  (spots text).countP Spot.isMark

/-- The texts between the characters with a property. -/
def cutBy (p : Spot → Bool) (text : List Char) : List (List Char) :=
  ((spots text).splitOnP p).map (List.map Spot.char)

/-! ### Spots -/

/-- The same character with a text in front of it. -/
def Spot.shift (front : List Char) (s : Spot) : Spot :=
  ⟨front ++ s.before, s.char⟩

theorem spotsAfter_append (front before text : List Char) :
    spotsAfter (front ++ before) text = (spotsAfter before text).map (Spot.shift front) := by
  induction text generalizing before with
  | nil => rfl
  | cons c rest ih =>
    rw [spotsAfter, List.append_assoc, ih]
    rfl

theorem spotsAfter_eq (before text : List Char) :
    spotsAfter before text = (spots text).map (Spot.shift before) := by
  have h := spotsAfter_append before [] text
  rwa [List.append_nil] at h

@[simp] theorem spots_nil : spots [] = [] := rfl

theorem spots_cons (c : Char) (rest : List Char) :
    spots (c :: rest) = ⟨[], c⟩ :: (spots rest).map (Spot.shift [c]) := by
  rw [spots, spotsAfter, List.nil_append, spotsAfter_eq]

theorem spots_append (a b : List Char) :
    spots (a ++ b) = spots a ++ (spots b).map (Spot.shift a) := by
  have key : ∀ before, spotsAfter before (a ++ b) = spotsAfter before a ++
      spotsAfter (before ++ a) b := by
    induction a with
    | nil => simp [spotsAfter]
    | cons c rest ih => intro before; simp [spotsAfter, ih]
  have h := key []
  rwa [List.nil_append, spotsAfter_eq a] at h

theorem spots_snoc (text : List Char) (c : Char) :
    spots (text ++ [c]) = spots text ++ [⟨text, c⟩] := by
  simp [spots_append, spots_cons, Spot.shift]

/-- The characters before one of a text, this one, and those behind it. -/
theorem spots_append_cons (a : List Char) (c : Char) (b : List Char) :
    spots (a ++ c :: b) = spots a ++ ⟨a, c⟩ :: (spots b).map (Spot.shift (a ++ [c])) := by
  rw [List.append_cons, spots_append, spots_snoc, List.append_assoc, List.singleton_append]

/-- A spot is a way to take a text apart at a character. -/
theorem mem_spots {text : List Char} {s : Spot} :
    s ∈ spots text ↔ ∃ after, text = s.before ++ s.char :: after := by
  induction text generalizing s with
  | nil => simp
  | cons c rest ih =>
    rw [spots_cons, List.mem_cons, List.mem_map]
    constructor
    · rintro (rfl | ⟨s, hs, rfl⟩)
      · exact ⟨rest, rfl⟩
      · obtain ⟨after, rfl⟩ := ih.mp hs
        exact ⟨after, rfl⟩
    · rintro ⟨after, h⟩
      obtain ⟨before, char⟩ := s
      rcases before with _ | ⟨b, before⟩
      · cases h
        exact .inl rfl
      · cases h
        exact .inr ⟨⟨before, char⟩, ih.mpr ⟨after, rfl⟩, rfl⟩

theorem map_char_spots (text : List Char) : (spots text).map Spot.char = text := by
  induction text with
  | nil => rfl
  | cons c rest ih =>
    have hchar : Spot.char ∘ Spot.shift [c] = Spot.char := rfl
    rw [spots_cons, List.map_cons, List.map_map, hchar, ih]

/-! ### Marks -/

/-- No backslash at the end of one text stands right before a quote at the beginning of the other.
-/
def Apart (a b : List Char) : Prop :=
  a.getLast? = some escape → b.head? ≠ some quote

theorem apart_nil_left (b : List Char) : Apart [] b :=
  fun h => nomatch h

theorem apart_nil_right (a : List Char) : Apart a [] :=
  fun _ h => nomatch h

/-- A character that is no quote may follow anything. -/
theorem apart_cons (a : List Char) {c : Char} (hc : c ≠ quote) (b : List Char) : Apart a (c :: b) :=
  fun _ h => hc (Option.some.inj h)

/-- Anything may follow a character that is no backslash. -/
theorem apart_snoc (a : List Char) {c : Char} (hc : c ≠ escape) (b : List Char) :
    Apart (a ++ [c]) b :=
  fun h => absurd (by simpa using h) hc

theorem apart_singleton {c : Char} (hc : c ≠ escape) (b : List Char) : Apart [c] b :=
  apart_snoc [] hc b

/-- A mark of a text stays one behind a text that leaves it alone. -/
theorem Spot.isMark_shift {a b : List Char} (h : Apart a b) {s : Spot} (hs : s ∈ spots b) :
    (s.shift a).isMark = s.isMark := by
  obtain ⟨after, hb⟩ := mem_spots.mp hs
  rcases hbefore : s.before with _ | ⟨c, rest⟩
  · -- the first character of `b` has no character before it there
    have hhead : b.head? = some s.char := by rw [hb, hbefore]; rfl
    have hquote : s.char = quote → a.getLast? ≠ some escape := by
      rintro hc he
      exact h he (hhead.trans (congrArg some hc))
    by_cases hc : s.char = quote
    · simp [Spot.isMark, Spot.shift, hbefore, hc, hquote hc]
    · simp [Spot.isMark, Spot.shift, hc]
  · have hlast : (a ++ c :: rest).getLast? = (c :: rest).getLast? := by
      simp [List.getLast?_append, List.getLast?_cons]
    simp [Spot.isMark, Spot.shift, hbefore, hlast]

@[simp] theorem marks_nil : marks [] = 0 := rfl

theorem marks_append {a b : List Char} (h : Apart a b) : marks (a ++ b) = marks a + marks b := by
  have hshift : (spots b).countP (Spot.isMark ∘ Spot.shift a) = (spots b).countP Spot.isMark :=
    List.countP_congr fun s hs => by simp [Spot.isMark_shift h hs]
  rw [marks, spots_append, List.countP_append, List.countP_map, hshift]
  rfl

theorem marks_snoc (text : List Char) (c : Char) :
    marks (text ++ [c]) = marks text + if Spot.isMark ⟨text, c⟩ then 1 else 0 := by
  rw [marks, spots_snoc, List.countP_append]
  simp [marks, List.countP_cons]

@[simp] theorem marks_quote_cons (rest : List Char) : marks (quote :: rest) = marks rest + 1 := by
  have h := marks_append (apart_singleton (by decide : quote ≠ escape) rest)
  rw [List.singleton_append] at h
  rw [h, Nat.add_comm]
  rfl

theorem marks_cons {c : Char} (hc : c ≠ quote) {rest : List Char} (h : Apart [c] rest) :
    marks (c :: rest) = marks rest := by
  have hone : marks [c] = 0 := by simp [marks, spots_cons, Spot.isMark, hc]
  have happ := marks_append h
  rwa [List.singleton_append, hone, Nat.zero_add] at happ

@[simp] theorem marks_pair_cons (rest : List Char) :
    marks (escape :: quote :: rest) = marks rest := by
  have hpair : marks [escape, quote] = 0 := by decide
  have h := marks_append (apart_snoc [escape] (by decide : quote ≠ escape) rest)
  rwa [List.singleton_append, hpair, Nat.zero_add] at h

/-- A character that is neither a quote nor a backslash stands apart from everything. -/
theorem marks_append_cons (a : List Char) {c : Char} (hq : c ≠ quote) (he : c ≠ escape)
    (b : List Char) : marks (a ++ c :: b) = marks a + marks b := by
  rw [marks_append (apart_cons a hq b), marks_cons hq (apart_singleton he b)]

/-- **Induction over a text** by what a reader takes at once: a mark, a character that stands for
itself, or a backslash with the quote behind it. -/
@[elab_as_elim]
theorem quotes_induction {motive : List Char → Prop} (nil : motive [])
    (mark : ∀ rest, motive rest → motive (quote :: rest))
    (plain : ∀ c rest, c ≠ quote → Apart [c] rest → motive rest → motive (c :: rest))
    (pair : ∀ rest, motive rest → motive (escape :: quote :: rest)) : ∀ text, motive text
  | [] => nil
  | [c] => by
    by_cases hc : c = quote
    · exact hc ▸ mark [] nil
    · exact plain c [] hc (apart_nil_right _) nil
  | c :: d :: rest => by
    by_cases hc : c = quote
    · exact hc ▸ mark _ (quotes_induction nil mark plain pair _)
    · by_cases hpair : c = escape ∧ d = quote
      · obtain ⟨rfl, rfl⟩ := hpair
        exact pair rest (quotes_induction nil mark plain pair rest)
      · refine plain c _ hc (fun h hd => hpair ?_) (quotes_induction nil mark plain pair _)
        exact ⟨by simpa using h, by simpa using hd⟩

/-! ### Cutting -/

section SplitOnP

variable {α β : Type}

theorem splitOnP_congr {p q : α → Bool} {l : List α} (h : ∀ x ∈ l, p x = q x) :
    l.splitOnP p = l.splitOnP q := by
  induction l with
  | nil => rfl
  | cons x rest ih =>
    rw [List.splitOnP_cons_eq_if_modifyHead, List.splitOnP_cons_eq_if_modifyHead,
      h x List.mem_cons_self, ih fun y hy => h y (List.mem_cons_of_mem x hy)]

theorem splitOnP_map (f : α → β) (p : β → Bool) (l : List α) :
    (l.map f).splitOnP p = (l.splitOnP (p ∘ f)).map (List.map f) := by
  induction l with
  | nil => rfl
  | cons x rest ih =>
    obtain ⟨first, others, hsplit⟩ := List.exists_cons_of_ne_nil
      (List.splitOnP_ne_nil (p ∘ f) rest)
    rw [List.map_cons, List.splitOnP_cons_eq_if_modifyHead, List.splitOnP_cons_eq_if_modifyHead,
      ih, hsplit]
    by_cases hx : p (f x) = true <;> simp [hx]

theorem splitOnP_append_of_forall {p : α → Bool} {l : List α} (h : ∀ x ∈ l, p x = false)
    (l' : List α) : (l ++ l').splitOnP p = (l'.splitOnP p).modifyHead (l ++ ·) := by
  obtain ⟨first, others, hsplit⟩ := List.exists_cons_of_ne_nil (List.splitOnP_ne_nil p l')
  induction l with
  | nil => simp [hsplit]
  | cons x rest ih =>
    have hrest := ih fun y hy => h y (List.mem_cons_of_mem x hy)
    rw [List.cons_append, List.splitOnP_cons_eq_if_modifyHead, h x List.mem_cons_self, hrest,
      hsplit]
    simp

/-- What is cut off first stands at the beginning. -/
theorem prefix_of_splitOnP_eq_cons {p : α → Bool} {l first : List α} {others : List (List α)}
    (h : l.splitOnP p = first :: others) : first <+: l := by
  induction l generalizing first others with
  | nil => simp_all
  | cons x rest ih =>
    obtain ⟨first', others', hsplit⟩ := List.exists_cons_of_ne_nil (List.splitOnP_ne_nil p rest)
    rw [List.splitOnP_cons_eq_if_modifyHead, hsplit] at h
    by_cases hx : p x = true
    · rw [if_pos hx] at h
      exact (List.cons.inj h).1 ▸ List.nil_prefix
    · rw [if_neg hx] at h
      exact (List.cons.inj h).1 ▸ (List.prefix_cons_inj x).mpr (ih hsplit)

end SplitOnP

theorem cutBy_ne_nil (p : Spot → Bool) (text : List Char) : cutBy p text ≠ [] := by
  simp [cutBy, List.splitOnP_ne_nil]

/-- What is cut out of a text that stands behind another one, if the cuts are the same for itself.
-/
theorem map_splitOnP_shift {p : Spot → Bool} {a b : List Char}
    (hshift : ∀ s ∈ spots b, p (s.shift a) = p s) :
    (((spots b).map (Spot.shift a)).splitOnP p).map (List.map Spot.char) = cutBy p b := by
  have hcongr : (spots b).splitOnP (p ∘ Spot.shift a) = (spots b).splitOnP p :=
    splitOnP_congr hshift
  rw [splitOnP_map, hcongr, List.map_map]
  simp [cutBy, Function.comp_def, Spot.shift]

theorem cutBy_append_cons {p : Spot → Bool} (a : List Char) {c : Char} (b : List Char)
    (hp : p ⟨a, c⟩ = true) (hshift : ∀ s ∈ spots b, p (s.shift (a ++ [c])) = p s) :
    cutBy p (a ++ c :: b) = cutBy p a ++ cutBy p b := by
  rw [cutBy, spots_append_cons, List.splitOnP_append_cons _ _ hp, List.map_append,
    map_splitOnP_shift hshift]
  rfl

/-- A text without a cut goes into the first part of what stands behind it. -/
theorem cutBy_append_of_forall {p : Spot → Bool} {a b : List Char} (ha : ∀ s ∈ spots a, p s = false)
    (hshift : ∀ s ∈ spots b, p (s.shift a) = p s) :
    cutBy p (a ++ b) = (cutBy p b).modifyHead (a ++ ·) := by
  rw [cutBy, spots_append, splitOnP_append_of_forall ha, ← map_splitOnP_shift hshift]
  cases ((spots b).map (Spot.shift a)).splitOnP p <;> simp [map_char_spots]

/-- What is cut off first stands at the beginning. -/
theorem prefix_of_cutBy_eq_cons {p : Spot → Bool} {text first : List Char}
    {others : List (List Char)} (h : cutBy p text = first :: others) : first <+: text := by
  obtain ⟨first', others', hsplit⟩ :=
    List.exists_cons_of_ne_nil (List.splitOnP_ne_nil p (spots text))
  rw [cutBy, hsplit, List.map_cons] at h
  obtain ⟨rfl, -⟩ := List.cons.inj h
  have hprefix := (prefix_of_splitOnP_eq_cons hsplit).map Spot.char
  rwa [map_char_spots] at hprefix

end PipeShell
