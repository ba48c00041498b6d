import Mathlib.Data.List.TakeWhile
import PipeShell.Text.WhiteSpace

/-!
# Trimming

What trimming takes away is white space from the two ends of a text, and as much of it as there is:
`front` and `back` are what goes, `front_append_trim_append_back` says that nothing else does, and a
text that begins and ends without white space is what is left of every text that has white space
around it (`trim_append`).
-/

namespace PipeShell.Text

/-- The white space at the beginning of a text. -/
def front (text : List Char) : List Char :=
  text.takeWhile isWhiteSpace

/-- The white space at the end of a text, if there is anything else in it. -/
def back (text : List Char) : List Char :=
  ((trimStart text).reverse.takeWhile isWhiteSpace).reverse

theorem front_append_trim_append_back (text : List Char) :
    front text ++ trim text ++ back text = text := by
  have hback : trim text ++ back text = trimStart text := by
    rw [trim, trimEnd, back, ← List.reverse_append, List.takeWhile_append_dropWhile,
      List.reverse_reverse]
  rw [List.append_assoc, hback, front, trimStart, List.takeWhile_append_dropWhile]

theorem isWhiteSpace_of_mem_front {text : List Char} {c : Char} (h : c ∈ front text) :
    isWhiteSpace c = true :=
  List.all_eq_true.mp List.all_takeWhile c h

theorem isWhiteSpace_of_mem_back {text : List Char} {c : Char} (h : c ∈ back text) :
    isWhiteSpace c = true :=
  List.all_eq_true.mp List.all_takeWhile c (List.mem_reverse.mp h)

/-- A text with nothing but white space around it. -/
structure IsTrimmed (text : List Char) : Prop where
  head : ∀ c, text.head? = some c → isWhiteSpace c = false
  last : ∀ c, text.getLast? = some c → isWhiteSpace c = false

theorem trimStart_eq_self {text : List Char}
    (h : ∀ c, text.head? = some c → isWhiteSpace c = false) : trimStart text = text := by
  rcases text with _ | ⟨c, rest⟩
  · rfl
  · have hc : isWhiteSpace c = false := h c rfl
    simp [trimStart, hc]

theorem trimEnd_eq_self {text : List Char}
    (h : ∀ c, text.getLast? = some c → isWhiteSpace c = false) : trimEnd text = text := by
  have hhead : ∀ c, text.reverse.head? = some c → isWhiteSpace c = false := by
    simpa [List.head?_reverse] using h
  have hstart := trimStart_eq_self hhead
  rw [trimStart] at hstart
  rw [trimEnd, hstart, List.reverse_reverse]

theorem IsTrimmed.trim_eq {text : List Char} (h : IsTrimmed text) : trim text = text := by
  rw [trim, trimStart_eq_self h.head, trimEnd_eq_self h.last]

theorem trimStart_append {u : List Char} (hu : ∀ c ∈ u, isWhiteSpace c = true) (text : List Char) :
    trimStart (u ++ text) = trimStart text :=
  List.dropWhile_append_of_pos hu

theorem trimEnd_append {v : List Char} (hv : ∀ c ∈ v, isWhiteSpace c = true) (text : List Char) :
    trimEnd (text ++ v) = trimEnd text := by
  have hv' : ∀ c ∈ v.reverse, isWhiteSpace c = true := by simpa using hv
  rw [trimEnd, List.reverse_append, List.dropWhile_append_of_pos hv', trimEnd]

/-- **White space around a trimmed text is all that trimming takes away.** -/
theorem trim_append {u text v : List Char} (hu : ∀ c ∈ u, isWhiteSpace c = true)
    (h : IsTrimmed text) (hv : ∀ c ∈ v, isWhiteSpace c = true) : trim (u ++ text ++ v) = text := by
  rw [trim, List.append_assoc, trimStart_append hu]
  rcases text with _ | ⟨c, rest⟩
  · have hnil : trimStart v = [] := List.dropWhile_eq_nil_iff.mpr hv
    rw [List.nil_append, hnil]
    rfl
  · have hstart : trimStart (c :: rest ++ v) = c :: rest ++ v :=
      trimStart_eq_self fun d hd => h.head d hd
    rw [hstart, trimEnd_append hv, trimEnd_eq_self h.last]

theorem isWhiteSpace_head_dropWhile {text : List Char} {c : Char}
    (h : (text.dropWhile isWhiteSpace).head? = some c) : isWhiteSpace c = false := by
  have hnot := List.head?_dropWhile_not isWhiteSpace text
  rwa [h] at hnot

theorem isTrimmed_trim (text : List Char) : IsTrimmed (trim text) where
  head c hc := by
    have hprefix : trim text <+: trimStart text := by
      rw [trim, trimEnd, ← List.reverse_suffix, List.reverse_reverse]
      exact List.dropWhile_suffix isWhiteSpace
    obtain ⟨after, hafter⟩ := hprefix
    have hhead : (trimStart text).head? = some c := by
      rw [← hafter, List.head?_append, hc]
      rfl
    exact isWhiteSpace_head_dropWhile hhead
  last c hc := by
    rw [trim, trimEnd, List.getLast?_reverse] at hc
    exact isWhiteSpace_head_dropWhile hc

theorem trim_eq_nil_iff {text : List Char} :
    trim text = [] ↔ ∀ c ∈ text, isWhiteSpace c = true := by
  constructor
  · intro h c hc
    have htext := front_append_trim_append_back text
    rw [h, List.append_nil] at htext
    rw [← htext, List.mem_append] at hc
    exact hc.elim isWhiteSpace_of_mem_front isWhiteSpace_of_mem_back
  · intro h
    have hnil : IsTrimmed [] := ⟨by simp, by simp⟩
    simpa using trim_append h hnil (v := []) (by simp)

end PipeShell.Text
