import PipeShell.Proofs.Text.Utf8
import PipeShell.Proofs.Text.WhiteSpace
import PipeShell.Text.Lines

/-!
# Lines of a text

A text that has been put together from lines, each with a line feed behind it, or a carriage return
and a line feed, except perhaps the last one. Cutting its octets at the line feeds finds the lines
again, wherever the octets have been torn apart on their way.

* `Joined` is the putting together.
* `Joined.of_cutLine` is what is cut off at the beginning, and `Joined.of_cutLine_none` what is left
  when nothing can be cut off.
-/

namespace PipeShell.Text

/-- What stands behind a line: a line feed, and perhaps a carriage return before it. -/
def ending (withReturn : Bool) : String :=
  if withReturn then "\r\n" else "\n"

/-- Whether a text is made of these lines. Behind each of them stands an ending; behind the last one
there may be nothing. -/
inductive Joined : List String → String → Prop where
  | nil : Joined [] ""
  | last (line : String) : Joined [line] line
  | cons (line : String) (withReturn : Bool) {lines : List String} {text : String}
    (others : Joined lines text) :
    Joined (line :: lines) (line ++ ending withReturn ++ text)

/-! ### Cutting at line feeds -/

theorem cutLine_append {body : Bytes} (h : lineFeed ∉ body) (rest : Bytes) :
    cutLine (body ++ lineFeed :: rest) = some (body ++ [lineFeed], rest) := by
  have hbody : ∀ b ∈ body, (decide (b ≠ lineFeed)) = true := by
    intro b hb
    exact decide_eq_true (ne_of_mem_of_not_mem hb h)
  rw [cutLine, List.dropWhile_append_of_pos hbody, List.takeWhile_append_of_pos hbody]
  simp

theorem cutLine_of_notMem {bytes : Bytes} (h : lineFeed ∉ bytes) : cutLine bytes = none := by
  have hdrop : bytes.dropWhile (· ≠ lineFeed) = [] :=
    List.dropWhile_eq_nil_iff.mpr fun b hb => decide_eq_true (ne_of_mem_of_not_mem hb h)
  rw [cutLine, hdrop]

/-- What is cut off ends with the first line feed. -/
theorem exists_of_cutLine {bytes line rest : Bytes} (h : cutLine bytes = some (line, rest)) :
    ∃ body, lineFeed ∉ body ∧ line = body ++ [lineFeed] ∧ bytes = body ++ lineFeed :: rest := by
  by_cases hmem : lineFeed ∈ bytes
  · obtain ⟨body, rest', rfl, hbody⟩ := List.eq_append_cons_of_mem hmem
    rw [cutLine_append hbody, Option.some.injEq, Prod.mk.injEq] at h
    obtain ⟨rfl, rfl⟩ := h
    exact ⟨body, hbody, rfl, rfl⟩
  · rw [cutLine_of_notMem hmem] at h
    cases h

theorem lineFeed_notMem_of_cutLine {bytes : Bytes} (h : cutLine bytes = none) :
    lineFeed ∉ bytes := by
  intro hmem
  obtain ⟨body, rest, rfl, hbody⟩ := List.eq_append_cons_of_mem hmem
  rw [cutLine_append hbody] at h
  cases h

/-! ### Lines as octets -/

theorem encode_lineFeed : encode "\n" = [lineFeed] := by
  rw [encode_eq]
  rfl

/-- A line with its ending is the line, perhaps a carriage return, and the line feed. -/
theorem append_ending (line : String) (withReturn : Bool) :
    line ++ ending withReturn = (if withReturn then line ++ "\r" else line) ++ "\n" := by
  cases withReturn with
  | false => rfl
  | true => rw [if_pos rfl, String.append_assoc]; rfl

theorem encode_append_ending (line : String) (withReturn : Bool) :
    encode (line ++ ending withReturn) =
      encode (if withReturn then line ++ "\r" else line) ++ [lineFeed] := by
  rw [append_ending, encode_append, encode_lineFeed]

/-- A line feed among the octets of a text is one in the text. -/
theorem lineFeed_notMem_encode {text : String} (h : '\n' ∉ text.toList) :
    lineFeed ∉ encode text := by
  intro hmem
  rw [encode_eq, List.mem_flatMap] at hmem
  obtain ⟨c, hc, hoctet⟩ := hmem
  obtain ⟨-, rfl⟩ := eq_of_mem_utf8EncodeChar hoctet (by decide)
  exact h hc

/-! ### The lines that are found -/

namespace Joined

variable {lines : List String} {text : String} {pending later : Bytes}

/-- **The first line that is cut off is the first of the lines**, with its ending, and what is left
is made of the others. -/
theorem of_cutLine {line rest : Bytes} (hjoined : Joined lines text)
    (hlines : ∀ line ∈ lines, '\n' ∉ line.toList) (hcut : cutLine pending = some (line, rest))
    (hbytes : pending ++ later = encode text) :
    ∃ first others withReturn text', lines = first :: others ∧ Joined others text' ∧
      line = encode (first ++ ending withReturn) ∧ rest ++ later = encode text' := by
  obtain ⟨body, hbody, rfl, rfl⟩ := exists_of_cutLine hcut
  rw [List.append_assoc, List.cons_append] at hbytes
  have hmem : lineFeed ∈ encode text := hbytes ▸ List.mem_append_right body List.mem_cons_self
  cases hjoined with
  | nil =>
    have hempty : '\n' ∉ "".toList := by decide
    exact absurd hmem (lineFeed_notMem_encode hempty)
  | last => exact absurd hmem (lineFeed_notMem_encode (hlines text List.mem_cons_self))
  | @cons first withReturn others text' hothers =>
    have hfirst : lineFeed ∉ encode (if withReturn then first ++ "\r" else first) := by
      have hnone := hlines first List.mem_cons_self
      apply lineFeed_notMem_encode
      cases withReturn with
      | false => exact hnone
      | true => simpa using hnone
    rw [encode_append, encode_append_ending, List.append_assoc, List.singleton_append] at hbytes
    -- the first line feed is at one place only
    have hcuts := congrArg cutLine hbytes
    rw [cutLine_append hbody, cutLine_append hfirst, Option.some.injEq, Prod.mk.injEq] at hcuts
    obtain ⟨hline, hrest⟩ := hcuts
    exact ⟨first, others, withReturn, text', rfl, hothers,
      hline.trans (encode_append_ending first withReturn).symm, hrest⟩

/-- If no line can be cut off what is left of the input, that is the last line, or nothing. -/
theorem of_cutLine_none (hjoined : Joined lines text) (hcut : cutLine pending = none)
    (hbytes : pending = encode text) : (lines = [] ∧ text = "") ∨ lines = [text] := by
  have hnone := lineFeed_notMem_of_cutLine hcut
  cases hjoined with
  | nil => exact .inl ⟨rfl, rfl⟩
  | last => exact .inr rfl
  | cons line withReturn others =>
    rw [hbytes, encode_append, encode_append_ending] at hnone
    simp at hnone

end Joined

end PipeShell.Text
