import PipeShell.Text.Utf8

/-!
# Lines of octets

A line ends with a line feed, except the last one, which may lack it. The line feed belongs to
its line, so nothing is lost when a text is cut.

* `cutLine` takes the first complete line off.
* `lines` cuts the whole text.
-/

namespace PipeShell.Text

/-- The line feed. -/
def lineFeed : UInt8 := 10

/-- The first complete line, with its line feed, and what follows it. -/
def cutLine (bytes : Bytes) : Option (Bytes × Bytes) :=
  match bytes.dropWhile (· ≠ lineFeed) with
  | [] => none
  | b :: rest => some (bytes.takeWhile (· ≠ lineFeed) ++ [b], rest)

theorem length_rest_lt {bytes line rest : Bytes} (h : cutLine bytes = some (line, rest)) :
    rest.length < bytes.length := by
  unfold cutLine at h
  split at h
  · exact absurd h (by simp)
  · rename_i b tail hb
    obtain ⟨-, rfl⟩ : bytes.takeWhile (· ≠ lineFeed) ++ [b] = line ∧ tail = rest := by
      simpa using h
    have := congrArg List.length (List.takeWhile_append_dropWhile
      (p := (· ≠ lineFeed)) (l := bytes))
    rw [hb, List.length_append, List.length_cons] at this
    omega

/-- All lines of a text; only the last one may lack its line feed. -/
def lines (bytes : Bytes) : List Bytes :=
  match _h : cutLine bytes with
  | none => if bytes.isEmpty then [] else [bytes]
  | some (line, rest) => line :: lines rest
termination_by bytes.length
decreasing_by exact length_rest_lt ‹_›

/-- Takes a line end away: a line feed, and a carriage return before it. -/
def dropLineEnd (line : Bytes) : Bytes :=
  match line.reverse with
  | 10 :: 13 :: rest => rest.reverse
  | 10 :: rest => rest.reverse
  | _ => line

end PipeShell.Text
