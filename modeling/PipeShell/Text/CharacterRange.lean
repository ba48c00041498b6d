/-!
# Sets of characters given by ranges

A property of characters that follows no short rule is a table: disjoint ranges of code points in
ascending order. Membership looks the code point up by halving.
-/

namespace PipeShell.Text

/-- Disjoint ranges of code points, both ends included, in ascending order. -/
abbrev CharacterRanges := Array (Nat × Nat)

namespace CharacterRanges

/-- Looks a code point up between two places of the table, `fuel` halvings at most. -/
def search (ranges : CharacterRanges) (n : Nat) : Nat → Nat → Nat → Bool
  | 0, _, _ => false
  | fuel + 1, low, high =>
    if low < high then
      let middle := (low + high) / 2
      match ranges[middle]? with
      | none => false
      | some (first, last) =>
        if n < first then ranges.search n fuel low middle
        else if last < n then ranges.search n fuel (middle + 1) high
        else true
    else false

/-- Whether one of the ranges holds the character. -/
def holds (ranges : CharacterRanges) (c : Char) : Bool :=
  ranges.search c.toNat ranges.size 0 ranges.size

end CharacterRanges

end PipeShell.Text
