/-!
# Named classes of characters

The classes that a bracket in a pattern may name. They hold ASCII characters only.
-/

namespace PipeShell.Text

/-- Whether a character has a visible form. -/
def isGraphic (c : Char) : Bool :=
  '!' ≤ c && c ≤ '~'

/-- The class with a name. -/
def characterClass? (name : String) : Option (Char → Bool) :=
  match name with
  | "alpha" => some Char.isAlpha
  | "digit" => some Char.isDigit
  | "alnum" => some Char.isAlphanum
  | "upper" => some Char.isUpper
  | "lower" => some Char.isLower
  | "space" => some fun c => c == ' ' || ('\t' ≤ c && c ≤ '\r')
  | "blank" => some fun c => c == ' ' || c == '\t'
  | "punct" => some fun c => isGraphic c && !c.isAlphanum
  | "print" => some fun c => isGraphic c || c == ' '
  | "graph" => some isGraphic
  | "cntrl" => some fun c => c < ' ' || c == '\x7f'
  | "xdigit" => some fun c => c.isDigit || ('a' ≤ c && c ≤ 'f') || ('A' ≤ c && c ≤ 'F')
  | _ => none

end PipeShell.Text
