import PipeShell.Text.WhiteSpace
import PipeShell.Command.Error

/-!
# The pieces of a line

A line is cut at every delimiter outside quotes. A double quote opens or closes a quoted run
unless the character before it is a backslash, so `Reading` needs to look back at one character
only, and the whole line is read by a left fold.

* `pieces?` cuts a line, unless a quoted run is left open.
* `split` trims the pieces. A line of delimiters and white space alone has no stages; any other
  line keeps its empty pieces, so that they can be reported by position.
-/

namespace PipeShell

/-- Separates the commands of a line. -/
def delimiter : Char := '|'

/-- Opens and closes a quoted run. -/
def quote : Char := '"'

/-- Makes the quote behind it an ordinary character. -/
def escape : Char := '\\'

/-- Where the reading of a line stands. -/
structure Reading where
  /-- Whether a quoted run is open. -/
  quoted : Bool := false
  /-- The character before the next one. -/
  previous : Option Char := none
  /-- The piece that is being read, last character first. -/
  piece : List Char := []
  /-- The finished pieces, last one first. -/
  finished : List (List Char) := []
  deriving Repr

namespace Reading

/-- Reads one character. -/
def next (r : Reading) (c : Char) : Reading :=
  if c = quote ∧ r.previous ≠ some escape then
    { r with quoted := !r.quoted, previous := some c, piece := c :: r.piece }
  else if c = delimiter ∧ r.quoted = false then
    { r with previous := some c, piece := [], finished := r.piece.reverse :: r.finished }
  else
    { r with previous := some c, piece := c :: r.piece }

/-- Reads a text from its first character to its last. -/
def run (text : List Char) : Reading :=
  text.foldl next {}

/-- The pieces in the order of the line. -/
def pieces (r : Reading) : List (List Char) :=
  (r.piece.reverse :: r.finished).reverse

end Reading

/-- The pieces between the delimiters outside quotes; none if a quoted run is left open. -/
def pieces? (line : List Char) : Option (List (List Char)) :=
  let r := Reading.run line
  if r.quoted then none else some r.pieces

/-- The texts of the commands of a line, of which there may be `most`. -/
def split (most : Nat) (line : String) : Except LineError (List String) :=
  match pieces? line.toList with
  | none => .error (.unclosedQuote (Text.trimmed line))
  | some pieces =>
    let texts := pieces.map Text.trim
    if texts.all List.isEmpty then .ok []
    else if most < texts.length then .error (.tooManyStages most)
    else .ok (texts.map String.ofList)

end PipeShell
