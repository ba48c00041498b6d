import PipeShell.Machine.History
import PipeShell.Machine.Terminal
import PipeShell.Text.Grapheme

/-!
# The line editor

The line editor that the shell finds on a machine. On a plain terminal it shows the prompt, takes
what a reader gets, and obeys backspaces; on any other one it takes the keys themselves.

* `Editor.readLine?` is a line on a plain terminal, and `Event.ofBytes` what the editor makes of it.
* `Editor.takeKeys?` is a line on any other terminal.
-/

namespace PipeShell

/-- A line editor. -/
structure Editor where
  /-- Whether the keys cannot be taken one by one. -/
  isPlain : Bool := false
  /-- The lines that the editor remembers. -/
  history : History := {}
  deriving DecidableEq, Repr

/-- What the editor makes of a line of octets: its end is taken away, and backspaces are obeyed. -/
def Event.ofBytes (line : Bytes) : Event :=
  match Text.decode? (Text.dropLineEnd line) with
  | none => noText "stream did not contain valid UTF-8"
  | some text => Event.line (Text.eraseBackspaces text)

namespace Editor

/-- The kinds of terminals whose keys cannot be taken one by one. -/
def plainKinds : List String :=
  ["dumb", "cons25", "emacs"]

/-- The editor for a kind of terminal. -/
def ofKind (kind : Option String) : Editor :=
  { isPlain := kind.any fun kind => plainKinds.contains kind.toLower }

/-- Takes what has been typed up to the end of a line, behind what has been taken of it already.
None if the editor has to wait. -/
def readLine? (refuses : Bool) (line : Bytes) :
    List Typed → Option (Except Errno Event × List Typed)
  | [] => if refuses then some (.error .eagain, []) else none
  | .endOfFile :: rest => some (.ok (if line.isEmpty then .ended else .ofBytes line), rest)
  | .line bytes :: rest =>
    if bytes.contains Text.lineFeed then some (.ok (.ofBytes (line ++ bytes)), rest)
    else readLine? refuses (line ++ bytes) rest

/-- Takes keys until a line is accepted, dropped, or empty with the end-of-file key. None if the
editor has to wait. The line so far is given last character first. -/
def takeKeys? (line : List Char) : List Char → Option (Event × List Char)
  | [] => none
  | '\r' :: rest => some (.line (String.ofList line.reverse), rest)
  | '\n' :: rest => some (.line (String.ofList line.reverse), rest)
  | '\x03' :: rest => some (.interrupted, rest)
  | '\x04' :: rest => if line.isEmpty then some (.ended, rest) else takeKeys? line rest
  | c :: rest => takeKeys? (c :: line) rest

end Editor

end PipeShell
