import PipeShell.Text.Integer
import PipeShell.Command.Word

/-!
# Stages

One command of a line, read and ready to be run. A stage knows its position, so that processes
and messages can be told apart.

* `Stage.read` refuses a command without words and a word with a nul character, which no argument
  list can hold.
* `Stage.exitStatus` is the status that a terminator asks for.
-/

namespace PipeShell

/-- One command of a line. -/
structure Stage where
  /-- The position in the line, from zero. -/
  index : Nat
  /-- The command as it stands in the line, trimmed. -/
  text : String
  /-- The words of the command: the program's name, then its arguments. -/
  words : List String
  deriving DecidableEq, Repr

namespace Stage

/-- Whether a word holds the nul character. -/
def hasNul (word : String) : Bool :=
  word.toList.contains '\x00'

/-- Reads a command of at most `most` words. -/
def read (index : Nat) (text : String) (most : Nat) : Except LineError Stage := do
  let words ← readWords most text
  if words.isEmpty then throw (.emptyStage index)
  if words.any hasNul then throw (.nulInWord text)
  return { index, text, words }

/-- The name of the program to run. -/
def program (stage : Stage) : String :=
  stage.words.headD ""

/-- Whether the command is the word that stops the shell. -/
def isTerminator (stage : Stage) (terminator : String) : Bool :=
  stage.program == terminator

/-- The status that the second word asks for; `none` without a second word. -/
def exitStatus (stage : Stage) : Except LineError (Option Int) :=
  match stage.words[1]? with
  | none => .ok none
  | some word =>
    match Text.readInt32 word.toList with
    | .ok n => .ok (some n)
    | .error _ => .error (.badExitStatus word)

end Stage

end PipeShell
