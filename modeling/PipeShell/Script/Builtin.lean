import PipeShell.Script.Builtin.Aliases
import PipeShell.Script.Builtin.Input
import PipeShell.Script.Builtin.Leaving
import PipeShell.Script.Builtin.Output
import PipeShell.Script.Builtin.Signals
import PipeShell.Script.Builtin.Surroundings
import PipeShell.Script.Grammar

/-!
# Commands of the script itself

The commands that a script runs without starting a program, apart from those that run or find
other commands. Each takes its arguments and comes to a status; one that is used wrongly fails
with a message.

`builtin?` finds such a command by its name.
-/

namespace PipeShell.Script

/-- Whether a command of the script itself is a special one: a failure of it ends the script, and
assignments in front of it stay. -/
def isSpecialCommand (name : String) : Bool :=
  Grammar.specialNames.contains name

/-- The commands of the script itself, apart from those that run or find other commands. -/
def builtin? (name : String) : Option (List String → Step Nat) :=
  match name with
  | ":" => some fun _ => return 0
  | "true" => some fun _ => return 0
  | "false" => some fun _ => return 1
  | "echo" => some echo
  | "printf" => some printf
  | "test" => some test
  | "[" => some bracket
  | "export" => some (markVariables "export" Variable.exported fun v => { v with exported := true })
  | "readonly" =>
    some (markVariables "readonly" Variable.readOnly fun v => { v with readOnly := true })
  | "local" => some makeLocal
  | "unset" => some unset
  | "shift" => some shift
  | "set" => some setCommand
  | "read" => some readLineInto
  | "getopts" => some getOptions
  | "cd" => some changeDirectory
  | "chdir" => some changeDirectory
  | "pwd" => some showDirectory
  | "umask" => some umask
  | "ulimit" => some ulimit
  | "kill" => some kill
  | "trap" => some trap
  | "wait" => some waitCommand
  | "jobs" => some listJobs
  | "fg" => some bringForward
  | "bg" => some bringForward
  | "alias" => some aliasCommand
  | "unalias" => some unaliasCommand
  | "break" => some breakLoops
  | "continue" => some continueLoops
  | "return" => some returnCommand
  | "exit" => some exitCommand
  | "times" => some fun _ => say "0m0.000000s 0m0.000000s\n0m0.000000s 0m0.000000s\n"
  | _ => none

end PipeShell.Script
