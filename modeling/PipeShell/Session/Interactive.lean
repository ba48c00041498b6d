import PipeShell.Session.Shell

/-!
# Lines from a terminal

At a terminal the shell greets, and then has a line editor read line after line behind a prompt.
The editor is not part of the shell: it is asked, as the operating system is, and may answer
anything. It also keeps the history, and reads and writes its file when it is told to.

* `Interactive.handle` is what the loop does with what the editor gives back, an `Event`.
* `Interactive.turn` is one round: it waits for an event and handles it.
-/

namespace PipeShell

/-- What comes of the answer of a line editor. -/
def Event.ofAnswer : Except Errno Event → Event
  | .ok event => event
  | .error cause => failed cause.ioMessage

/-- What a line editor complains about, if it has not done what it had to do. -/
def complaint? : Except Errno (Option String) → Option String
  | .ok message => message
  | .error cause => some cause.ioMessage

/-- A shell at a terminal. -/
structure Interactive where
  /-- The shell. -/
  shell : Shell
  deriving Repr

namespace Interactive

/-- The line that the shell begins with. -/
def greeting : String := "pipesh started. Type 'exit' to quit.\n"

/-- The line that the shell ends with. -/
def farewell : String := "Goodbye!\n"

/-- What stands before every line; it shows how the last one did. -/
def prompt (i : Interactive) : String :=
  let face := if i.shell.last = 0 then '🙂' else '💀'
  s!"pipesh {face} %> "

/-- The file of the history. -/
def historyPath (i : Interactive) : Option String :=
  i.shell.runner.settings.history

/-- What the shell says if the history has not been written. -/
def unwritable (path message : String) : String :=
  Runner.notice s!"cannot write history file {path}: {message}"

/-- Has the history written to its file, if there is one. -/
def save (i : Interactive) : Interaction Unit :=
  match i.historyPath with
  | none => .done ()
  | some path =>
    .once (.saveHistory path) fun answer =>
      match complaint? answer with
      | none => .done ()
      | some message => .complain (unwritable path message)

/-- Leaves with a status. -/
def leave (i : Interactive) (status : Int) : Interaction (Interactive ⊕ Int) := do
  i.save
  .print farewell
  return .inr status

/-- Runs a line that is not blank. -/
def runLine (i : Interactive) (line : String) : Interaction (Interactive ⊕ Int) := do
  .perform (.remember (Text.trimmed line))
  let (shell, stop) ← i.shell.runLine line
  let i : Interactive := { shell }
  match stop with
  | some status => i.leave status
  | none =>
    if ← takeStop then i.leave shell.last
    else return .inl i

/-- Handles an event. -/
def handle (i : Interactive) : Event → Interaction (Interactive ⊕ Int)
  | .line text => if (Text.trimmed text).isEmpty then .done (.inl i) else i.runLine text
  | .interrupted => do
    .complain (Runner.notice "type 'exit' or Ctrl+d to quit")
    return .inl i
  | .ended => i.leave i.shell.last
  | .noText message => do
    .complain (Runner.notice message)
    return .inl { shell := { i.shell with last := 1 } }
  | .failed message => do
    .complain (Runner.notice s!"read error\n{message}")
    i.leave 1

/-- One round: an event is waited for and handled. The result is the status of the session. -/
def turn (i : Interactive) : Interaction (Interactive ⊕ Int) := do
  i.handle (.ofAnswer (← .call (.edit i.prompt)))

/-- Starts a session. If the history cannot be read, it is empty. -/
def start (shell : Shell) : Interaction Interactive := do
  if let some path := shell.runner.settings.history then
    .perform (.loadHistory path)
  .print greeting
  return { shell }

end Interactive

end PipeShell
