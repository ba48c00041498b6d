import PipeShell.Session.Batch
import PipeShell.Session.Interactive

/-!
# Sessions

A session feeds lines to a shell until it has a status: one line that was given with the command,
the lines of a file, or the lines of a terminal. The last two collect requests to stop and look at
them between lines. A command line that asks for no lines at all makes a session of one text.

`Session.turn` is one round; a session is run by repeating it.
-/

namespace PipeShell

/-- A session. -/
inductive Session where
  /-- A text is to be shown, and then it is over. -/
  | notice (fd : Fd) (text : String) (status : Int)
  /-- One line is to be run. -/
  | single (shell : Shell) (line : String)
  /-- Nothing is known of the input; the environment may name the kind of the terminal. -/
  | opening (shell : Shell) (kind : Option String)
  /-- Lines come from a file. -/
  | batch (batch : Batch)
  /-- Lines come from a terminal. -/
  | interactive (interactive : Interactive)
  deriving Repr

namespace Session

/-- Ends a session that cannot begin. -/
def giveUp (message : String) : Interaction (Session ⊕ Int) := do
  .complain (Runner.notice message)
  return .inr 1

/-- Finds out where the lines come from. For a terminal there has to be a line editor. -/
def begin (shell : Shell) (kind : Option String) : Interaction (Session ⊕ Int) := do
  match ← .call .catchStops with
  | .error cause => giveUp cause.ioMessage
  | .ok _ =>
    match ← .call (.isTerminal Fd.stdin) with
    | .ok true =>
      match complaint? (← .call (.openEditor kind)) with
      | some message => giveUp message
      | none => return .inl (interactive (← Interactive.start shell))
    | _ => return .inl (batch { shell })

/-- One round of a session. The result is its status. -/
def turn : Session → Interaction (Session ⊕ Int)
  | notice fd text status => do
    .say fd text
    return .inr status
  | single shell line => do
    let (shell, stop) ← shell.runLine line
    return .inr (stop.getD shell.last)
  | opening shell kind => begin shell kind
  | batch b => return (← b.turn).map batch id
  | interactive i => return (← i.turn).map interactive id

end Session

/-- What the system is told when a session ends with a status: its remainder modulo 256. -/
def exitCode (status : Int) : Nat :=
  (status % 256).toNat

end PipeShell
