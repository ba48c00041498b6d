import PipeShell.System.Child
import PipeShell.System.Signal

/-!
# Talking to the operating system

The shell is written as a tree of requests: each node asks the operating system for something,
and has one subtree for every answer. Nothing is assumed about the answers, so a statement about
a tree is a statement about every behaviour of the system.

* `Request` lists what the shell asks for, `Request.Value` what a successful answer holds.
* `Interaction.once` asks once; `Interaction.persist` asks again as long as the answer is that
  the call was interrupted. `Interaction.aborted` is the end of a computation that has failed for
  good: nothing comes behind it.
* `Interaction.say` writes a text, and is aborted if that is not possible.
* `resume` takes an answer to a call that is repeated.
* `settled?` is the repetition alone, on a list of answers.
-/

namespace PipeShell

/-- The number of a process. -/
abbrev Pid := Nat

/-- What a line editor gives back. -/
inductive Event where
  /-- A line, without its end. -/
  | line (text : String)
  /-- The line was dropped. -/
  | interrupted
  /-- There is no further input. -/
  | ended
  /-- What was typed is no text; the message says so. -/
  | noText (message : String)
  /-- Anything else has gone wrong; the message says what. -/
  | failed (message : String)
  deriving DecidableEq, Repr

/-- What the shell asks the operating system for. -/
inductive Request where
  /-- A pipe, both ends closed when a program starts. -/
  | pipe
  /-- A new process with a copy of the descriptors, that follows the plan. -/
  | fork (child : Child)
  /-- Close a descriptor. -/
  | close (fd : Fd)
  /-- Send a signal to a process. -/
  | kill (pid : Pid) (signal : Signal)
  /-- Wait for the end of a process. -/
  | wait (pid : Pid)
  /-- Read from a descriptor, this many octets at most. -/
  | read (fd : Fd) (size : Nat)
  /-- Write to a descriptor. -/
  | write (fd : Fd) (bytes : Bytes)
  /-- Write to a descriptor until all octets are taken. A descriptor that is not open takes any. -/
  | writeAll (fd : Fd) (bytes : Bytes)
  /-- Whether a descriptor is a terminal. -/
  | isTerminal (fd : Fd)
  /-- From now on, collect requests to stop instead of ending on them. -/
  | catchStops
  /-- The oldest request to stop that has not been looked at. -/
  | takeStop
  /-- Make a line editor for a terminal, whose kind the environment may name. -/
  | openEditor (kind : Option String)
  /-- Let the line editor read its history from a file. -/
  | loadHistory (path : String)
  /-- Let the user edit a line behind a prompt. -/
  | edit (prompt : String)
  /-- Offer an entry to the history of the line editor. -/
  | remember (entry : String)
  /-- Let the line editor write its history to a file. -/
  | saveHistory (path : String)
  deriving Repr

/-- What a successful answer holds. A line editor that has to do something may answer with the
reason why it has not. -/
def Request.Value : Request → Type
  | pipe => Fd × Fd
  | fork _ => Pid
  | close _ => Unit
  | kill _ _ => Unit
  | wait _ => Ending
  | read _ _ => Bytes
  | write _ _ => Nat
  | writeAll _ _ => Unit
  | isTerminal _ => Bool
  | catchStops => Unit
  | takeStop => Option Signal
  | openEditor _ => Option String
  | loadHistory _ => Unit
  | edit _ => Event
  | remember _ => Unit
  | saveHistory _ => Option String

/-- An answer of the operating system. -/
abbrev Request.Answer (r : Request) : Type := Except Errno r.Value

/-- Whether an answer says that the call was interrupted. -/
def isInterruption {α : Type} : Except Errno α → Bool
  | .error .eintr => true
  | _ => false

/-- A computation that talks to the operating system. -/
inductive Interaction (α : Type) : Type where
  /-- The computation is over. -/
  | done (result : α)
  /-- The computation has been aborted, and whoever makes it is gone. -/
  | aborted
  /-- Ask once. -/
  | once (request : Request) (next : request.Answer → Interaction α)
  /-- Ask until the call is not interrupted. -/
  | persist (request : Request) (next : request.Answer → Interaction α)

namespace Interaction

variable {α β : Type}

/-- Goes on with the result of a computation. -/
def bind : Interaction α → (α → Interaction β) → Interaction β
  | done a, f => f a
  | aborted, _ => aborted
  | once r next, f => once r fun answer => (next answer).bind f
  | persist r next, f => persist r fun answer => (next answer).bind f

instance : Monad Interaction where
  pure := done
  bind := bind

/-- Asks once. -/
def call (r : Request) : Interaction r.Answer :=
  once r done

/-- Asks until the call is not interrupted. -/
def callAgain (r : Request) : Interaction r.Answer :=
  persist r done

/-- Asks once and does not look at the answer. -/
def perform (r : Request) : Interaction Unit :=
  once r fun _ => done ()

/-- Asks for each of the requests, without looking at the answers. -/
def performAll : List Request → Interaction Unit
  | [] => done ()
  | r :: rest => once r fun _ => performAll rest

/-- Writes a text to a descriptor. If it cannot be written, the computation is aborted. -/
def say (fd : Fd) (text : String) : Interaction Unit :=
  once (.writeAll fd (Text.encode text)) fun
    | .ok _ => done ()
    | .error _ => aborted

/-- Writes a text on the error stream. -/
def complain (text : String) : Interaction Unit :=
  say Fd.stderr text

/-- Writes texts on the error stream, one after another. -/
def complainAll : List String → Interaction Unit
  | [] => done ()
  | text :: rest => (complain text).bind fun _ => complainAll rest

/-- Writes a text on standard output. -/
def print (text : String) : Interaction Unit :=
  say Fd.stdout text

/-- What the computation asks for next, if it is not over. -/
def request? : Interaction α → Option Request
  | done _ => none
  | aborted => none
  | once r _ => some r
  | persist r _ => some r

@[simp] theorem pure_eq (a : α) : (pure a : Interaction α) = done a := rfl

@[simp] theorem bind_eq (p : Interaction α) (f : α → Interaction β) : p >>= f = p.bind f := rfl

@[simp] theorem aborted_bind (f : α → Interaction β) : (aborted : Interaction α).bind f = aborted :=
  rfl

@[simp] theorem done_bind (a : α) (f : α → Interaction β) : (done a).bind f = f a := rfl

@[simp] theorem bind_done (p : Interaction α) : p.bind done = p := by
  induction p with
  | done a => rfl
  | aborted => rfl
  | once r next ih => simp [bind, ih]
  | persist r next ih => simp [bind, ih]

theorem bind_assoc {γ : Type} (p : Interaction α) (f : α → Interaction β)
    (g : β → Interaction γ) : (p.bind f).bind g = p.bind fun a => (f a).bind g := by
  induction p with
  | done a => rfl
  | aborted => rfl
  | once r next ih => simp [bind, ih]
  | persist r next ih => simp [bind, ih]

/-! ### Answers -/

/-- Takes an answer to a call that is repeated while it is interrupted. -/
def resume (r : Request) (next : r.Answer → Interaction α) (answer : r.Answer) :
    Interaction α :=
  if isInterruption answer then persist r next else next answer

end Interaction

/-- The first answer of a list that is no interruption, and how many calls it took to get it. -/
def settled? {α : Type} : List (Except Errno α) → Option (Except Errno α × Nat)
  | [] => none
  | answer :: rest =>
    if isInterruption answer then (settled? rest).map fun (a, calls) => (a, calls + 1)
    else some (answer, 1)

end PipeShell
