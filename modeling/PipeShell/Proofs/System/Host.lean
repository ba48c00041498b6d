import Mathlib.Logic.Function.Basic
import Mathlib.Logic.Relation
import PipeShell.System.Interaction

/-!
# Operating systems

Any operating system, as far as the shell's descriptors and processes are concerned. A `Host` is a
table of descriptors and a table of processes that have not been waited for; open files and
processes are counted as they are made, so that one is never taken for another even if its number
is used again.

`Host.Answers` says which answers a request may get and what they change. Pipes and processes may be
refused for any cause, at any time; a descriptor is closed whatever the answer is; a wait may be
interrupted, and if it fails for another cause the process is gone. `Host.Passes` is what happens
without being asked for: processes end, or vanish. `Host.Step` is one step of a computation of the
shell on such a system, or of the system alone.
-/

namespace PipeShell

/-- A process of the shell that has not been waited for. -/
structure Host.Child where
  /-- How many processes had been made before it. -/
  number : Nat
  /-- Whether it is over. -/
  ended : Bool

/-- An operating system, as far as one shell can see it. -/
structure Host where
  /-- The open files that the shell's descriptors refer to, each by its count. -/
  table : Fd → Option Nat
  /-- The processes of the shell. -/
  children : Pid → Option Host.Child
  /-- How many files have been opened. -/
  files : Nat
  /-- How many processes have been made. -/
  forks : Nat

/-- Whether a request is about something else than descriptors and processes. -/
def Request.isNeutral : Request → Bool
  | pipe => false
  | fork _ => false
  | close _ => false
  | kill _ _ => false
  | wait _ => false
  | _ => true

namespace Host

/-- Whatever has been counted was counted. -/
structure IsSound (h : Host) : Prop where
  files : ∀ fd file, h.table fd = some file → file < h.files
  forks : ∀ pid child, h.children pid = some child → child.number < h.forks

/-- **What an operating system may answer**, and what becomes of it. -/
inductive Answers (h : Host) : (r : Request) → r.Answer → Host → Prop where
  | piped (read write : Fd) (freeRead : h.table read = none) (freeWrite : h.table write = none)
    (ne : read ≠ write) : Answers h .pipe (.ok (read, write))
      { h with
        table := Function.update (Function.update h.table read (some h.files)) write
          (some (h.files + 1))
        files := h.files + 2 }
  | unpiped (cause : Errno) : Answers h .pipe (.error cause) h
  | forked {plan} (pid : Pid) (free : h.children pid = none) : Answers h (.fork plan) (.ok pid)
      { h with
        children := Function.update h.children pid (some ⟨h.forks, false⟩)
        forks := h.forks + 1 }
  | unforked {plan} (cause : Errno) : Answers h (.fork plan) (.error cause) h
  | closed {fd} (answer) :
    Answers h (.close fd) answer { h with table := Function.update h.table fd none }
  | killed {pid signal} (answer) : Answers h (.kill pid signal) answer h
  | waited {pid} {child : Child} (how : Ending) (live : h.children pid = some child)
    (ended : child.ended = true) :
    Answers h (.wait pid) (.ok how) { h with children := Function.update h.children pid none }
  | interrupted {pid} : Answers h (.wait pid) (.error .eintr) h
  | lost {pid} (cause : Errno) (other : cause ≠ .eintr) (gone : h.children pid = none) :
    Answers h (.wait pid) (.error cause) h
  | neutral {r} (is : r.isNeutral = true) (answer) : Answers h r answer h

/-- What may happen without being asked for: processes end, or vanish. -/
structure Passes (h h' : Host) : Prop where
  table : h'.table = h.table
  files : h'.files = h.files
  forks : h'.forks = h.forks
  children : ∀ pid child', h'.children pid = some child' →
    ∃ child, h.children pid = some child ∧ child'.number = child.number ∧
      (child.ended = true → child'.ended = true)

variable {α : Type}

/-- One step of a computation of the shell, or of the operating system alone. -/
inductive Step : Interaction α × Host → Interaction α × Host → Prop where
  | once {r next answer h h'} (answers : h.Answers r answer h') :
    Step (.once r next, h) (next answer, h')
  | persist {r next answer h h'} (answers : h.Answers r answer h') :
    Step (.persist r next, h) (Interaction.resume r next answer, h')
  | passes {p h h'} (passes : h.Passes h') : Step (p, h) (p, h')

/-- What a computation of the shell may lead to, whatever the operating system does. -/
def Reaches : Interaction α × Host → Interaction α × Host → Prop :=
  Relation.ReflTransGen Step

end Host

end PipeShell
