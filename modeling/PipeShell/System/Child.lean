import PipeShell.Text.Utf8
import PipeShell.System.Errno
import PipeShell.System.Descriptor
import PipeShell.System.Signal

/-!
# New processes

A new process starts with a copy of the shell's descriptors and a plan: the list of things that
it does before a program takes its place. If something on the list fails, the rest is dropped
and the process says so and leaves.

* `ChildStep.onFailure` is what takes the place of the rest.
* `ChildStep.answered` is what is left of the list after an answer, or how the process ends: a
  stream whose installation is interrupted is installed again, and a message that nobody can read
  ends a process to which broken pipes do that.
* `Child.plan` is the plan of a stage: give broken pipes their usual effect, install the streams
  of the stage, close what belongs to the others, and start the program.
-/

namespace PipeShell

/-- The streams that a stage may have replaced. -/
inductive Stream where
  /-- Standard input. -/
  | stdin
  /-- Standard output. -/
  | stdout
  deriving DecidableEq, Repr

namespace Stream

/-- The descriptor of a stream. -/
def fd : Stream → Nat
  | stdin => 0
  | stdout => 1

/-- The name of a stream. -/
def name : Stream → String
  | stdin => "stdin"
  | stdout => "stdout"

end Stream

/-- One thing that a new process does. -/
inductive ChildStep where
  /-- Lets a write to a pipe without readers end the process again. -/
  | restorePipeSignal
  /-- Makes a stream refer to what the descriptor refers to. -/
  | install (fd : Fd) (stream : Stream)
  /-- Closes a descriptor, if it is open. -/
  | close (fd : Fd)
  /-- Starts a program in place of the plan. -/
  | exec (argv : List String)
  /-- Writes on the error stream. -/
  | complain (message : Bytes)
  /-- Leaves with a status. -/
  | exit (status : Nat)
  deriving DecidableEq, Repr

/-- What a new process still has to do. -/
abbrev Child := List ChildStep

/-- The status of a process whose program cannot be started: one number if there is no such
program, another for every other cause. -/
def Errno.execStatus : Errno → Nat
  | .enoent => 127
  | _ => 126

/-- What a process does when a thing on its list fails: it says what failed, and leaves. -/
def ChildStep.onFailure (cause : Errno) : ChildStep → Child
  | install _ stream =>
    [complain (Text.encode s!"pipesh: cannot redirect {stream.name}\n"), exit 1]
  | exec argv =>
    let program := argv.headD ""
    [complain (Text.encode s!"pipesh: cannot execute '{program}': {cause.description}\n"),
      exit cause.execStatus]
  | _ => []

/-- Whether a thing on the list is tried again while it is interrupted. -/
def ChildStep.isRetried : ChildStep → Bool
  | install _ _ => true
  | _ => false

/-- What is left of a list after the answer to its first thing, when `rest` comes behind it, or how
the process ends. Nothing depends on whether a descriptor could be closed or a message be shown; but
a message to a pipe without readers ends a process that is not spared from that. The start of a
program leaves nothing. -/
def ChildStep.answered (spared : Bool) (rest : Child) :
    ChildStep → Except Errno Unit → Except Ending Child
  | install fd stream, .error .eintr => .ok (install fd stream :: rest)
  | install fd stream, .error cause => .ok ((install fd stream).onFailure cause)
  | exec argv, .error cause => .ok ((exec argv).onFailure cause)
  | complain _, .error .epipe => if spared then .ok rest else .error (.killed Signal.pipe.number)
  | exit status, _ => .error (.exited (status % 256))
  | _, _ => .ok rest

namespace ChildStep

variable {spared : Bool} {rest : Child} {cause : Errno}

/-- A stream that is not to be had is not installed again. -/
theorem answered_install_error (fd : Fd) (stream : Stream) (h : cause ≠ .eintr) :
    (install fd stream).answered spared rest (.error cause) =
      .ok ((install fd stream).onFailure cause) := by
  rw [answered.eq_def]
  cases cause <;> first | rfl | exact absurd rfl h

/-- A message ends a process only if it goes to a pipe without readers, and the process is not
spared from that. -/
theorem answered_complain (message : Bytes) (answer : Except Errno Unit) :
    (complain message).answered spared rest answer = .ok rest ∨
      answer = .error .epipe ∧ spared = false ∧
        (complain message).answered spared rest answer =
          .error (.killed Signal.pipe.number) := by
  rw [answered.eq_def]
  cases answer with
  | ok done => exact .inl rfl
  | error cause =>
    cases cause with
    | epipe =>
      cases spared with
      | true => exact .inl rfl
      | false => exact .inr ⟨rfl, rfl, rfl⟩
    | _ => exact .inl rfl

end ChildStep

/-- The plan of a stage that reads from `stdin` and writes to `stdout`, if these are not the
shell's own streams, and must not keep `foreign` open. The three standard streams stay open. -/
def Child.plan (stdin stdout : Option Fd) (foreign : List Fd) (argv : List String) : Child :=
  [.restorePipeSignal] ++ (stdin.map fun fd => .install fd .stdin).toList ++
    (stdout.map fun fd => .install fd .stdout).toList ++
    (foreign.filter fun fd => Fd.stderr < fd).map .close ++ [.exec argv]

end PipeShell
