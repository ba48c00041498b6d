import PipeShell.Machine.Program
import PipeShell.Text.Octets

/-!
# Programs as computations

A program is a tree of acts: it asks for one thing after the other and goes on with each reply,
until it comes to a result or leaves with a status. Programs are written in the monad of these
trees. To a program a text is a string of octets.

* `Program.loop` goes round for as long as a body asks for it.
* The other definitions ask for one thing each and give the reply, or the cause of a failure.
-/

namespace PipeShell

/-- A computation of a program that comes to an `α`, or leaves. -/
inductive Program (α : Type) : Type where
  /-- The computation is over. -/
  | done (result : α)
  /-- The program leaves. -/
  | exit (status : Nat)
  /-- Ask for something and go on with the reply. -/
  | ask (act : Act) (next : Reply → Program α)

namespace Program

variable {α β σ : Type}

/-- Goes on with the result of a computation. -/
def bind : Program α → (α → Program β) → Program β
  | done a, f => f a
  | exit status, _ => exit status
  | ask act next, f => ask act fun reply => (next reply).bind f

instance : Monad Program where
  pure := done
  bind := bind

/-- How often anything is repeated at most; no run takes as long. -/
def patience : Nat := Nat.pow 2 62

/-- Goes round, with a state, until there is a result. -/
def cycle (body : σ → Program (σ ⊕ α)) : Nat → σ → Program α
  | 0, _ => exit 125
  | more + 1, state => (body state).bind fun
    | .inl state => cycle body more state
    | .inr result => done result

/-- Repeats a body, with a state, for as long as it does not come to a result. -/
def loop (state : σ) (body : σ → Program (σ ⊕ α)) : Program α :=
  cycle body patience state

/-! ### Single acts -/

/-- Asks for something and looks for one kind of reply; any other one is a failure. -/
def request (act : Act) (expect : Reply → Option α) : Program (Except Errno α) :=
  ask act fun reply =>
    match reply with
    | .failed cause => done (.error cause)
    | reply =>
      match expect reply with
      | some a => done (.ok a)
      | none => done (.error .einval)

/-- Asks for something that is merely done. -/
def perform (act : Act) : Program (Except Errno Unit) :=
  request act fun
    | .done => some ()
    | _ => none

/-- Asks for something and does not look at the reply. -/
def attempt (act : Act) : Program Unit :=
  ask act fun _ => done ()

/-- Reads from a descriptor. -/
def read (fd : Fd) (size : Nat) : Program (Except Errno Bytes) :=
  request (.read fd size) fun
    | .data bytes => some bytes
    | _ => none

/-- Writes octets to a descriptor, in as many pieces as it takes, `fuel` of them at most. -/
def writeIn (fd : Fd) : Nat → Bytes → Program (Except Errno Unit)
  | 0, _ => done (.ok ())
  | fuel + 1, bytes =>
    if bytes.isEmpty then done (.ok ())
    else ask (.write fd bytes) fun
      | .written count => writeIn fd fuel (bytes.drop count)
      | .failed .eintr => writeIn fd fuel bytes
      | .failed cause => done (.error cause)
      | _ => done (.error .einval)

/-- Writes octets to a descriptor. -/
def write (fd : Fd) (bytes : Bytes) : Program (Except Errno Unit) :=
  writeIn fd patience bytes

/-- Opens a file. -/
def openFile (path : String) (access : Access) : Program (Except Errno Fd) :=
  request (.openFile (Text.textOf path) access) fun
    | .opened fd => some fd
    | _ => none

/-- Closes a descriptor. -/
def close (fd : Fd) : Program Unit :=
  attempt (.close fd)

/-- Makes a pipe: the end for reading and the end for writing. -/
def pipe : Program (Except Errno (Fd × Fd)) :=
  request .pipe fun
    | .ends read write => some (read, write)
    | _ => none

/-- Makes a process that goes on from here too; to itself it has no number. -/
def fork : Program (Except Errno (Option Nat)) :=
  request .fork fun
    | .forked pid => some pid
    | _ => none

/-- Waits for a process. -/
def wait (pid : Option Nat) (limit : Option Nat) : Program (Except Errno (Nat × Ending)) :=
  request (.wait pid limit) fun
    | .ended pid how => some (pid, how)
    | _ => none

/-- Starts a program in place of this one; there is a result only if that fails. -/
def exec (environment argv : List String) : Program Errno :=
  ask (.exec (argv.map Text.toOctets) (environment.map Text.toOctets)) fun
    | .failed cause => done cause
    | _ => done .einval

/-- The names in a directory. -/
def names (path : String) : Program (Except Errno (List String)) :=
  request (.list (Text.textOf path)) fun
    | .names names => some (names.map Text.octetsOf)
    | _ => none

/-- What stands at a path. -/
def examine (path : String) : Program (Except Errno NodeKind) :=
  request (.examine (Text.textOf path)) fun
    | .node kind => some kind
    | _ => none

/-- What a descriptor refers to. -/
def inspect (fd : Fd) : Program (Except Errno NodeKind) :=
  request (.inspect fd) fun
    | .node kind => some kind
    | _ => none

/-- Changes the files. -/
def change (path : String) (change : Change) : Program (Except Errno Unit) :=
  perform (.change (Text.textOf path) change)

/-- The number of this process, and of the one that has made it. -/
def identity : Program (Nat × Nat) :=
  ask .identify fun
    | .identity own maker => done (own, maker)
    | _ => done (0, 0)

/-- Whether a descriptor is a terminal. -/
def isTerminal (fd : Fd) : Program Bool :=
  ask (.isTerminal fd) fun
    | .answer yes => done yes
    | _ => done false

/-- The path of the working directory. -/
def whereabouts : Program String :=
  ask .whereabouts fun
    | .path path => done (Text.octetsOf path)
    | _ => done "/"

/-- Whether what was read from a descriptor can be read again. -/
def isRereadable (fd : Fd) : Program Bool :=
  ask (.giveBack fd 0) fun
    | .done => done true
    | _ => done false

/-! ### Reading to the end -/

/-- Reads a descriptor to its end. -/
def readToEnd (fd : Fd) : Program (Except Errno Bytes) :=
  loop ([] : List Bytes) fun pieces => do
    match ← read fd 65536 with
    | .ok [] => return .inr (.ok pieces.reverse.flatten)
    | .ok piece => return .inl (piece :: pieces)
    | .error .eintr => return .inl pieces
    | .error cause => return .inr (.error cause)

/-! ### Texts -/

/-- Writes a text on the error stream. -/
def complain (text : String) : Program Unit := do
  let _ ← write Fd.stderr (Text.toOctets text)

/-- Writes a text on the error stream and leaves. -/
def giveUp (text : String) (status : Nat) : Program α := do
  complain text
  exit status

end Program

end PipeShell
