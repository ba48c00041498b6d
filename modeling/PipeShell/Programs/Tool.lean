import PipeShell.Programs.Amount
import PipeShell.Programs.Complaint
import PipeShell.Programs.Invocation
import PipeShell.Programs.Program

/-!
# Tools

What the small programs have in common: how they were called, how they complain about arguments,
inputs and their output, and how they go through the inputs that their operands name.

* `Tool.given` tells arguments apart or leaves with a message.
* `Tool.throughInputs` goes through inputs, `Tool.throughBlocks` through one input block by block,
  `Tool.filter` turns inputs into output.
-/

namespace PipeShell.Programs

/-- A program and how it was called. -/
structure Tool where
  /-- Its name. -/
  name : String
  /-- The name that it was called by. -/
  zero : String
  /-- Its arguments. -/
  arguments : List String
  /-- Its environment. -/
  environment : List String

namespace Tool

variable {α σ : Type}

/-! ### Messages -/

/-- Writes a message. -/
def warn (t : Tool) (message : String) : Program Unit :=
  let zero := t.zero
  .complain s!"{zero}: {message}\n"

/-- Writes a message and leaves. -/
def fail (t : Tool) (message : String) : Program α := do
  t.warn message
  .exit (Complaint.status t.name)

/-- Writes how to learn more, and leaves. -/
def leaveToHelp (t : Tool) : Program α :=
  let zero := t.zero
  .giveUp s!"Try '{zero} --help' for more information.\n" (Complaint.status t.name)

/-- Writes a message about the use of the program and leaves. -/
def misuse (t : Tool) (message : String) : Program α := do
  t.warn message
  t.leaveToHelp

/-- Tells the arguments apart and looks at each option in its turn, or leaves. -/
def givenWith (t : Tool) (table : OptionTable) (check : Char → String → Program Unit) :
    Program Invocation := do
  let i := Invocation.read table t.arguments
  i.options.forM fun (letter, value) => check letter value
  match i.fault with
  | some message => t.misuse message
  | none => return i

/-- Tells the arguments apart, or leaves. -/
def given (t : Tool) (table : OptionTable) : Program Invocation :=
  t.givenWith table fun _ _ => .done ()

/-- Leaves because there is an operand too many. -/
def extraOperand (t : Tool) (operand : String) : Program α :=
  let shown := quoted operand
  t.misuse s!"extra operand {shown}"

/-- The choice that the value of an option names, perhaps shortened; or leaves. -/
def choice (t : Tool) (option : String) (choices : List (String × α)) (text : String) :
    Program α := do
  match choices.find? fun c => c.1 = text with
  | some (_, found) => return found
  | none =>
    let shown := quoted text
    match choices.filter fun c => c.1.startsWith text with
    | [(_, found)] => return found
    | several =>
      let problem := if several.isEmpty then "invalid" else "ambiguous"
      t.warn s!"{problem} argument {shown} for '{option}'"
      .complain ("Valid arguments are:\n" ++
        String.join (choices.map fun c => "  - '" ++ c.1 ++ "'\n"))
      t.leaveToHelp

/-! ### Output -/

/-- Writes octets; a program that cannot write leaves. -/
def put (t : Tool) (bytes : Bytes) : Program Unit := do
  if !bytes.isEmpty then
    match ← Program.write Fd.stdout bytes with
    | .ok () => return
    | .error cause => t.fail (Complaint.writeFailure t.name cause)

/-- Writes a text. -/
def say (t : Tool) (text : String) : Program Unit :=
  t.put (Text.toOctets text)

/-! ### Input -/

/-- Goes through what a descriptor holds, block by block, until a step has seen enough. -/
def throughBlocks (fd : Fd) (size : Nat) (state : σ) (step : σ → Bytes → Program (σ × Bool)) :
    Program (Except Errno σ) :=
  .loop state fun state => do
    match ← .read fd size with
    | .ok [] => return .inr (.ok state)
    | .ok block =>
      let (state, goesOn) ← step state block
      return if goesOn then .inl state else .inr (.ok state)
    | .error .eintr => return .inl state
    | .error cause => return .inr (.error cause)

/-- How much is read at once. -/
def blockSize : Nat := 65536

/-- The name of an input in messages. -/
def inputName (t : Tool) (operand : String) : String :=
  if operand = "-" then Complaint.inputName t.name else operand

/-- Opens an input; a hyphen is the standard input. If that fails the program says so. -/
def openInput (t : Tool) (operand : String) : Program (Option Fd) := do
  if operand = "-" then return some Fd.stdin
  match ← .openFile operand .read with
  | .ok fd => return some fd
  | .error cause =>
    t.warn (Complaint.openFailure t.name operand cause)
    return none

/-- Closes an input. -/
def closeInput (operand : String) (fd : Fd) : Program Unit :=
  if operand = "-" then .done () else .close fd

/-- Goes through inputs one after the other, with a state. One that cannot be opened or read is
told; the number says whether that has happened. -/
def throughInputs (t : Tool) (body : String → Fd → σ → Program (σ × Option Errno)) :
    List String → σ → Nat → Program (σ × Nat)
  | [], state, status => return (state, status)
  | operand :: rest, state, status => do
    match ← t.openInput operand with
    | none => throughInputs t body rest state (Complaint.status t.name)
    | some fd =>
      match ← body operand fd state with
      | (state, none) =>
        closeInput operand fd
        throughInputs t body rest state status
      | (state, some cause) =>
        t.warn (Complaint.readFailure t.name (t.inputName operand) cause)
        closeInput operand fd
        throughInputs t body rest state (Complaint.status t.name)

/-- The operands, or a hyphen if there are none. -/
def orStandard (operands : List String) : List String :=
  if operands.isEmpty then ["-"] else operands

/-- Reads a whole input, or leaves. -/
def readAll (t : Tool) (operand : String) : Program Bytes := do
  match ← t.openInput operand with
  | none => .exit (Complaint.status t.name)
  | some fd =>
    match ← .readToEnd fd with
    | .ok bytes =>
      closeInput operand fd
      return bytes
    | .error cause => t.fail (Complaint.readFailure t.name (t.inputName operand) cause)

/-- Does something with the whole of each input and leaves. -/
def eachWhole (t : Tool) (operands : List String) (body : String → Bytes → Program Unit) :
    Program Unit := do
  let (_, status) ← t.throughInputs (fun operand fd _ => do
    match ← .readToEnd fd with
    | .error cause => return ((), some cause)
    | .ok bytes =>
      body operand bytes
      return ((), none)) (orStandard operands) () 0
  .exit status

/-- A way to turn input into output, with a state. -/
structure Filter (σ : Type) where
  /-- Takes a block: the state behind it, and the output. -/
  feed : σ → Bytes → σ × Bytes
  /-- Ends one of several inputs: the state behind it, and the output. -/
  pause : σ → σ × Bytes := fun state => (state, [])
  /-- The rest of the output. -/
  finish : σ → Bytes := fun _ => []

/-- Turns the inputs that operands name into output and leaves. -/
def filter (t : Tool) (f : Filter σ) (operands : List String) (state : σ) : Program Unit := do
  let (state, status) ← t.throughInputs (fun _ fd state => do
    let result ← throughBlocks fd blockSize state fun state block => do
      let (state, output) := f.feed state block
      t.put output
      return (state, true)
    match result with
    | .error cause => return (state, some cause)
    | .ok state =>
      let (state, output) := f.pause state
      t.put output
      return (state, none)) (orStandard operands) state 0
  t.put (f.finish state)
  .exit status

/-! ### Lines -/

/-- The lines of a text, each without its end. -/
def linesOf (mark : UInt8) (text : Bytes) : List Bytes :=
  let (lines, line) := text.foldl (fun (lines, line) b =>
    if b = mark then (line.reverse :: lines, []) else (lines, b :: line))
    (([], []) : List Bytes × Bytes)
  (if line.isEmpty then lines else line.reverse :: lines).reverse

/-- Lines as a text. -/
def joinLines (mark : UInt8) (lines : List Bytes) : Bytes :=
  lines.flatMap fun line => line ++ [mark]

/-- The octet that ends lines: a line feed, or zero if a program is asked for that. -/
def lineMark (i : Invocation) : UInt8 :=
  if i.has 'z' then 0 else 10

/-- A filter that takes line by line; `each` is given a line and whether it has an end. A line may
go on in the next input. -/
def lineFilter (mark : UInt8) (each : σ → Bytes → Bool → σ × Bytes) (finish : σ → Bytes) :
    Filter (σ × Bytes) where
  feed := fun (state, begun) block =>
    let (state, begun, output) := block.foldl (fun (state, begun, output) b =>
      if b = mark then
        let (state, text) := each state begun.reverse true
        (state, [], text :: output)
      else (state, b :: begun, output)) ((state, begun, []) : σ × Bytes × List Bytes)
    ((state, begun), output.reverse.flatten)
  finish := fun (state, begun) =>
    if begun.isEmpty then finish state
    else
      let (state, text) := each state begun.reverse false
      text ++ finish state

/-- Filters the inputs that operands name line by line, and leaves. A line ends with its input. -/
def filterLines (t : Tool) (mark : UInt8) (operands : List String) (state : σ)
    (each : σ → Bytes → Bool → σ × Bytes) : Program Unit :=
  let pause : σ × Bytes → (σ × Bytes) × Bytes
    | (state, []) => ((state, []), [])
    | (state, begun) =>
      let (state, text) := each state begun.reverse false
      ((state, []), text)
  t.filter { lineFilter mark each (fun _ => []) with pause } operands (state, [])

/-! ### Numbers in arguments -/

/-- Leaves because an argument is not a number, for a cause if there is one to tell. -/
def badNumber (t : Tool) (complaint text : String) (cause : Option String) : Program α :=
  let shown := quoted text
  t.fail (match cause with
    | some cause => s!"{complaint}: {shown}: {cause}"
    | none => s!"{complaint}: {shown}")

/-- The number that an argument is, which may end with one of some units, or leaves. -/
def amount (t : Tool) (units : List Char) (complaint text : String) : Program Nat :=
  match Amount.read units text with
  | .ok n => .done n
  | .error fault => t.badNumber complaint text fault.cause?

/-- The number that an argument is, with a sign perhaps and no unit, or leaves; it has to lie
between two bounds. -/
def amountBetween (t : Tool) (least : Int) (most : Nat) (complaint text : String) : Program Int :=
  match Amount.readSigned text with
  | .error fault => t.badNumber complaint text fault.cause?
  | .ok n =>
    if least ≤ n && n ≤ most then .done n
    else
      let isLarge := Nat.pow 2 30 ≤ n
      t.badNumber complaint text
        (if isLarge then Amount.Fault.tooLarge.cause? else some "Numerical result out of range")

end Tool

end PipeShell.Programs
