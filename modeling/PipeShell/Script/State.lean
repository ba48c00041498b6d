import PipeShell.Programs.Program
import PipeShell.Script.Reader
import PipeShell.Text.Integer

/-!
# The state of a script

What a script knows while it runs: its parameters and variables, its functions and options, how
its last command did, and what it does about signals. A script is a computation over that state
which may be left early (`Leave`).
-/

namespace PipeShell.Script

/-- A variable. -/
structure Variable where
  /-- Its value, if it has one. -/
  value : Option String := none
  /-- Whether programs find it in their environment. -/
  exported : Bool := false
  /-- Whether it cannot be changed. -/
  readOnly : Bool := false
  deriving Repr

/-- A function. -/
structure Function where
  /-- The number of the line that it is defined on. -/
  line : Nat
  /-- What it does. -/
  body : Command

/-- Processes that have been left to themselves. -/
structure Job where
  /-- The number of the job. -/
  number : Nat
  /-- The numbers of its processes, and how they have ended if that is known. -/
  processes : List (Nat × Option Ending)
  /-- Whether it has been waited for. -/
  isWaited : Bool := false

namespace Job

/-- Whether all processes of a job are known to have ended. -/
def isDone (job : Job) : Bool :=
  job.processes.all fun p => p.2.isSome

/-- The number of its last process. -/
def lastProcess (job : Job) : Nat :=
  (job.processes.getLast?.map Prod.fst).getD 0

/-- How its last process has ended, if that is known. -/
def ending? (job : Job) : Option Ending :=
  job.processes.getLast?.bind Prod.snd

end Job

/-- The row of a table of so many rows in which a name is kept. -/
def tableRow (rows : Nat) (name : String) : Nat :=
  let first := (name.toList.head?.map Char.toNat).getD 0
  (16 * first + (name.toList.map Char.toNat).foldl (· + ·) 0) % 0x8000 % rows

/-- Names in the order of the rows of a table; those of one row stay in their order. -/
def inTableOrder {α : Type} (rows : Nat) (entries : List (String × α)) : List (String × α) :=
  entries.mergeSort fun a b => tableRow rows a.1 ≤ tableRow rows b.1

/-- How many rows the tables of variables and of aliases have. -/
def wordRows : Nat := 39

/-- What a script knows while it runs. -/
structure State where
  /-- The name of the script. -/
  zero : String := "sh"
  /-- Its arguments. -/
  arguments : List String := []
  /-- The variables, the latest one first. -/
  bindings : List (String × Variable) := []
  /-- The functions. -/
  functions : List (String × Function) := []
  /-- The documents that stand behind commands, by number. -/
  documents : Array Word := #[]
  /-- The letters of the options that are on. -/
  options : List Char := []
  /-- The status of the last command. -/
  status : Nat := 0
  /-- The status of the last command whose output was taken. -/
  takenStatus : Nat := 0
  /-- The number of the line that runs. -/
  line : Nat := 1
  /-- The number of the process that has started the script. -/
  own : Nat := 0
  /-- The number of the process that has made it. -/
  maker : Nat := 0
  /-- The number of the last process that has been left to itself. -/
  lastBackground : Option Nat := none
  /-- The jobs, the latest one first. -/
  jobs : List Job := []
  /-- What is done about signals, by number; zero is the end of the script. -/
  traps : List (Nat × String) := []
  /-- The signals that have been noticed and not been answered yet, in order. -/
  noticed : List Nat := []
  /-- The words that stand for other texts where a command begins, in the order of definition. -/
  aliases : List (String × String) := []
  /-- The programs that have been found, with their paths, in the order of finding. -/
  found : List (String × String) := []
  /-- The permissions that a new file does not get. -/
  mask : Nat := 0o022
  /-- The limits that the script has changed, by the letters of their options, the last one
  first. -/
  limits : List (Char × Option Nat) := []
  /-- The path of the working directory, as the script has come there. -/
  directory : String := "/"
  /-- The command of the script itself that runs, for messages. -/
  owner : Option String := none
  /-- How many loops are around the command that runs. -/
  loops : Nat := 0
  /-- How many functions are around it. -/
  calls : Nat := 0
  /-- The variables that the innermost function has made its own, with what they were before. -/
  locals : List (String × Option Variable) := []
  /-- The options before the innermost function has made them its own, if it has. -/
  localOptions : Option (List Char) := none
  /-- The number of the line that the innermost function is defined on. -/
  functionLine : Nat := 1
  /-- The status before the signal, or the end, that is being answered. -/
  answeredStatus : Option Nat := none
  /-- The next argument that the reader of options looks at, counted from one. -/
  optionIndex : Nat := 1
  /-- How many characters of the argument before that one have been looked at, unless all have. -/
  optionOffset : Option Nat := none

/-- Why a script is left, or a part of it. -/
inductive Leave where
  /-- The script ends. -/
  | exit
  /-- Something is wrong, and has been told. -/
  | failure
  /-- So many loops end. -/
  | broken (loops : Nat)
  /-- So many loops, less one, end, and the next one goes on. -/
  | continued (loops : Nat)
  /-- A function ends. -/
  | returned
  deriving DecidableEq, Repr

/-- A computation of a script. -/
abbrev Step := ExceptT Leave (StateT State Program)

/-- Runs a computation of a program. -/
def act {α : Type} (p : Program α) : Step α :=
  ExceptT.lift (StateT.lift p)

/-- Writes a message. -/
def warn (message : String) : Step Unit := do
  let s ← get
  let owner := match s.owner with
    | some owner => owner ++ ": "
    | none => ""
  act (.complain s!"{s.zero}: {s.line}: {owner}{message}\n")

/-- Writes a message and gives up. -/
def fail {α : Type} (message : String) (status : Nat) : Step α := do
  warn message
  modify fun s => { s with status }
  throw .failure

/-- Sets the status of the last command. -/
def setStatus (status : Nat) : Step Unit :=
  modify fun s => { s with status }

/-- Whether an option is on. -/
def hasOption (letter : Char) : Step Bool := do
  return (← get).options.contains letter

/-! ### Variables -/

namespace State

/-- A variable. -/
def known? (s : State) (name : String) : Option Variable :=
  s.bindings.lookup name

/-- The value of a variable. -/
def value? (s : State) (name : String) : Option String :=
  (s.known? name).bind Variable.value

/-- Puts a variable in place of what it was. -/
def put (s : State) (name : String) (new : Option Variable) : State :=
  { s with bindings := match new with
      | none => s.bindings.filter fun v => v.1 ≠ name
      | some new =>
        if (s.known? name).isSome then
          s.bindings.map fun v => if v.1 = name then (name, new) else v
        else (name, new) :: s.bindings }

/-- The characters that separate fields. -/
def separators (s : State) : List Char :=
  match s.known? "IFS" with
  | some ⟨some text, _, _⟩ => text.toList
  | _ => [' ', '\t', '\n']

/-- What programs find in their environment. -/
def environment (s : State) : List String :=
  (inTableOrder wordRows s.bindings.reverse).filterMap fun (name, v) =>
    if v.exported then v.value.map fun value => name ++ "=" ++ value else none

/-- The letters of the options that are on, in their fixed order. -/
def optionLetters (s : State) : String :=
  String.ofList (['u', 'b', 'a', 'C', 'E', 'V', 'v', 'x', 's', 'n', 'm', 'i', 'I', 'f', 'e'].filter
    s.options.contains)

/-- The value of a parameter. -/
def parameter? (s : State) (name : String) : Option String :=
  match name with
  | "#" => some (toString s.arguments.length)
  | "?" => some (toString s.status)
  | "$" => some (toString s.own)
  | "!" => s.lastBackground.map toString
  | "-" => some s.optionLetters
  | "LINENO" => some (toString (s.line + 1 - s.functionLine))
  | name =>
    match Text.digits? name with
    | some 0 => some s.zero
    | some n => s.arguments[n - 1]?
    | none => s.value? name

end State

/-- The whole number that a text is, as commands take it as an argument: blanks may stand around
its digits, and a plus sign in front of them. -/
def countOf? (text : String) : Option Nat :=
  let isSpace (c : Char) : Bool := c == ' ' || ('\t' ≤ c && c ≤ '\x0d')
  let digits := ((text.toList.dropWhile isSpace).reverse.dropWhile isSpace).reverse
  let digits := match digits with
    | '+' :: digits => digits
    | digits => digits
  (Text.digits? (String.ofList digits)).filter (· < Nat.pow 2 31)

/-- The whole number that a text is; anything else is a failure. -/
def wholeNumber (text : String) : Step Nat :=
  match countOf? text with
  | some n => return n
  | none => fail s!"Illegal number: {text}" 2

/-- Gives a variable a value. -/
def assign (name value : String) : Step Unit := do
  let s ← get
  let old := (s.known? name).getD {}
  if old.readOnly then fail s!"{name}: is read only" 2
  let exported := old.exported || s.options.contains 'a'
  set (s.put name (some { old with value := some value, exported }))
  if name = "PATH" then modify fun s => { s with found := [] }
  if name = "OPTIND" then
    let n ← wholeNumber value
    modify fun s => { s with optionIndex := max n 1, optionOffset := none }

/-- Gives a variable a value, if its name is one. -/
def assignNamed (name value : String) : Step Unit := do
  if !isName name then fail s!"{name}: bad variable name" 2
  assign name value

end PipeShell.Script
