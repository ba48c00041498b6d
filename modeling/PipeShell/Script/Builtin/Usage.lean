import PipeShell.Script.Job

/-!
# Arguments of the commands of a script

What the commands of the script itself have in common: how they find the options among their
arguments, and how they write.

* `options` takes the options from the front of the arguments.
* `say` writes a text on the output.
-/

namespace PipeShell.Script

/-- Writes a text, and comes to status zero. -/
def say (text : String) : Step Nat := do
  match ← act (.write Fd.stdout (Text.toOctets text)) with
  | .ok () => return 0
  | .error _ =>
    let owner := (← get).owner.getD "sh"
    warn s!"{owner}: I/O error"
    return 1

/-- A text between single quotes, as a script takes it; runs of single quotes stand between double
ones. -/
def singleQuoted (text : String) : String :=
  let quote := '\x27'
  let (runs, last) := text.toList.foldr (fun c (runs, run) =>
    match run.head? with
    | some d => if (c == quote) = (d == quote) then (runs, c :: run) else (run :: runs, [c])
    | none => (runs, [c])) (([], []) : List (List Char) × List Char)
  let shown (run : List Char) : List Char :=
    if run.head? = some quote then '"' :: run ++ ['"'] else quote :: run ++ [quote]
  let front := if last.head? = some quote || last.isEmpty then [quote, quote] else []
  String.ofList (front ++ ((last :: runs).filter fun run => !run.isEmpty).flatMap shown)

/-! ### Options -/

/-- The options of a command: the letters, and the letters with a value. -/
structure Letters where
  /-- The letters that stand alone. -/
  plain : List Char := []
  /-- The letters that have a value. -/
  valued : List Char := []

/-- What is found in front of the arguments. -/
structure Given where
  /-- The options in their order; one without a value has an empty one. -/
  options : List (Char × String) := []
  /-- The arguments behind them. -/
  operands : List String

/-- Whether an option is given. -/
def Given.has (g : Given) (letter : Char) : Bool :=
  g.options.any fun o => o.1 == letter

/-- The value of an option, the last one if there are several. -/
def Given.value? (g : Given) (letter : Char) : Option String :=
  (g.options.reverse.find? fun o => o.1 == letter).map Prod.snd

/-- The options that the letters of one argument are, with the last of them if its value must be
the next argument. -/
def lettersOf (letters : Letters) : List Char → Step (List (Char × String) × Option Char)
  | [] => return ([], none)
  | c :: rest => do
    if letters.plain.contains c then
      let (options, open?) ← lettersOf letters rest
      return ((c, "") :: options, open?)
    else if letters.valued.contains c then
      if rest.isEmpty then return ([], some c)
      else return ([(c, String.ofList rest)], none)
    else fail s!"Illegal option -{c}" 2

/-- Takes the options from the front of the arguments. -/
def options (letters : Letters) : List String → Step Given
  | [] => return { operands := [] }
  | argument :: rest => do
    if argument = "--" then return { operands := rest }
    else if argument.startsWith "-" && argument ≠ "-" then
      match ← lettersOf letters (argument.toList.drop 1), rest with
      | (options', none), rest =>
        let given ← options letters rest
        return { given with options := options' ++ given.options }
      | (options', some c), value :: rest =>
        let given ← options letters rest
        return { given with options := options' ++ (c, value) :: given.options }
      | (_, some c), [] => fail s!"No arg for -{c} option" 2
    else return { operands := argument :: rest }

/-- The arguments of a command without options. -/
def operands (arguments : List String) : Step (List String) := do
  return (← options {} arguments).operands

end PipeShell.Script
