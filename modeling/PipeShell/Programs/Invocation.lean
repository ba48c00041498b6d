/-!
# Options of programs

How the arguments of a program are told apart: options of one letter, which may stand together,
options of a word, which may be shortened, their values, and operands. Options may stand behind
operands unless a program says otherwise; two hyphens end them.

`Invocation.read` reads arguments by a table of what a program knows, up to the first fault.
-/

namespace PipeShell.Programs

/-- Whether an option has a value. -/
inductive Takes where
  /-- It has none. -/
  | nothing
  /-- It must have one. -/
  | value
  /-- It may have one, right behind it. -/
  | maybe
  deriving DecidableEq, Repr

/-- The options that a program knows. -/
structure OptionTable where
  /-- The letters. -/
  letters : List (Char × Takes) := []
  /-- The words, with the letters that they stand for. -/
  words : List (String × Char × Takes) := []
  /-- Whether the first operand ends the options. -/
  endsEarly : Bool := false

/-- The arguments of a program, told apart. -/
structure Invocation where
  /-- The options in their order, by letter, with their values. -/
  options : List (Char × String) := []
  /-- The operands. -/
  operands : List String := []
  /-- What is wrong with the arguments; then the options are those in front of that place. -/
  fault : Option String := none
  deriving Repr

namespace Invocation

/-- Whether an option is there. -/
def has (i : Invocation) (letter : Char) : Bool :=
  i.options.any fun o => o.1 == letter

/-- The last value of an option. -/
def value? (i : Invocation) (letter : Char) : Option String :=
  (i.options.reverse.find? fun o => o.1 == letter).map Prod.snd

/-- All values of an option. -/
def values (i : Invocation) (letter : Char) : List String :=
  (i.options.filter fun o => o.1 == letter).map Prod.snd

/-- The last of some options that is there. -/
def lastOf? (i : Invocation) (letters : List Char) : Option Char :=
  ((i.options.map Prod.fst).filter letters.contains).getLast?

/-- Arguments with a fault. -/
def faulty (message : String) : Invocation :=
  { fault := some message }

/-- Puts an option in front of the others. -/
def withOption (i : Invocation) (letter : Char) (value : String) : Invocation :=
  { i with options := (letter, value) :: i.options }

/-- Reads letters that stand together, given the arguments behind them and a reader of those. -/
def readLetters (t : OptionTable) (others : List String → Invocation) (behind : List String) :
    List Char → Invocation
  | [] => others behind
  | c :: rest =>
    match t.letters.lookup c, behind with
    | none, _ => faulty s!"invalid option -- '{c}'"
    | some .nothing, _ => (readLetters t others behind rest).withOption c ""
    | some .maybe, _ => (others behind).withOption c (String.ofList rest)
    | some .value, [] =>
      if rest.isEmpty then faulty s!"option requires an argument -- '{c}'"
      else (others []).withOption c (String.ofList rest)
    | some .value, next :: more =>
      if rest.isEmpty then (others more).withOption c next
      else (others behind).withOption c (String.ofList rest)

/-- The option of a word that may be shortened. -/
def findWord (t : OptionTable) (word : String) : Except String (String × Char × Takes) :=
  match t.words.find? fun w => w.1 = word with
  | some found => .ok found
  | none =>
    match t.words.filter fun w => w.1.startsWith word with
    | [] => .error s!"unrecognized option '--{word}'"
    | first :: more =>
      if more.all fun w => w.2.1 = first.2.1 then .ok first
      else
        let names := String.join ((first :: more).map fun w => " '--" ++ w.1 ++ "'")
        .error s!"option '--{word}' is ambiguous; possibilities:{names}"

/-- Reads arguments, so many at most. -/
def readIn (t : OptionTable) : Nat → List String → Invocation
  | 0, _ => {}
  | _, [] => {}
  | fuel + 1, argument :: rest =>
    if argument = "--" then { operands := rest }
    else if argument.startsWith "--" then
      let text := argument.toList.drop 2
      let word := text.takeWhile (· ≠ '=')
      match findWord t (String.ofList word), text.drop word.length, rest with
      | .error e, _, _ => faulty e
      | .ok (name, _, .nothing), _ :: _, _ => faulty s!"option '--{name}' doesn't allow an argument"
      | .ok (_, letter, .value), [], value :: rest => (readIn t fuel rest).withOption letter value
      | .ok (name, _, .value), [], [] => faulty s!"option '--{name}' requires an argument"
      | .ok (_, letter, _), value, rest =>
        (readIn t fuel rest).withOption letter (String.ofList (value.drop 1))
    else if argument.startsWith "-" && argument ≠ "-" then
      readLetters t (readIn t fuel) rest (argument.toList.drop 1)
    else if t.endsEarly then { operands := argument :: rest }
    else
      let i := readIn t fuel rest
      { i with operands := argument :: i.operands }

/-- Reads arguments. -/
def read (t : OptionTable) (arguments : List String) : Invocation :=
  readIn t arguments.length arguments

end Invocation

end PipeShell.Programs
