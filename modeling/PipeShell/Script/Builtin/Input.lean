import PipeShell.Script.Builtin.Variables

/-!
# Commands that read

The commands of a script that read a line from the input into variables, and options out of
arguments.
-/

namespace PipeShell.Script

/-! ### Lines -/

/-- A character of a line that is read, and whether a backslash stands before it. -/
abbrev ReadChar := Char × Bool

/-- Reads a line from the input, octet by octet: its characters, and whether the line is complete.
The second part of the state says whether a backslash has been read last. -/
def readInputLine (plain : Bool) : Program (List ReadChar × Bool) :=
  Program.loop (([], false) : List ReadChar × Bool) fun (chars, escaped) => do
    match ← Program.read Fd.stdin 1 with
    | .ok (b :: _) =>
      let c := Text.charOfOctet b
      if escaped then return .inl (if c == '\n' then chars else (c, true) :: chars, false)
      else if c == '\\' && !plain then return .inl (chars, true)
      else if c == '\n' then return .inr (chars.reverse, true)
      else if c == '\x00' then return .inl (chars, false)
      else return .inl ((c, false) :: chars, false)
    | _ => return .inr (chars.reverse, false)

/-- Whether a character separates, and whether it is a blank. -/
def separates (separators : List Char) (c : ReadChar) : Bool × Bool :=
  let yes := !c.2 && separators.contains c.1
  (yes, yes && (c.1 == ' ' || c.1 == '\t' || c.1 == '\n'))

/-- Drops blanks among the separators. -/
def dropBlanks (separators : List Char) (text : List ReadChar) : List ReadChar :=
  text.dropWhile fun c => (separates separators c).2

/-- The first field of a line, and what follows the separators behind it. -/
def takeField (separators : List Char) (text : List ReadChar) : List ReadChar × List ReadChar :=
  let field := text.takeWhile fun c => !(separates separators c).1
  let rest := dropBlanks separators (text.drop field.length)
  match rest with
  | c :: more =>
    if (separates separators c).1 then (field, dropBlanks separators more) else (field, rest)
  | [] => (field, [])

/-- Where the last field of a line ends, as far as its characters have been looked at. -/
structure FieldEnd where
  /-- How many characters have been looked at. -/
  index : Nat := 0
  /-- Where the characters begin that do not belong to it, if they do not. -/
  cut : Option Nat := none
  /-- Whether there has been a separator. -/
  isSeparated : Bool := false
  /-- Whether that was a blank, to which one separator of another kind belongs. -/
  isOpen : Bool := false

/-- Looks at one more character. A character behind a backslash does not count. -/
def FieldEnd.look (separators : List Char) (f : FieldEnd) (c : ReadChar) : FieldEnd :=
  let (isSeparator, isBlank) := separates separators c
  let next := { f with index := f.index + 1 }
  if c.2 then { next with isOpen := false }
  else if f.isSeparated then
    if isBlank then { next with cut := f.cut.or (some f.index) }
    else { next with cut := if isSeparator && f.isOpen then f.cut else none, isOpen := false }
  else if isSeparator then
    { next with cut := some f.index, isSeparated := true, isOpen := isBlank }
  else { next with isOpen := false }

/-- The last field of a line: all of it, without the blanks at its end, and without a separator
that ends a single field. -/
def lastField (separators : List Char) (text : List ReadChar) : List ReadChar :=
  match (text.foldl (FieldEnd.look separators) {}).cut with
  | some n => text.take n
  | none => text

/-- Gives variables the fields of a line. -/
def assignFields (separators : List Char) : List String → List ReadChar → Step Unit
  | [], _ => return
  | [name], text => assignNamed name (String.ofList ((lastField separators text).map Prod.fst))
  | name :: rest, text => do
    let (field, text) := takeField separators text
    assignNamed name (String.ofList (field.map Prod.fst))
    assignFields separators rest text

/-- Reads a line into variables. -/
def readLineInto (arguments : List String) : Step Nat := do
  let given ← options { plain := ['r'], valued := ['p'] } arguments
  if let some shown := given.value? 'p' then
    if ← act (.isTerminal Fd.stdin) then act (.complain shown)
  if given.operands.isEmpty then fail "arg count" 2
  let (chars, complete) ← act (readInputLine (given.has 'r'))
  let separators := (← get).separators
  assignFields separators given.operands (dropBlanks separators chars)
  return if complete then 0 else 1

/-! ### Options -/

/-- What the reader of options finds. -/
structure FoundOption where
  /-- The letter, or a mark that something is wrong. -/
  letter : Char
  /-- Whether there are no more options. -/
  isOver : Bool := false
  /-- How many arguments have been looked at. -/
  index : Nat
  /-- How much of the last of them, unless all of it. -/
  offset : Option Nat := none

/-- Finds the next option among arguments; `index` and `offset` say where the last one has ended,
`known` lists the letters, each with a colon behind it if it has a value, and with a colon in front
of them if messages are not wanted. -/
def findOption (known : String) (arguments : List String) (index : Nat) (offset : Option Nat) :
    Step FoundOption := do
  let current : List Char := match index, offset with
    | 0, _ => []
    | _, none => []
    | n + 1, some offset => ((arguments[n]?).getD "").toList.drop offset
  let entered : Option (List Char × Nat) :=
    if !current.isEmpty then some (current, index)
    else match (arguments[index]?).map String.toList with
      | some ('-' :: c :: rest) =>
        if c == '-' && rest.isEmpty then none else some (c :: rest, index + 1)
      | _ => none
  match entered with
  | none =>
    let passesEnd := current.isEmpty && arguments[index]? = some "--"
    return { letter := '?', isOver := true, index := if passesEnd then index + 1 else index }
  | some ([], index) => return { letter := '?', isOver := true, index }
  | some (c :: rest, index) =>
    let isQuiet := known.startsWith ":"
    let letters := known.toList.drop (if isQuiet then 1 else 0)
    let length := ((arguments[index - 1]?).getD "").length
    let next : Option Nat := some (length - rest.length)
    let isKnown := letters.contains c && c ≠ ':'
    let hasValue := ((letters.dropWhile (· ≠ c)).drop 1).head? = some ':'
    if !isKnown then
      if isQuiet then assign "OPTARG" (String.ofList [c])
      else
        act (.complain s!"Illegal option -{c}\n")
        modify fun s => s.put "OPTARG" none
      return { letter := '?', index, offset := next }
    else if !hasValue then
      assign "OPTARG" ""
      return { letter := c, index, offset := next }
    else if !rest.isEmpty then
      assign "OPTARG" (String.ofList rest)
      return { letter := c, index }
    else match arguments[index]? with
      | some value =>
        assign "OPTARG" value
        return { letter := c, index := index + 1 }
      | none =>
        if isQuiet then
          assign "OPTARG" (String.ofList [c])
          return { letter := ':', index }
        else
          act (.complain s!"No arg for -{c} option\n")
          modify fun s => s.put "OPTARG" none
          return { letter := '?', index }

/-- Reads the next option out of arguments. -/
def getOptions (arguments : List String) : Step Nat := do
  match ← operands arguments with
  | known :: name :: rest =>
    let s ← get
    let texts := if rest.isEmpty then s.arguments else rest
    let isFresh := texts.length + 1 < s.optionIndex
    let found ← findOption known texts (if isFresh then 0 else s.optionIndex - 1)
      (if isFresh then none else s.optionOffset)
    assign "OPTIND" (toString (found.index + 1))
    assignNamed name (String.ofList [found.letter])
    modify fun s => { s with optionIndex := found.index + 1, optionOffset := found.offset }
    return if found.isOver then 1 else 0
  | _ => fail "Usage: getopts optstring var [arg...]" 2

end PipeShell.Script
