import PipeShell.Programs.Format
import PipeShell.Programs.Tool

/-!
# Programs that make text

The programs that write what their arguments say: they echo them, use them in a format, repeat
them for ever, or count from one number to another.
-/

namespace PipeShell.Programs.Tool

/-! ### Echoes and formats -/

/-- The options in front, as long as they are all known, and the rest. -/
def echoOptions : List String → List Char × List String
  | [] => ([], [])
  | argument :: rest =>
    let letters := argument.toList.drop 1
    if argument.startsWith "-" && !letters.isEmpty && letters.all ['n', 'e', 'E'].contains then
      let (more, rest) := echoOptions rest
      (letters ++ more, rest)
    else ([], argument :: rest)

/-- The escapes that are resolved where text is echoed. -/
def echoRules : EscapeRules :=
  { letters := [('e', '\x1b')], hexadecimal := true, skipsZero := true, stops := true }

/-- Echoes arguments with one space between them. -/
def echo (t : Tool) : Program Unit := do
  let (letters, rest) := echoOptions t.arguments
  let text := " ".intercalate rest
  let resolves := (letters.filter fun c => c == 'e' || c == 'E').getLast? == some 'e'
  let (text, stopped) := if resolves then unescape echoRules text else (text, false)
  t.say (text ++ if letters.contains 'n' || stopped then "" else "\n")

/-- How a format is understood. -/
def formatDialect : Format.Dialect where
  rules := { letters := [('"', '"'), ('e', '\x1b')], hexadecimal := true, stops := true,
             unicode := true }
  inner :=
    { letters := [('"', '"'), ('e', '\x1b')], hexadecimal := true, skipsZero := true, stops := true,
      unicode := true }
  quotes := true
  sizes := true
  precision := 64

/-- Tells what is wrong with an argument of a format. -/
def tellTrouble (t : Tool) (trouble : Format.Trouble) : Program Unit :=
  match trouble with
  | .noNumber argument =>
    let shown := quoted argument
    t.warn s!"{shown}: expected a numeric value"
  | .goesOn argument =>
    let shown := quoted argument
    t.warn s!"{shown}: value not completely converted"
  | .outOfRange argument =>
    let shown := quoted argument
    t.warn s!"{shown}: Numerical result out of range"
  | .badDirective text => t.warn s!"{text}: invalid conversion specification"
  | .unfinished text => t.warn s!"{text}: invalid conversion specification"
  | .badAmount what argument =>
    let shown := quoted argument
    t.warn s!"invalid {what}: {shown}"
  | .moreThanOne rest =>
    t.warn s!"warning: {rest}: character(s) following character constant have been ignored"

/-- Writes arguments by a format. -/
def printf (t : Tool) : Program Unit := do
  let arguments := match t.arguments with
    | "--" :: rest => rest
    | arguments => arguments
  match arguments with
  | [] => t.misuse "missing operand"
  | format :: rest =>
    let outcome := Format.apply formatDialect format rest
    outcome.troubles.forM t.tellTrouble
    t.say outcome.output
    match outcome.extra with
    | [] => pure ()
    | first :: _ =>
      let shown := quoted first
      t.warn s!"warning: ignoring excess arguments, starting with {shown}"
    let bad := outcome.troubles.any fun
      | .moreThanOne _ => false
      | _ => true
    .exit (if bad && !outcome.isCut then 1 else 0)

/-- Writes a line again and again. -/
def yes (t : Tool) : Program Unit := do
  let i ← t.given {}
  let line := if i.operands.isEmpty then "y" else " ".intercalate i.operands
  let line := Text.toOctets (line ++ "\n")
  let block := (List.replicate (max 1 (8192 / line.length)) line).flatten
  .loop () fun _ => do
    t.put block
    return .inl ()

/-! ### Counting -/

/-- The options of counting. -/
def seqOptions : OptionTable where
  letters := [('f', .value), ('s', .value), ('w', .nothing)]
  words := [("format", 'f', .value), ("separator", 's', .value), ("equal-width", 'w', .nothing)]
  endsEarly := true

/-- Whether an argument is a negative number and no option. -/
def isNegative (argument : String) : Bool :=
  match argument.toList with
  | '-' :: c :: _ => c.isDigit || c == '.'
  | _ => false

/-- Whether the value of an option is the next argument. -/
def awaitsValue (argument : String) : Bool :=
  let letters := (argument.toList.drop 1).dropWhile (· == 'w')
  argument.startsWith "-" && (letters = ['s'] || letters = ['f']) ||
    ["--separator", "--format"].contains argument

/-- Puts the sign that ends options in front of a first negative number. -/
def shieldNegative : List String → List String
  | [] => []
  | [argument] => if isNegative argument then ["--", argument] else [argument]
  | argument :: next :: rest =>
    if isNegative argument then "--" :: argument :: next :: rest
    else if awaitsValue argument then argument :: next :: shieldNegative rest
    else if argument.startsWith "-" && argument ≠ "--" then
      argument :: shieldNegative (next :: rest)
    else argument :: next :: rest

/-- A decimal number, as a whole number of units, with the number of decimal places that it was
given with. -/
structure Decimal where
  /-- The number of units. -/
  units : Int
  /-- How many decimal places a unit has. -/
  places : Nat
  deriving Repr

namespace Decimal

/-- A number that no counting reaches. -/
def unreached : Nat := Nat.pow 10 40

/-- The number that digits before and behind a point are, times a power of ten. It has as many
decimal places as the power leaves behind the point. -/
def ofDigits (whole places : List Char) (power : Int) : Decimal :=
  let n := Text.Fraction.digitsValue (whole ++ places)
  let left : Int := places.length - power
  if 0 ≤ left then ⟨n, left.toNat⟩ else ⟨n * Nat.pow 10 left.natAbs, 0⟩

/-- The power of ten that stands behind the digits of a number. -/
def readPower? : List Char → Option Int
  | [] => some 0
  | e :: rest =>
    let digits? (text : List Char) : Option Int :=
      ((Text.digits? (String.ofList text)).filter (· ≤ 4000)).map Int.ofNat
    if e ≠ 'e' && e ≠ 'E' then none
    else match rest with
      | '-' :: rest => (digits? rest).map (- ·)
      | '+' :: rest => digits? rest
      | rest => digits? rest

/-- Reads a number without a sign: a decimal one, a hexadecimal whole one, or infinity. -/
def readBare? (text : List Char) : Option Decimal :=
  let whole := text.takeWhile Char.isDigit
  let (places, rest) := match text.drop whole.length with
    | '.' :: rest => rest.span Char.isDigit
    | rest => ([], rest)
  let isHex (digits : List Char) : Bool :=
    !digits.isEmpty && digits.all fun c => (hexValue? c).isSome
  match text with
  | '0' :: 'x' :: digits =>
    let value : Nat := (digits.filterMap hexValue?).foldl (fun n d => 16 * n + d) 0
    if isHex digits then some ⟨value, 0⟩ else none
  | _ =>
    if ["inf", "infinity"].contains (String.ofList text).toLower then some ⟨unreached, 0⟩
    else if whole.isEmpty && places.isEmpty then none
    else (readPower? rest).map (ofDigits whole places)

/-- Reads a number. -/
def read? (text : String) : Option Decimal :=
  match text.toList.dropWhile Amount.isSpace with
  | '-' :: rest => (readBare? rest).map fun d => { d with units := -d.units }
  | '+' :: rest => readBare? rest
  | rest => readBare? rest

/-- How wide a number is as it was given, without the power of ten behind it but with the digits
that the power moves; zero if it is not decimal. -/
def givenWidth (text : String) : Int :=
  let text := text.toList.dropWhile fun c => Amount.isSpace c || c == '+'
  let root := text.takeWhile fun c => c ≠ 'e' && c ≠ 'E'
  let front := root.takeWhile (· ≠ '.')
  let hasPoint := front.length < root.length
  let fraction := root.length - front.length - 1
  let power := (readPower? (text.drop root.length)).getD 0
  let point : Int :=
    if !hasPoint then 0
    else if fraction = 0 then -1
    else if (front.getLast?.map Char.isDigit) = some true then 0
    else 1
  if text.any fun c => c == 'x' || c == 'X' || c == 'n' then 0
  else if power < 0 then
    root.length + point + (if !hasPoint || fraction = 0 then 1 else 0) - power
  else if root.length = text.length then root.length + point
  else
    let left := power - min (fraction : Int) power
    let noPoint : Int := if hasPoint && fraction ≠ 0 && (fraction : Int) ≤ power then -1 else 0
    root.length + point + noPoint + left

/-- The number of smaller units. -/
def scaled (d : Decimal) (places : Nat) : Int :=
  d.units * Nat.pow 10 (places - d.places)

/-- The number of units as a text. -/
def shown (places width : Nat) (units : Int) : String :=
  let sign := if units < 0 then "-" else ""
  let n := units.natAbs
  let digits := if places = 0 then toString n
    else
      let unit := Nat.pow 10 places
      toString (n / unit) ++ "." ++ Text.Fraction.padZeros places (n % unit)
  sign ++ String.ofList (List.replicate (width - sign.length - digits.length) '0') ++ digits

end Decimal

/-- What is wrong with a format for numbers, if anything is: it must have one directive for a number
with a fraction. -/
def formatFault (format : String) : Option String :=
  let shown := quoted format
  go shown format.length format.toList 0
where
  /-- Looks through the format behind so many directives, `fuel` characters at most. -/
  go (shown : String) : Nat → List Char → Nat → Option String
    | 0, _, count => if count = 0 then some s!"format {shown} has no % directive" else none
    | _, [], count => if count = 0 then some s!"format {shown} has no % directive" else none
    | fuel + 1, '%' :: rest, count =>
      match rest with
      | '%' :: rest => go shown fuel rest count
      | rest =>
        let behind := rest.dropWhile fun c =>
          c.isDigit || ['-', '+', '#', ' ', '\x27', '.', 'L'].contains c
        match behind with
        | [] => some s!"format {shown} ends in %"
        | c :: rest =>
          if !(['a', 'A', 'e', 'E', 'f', 'F', 'g', 'G'].contains c) then
            some s!"format {shown} has unknown %{c} directive"
          else if count ≠ 0 then some s!"format {shown} has too many % directives"
          else go shown fuel rest 1
    | fuel + 1, _ :: rest, count => go shown fuel rest count

/-- Numbers in a row, so many at most, each as a text behind the separator; with the number that
follows. -/
def numberTexts (shown : Int → String) (separator : String) (step last : Int) :
    Nat → Int → List String → List String × Int
  | 0, next, texts => (texts.reverse, next)
  | more + 1, next, texts =>
    if (0 < step ∧ last < next) ∨ (step < 0 ∧ next < last) then (texts.reverse, next)
    else
      let text := separator ++ shown next
      numberTexts shown separator step last more (next + step) (text :: texts)

/-- Counts from a number to a number. -/
def seq (t : Tool) : Program Unit := do
  let t := { t with arguments := shieldNegative t.arguments }
  let i ← t.given seqOptions
  if i.operands.isEmpty then t.misuse "missing operand"
  if let some extra := i.operands[3]? then t.extraOperand extra
  if i.has 'f' && i.has 'w' then
    t.misuse "format string may not be specified when printing equal width strings"
  if let some message := (i.value? 'f').bind formatFault then t.fail message
  i.operands.forM fun operand => do
    let shown := quoted operand
    if ["nan", "+nan", "-nan"].contains operand.toLower then
      t.misuse s!"invalid 'not-a-number' argument: {shown}"
    if (Decimal.read? operand).isNone then
      t.misuse s!"invalid floating point argument: {shown}"
  let one : Decimal := ⟨1, 0⟩
  let (first, step, last) := match i.operands.filterMap Decimal.read? with
    | [first, step, last] => (first, step, last)
    | [first, last] => (first, one, last)
    | last :: _ => (one, one, last)
    | [] => (one, one, one)
  if step.units = 0 then
    let shown := quoted (i.operands.getD 1 "")
    t.misuse s!"invalid Zero increment value: {shown}"
  let unit := max first.places (max step.places last.places)
  let places := max first.places step.places
  let extra := Nat.pow 10 (unit - places)
  let plain (width : Nat) (units : Int) : String := Decimal.shown places width (units / extra)
  let widthOf (text : String) (own : Nat) : Int :=
    Decimal.givenWidth text + (places - own : Int) +
      (if own ≠ 0 && places = 0 then -1 else if own = 0 && places ≠ 0 then 1 else 0)
  let width := if i.has 'w' then
      let start := if i.operands.length = 1 then widthOf "1" 0
        else widthOf (i.operands.headD "") first.places
      (max start (widthOf (i.operands.getLastD "") last.places)).toNat
    else 0
  let shown (units : Int) : String :=
    match i.value? 'f' with
    | some format => (Format.apply formatDialect format [Decimal.shown unit 0 units]).output
    | none => plain width units
  let separator := (i.value? 's').getD "\n"
  let step := step.scaled unit
  let last := last.scaled unit
  .loop (first.scaled unit, true) fun (next, isFirst) => do
    let (texts, following) := numberTexts shown separator step last 1024 next []
    if texts.isEmpty then
      if !isFirst then t.say "\n"
      return .inr ()
    let text := String.join texts
    t.say (if isFirst then (text.drop separator.length).toString else text)
    return .inl (following, false)

end PipeShell.Programs.Tool
