import PipeShell.Programs.Escape
import PipeShell.Programs.Quoting
import PipeShell.Text.FloatingPoint

/-!
# Formats

Formats with directives that take arguments: how an argument becomes a number, how a number is
written, and how a format is used again and again as long as it takes arguments and some are left.

`Format.apply` gives the output and everything that was wrong with the arguments.
-/

namespace PipeShell.Programs.Format

/-- What is wrong with an argument or a format. -/
inductive Trouble where
  /-- An argument is no number. -/
  | noNumber (argument : String)
  /-- An argument goes on behind a number. -/
  | goesOn (argument : String)
  /-- A number is too large. -/
  | outOfRange (argument : String)
  /-- A character that stands for its number is not alone; the rest is not looked at. -/
  | moreThanOne (rest : String)
  /-- A directive that is none. -/
  | badDirective (text : String)
  /-- A directive whose letter is missing. -/
  | unfinished (text : String)
  /-- A width or a precision, as the first text says, that is too large. -/
  | badAmount (what argument : String)
  deriving DecidableEq, Repr

/-- How a program understands a format. -/
structure Dialect where
  /-- The escapes in the format itself. -/
  rules : EscapeRules
  /-- The escapes in an argument that is to have some. -/
  inner : EscapeRules
  /-- Whether an argument can be shown in the form that a script takes; that directive, and the one
  for escapes, takes no width then. -/
  quotes : Bool
  /-- Whether the size of a number may stand in front of the letter of a directive. -/
  sizes : Bool
  /-- How many bits the mantissa of a number with a fraction has. -/
  precision : Nat
  /-- Whether a quote that no character follows stands for zero. -/
  lone : Bool := false

/-- A directive. -/
structure Directive where
  /-- Its flags. -/
  flags : List Char := []
  /-- The least width. -/
  width : Option Int := none
  /-- The precision. -/
  precision : Option Int := none
  deriving Repr

/-- Whether a directive consists of its letter alone. -/
def Directive.isBare (d : Directive) : Bool :=
  d.flags.isEmpty && d.width.isNone && d.precision.isNone

/-- What is known while a format is used. -/
structure State where
  /-- The output, last character first. -/
  output : List Char := []
  /-- The arguments that are left. -/
  arguments : List String
  /-- Whether a directive has asked for an argument. -/
  asked : Bool := false
  /-- Whether the output has ended. -/
  stopped : Bool := false
  /-- Whether an escape has ended it. -/
  isCut : Bool := false
  /-- What was wrong, last first. -/
  troubles : List Trouble := []

namespace State

/-- Takes the next argument. -/
def next (s : State) : Option String × State :=
  match s.arguments with
  | [] => (none, { s with asked := true })
  | a :: rest => (some a, { s with arguments := rest, asked := true })

/-- Adds to the output. -/
def put (s : State) (text : List Char) : State :=
  { s with output := text.reverse ++ s.output }

/-- Notes that something was wrong. -/
def note (s : State) (troubles : List Trouble) : State :=
  { s with troubles := troubles.reverse ++ s.troubles }

end State

/-! ### Arguments as numbers -/

/-- Whether a character is a blank in front of a number. -/
def isBlank (c : Char) : Bool :=
  c == ' ' || ('\t' ≤ c && c ≤ '\r')

/-- Reads a whole number at the front of a text: its value, and what follows it. None if there is
no number. -/
def readInteger? (text : List Char) : Option (Int × List Char) :=
  let text := text.dropWhile isBlank
  let (negative, text) := match text with
    | '-' :: rest => (true, rest)
    | '+' :: rest => (false, rest)
    | rest => (false, rest)
  let digits (digit? : Char → Option Nat) (base : Nat) (text : List Char) :
      Option (Int × List Char) :=
    if (text.head?.bind digit?).isSome then
      let (n, rest) := readDigits digit? base text.length 0 text
      some (if negative then -(n : Int) else n, rest)
    else none
  let decimal? (c : Char) : Option Nat := if c.isDigit then some (c.toNat - 48) else none
  match text with
  | '0' :: x :: rest =>
    if x == 'x' || x == 'X' then
      (digits hexValue? 16 rest).or (some (0, x :: rest))
    else digits octalValue? 8 text
  | _ => digits decimal? 10 text

/-- The number of the character that an argument names behind a quote; zero if there is none and
`lone` allows that. -/
def readCharacter? (lone : Bool) (argument : String) : Option (Nat × List Trouble) :=
  match argument.toList with
  | q :: rest =>
    if q == '\x27' || q == '"' then
      match rest with
      | [] => if lone then some (0, []) else none
      | c :: more =>
        some (c.toNat, if more.isEmpty then [] else [.moreThanOne (String.ofList more)])
    else none
  | [] => none

/-- The trouble with what follows a number. -/
def troubleWith (argument : String) : Option (List Char) → List Trouble
  | none => if argument.isEmpty then [] else [.noNumber argument]
  | some [] => []
  | some _ => [.goesOn argument]

/-- The whole number that an argument is, and the trouble with it. -/
def integer (lone signed : Bool) (argument : String) : Int × List Trouble :=
  match readCharacter? lone argument with
  | some (n, troubles) => (n, troubles)
  | none =>
    match readInteger? argument.toList with
    | none => (0, troubleWith argument none)
    | some (n, rest) =>
      let low : Int := if signed then -(Nat.pow 2 63) else -(Nat.pow 2 64) + 1
      let high : Int := if signed then Nat.pow 2 63 - 1 else Nat.pow 2 64 - 1
      let bounded :=
        if n < low then (if signed then low else high) else if high < n then high else n
      let value := if signed then bounded else bounded % Nat.pow 2 64
      (value, if bounded = n then troubleWith argument (some rest) else [.outOfRange argument])

/-- The number with a fraction that an argument is, and the trouble with it. -/
def fraction (lone : Bool) (precision : Nat) (argument : String) : Text.Fraction × List Trouble :=
  match readCharacter? lone argument with
  | some (n, troubles) => ({ numerator := n }, troubles)
  | none =>
    let isHex := match argument.toList.dropWhile fun c => isBlank c || c == '-' || c == '+' with
      | '0' :: x :: _ => x == 'x' || x == 'X'
      | _ => false
    if isHex then
      let (n, troubles) := integer lone true argument
      ({ negative := n < 0, numerator := n.natAbs }, troubles)
    else match Text.Fraction.read? argument.toList with
      | none => ({ numerator := 0 }, troubleWith argument none)
      | some (x, rest) => (x.nearest precision, troubleWith argument (some rest))

/-! ### Numbers as text -/

/-- Whether a flag is set. -/
def Directive.has (d : Directive) (flag : Char) : Bool :=
  d.flags.contains flag

/-- Adds padding between a sign and digits, or around both. -/
def Directive.pad (d : Directive) (zeros : Bool) (sign digits : String) : List Char :=
  let width := (d.width.getD 0).natAbs
  let left := d.has '-' || d.width.any (· < 0)
  let missing := width - (sign.length + digits.length)
  if left then sign.toList ++ digits.toList ++ List.replicate missing ' '
  else if zeros && d.has '0' then sign.toList ++ List.replicate missing '0' ++ digits.toList
  else List.replicate missing ' ' ++ sign.toList ++ digits.toList

/-- The sign of a number. -/
def Directive.sign (d : Directive) (negative : Bool) : String :=
  if negative then "-" else if d.has '+' then "+" else if d.has ' ' then " " else ""

/-- The precision, if one is given that is no negative number. -/
def Directive.places (d : Directive) : Option Nat :=
  match d.precision with
  | some n => if n < 0 then none else some n.toNat
  | none => none

/-- A whole number in a base. -/
def Directive.integer (d : Directive) (base : Nat) (upper signed : Bool) (n : Int) : List Char :=
  let digits := String.ofList (Nat.toDigits base n.natAbs)
  let digits := if upper then digits.map Char.toUpper else digits
  let digits := match d.places with
    | some 0 => if n = 0 then "" else digits
    | some places => String.ofList (List.replicate (places - digits.length) '0') ++ digits
    | none => digits
  let digits := if d.has '#' && base = 8 && !digits.startsWith "0" then "0" ++ digits else digits
  let mark := if d.has '#' && base = 16 && n ≠ 0 then (if upper then "0X" else "0x") else ""
  let sign := if signed then d.sign (n < 0) else ""
  d.pad d.places.isNone (sign ++ mark) digits

/-- A number with a fraction in a notation; `bits` is the size of its mantissa. -/
def Directive.fraction (d : Directive) (bits : Nat) (letter : Char) (x : Text.Fraction) :
    List Char :=
  let places := d.places.getD 6
  let isHex := letter.toLower == 'a'
  let text := match letter.toLower with
    | 'a' => x.hexadecimal bits d.places (d.has '#')
    | 'e' => x.scientific places (d.has '#')
    | 'g' => x.general places (d.has '#')
    | _ => x.fixed places (d.has '#')
  let capital (text : String) : String := if letter.isUpper then text.map Char.toUpper else text
  d.pad true (d.sign x.negative ++ if isHex then capital "0x" else "") (capital text)

/-! ### Directives -/

/-- The flags. -/
def flagLetters : List Char := ['-', '+', ' ', '#', '0', '\x27']

/-- The largest width and precision. -/
def maxAmount : Int := Nat.pow 2 31 - 1

/-- Reads a width or a precision, which `what` names: digits, or a star that takes an argument. One
that is too large is refused, or only the last 32 of its bits count. -/
def readAmount (dialect : Dialect) (what : String) (text : List Char) (s : State) :
    Option Int × List Char × State :=
  match text with
  | '*' :: rest =>
    let (argument, s) := s.next
    let (n, troubles) := integer false true (argument.getD "0")
    let s := s.note troubles
    if !dialect.sizes then (some (Int.bmod n (Nat.pow 2 32)), rest, s)
    else if maxAmount < n then
      (some 0, rest, { s.note [.badAmount what (argument.getD "")] with stopped := true })
    else (some n, rest, s)
  | text =>
    let digits := text.takeWhile Char.isDigit
    let n : Int := Text.Fraction.digitsValue digits
    if digits.isEmpty then (none, text, s)
    else (some (if maxAmount < n then 0 else n), text.drop digits.length, s)

/-- Reads what stands between the sign of a directive and its letter. -/
def readDirective (dialect : Dialect) (text : List Char) (s : State) :
    Directive × List Char × State :=
  let flags := text.takeWhile flagLetters.contains
  let (width, rest, s) := readAmount dialect "field width" (text.drop flags.length) s
  let (precision, rest, s) := match rest with
    | '.' :: rest =>
      let (n, rest, s) := readAmount dialect "precision" rest s
      (some (n.getD 0), rest, s)
    | rest => (none, rest, s)
  let sizes := ['h', 'l', 'L', 'j', 'z', 't']
  let rest := if dialect.sizes then rest.dropWhile sizes.contains else rest
  (⟨flags, width, precision⟩, rest, s)

/-- Puts an argument into the output as a directive with a letter says; none if there is no such
directive. -/
def convert? (dialect : Dialect) (d : Directive) (letter : Char) (s : State) : Option State :=
  let (argument, s') := s.next
  let text := argument.getD ""
  let shown (text : String) : List Char :=
    d.pad false "" (match d.places with
      | some n => (text.take n).toString
      | none => text)
  let whole (base : Nat) (upper signed : Bool) : State :=
    let (n, troubles) := integer dialect.lone signed (argument.getD "")
    (s'.put (d.integer base upper signed n)).note troubles
  match letter with
  | 's' => some (s'.put (shown text))
  | 'c' => some (s'.put (d.pad false "" (if text.isEmpty then "\x00" else (text.take 1).toString)))
  | 'b' =>
    let (text, stopped) := unescape dialect.inner text
    if dialect.quotes && !d.isBare then none
    else some { s'.put (shown text) with stopped, isCut := stopped }
  | 'd' => some (whole 10 false true)
  | 'i' => some (whole 10 false true)
  | 'u' => some (whole 10 false false)
  | 'o' => some (whole 8 false false)
  | 'x' => some (whole 16 false false)
  | 'X' => some (whole 16 true false)
  | letter =>
    if ['a', 'A', 'f', 'F', 'e', 'E', 'g', 'G'].contains letter then
      let (x, troubles) := fraction dialect.lone dialect.precision text
      some ((s'.put (d.fraction dialect.precision letter x)).note troubles)
    else if letter == 'q' && dialect.quotes && d.isBare then
      some (s'.put ((argument.map shellShown).getD "").toList)
    else none

/-- Uses the format once, `fuel` characters at most. -/
def once (dialect : Dialect) : Nat → List Char → State → State
  | 0, _, s => s
  | _, [], s => s
  | fuel + 1, c :: rest, s =>
    if s.stopped then s
    else if c == '\\' then
      match readEscape dialect.rules rest with
      | .char d rest => once dialect fuel rest (s.put [d])
      | .text d rest => once dialect fuel rest (s.put d)
      | .stop => { s with stopped := true, isCut := true }
      | .plain => once dialect fuel rest (s.put [c])
    else if c == '%' then
      match rest with
      | '%' :: rest => once dialect fuel rest (s.put [c])
      | rest =>
        let (d, behind, s) := readDirective dialect rest s
        let bad (behind : List Char) (trouble : String → Trouble) : State :=
          let text := String.ofList (c :: rest.take (rest.length - behind.length))
          { s.note [trouble text] with stopped := true }
        match behind with
        | [] => bad [] .unfinished
        | letter :: behind =>
          if s.stopped then s else
          match convert? dialect d letter s with
          | some s => once dialect fuel behind s
          | none => bad behind .badDirective
    else once dialect fuel rest (s.put [c])

/-- Uses the format as often as it takes, `fuel` times at most. -/
def again (dialect : Dialect) (format : List Char) : Nat → State → State
  | 0, s => s
  | fuel + 1, s =>
    let s := once dialect format.length format { s with asked := false }
    if s.asked && !s.arguments.isEmpty && !s.stopped then again dialect format fuel s else s

/-- What a format comes to. -/
structure Outcome where
  /-- The output. -/
  output : String
  /-- What was wrong. -/
  troubles : List Trouble
  /-- The arguments that the format does not take. -/
  extra : List String
  /-- Whether an escape has ended the output. -/
  isCut : Bool

/-- Uses a format on arguments. -/
def apply (dialect : Dialect) (format : String) (arguments : List String) : Outcome :=
  let s := again dialect format.toList (arguments.length + 1) { arguments }
  ⟨String.ofList s.output.reverse, s.troubles.reverse, if s.stopped then [] else s.arguments,
    s.isCut⟩

end PipeShell.Programs.Format
