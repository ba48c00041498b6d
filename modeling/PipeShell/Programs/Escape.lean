/-!
# Backslash escapes

Texts in which a backslash gives the character behind it another meaning. Programs differ in which
escapes they know, so the rules are a parameter.

`unescape` resolves all escapes of a text; an escape may also end the output.
-/

namespace PipeShell.Programs

/-- Which escapes a program knows. -/
structure EscapeRules where
  /-- The letters that stand for one character each, besides those for the common controls. -/
  letters : List (Char × Char) := []
  /-- Whether there are hexadecimal numbers. -/
  hexadecimal : Bool := false
  /-- Whether a zero in front of an octal number is not one of its digits. -/
  skipsZero : Bool := false
  /-- Whether there is an escape that ends the output. -/
  stops : Bool := false
  /-- Whether there are numbers of characters that have no octet. -/
  unicode : Bool := false

/-- The letters that all programs know. -/
def commonLetters : List (Char × Char) :=
  [('\\', '\\'), ('a', '\x07'), ('b', '\x08'), ('f', '\x0c'), ('n', '\n'), ('r', '\r'), ('t', '\t'),
    ('v', '\x0b')]

/-- What a backslash and the text behind it stand for. -/
inductive Escape where
  /-- A character. -/
  | char (c : Char) (rest : List Char)
  /-- Characters that stand for one that has no octet. -/
  | text (text : List Char) (rest : List Char)
  /-- The end of all output. -/
  | stop
  /-- Nothing special. -/
  | plain
  deriving Repr

/-- The value of a hexadecimal digit. -/
def hexValue? (c : Char) : Option Nat :=
  if c.isDigit then some (c.toNat - 48)
  else if 'a' ≤ c ∧ c ≤ 'f' then some (c.toNat - 87)
  else if 'A' ≤ c ∧ c ≤ 'F' then some (c.toNat - 55)
  else none

/-- The value of an octal digit. -/
def octalValue? (c : Char) : Option Nat :=
  if '0' ≤ c ∧ c ≤ '7' then some (c.toNat - 48) else none

/-- Reads digits of a base, so many at most, behind a value. -/
def readDigits (digit? : Char → Option Nat) (base : Nat) : Nat → Nat → List Char → Nat × List Char
  | 0, value, rest => (value, rest)
  | _, value, [] => (value, [])
  | more + 1, value, c :: rest =>
    match digit? c with
    | some d => readDigits digit? base more (base * value + d) rest
    | none => (value, c :: rest)

/-- The character that stands for an octet with a number. -/
def octetChar (n : Nat) : Char :=
  Char.ofNat (n % 256)

/-- Reads an octal number. -/
def readOctal (text : List Char) : Escape :=
  let (value, rest) := readDigits octalValue? 8 3 0 text
  .char (octetChar value) rest

/-- Reads the number of a character. Where only octets are known, one without an octet is shown as
its number in capital digits. -/
def readUnicode (letter : Char) (text : List Char) : Escape :=
  let size := if letter == 'u' then 4 else 8
  let digits := text.take size
  if digits.length = size && digits.all fun c => (hexValue? c).isSome then
    let (value, _) := readDigits hexValue? 16 size 0 digits
    if value < 128 then .char (Char.ofNat value) (text.drop size)
    else
      let shown := Nat.toDigits 16 value
      let shown := List.replicate (4 - shown.length) '0' ++ shown.map Char.toUpper
      let letter := if value < 65536 then 'u' else 'U'
      let shown := if value < 65536 then shown else List.replicate (8 - shown.length) '0' ++ shown
      .text ('\\' :: letter :: shown) (text.drop size)
  else .plain

/-- Reads an escape behind its backslash. -/
def readEscape (rules : EscapeRules) (text : List Char) : Escape :=
  match text with
  | [] => .plain
  | c :: rest =>
    match (commonLetters ++ rules.letters).lookup c with
    | some d => .char d rest
    | none =>
      if c == 'c' && rules.stops then .stop
      else if c == 'x' && rules.hexadecimal then
        if (rest.head?.bind hexValue?).isSome then
          let (value, rest) := readDigits hexValue? 16 2 0 rest
          .char (octetChar value) rest
        else .plain
      else if (c == 'u' || c == 'U') && rules.unicode then readUnicode c rest
      else if (octalValue? c).isSome then
        if c == '0' && rules.skipsZero && (rest.head?.bind octalValue?).isSome then readOctal rest
        else readOctal text
      else .plain

/-- Resolves escapes, `fuel` characters at most; the result is given last character first, with
whether the output ends. -/
def unescapeGo (rules : EscapeRules) : Nat → List Char → List Char → List Char × Bool
  | 0, done, _ => (done, false)
  | _, done, [] => (done, false)
  | fuel + 1, done, c :: rest =>
    if c == '\\' then
      match readEscape rules rest with
      | .char d rest => unescapeGo rules fuel (d :: done) rest
      | .text d rest => unescapeGo rules fuel (d.reverse ++ done) rest
      | .stop => (done, true)
      | .plain => unescapeGo rules fuel (c :: done) rest
    else unescapeGo rules fuel (c :: done) rest

/-- A text with its escapes resolved, and whether an escape ended the output. -/
def unescape (rules : EscapeRules) (text : String) : String × Bool :=
  let (done, stopped) := unescapeGo rules text.length [] text.toList
  (String.ofList done.reverse, stopped)

end PipeShell.Programs
