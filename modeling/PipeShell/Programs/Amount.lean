/-!
# Amounts in arguments

Numbers as programs take them in their arguments: decimal, with white space and a plus sign in
front, and a unit behind. A unit is a letter; behind a letter for a power `iB` says that it is one
of 1024, which it is in any case, and `B` that it is one of 1000.

* `Amount.read` reads a number with a unit.
* `Amount.readSigned` reads one without, which may be negative.
-/

namespace PipeShell.Programs.Amount

/-- Why a text is not an amount. -/
inductive Fault where
  /-- It does not look like one. -/
  | invalid
  /-- It is too large. -/
  | tooLarge
  deriving DecidableEq, Repr

/-- The cause that is told, if there is one. -/
def Fault.cause? : Fault → Option String
  | invalid => none
  | tooLarge => some "Value too large for defined data type"

/-- Whether a character is white space. -/
def isSpace (c : Char) : Bool :=
  c == ' ' || ('\t' ≤ c && c ≤ '\r')

/-- The power that a letter stands for. -/
def power? (letter : Char) : Option Nat :=
  match letter with
  | 'k' | 'K' => some 1
  | 'm' | 'M' => some 2
  | 'g' | 'G' => some 3
  | 't' | 'T' => some 4
  | 'P' => some 5
  | 'E' => some 6
  | 'Z' => some 7
  | 'Y' => some 8
  | 'R' => some 9
  | 'Q' => some 10
  | _ => none

/-- What a unit multiplies a number with. -/
def factor? (units : List Char) : List Char → Option Nat
  | [] => some 1
  | letter :: more =>
    if !units.contains letter then none
    else match power? letter, letter, more with
      | some n, _, [] => some (Nat.pow 1024 n)
      | some n, _, ['i', 'B'] => some (Nat.pow 1024 n)
      | some n, _, ['B'] => some (Nat.pow 1000 n)
      | some n, _, ['D'] => some (Nat.pow 1000 n)
      | none, 'b', [] => some 512
      | none, 'B', [] => some 1024
      | none, 'c', [] => some 1
      | none, 'w', [] => some 2
      | _, _, _ => none

/-- The units of lines and octets. -/
def commonUnits : List Char :=
  ['b', 'k', 'K', 'm', 'M', 'G', 'T', 'P', 'E', 'Z', 'Y', 'R', 'Q']

/-- The digits that a text begins with, behind white space and a sign; whether the sign is a minus
sign; and the rest. -/
def split (text : List Char) : Bool × List Char × List Char :=
  let body := text.dropWhile isSpace
  let negative := body.head? == some '-'
  let body := if negative || body.head? == some '+' then body.drop 1 else body
  let digits := body.takeWhile Char.isDigit
  (negative, digits, body.drop digits.length)

/-- The value of digits. -/
def valueOf (digits : List Char) : Nat :=
  digits.foldl (fun n c => 10 * n + (c.toNat - 48)) 0

/-- Reads a number with a unit; a unit alone counts once. -/
def read (units : List Char) (text : String) : Except Fault Nat :=
  match split text.toList with
  | (true, _, _) => .error .invalid
  | (false, digits, rest) =>
    let (n, rest) := if digits.isEmpty then (1, text.toList) else (valueOf digits, rest)
    match factor? units rest with
    | none => .error .invalid
    | some factor =>
      if text.isEmpty then .error .invalid
      else if n * factor < Nat.pow 2 64 then .ok (n * factor)
      else .error .tooLarge

/-- Reads a number that may be negative. -/
def readSigned (text : String) : Except Fault Int :=
  let (negative, digits, rest) := split text.toList
  let n := valueOf digits
  if digits.isEmpty || !rest.isEmpty then .error .invalid
  else if Nat.pow 2 63 ≤ n then .error .tooLarge
  else .ok (if negative then -(n : Int) else n)

end PipeShell.Programs.Amount
