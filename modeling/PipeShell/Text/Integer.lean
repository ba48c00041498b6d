/-!
# Decimal integers with a range

Readers of decimal integers that must fit a machine range, with the cause of every refusal. Only
ASCII digits count, one sign may stand in front, and nothing else may stand around the digits.

* `readNatural bound` reads a number from zero to `bound`; a plus sign may precede it.
* `readInt32` reads a number of 32 bits with either sign.

The text is judged from left to right: a digit that leaves the range is reported before a bad
character further to the right.
-/

namespace PipeShell.Text

/-- Why a text is not an integer of the wanted range. -/
inductive IntegerFault where
  /-- There is no character at all. -/
  | empty
  /-- A character is not a digit, or there is a sign and nothing else. -/
  | invalidDigit
  /-- The number lies above the range. -/
  | tooLarge
  /-- The number lies below the range. -/
  | tooSmall
  deriving DecidableEq, Repr

namespace IntegerFault

/-- The wording of a refusal. -/
def message : IntegerFault → String
  | empty => "cannot parse integer from empty string"
  | invalidDigit => "invalid digit found in string"
  | tooLarge => "number too large to fit in target type"
  | tooSmall => "number too small to fit in target type"

end IntegerFault

/-- The value of an ASCII digit. -/
def digitValue? (c : Char) : Option Nat :=
  if '0' ≤ c ∧ c ≤ '9' then some (c.toNat - '0'.toNat) else none

/-- Reads digits behind the number `value`, refusing with `beyond` once the bound is passed. -/
def readDigits (bound : Nat) (beyond : IntegerFault) (value : Nat) :
    List Char → Except IntegerFault Nat
  | [] => .ok value
  | c :: rest =>
    match digitValue? c with
    | none => .error .invalidDigit
    | some d =>
      if 10 * value + d ≤ bound then readDigits bound beyond (10 * value + d) rest
      else .error beyond

/-- Reads one or more digits; none at all are a bad digit, since a sign stood before them. -/
def readSomeDigits (bound : Nat) (beyond : IntegerFault) :
    List Char → Except IntegerFault Nat
  | [] => .error .invalidDigit
  | digits => readDigits bound beyond 0 digits

/-- Reads a number from zero to `bound`, with or without a plus sign. -/
def readNatural (bound : Nat) : List Char → Except IntegerFault Nat
  | [] => .error .empty
  | '+' :: digits => readSomeDigits bound .tooLarge digits
  | digits => readDigits bound .tooLarge 0 digits

/-- The number that a text of digits stands for, and nothing but digits. -/
def digits? (text : String) : Option Nat :=
  if text.isEmpty then none
  else text.toList.foldlM (fun n c => (digitValue? c).map fun d => 10 * n + d) 0

/-- The largest number of 64 bits. -/
def maxNatural64 : Nat := Nat.pow 2 64 - 1

/-- Reads a number of 32 bits, with or without a sign. -/
def readInt32 : List Char → Except IntegerFault Int
  | [] => .error .empty
  | '+' :: digits => (readSomeDigits (Nat.pow 2 31 - 1) .tooLarge digits).map Int.ofNat
  | '-' :: digits => (readSomeDigits (Nat.pow 2 31) .tooSmall digits).map fun n => -(n : Int)
  | digits => (readDigits (Nat.pow 2 31 - 1) .tooLarge 0 digits).map Int.ofNat

end PipeShell.Text
