import PipeShell.Text.Integer

/-!
# Decimal texts of binary numbers

Numbers with a fraction as programs know them: a decimal text is read as the nearest number with
a binary mantissa of fixed size, and written with as many decimal places as are asked for. All
arithmetic is exact, on whole numbers.

* `Fraction.nearest` rounds to a mantissa.
* `Fraction.fixed`, `Fraction.scientific` and `Fraction.general` are the three notations.
-/

namespace PipeShell.Text

/-- A number with a fraction. -/
structure Fraction where
  /-- Whether it has a minus sign. -/
  negative : Bool := false
  /-- The numerator. -/
  numerator : Nat
  /-- The denominator. -/
  denominator : Nat := 1
  deriving DecidableEq, Repr

namespace Fraction

/-- The whole number nearest to a quotient; of two, the even one. -/
def roundDiv (a b : Nat) : Nat :=
  let q := a / b
  let r := a % b
  if 2 * r < b then q
  else if b < 2 * r then q + 1
  else if q % 2 = 0 then q else q + 1

/-- The nearest number with a mantissa of so many bits. -/
def nearest (bits : Nat) (x : Fraction) : Fraction :=
  if x.numerator = 0 ∨ x.denominator = 0 then { x with numerator := 0, denominator := 1 }
  else
    let size : Int := (Nat.log2 x.numerator : Int) - Nat.log2 x.denominator
    -- the mantissa of the quotient, scaled by two to the power of `shift`, has `bits` bits or one
    -- more
    let shift : Int := bits - size
    let scaled (shift : Int) : Nat × Nat :=
      if 0 ≤ shift then (x.numerator * Nat.pow 2 shift.toNat, x.denominator)
      else (x.numerator, x.denominator * Nat.pow 2 (-shift).toNat)
    let (a, b) := scaled shift
    let shift := if Nat.pow 2 bits ≤ a / b then shift - 1 else shift
    let (a, b) := scaled shift
    let mantissa := roundDiv a b
    if 0 ≤ shift then { x with numerator := mantissa, denominator := Nat.pow 2 shift.toNat }
    else { x with numerator := mantissa * Nat.pow 2 (-shift).toNat, denominator := 1 }

/-- Whether the number is zero. -/
def isZero (x : Fraction) : Bool :=
  x.numerator == 0

/-- Digits with zeros in front up to a width. -/
def padZeros (width n : Nat) : String :=
  let digits := toString n
  String.ofList (List.replicate (width - digits.length) '0') ++ digits

/-- The number without its sign and with so many decimal places; the point stands even without
any if `point`. -/
def fixed (places : Nat) (point : Bool) (x : Fraction) : String :=
  let n := roundDiv (x.numerator * Nat.pow 10 places) x.denominator
  let whole := toString (n / Nat.pow 10 places)
  if places = 0 then whole ++ (if point then "." else "")
  else whole ++ "." ++ padZeros places (n % Nat.pow 10 places)

/-- The number times a power of ten, as numerator and denominator. -/
def timesTen (x : Fraction) (exponent : Int) : Nat × Nat :=
  if 0 ≤ exponent then (x.numerator * Nat.pow 10 exponent.toNat, x.denominator)
  else (x.numerator, x.denominator * Nat.pow 10 (-exponent).toNat)

/-- The power of ten of the first digit, `fuel` steps from a first guess. -/
def exponentFrom (x : Fraction) : Nat → Int → Int
  | 0, e => e
  | fuel + 1, e =>
    let (a, b) := x.timesTen (-e)
    if a < b then exponentFrom x fuel (e - 1)
    else if 10 * b ≤ a then exponentFrom x fuel (e + 1)
    else e

/-- The power of ten of the first digit. -/
def exponent (x : Fraction) : Int :=
  if x.isZero then 0
  else
    let guess : Int := (toString x.numerator).length - (toString x.denominator).length
    x.exponentFrom 4 guess

/-- The digits of a mantissa with so many decimal places, and the power of ten that goes with it. -/
def mantissa (places : Nat) (x : Fraction) : Nat × Int :=
  let e := x.exponent
  let (a, b) := x.timesTen (places - e)
  let n := roundDiv a b
  if Nat.pow 10 (places + 1) ≤ n then (roundDiv n 10, e + 1) else (n, e)

/-- A power of ten as it is written: a sign and at least two digits. -/
def exponentText (e : Int) : String :=
  (if e < 0 then "-" else "+") ++ padZeros 2 e.natAbs

/-- The number without its sign, as a mantissa with so many decimal places and a power of ten. -/
def scientific (places : Nat) (point : Bool) (x : Fraction) : String :=
  let (n, e) := x.mantissa places
  let front := toString (n / Nat.pow 10 places)
  let back := if places = 0 then (if point then "." else "")
    else "." ++ padZeros places (n % Nat.pow 10 places)
  front ++ back ++ "e" ++ exponentText e

/-- A text without the zeros at its end, and without a point that nothing follows. -/
def dropZeros (text : String) : String :=
  if text.toList.contains '.' then
    let kept := text.toList.reverse.dropWhile (· == '0')
    String.ofList (match kept with
      | '.' :: rest => rest.reverse
      | rest => rest.reverse)
  else text

/-- The number without its sign, with so many digits at most, in the shorter notation; zeros at
the end stay if `full`. -/
def general (digits : Nat) (full : Bool) (x : Fraction) : String :=
  let digits := max digits 1
  let (_, e) := x.mantissa (digits - 1)
  if e < -4 ∨ (digits : Int) ≤ e then
    let text := x.scientific (digits - 1) full
    if full then text
    else
      let front := text.takeWhile (· ≠ 'e')
      dropZeros front.toString ++ (text.dropWhile (· ≠ 'e')).toString
  else
    let text := x.fixed ((digits : Int) - 1 - e).toNat full
    if full then text else dropZeros text

/-- The number without its sign in base sixteen, for a mantissa of so many bits: what does not fill
a digit stands in front of the point. There are as many places as are asked for, or as are
needed; the point stands even without any if `point`. -/
def hexadecimal (bits : Nat) (places : Option Nat) (point : Bool) (x : Fraction) : String :=
  let behind := (bits - 1) / 4
  let shift : Int := bits - 1 - ((Nat.log2 x.numerator : Int) - Nat.log2 x.denominator)
  let scaled (shift : Int) : Nat :=
    if 0 ≤ shift then x.numerator * Nat.pow 2 shift.toNat / x.denominator
    else x.numerator / (x.denominator * Nat.pow 2 (-shift).toNat)
  let shift := if scaled shift < Nat.pow 2 (bits - 1) then shift + 1 else shift
  let mantissa := if x.isZero then 0 else scaled shift
  let e : Int := if x.isZero then 0 else 4 * behind - shift
  let shown := (places.getD behind).min behind
  let n := roundDiv mantissa (Nat.pow 16 (behind - shown))
  let digits := Nat.toDigits 16 (n % Nat.pow 16 shown)
  let digits := List.replicate (shown - digits.length) '0' ++ (if shown = 0 then [] else digits)
  let digits := match places with
    | some places => digits ++ List.replicate (places - shown) '0'
    | none => (digits.reverse.dropWhile (· == '0')).reverse
  let carries := 16 ≤ n / Nat.pow 16 shown
  let e := if carries then e + 4 else e
  let unit := Nat.pow 16 (if carries then shown + 1 else shown)
  let front := String.ofList (Nat.toDigits 16 (n / unit))
  front ++ (if digits.isEmpty && !point then "" else ".") ++ String.ofList digits ++ "p" ++
    (if e < 0 then "-" else "+") ++ toString e.natAbs

/-! ### Reading -/

/-- The value of a row of digits. -/
def digitsValue (digits : List Char) : Nat :=
  digits.foldl (fun n c => 10 * n + (c.toNat - 48)) 0

/-- Reads the power of ten behind a number, if there is one. -/
def readExponent (text : List Char) : Int × List Char :=
  match text with
  | e :: rest =>
    if e == 'e' || e == 'E' then
      let (negative, digits) := match rest with
        | '-' :: rest => (true, rest)
        | '+' :: rest => (false, rest)
        | rest => (false, rest)
      let power := digits.takeWhile Char.isDigit
      if power.isEmpty then (0, text)
      else
        let n : Int := digitsValue power
        (if negative then -n else n, digits.drop power.length)
    else (0, text)
  | [] => (0, [])

/-- Reads a decimal number at the front of a text, with blanks and a sign before it; none if no
number stands there. -/
def read? (text : List Char) : Option (Fraction × List Char) :=
  let text := text.dropWhile fun c => c == ' ' || ('\t' ≤ c && c ≤ '\r')
  let (negative, text) := match text with
    | '-' :: rest => (true, rest)
    | '+' :: rest => (false, rest)
    | rest => (false, rest)
  let whole := text.takeWhile Char.isDigit
  let (places, rest) := match text.drop whole.length with
    | '.' :: rest => (rest.takeWhile Char.isDigit, rest.dropWhile Char.isDigit)
    | rest => ([], rest)
  if whole.isEmpty && places.isEmpty then none
  else
    let (e, rest) := readExponent rest
    let x : Fraction :=
      { negative, numerator := digitsValue (whole ++ places)
        denominator := Nat.pow 10 places.length }
    let (a, b) := x.timesTen (if e.natAbs < 5000 then e else 0)
    some ({ x with numerator := a, denominator := b }, rest)

end Fraction

end PipeShell.Text
