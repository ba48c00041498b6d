/-!
# Reading UTF-8

Octets become characters by a machine that takes one octet at a time. `Expect` says which octets
may follow, so an octet that no character contains at that place is refused at once.

* `decodeLossy` never fails: the octets of a character that was begun and cannot be completed
  become one replacement character, and the refused octet is then read as the beginning of
  another character.
* `decode?` is the strict reading.
-/

namespace PipeShell

/-- A piece of data, as octets. -/
abbrev Bytes := List UInt8

namespace Text

/-- The octets of a text. -/
def encode (text : String) : Bytes :=
  text.toUTF8.toList

/-- What a character that has been begun still needs: so many octets, the first of them between
two bounds, the others between `0x80` and `0xbf`. -/
structure Expect where
  /-- How many octets are missing, less one. -/
  more : Nat
  /-- The least octet that may come next. -/
  low : UInt8
  /-- The greatest octet that may come next. -/
  high : UInt8
  /-- The bits that the octets so far have given. -/
  value : Nat
  deriving Repr

/-- The replacement character. -/
def replacement : Char := '\ufffd'

/-- What an octet means at the beginning of a character. -/
inductive Lead where
  /-- It is a character of its own. -/
  | whole (c : Char)
  /-- Others must follow. -/
  | begun (expect : Expect)
  /-- No character begins with it. -/
  | refused
  deriving Repr

/-- Reads an octet at the beginning of a character. -/
def lead (b : UInt8) : Lead :=
  let n := b.toNat
  if n < 0x80 then .whole (Char.ofNat n)
  else if n < 0xc2 then .refused
  else if n < 0xe0 then .begun ⟨0, 0x80, 0xbf, n - 0xc0⟩
  else if n = 0xe0 then .begun ⟨1, 0xa0, 0xbf, 0⟩
  else if n = 0xed then .begun ⟨1, 0x80, 0x9f, 0xd⟩
  else if n < 0xf0 then .begun ⟨1, 0x80, 0xbf, n - 0xe0⟩
  else if n = 0xf0 then .begun ⟨2, 0x90, 0xbf, 0⟩
  else if n < 0xf4 then .begun ⟨2, 0x80, 0xbf, n - 0xf0⟩
  else if n = 0xf4 then .begun ⟨2, 0x80, 0x8f, 4⟩
  else .refused

/-- What an octet does to a character that has been begun: `none` when it cannot stand there,
else the finished character or what is still missing. -/
def Expect.next (expect : Expect) (b : UInt8) : Option (Char ⊕ Expect) :=
  if expect.low ≤ b ∧ b ≤ expect.high then
    let value := 64 * expect.value + (b.toNat - 0x80)
    match expect.more with
    | 0 => some (.inl (Char.ofNat value))
    | more + 1 => some (.inr ⟨more, 0x80, 0xbf, value⟩)
  else none

/-- Where the reading stands: the characters so far, last one first, how many of them stand for
octets that could not be read, and the character that has been begun. -/
structure Decoder where
  /-- The characters so far, last one first. -/
  read : List Char := []
  /-- Whether a replacement had to be put in. -/
  replaced : Bool := false
  /-- The character that has been begun, if any. -/
  open? : Option Expect := none

namespace Decoder

/-- Reads an octet as the beginning of a character. -/
def start (d : Decoder) (b : UInt8) : Decoder :=
  match lead b with
  | .whole c => { d with read := c :: d.read, open? := none }
  | .begun expect => { d with open? := some expect }
  | .refused => { d with read := replacement :: d.read, replaced := true, open? := none }

/-- Gives up the character that has been begun, if any. -/
def abandon (d : Decoder) : Decoder :=
  match d.open? with
  | none => d
  | some _ => { d with read := replacement :: d.read, replaced := true, open? := none }

/-- Reads the next octet. -/
def next (d : Decoder) (b : UInt8) : Decoder :=
  match d.open? with
  | none => d.start b
  | some expect =>
    match expect.next b with
    | some (.inl c) => { d with read := c :: d.read, open? := none }
    | some (.inr expect) => { d with open? := some expect }
    | none => d.abandon.start b

/-- Reads octets to their end. -/
def run (bytes : Bytes) : Decoder :=
  (bytes.foldl next {}).abandon

end Decoder

/-- The text of the octets, with a replacement character for what is not UTF-8. -/
def decodeLossy (bytes : Bytes) : String :=
  String.ofList (Decoder.run bytes).read.reverse

/-- The text of the octets, if they are UTF-8. -/
def decode? (bytes : Bytes) : Option String :=
  let d := Decoder.run bytes
  if d.replaced then none else some (String.ofList d.read.reverse)

end Text

end PipeShell
