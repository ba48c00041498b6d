import PipeShell.Text.Utf8

/-!
# Octets as text

Programs look at text octet by octet: to them a text is a string whose characters are octets, each
with the number of its octet. So no octet is lost, whether it belongs to a character or not.

* `ofOctets` and `toOctets` go to and fro.
* `octetsOf` is the form in which programs see a text, `textOf` the text that they mean.
-/

namespace PipeShell.Text

/-- The character that stands for an octet. -/
def charOfOctet (b : UInt8) : Char :=
  Char.ofNat b.toNat

/-- Octets as a string. -/
def ofOctets (bytes : Bytes) : String :=
  String.ofList (bytes.map charOfOctet)

/-- The octets that a string stands for. -/
def toOctets (text : String) : Bytes :=
  text.toList.map fun c => UInt8.ofNat c.toNat

/-- A text in the form in which programs see it. -/
def octetsOf (text : String) : String :=
  ofOctets (encode text)

/-- The text that a program means. -/
def textOf (octets : String) : String :=
  decodeLossy (toOctets octets)

end PipeShell.Text
