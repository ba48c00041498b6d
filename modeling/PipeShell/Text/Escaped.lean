import PipeShell.Text.Unprintable
import PipeShell.Text.GraphemeExtend

/-!
# Lists of strings on one line

A list of strings written so that every string can be told from its neighbours and nothing in it
disturbs a terminal: brackets around the list, commas between the strings, each in double quotes.
Inside the quotes a backslash and a double quote are preceded by a backslash, the common controls
have a letter, and any other character without a visible form of its own is given by its code
point.
-/

namespace PipeShell.Text

/-- The code point of a character in lower-case hexadecimal digits. -/
def hexadecimal (c : Char) : List Char :=
  Nat.toDigits 16 c.toNat

/-- Whether a character is a mark that would be drawn over the character before it. The voicing
marks of halfwidth katakana extend a cluster too, but each has a place of its own. -/
def isCombining (c : Char) : Bool :=
  isGraphemeExtend c && c.toNat != 0xff9e && c.toNat != 0xff9f

/-- One character between double quotes. -/
def escapeChar (c : Char) : List Char :=
  if c = '\x00' then ['\\', '0']
  else if c = '\t' then ['\\', 't']
  else if c = '\r' then ['\\', 'r']
  else if c = '\n' then ['\\', 'n']
  else if c = '"' ∨ c = '\\' then ['\\', c]
  else if isUnprintable c || isCombining c then
    ['\\', 'u', '\x7b'] ++ hexadecimal c ++ ['\x7d']
  else [c]

/-- A string between double quotes. -/
def escapeString (text : String) : List Char :=
  '"' :: text.toList.flatMap escapeChar ++ ['"']

/-- A list of strings between brackets. -/
def escapeList (texts : List String) : String :=
  String.ofList ('[' :: List.intercalate [',', ' '] (texts.map escapeString) ++ [']'])

end PipeShell.Text
