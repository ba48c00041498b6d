/-!
# White space

The characters with the Unicode property `White_Space`, and trimming by them. Trimming looks at
the two ends of a text only, so white space between other characters stays.

* `isWhiteSpace` is the property: the tab to carriage return block, the space, the next line
  character, and the typographic spaces and separators.
* `trim` drops the longest white ends.
-/

namespace PipeShell.Text

/-- The Unicode property `White_Space`. -/
def isWhiteSpace (c : Char) : Bool :=
  let n := c.toNat
  (0x9 ≤ n && n ≤ 0xd) || n == 0x20 || n == 0x85 || n == 0xa0 || n == 0x1680 ||
    (0x2000 ≤ n && n ≤ 0x200a) || n == 0x2028 || n == 0x2029 || n == 0x202f ||
    n == 0x205f || n == 0x3000

/-- The text without its longest white beginning. -/
def trimStart (text : List Char) : List Char :=
  text.dropWhile isWhiteSpace

/-- The text without its longest white ending. -/
def trimEnd (text : List Char) : List Char :=
  (text.reverse.dropWhile isWhiteSpace).reverse

/-- The text without white space at either end. -/
def trim (text : List Char) : List Char :=
  trimEnd (trimStart text)

/-- `trim` on strings. -/
def trimmed (text : String) : String :=
  String.ofList (trim text.toList)

end PipeShell.Text
