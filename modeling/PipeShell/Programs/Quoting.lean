import PipeShell.Text.CharacterClass

/-!
# Names in messages

How programs show a name or an argument in a message: always between quotes (`quoted`), in a form
that a script can take (`shellQuoted`), or in that form only where it is needed (`shellShown`).
-/

namespace PipeShell.Programs

/-- The letters of the controls that have one. -/
def controlLetter? (c : Char) : Option Char :=
  match c with
  | '\x07' => some 'a'
  | '\x08' => some 'b'
  | '\x0c' => some 'f'
  | '\n' => some 'n'
  | '\r' => some 'r'
  | '\t' => some 't'
  | '\x0b' => some 'v'
  | _ => none

/-- The three octal digits of a character. -/
def octalDigits (c : Char) : List Char :=
  let n := c.toNat
  [n / 64 % 8, n / 8 % 8, n % 8].map fun d => Char.ofNat (48 + d)

/-- Whether a character is shown as it stands. -/
def isShown (c : Char) : Bool :=
  Text.isGraphic c || c == ' '

/-- The escape of a character that is not shown as it stands. -/
def escapeOf (c : Char) : List Char :=
  match controlLetter? c with
  | some letter => ['\\', letter]
  | none => '\\' :: octalDigits c

/-- A text between quotes, with escapes for everything that would be unclear. -/
def quoted (text : String) : String :=
  String.ofList ('\x27' :: text.toList.flatMap (fun c =>
    if c == '\x27' || c == '\\' then ['\\', c] else if isShown c then [c] else escapeOf c) ++
    ['\x27'])

/-- Whether a character keeps its meaning between double quotes in every notation. -/
def isHarmless (isFirst : Bool) (c : Char) : Bool :=
  c.isAlphanum || ['%', '+', ',', '-', '.', '/', ':', ']', '_', ' ', '\x27'].contains c ||
    (isFirst && (c == '#' || c == '~'))

/-- Whether a script takes a character for more than itself. -/
def isSpecial (isFirst isAlone : Bool) (c : Char) : Bool :=
  [' ', '!', '"', '$', '&', '(', ')', '*', ';', '<', '=', '>', '[', '^', '\x60', '|', '\x27', '?',
    '\\'].contains c || (isFirst && (c == '#' || c == '~')) ||
    (isAlone && (c == '\x7b' || c == '\x7d'))

/-- The characters between single quotes; those that are not shown stand in a notation of their
own, outside these quotes. -/
def singleQuoted (escaping : Bool) : List Char → List Char
  | [] => ['\x27']
  | c :: rest =>
    if isShown c then
      let back := if escaping then ['\x27', '\x27'] else []
      back ++ (if c == '\x27' then ['\x27', '\\', '\x27', '\x27'] else [c]) ++
        singleQuoted false rest
    else
      let away := if escaping then [] else ['\x27', '$', '\x27']
      away ++ escapeOf c ++ singleQuoted true rest

/-- A text in a form that a script takes, always between quotes. -/
def shellQuoted (text : String) : String :=
  let chars := text.toList
  let harmless := match chars with
    | [] => true
    | c :: rest => isHarmless true c && rest.all (isHarmless false)
  if chars.contains '\x27' && harmless then "\"" ++ text ++ "\""
  else String.ofList ('\x27' :: singleQuoted false chars)

/-- A text in a form that a script takes, between quotes only if they are needed. -/
def shellShown (text : String) : String :=
  let needed := match text.toList with
    | [] => true
    | c :: rest =>
      isSpecial true rest.isEmpty c || rest.any (isSpecial false false) ||
        (c :: rest).any fun c => !isShown c
  if needed then shellQuoted text else text

end PipeShell.Programs
