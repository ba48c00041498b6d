import PipeShell.Script.Tree

/-!
# Words and tokens of a script

The characters of a script become tokens: words, operators and redirections. A word may hold
whole commands, so the reader of words is given the reader of commands (`Nested`).

* `Reader` is where the reading stands; a script that is still coming in may turn out to be
  incomplete.
* `readToken` reads one token; a token can be pushed back and read again.
-/

namespace PipeShell.Script

/-- How a redirection goes on behind its sign. -/
inductive RedirectionKind where
  /-- With the name of a file. -/
  | file (access : Access) (clobbers : Bool)
  /-- With the number of a descriptor. -/
  | duplicate
  /-- With the line that ends a document. -/
  | document (dropsTabs : Bool)
  deriving DecidableEq, Repr

/-- What a script is made of. -/
inductive Token where
  /-- A word; the characters of one that has neither quotes nor anything to expand. -/
  | word (parts : Word) (plain : Option String)
  /-- A word with a meaning of its own. -/
  | keyword (name : String)
  /-- An operator. -/
  | operator (text : String)
  /-- The sign of a redirection. -/
  | redirection (fd : Nat) (kind : RedirectionKind)
  /-- The end of a line. -/
  | newline
  /-- The end of the script. -/
  | ending

/-- How a token is shown. -/
def Token.shown : Token → String
  | word _ _ => "word"
  | keyword name => s!"\"{name}\""
  | operator text => s!"\"{text}\""
  | redirection _ _ => "redirection"
  | newline => "newline"
  | ending => "end of file"

/-- The words with a meaning of their own. -/
def keywords : List String :=
  ["!", "case", "do", "done", "elif", "else", "esac", "fi", "for", "if", "in", "then", "until",
    "while", "\x7b", "\x7d"]

/-- A document whose text has not been read. -/
structure Awaited where
  /-- Its number. -/
  number : Nat
  /-- The line that ends it. -/
  mark : String
  /-- Whether nothing in it is expanded. -/
  quoted : Bool
  /-- Whether tabs in front of its lines are dropped. -/
  dropsTabs : Bool

/-- A word that is being read as another text. -/
structure Substitution where
  /-- The word. -/
  word : String
  /-- How many characters follow the text. -/
  behind : Nat
  /-- Whether the text ends in a blank, so that the word behind it may be read as another one
  too. -/
  endsInBlank : Bool

/-- Where the reading of a script stands. -/
structure Reader where
  /-- The characters that have not been read. -/
  rest : List Char
  /-- The number of the line. -/
  line : Nat := 1
  /-- Whether further characters may follow. -/
  more : Bool := false
  /-- Whether the lines are shown as they are read, if the script asks for that. -/
  isShown : Bool := false
  /-- A token that is to be read again. -/
  pushed : Option Token := none
  /-- The documents that stand behind the end of the line, in order. -/
  awaited : List Awaited := []
  /-- The documents that have been read, by number. -/
  documents : Array Word := #[]
  /-- The words that stand for other texts where a command begins. -/
  aliases : List (String × String) := []
  /-- Those of them that are being read, the innermost one first. -/
  substitutions : List Substitution := []

/-- A reader of a part of a script. -/
abbrev Parse := StateT Reader (Except Fault)

/-- Fails. -/
def wrong {α : Type} (message : String) : Parse α := do
  throw (.wrong (← get).line ("Syntax error: " ++ message))

/-- The readers of what may stand inside a word. -/
structure Nested where
  /-- Reads commands up to the closing parenthesis. -/
  commands : Parse Command
  /-- Reads commands up to the end. -/
  script : Parse Command

/-! ### Characters -/

/-- Drops line ends that a backslash takes away. -/
def joinLines : List Char → Nat → List Char × Nat
  | '\\' :: '\n' :: rest, line => joinLines rest (line + 1)
  | rest, line => (rest, line)

/-- The next character, if there is one. It is not taken. -/
def peek : Parse (Option Char) := do
  let r ← get
  let (rest, line) := joinLines r.rest r.line
  set { r with rest, line }
  match rest with
  | [] => if r.more then throw .incomplete else return none
  | ['\\'] => if r.more then throw .incomplete else return some '\\'
  | c :: _ => return some c

/-- The next character as it stands. It is not taken. -/
def peekRaw : Parse (Option Char) := do
  let r ← get
  match r.rest with
  | [] => if r.more then throw .incomplete else return none
  | c :: _ => return some c

/-- Takes the next character. -/
def advance : Parse Unit :=
  modify fun r =>
    match r.rest with
    | [] => r
    | '\n' :: rest => { r with rest, line := r.line + 1 }
    | _ :: rest => { r with rest }

/-- How many steps the reading of the rest can take. Words that stand for other texts may make it
longer than it is. -/
def budget : Parse Nat := do
  let r ← get
  return 2 * r.rest.length + 2 + (if r.aliases.isEmpty then 0 else Nat.pow 2 40)

/-- Reads another text with a reader, then goes on here. -/
def within {α : Type} (text : List Char) (parse : Parse α) : Parse α := do
  let r ← get
  set { r with rest := text, more := false, pushed := none, awaited := [], substitutions := [] }
  let a ← parse
  modify fun inner =>
    { inner with rest := r.rest, line := r.line, more := r.more, pushed := r.pushed,
                 awaited := r.awaited, substitutions := r.substitutions }
  return a

/-- Whether a name may begin with a character. -/
def beginsName (c : Char) : Bool :=
  c.isAlpha || c == '_'

/-- Whether a character may stand in a name. -/
def isNameChar (c : Char) : Bool :=
  c.isAlphanum || c == '_'

/-- Whether a text is a name. -/
def isName (text : String) : Bool :=
  match text.toList with
  | [] => false
  | c :: rest => beginsName c && rest.all isNameChar

/-- Takes characters for as long as they belong to a kind, `fuel` of them at most. -/
def takeWhile (belongs : Char → Bool) : Nat → List Char → Parse (List Char)
  | 0, taken => return taken.reverse
  | fuel + 1, taken => do
    match ← peek with
    | some c =>
      if belongs c then
        advance
        takeWhile belongs fuel (c :: taken)
      else return taken.reverse
    | none => return taken.reverse

/-! ### Words -/

/-- A word under construction: everything is given last one first. -/
structure Draft where
  /-- The finished parts. -/
  parts : List WordPart := []
  /-- The characters behind them. -/
  text : List Char := []
  /-- Whether these are quoted. -/
  quoted : Bool := false
  /-- Whether there has been nothing but unquoted characters. -/
  isPlain : Bool := true

namespace Draft

/-- Finishes the characters. -/
def endText (d : Draft) : Draft :=
  if d.text.isEmpty then d
  else { d with text := [], parts := .text (String.ofList d.text.reverse) d.quoted :: d.parts }

/-- Adds a character. -/
def add (d : Draft) (quoted : Bool) (c : Char) : Draft :=
  let d := if d.quoted = quoted then d else { d.endText with quoted }
  { d with text := c :: d.text, isPlain := d.isPlain && !quoted }

/-- Adds a part. -/
def addPart (d : Draft) (part : WordPart) : Draft :=
  let d := d.endText
  { d with parts := part :: d.parts, isPlain := false }

/-- Adds parts in their order. -/
def addParts (d : Draft) (parts : List WordPart) : Draft :=
  parts.foldl addPart d

/-- The word. -/
def word (d : Draft) : Word :=
  d.endText.parts.reverse

end Draft

/-- Where a run of characters ends, and what is special in it. -/
inductive Region where
  /-- A word: it ends before a blank or an operator. -/
  | bare
  /-- Quoted characters, up to a double quote. -/
  | quoted
  /-- A document, up to its end. -/
  | document
  /-- The word of a parameter, up to a closing brace. -/
  | braces (quoted : Bool)
  /-- An arithmetic expression, up to two closing parentheses. -/
  | sum
  deriving DecidableEq, Repr

namespace Region

/-- Whether characters are quoted. -/
def quotes : Region → Bool
  | bare => false
  | braces isQuoted => isQuoted
  | _ => true

/-- Whether a backslash takes the meaning of a character away, where characters are quoted. -/
def escapes (region : Region) (c : Char) : Bool :=
  c == '$' || c == '\\' || c == '\x60' || (c == '"' && region ≠ document) ||
    (c == '\x7d' && region = braces true)

/-- What is missing if the text ends here. -/
def missing : Region → String
  | quoted => "Unterminated quoted string"
  | braces _ => "Missing '\x7d'"
  | sum => "Missing '))'"
  | _ => "end of file unexpected"

end Region

/-- Whether a character ends a word. -/
def endsWord (c : Char) : Bool :=
  [' ', '\t', '\n', ';', '&', '|', '<', '>', '(', ')'].contains c

/-- Reads the characters between single quotes, behind the first one. -/
def readLiteral : Nat → List Char → Parse (List Char)
  | 0, _ => wrong Region.quoted.missing
  | fuel + 1, taken => do
    match ← peekRaw with
    | none => wrong Region.quoted.missing
    | some '\x27' =>
      advance
      return taken.reverse
    | some c =>
      advance
      readLiteral fuel (c :: taken)

/-- Reads the text between backquotes, behind the first one. -/
def readBackquoted (quoted : Bool) : Nat → List Char → Parse (List Char)
  | 0, _ => wrong "EOF in backquote substitution"
  | fuel + 1, taken => do
    match ← peek with
    | none => wrong "EOF in backquote substitution"
    | some '\x60' =>
      advance
      return taken.reverse
    | some '\\' =>
      advance
      match ← peekRaw with
      | none => readBackquoted quoted fuel ('\\' :: taken)
      | some c =>
        advance
        if c == '\\' || c == '\x60' || c == '$' || (c == '"' && quoted) then
          readBackquoted quoted fuel (c :: taken)
        else readBackquoted quoted fuel (c :: '\\' :: taken)
    | some c =>
      advance
      readBackquoted quoted fuel (c :: taken)

/-- Whether a character names a parameter that is no variable. -/
def isSpecial (c : Char) : Bool :=
  c.isDigit || ['@', '*', '#', '?', '-', '$', '!'].contains c

/-- Reads the name of a parameter between braces; the second result is whether its length is
meant, the third whether the name is good. -/
def readParameterName : Parse (String × Bool × Bool) := do
  let fuel ← budget
  match ← peek with
  | none => wrong (Region.braces false).missing
  | some c =>
    if beginsName c then return (String.ofList (← takeWhile isNameChar fuel []), false, true)
    else if c.isDigit then
      return (String.ofList (← takeWhile Char.isDigit fuel []), false, true)
    else if c == '#' then
      advance
      match ← peek with
      | some d =>
        if beginsName d then return (String.ofList (← takeWhile isNameChar fuel []), true, true)
        else if d.isDigit then
          return (String.ofList (← takeWhile Char.isDigit fuel []), true, true)
        else if isSpecial d then
          let r ← get
          advance
          if (← peek) = some '\x7d' then return (String.ofList [d], true, true)
          else
            set r
            return ("#", false, true)
        else return ("#", false, true)
      | none => return ("#", false, true)
    else if isSpecial c then
      advance
      return (String.ofList [c], false, true)
    else return ("", false, false)

/-- What stands behind the name of a parameter: the use that its word makes of it, and whether
that word is a pattern. None if there is no word. -/
def readUse : Parse (Option ((Word → Use) × Bool)) := do
  match ← peek with
  | some '\x7d' =>
    advance
    return none
  | some ':' =>
    advance
    let c ← peek
    advance
    match c with
    | some '-' => return some (.fallback true, false)
    | some '=' => return some (.assign true, false)
    | some '?' => return some (.demand true, false)
    | some '+' => return some (.instead true, false)
    | _ => return some (fun _ => .bad, false)
  | some '-' => advance; return some (.fallback false, false)
  | some '=' => advance; return some (.assign false, false)
  | some '?' => advance; return some (.demand false, false)
  | some '+' => advance; return some (.instead false, false)
  | some '#' =>
    advance
    if (← peek) = some '#' then
      advance
      return some (.trimFront true, true)
    else return some (.trimFront false, true)
  | some '%' =>
    advance
    if (← peek) = some '%' then
      advance
      return some (.trimBack true, true)
    else return some (.trimBack false, true)
  | _ => return some (fun _ => .bad, false)

/-- Reads what follows a dollar sign; `region` reads what may stand inside. None if the sign
stands for itself. -/
def readDollar (nested : Nested) (region : Region → Parse Word) (quoted : Bool) :
    Parse (Option WordPart) := do
  match ← peek with
  | some '(' =>
    advance
    if (← peek) = some '(' then
      advance
      return some (.sum (← region .sum) quoted)
    else return some (.output (← nested.commands) quoted)
  | some '\x7b' =>
    advance
    let (name, isLength, isGood) ← readParameterName
    match ← readUse with
    | none => return some (.parameter name
        (if !isGood then .bad else if isLength then .length else .value) quoted)
    | some (use, isPattern) =>
      let word ← region (.braces (quoted && !isPattern))
      return some (.parameter name (if isGood && !isLength then use word else .bad) quoted)
  | some c =>
    if beginsName c then
      let name ← takeWhile isNameChar (← budget) []
      return some (.parameter (String.ofList name) .value quoted)
    else if isSpecial c then
      advance
      return some (.parameter (String.ofList [c]) .value quoted)
    else return none
  | none => return none

/-- Reads a region of characters, `fuel` steps at most; `depth` counts what has been opened in it:
the parentheses of an arithmetic expression, or the double quotes in the word of a quoted
parameter. -/
def readRegion (nested : Nested) : Nat → Nat → Region → Draft → Parse Draft
  | 0, _, region, _ => wrong region.missing
  | fuel + 1, depth, region, d => do
    let inner (region : Region) : Parse Word := do
      return (← readRegion nested fuel 0 region {}).word
    let quoted := region.quotes
    match ← peek with
    | none => if region = .bare ∨ region = .document then return d else wrong region.missing
    | some c =>
      if region = .bare && endsWord c then return d
      else if c == '\x7d' && depth = 0 && (region = .braces true || region = .braces false) then
        advance
        return d
      else if c == '\\' then
        advance
        match ← peekRaw with
        | none => readRegion nested fuel depth region (d.add quoted c)
        | some e =>
          advance
          if !quoted then readRegion nested fuel depth region (d.add true e)
          else if region.escapes e then readRegion nested fuel depth region (d.add true e)
          else readRegion nested fuel depth region ((d.add true c).add true e)
      else
        advance
        match c with
        | '$' =>
          match ← readDollar nested inner quoted with
          | some part => readRegion nested fuel depth region (d.addPart part)
          | none => readRegion nested fuel depth region (d.add quoted c)
        | '\x60' =>
          let line := (← get).line
          let text ← readBackquoted quoted (← budget) []
          let body ← within text do
            modify fun r => { r with line }
            nested.script
          readRegion nested fuel depth region (d.addPart (.output body quoted))
        | '"' =>
          match region with
          | .quoted => return d
          | .document => readRegion nested fuel depth region (d.add true c)
          | .sum => readRegion nested fuel depth region (d.add true c)
          | .braces true => readRegion nested fuel (1 - depth) region d
          | _ =>
            let parts ← inner .quoted
            let parts := if parts.isEmpty then [.text "" true] else parts
            readRegion nested fuel depth region (d.addParts parts)
        | '\x27' =>
          if quoted then readRegion nested fuel depth region (d.add quoted c)
          else
            let text ← readLiteral (← budget) []
            readRegion nested fuel depth region (d.addPart (.text (String.ofList text) true))
        | '(' =>
          let depth := if region = .sum then depth + 1 else depth
          readRegion nested fuel depth region (d.add quoted c)
        | ')' =>
          if region = .sum then
            if depth = 0 then
              if (← peek) = some ')' then
                advance
                return d
              else readRegion nested fuel depth region (d.add quoted c)
            else readRegion nested fuel (depth - 1) region (d.add quoted c)
          else readRegion nested fuel depth region (d.add quoted c)
        | c => readRegion nested fuel depth region (d.add quoted c)

/-! ### Tokens -/

/-- Skips blanks and comments, `fuel` characters at most. -/
def skipBlanks : Nat → Parse Unit
  | 0 => return
  | fuel + 1 => do
    match ← peek with
    | some ' ' => advance; skipBlanks fuel
    | some '\t' => advance; skipBlanks fuel
    | some '#' =>
      modify fun r => { r with rest := r.rest.dropWhile (· ≠ '\n') }
      let _ ← peekRaw
      return
    | _ => return

/-- Takes the next character if it is the given one. -/
def takeIf (c : Char) : Parse Bool := do
  if (← peek) = some c then
    advance
    return true
  else return false

/-- Reads the rest of a redirection behind its first sign. -/
def readRedirection (sign : Char) (fd : Option Nat) : Parse Token := do
  advance
  if sign == '>' then
    let fd := fd.getD 1
    if ← takeIf '>' then return .redirection fd (.file .append true)
    else if ← takeIf '|' then return .redirection fd (.file .overwrite true)
    else if ← takeIf '&' then return .redirection fd .duplicate
    else return .redirection fd (.file .overwrite false)
  else
    let fd := fd.getD 0
    if ← takeIf '<' then return .redirection fd (.document (← takeIf '-'))
    else if ← takeIf '&' then return .redirection fd .duplicate
    else if ← takeIf '>' then return .redirection fd (.file .update true)
    else return .redirection fd (.file .read true)

/-- Reads a word, or the redirection that it turns out to be. -/
def readWord (nested : Nested) : Parse Token := do
  let d ← readRegion nested (← budget) 0 .bare {}
  let sign ← peek
  match sign, d.isPlain, d.text with
  | some '<', true, [] => readRedirection '<' none
  | some '>', true, [] => readRedirection '>' none
  | some '<', true, [c] =>
    if c.isDigit && d.parts.isEmpty then readRedirection '<' (some (c.toNat - 48))
    else return .word d.word (some (String.ofList [c]))
  | some '>', true, [c] =>
    if c.isDigit && d.parts.isEmpty then readRedirection '>' (some (c.toNat - 48))
    else return .word d.word (some (String.ofList [c]))
  | _, isPlain, text =>
    return .word d.word (if isPlain then some (String.ofList text.reverse) else none)

/-- Reads a token as it stands. -/
def readRaw (nested : Nested) : Parse Token := do
  let r ← get
  match r.pushed with
  | some token =>
    set { r with pushed := none }
    return token
  | none =>
    skipBlanks (← budget)
    match ← peek with
    | none => return .ending
    | some '\n' => advance; return .newline
    | some '&' =>
      advance
      return .operator (if ← takeIf '&' then "&&" else "&")
    | some '|' =>
      advance
      return .operator (if ← takeIf '|' then "||" else "|")
    | some ';' =>
      advance
      return .operator (if ← takeIf ';' then ";;" else ";")
    | some '(' => advance; return .operator "("
    | some ')' => advance; return .operator ")"
    | some _ => readWord nested

/-- Pushes a token back. -/
def pushBack (token : Token) : Parse Unit :=
  modify fun r => { r with pushed := some token }

/-- The lines of a document up to its mark, last one first, `fuel` of them at most. -/
def takeDocument (a : Awaited) : Nat → List (List Char) → Parse (List (List Char))
  | 0, lines => return lines
  | fuel + 1, lines => do
    let r ← get
    let rest := if a.dropsTabs then r.rest.dropWhile (· == '\t') else r.rest
    let line := rest.takeWhile (· ≠ '\n')
    match rest.dropWhile (· ≠ '\n') with
    | [] =>
      if r.more then throw .incomplete
      set { r with rest := [] }
      return if line.isEmpty || String.ofList line = a.mark then lines else line :: lines
    | _ :: rest =>
      set { r with rest, line := r.line + 1 }
      if String.ofList line = a.mark then return lines
      else takeDocument a fuel ((line ++ ['\n']) :: lines)

/-- Reads a document. -/
def readDocument (nested : Nested) (a : Awaited) : Parse Unit := do
  let text := (← takeDocument a (← budget) []).reverse.flatten
  let word ← if a.quoted then pure [.text (String.ofList text) true]
    else within text do
      return (← readRegion nested (← budget) 0 .document {}).word
  modify fun r => { r with documents := r.documents.setIfInBounds a.number word }

/-- Reads the documents that stand behind the end of a line. -/
def readDocuments (nested : Nested) : Parse Unit := do
  let awaited := (← get).awaited
  modify fun r => { r with awaited := [] }
  awaited.forM (readDocument nested)

/-- Reads a token, and line ends before it if they do not matter, `fuel` of them at most. -/
def readPast (nested : Nested) (newlines : Bool) : Nat → Parse Token
  | 0 => return .ending
  | fuel + 1 => do
    match ← readRaw nested with
    | .newline =>
      if newlines then
        readDocuments nested
        readPast nested newlines fuel
      else return .newline
    | token => return token

/-- What a token may be besides an operator or a word. -/
structure TokenPlace where
  /-- Whether line ends before it do not matter. -/
  skipsLines : Bool := false
  /-- Whether a word may have a meaning of its own. -/
  hasKeywords : Bool := false
  /-- Whether a word may stand for another text. -/
  hasAliases : Bool := false

namespace TokenPlace

/-- Inside a command. -/
def inside : TokenPlace := {}

/-- Where a command may begin. -/
def command : TokenPlace := { hasKeywords := true, hasAliases := true }

/-- Where a command may begin, perhaps on a later line. -/
def later : TokenPlace := { command with skipsLines := true }

/-- Where a pattern may begin, perhaps on a later line. -/
def pattern : TokenPlace := { skipsLines := true, hasKeywords := true }

end TokenPlace

/-- Ends the substitutions that have been read to their ends; the result is whether the word that
has been read behind them may stand for another text. -/
def endSubstitutions : Parse Bool := do
  let r ← get
  if r.substitutions.isEmpty then return false
  let left := r.rest.length
  let (ended, underway) := r.substitutions.partition fun s => left < s.behind
  set { r with substitutions := underway }
  return ended.any Substitution.endsInBlank

/-- The text that a word stands for, unless the word is a part of that text. -/
def Reader.substitute? (r : Reader) (word : String) : Option Reader :=
  if r.substitutions.any fun s => s.word == word then none
  else (r.aliases.lookup word).map fun text =>
    let endsInBlank := text.endsWith " " || text.endsWith "\t"
    { r with
      rest := text.toList ++ r.rest
      substitutions := ⟨word, r.rest.length, endsInBlank⟩ :: r.substitutions }

/-- Reads a token, and what words stand for, `fuel` of them at most. -/
def readTokenIn (nested : Nested) (place : TokenPlace) : Nat → Parse Token
  | 0 => return .ending
  | fuel + 1 => do
    let token ← readPast nested place.skipsLines (← budget)
    let follows ← endSubstitutions
    match token with
    | .word parts (some plain) =>
      if place.hasKeywords && keywords.contains plain then return .keyword plain
      else if place.hasAliases || follows then
        match (← get).substitute? plain with
        | some r =>
          set r
          readTokenIn nested { place with hasAliases := true } fuel
        | none => return .word parts (some plain)
      else return .word parts (some plain)
    | token => return token

/-- Reads a token. -/
def readToken (nested : Nested) (place : TokenPlace) : Parse Token := do
  readTokenIn nested place (← budget)

/-- Fails on a token, where another one was expected. -/
def unexpected {α : Type} (token : Token) (expected : Option Token) : Parse α :=
  match expected with
  | none => wrong s!"{token.shown} unexpected"
  | some other =>
    let expecting := other.shown
    wrong s!"{token.shown} unexpected (expecting {expecting})"

end PipeShell.Script
