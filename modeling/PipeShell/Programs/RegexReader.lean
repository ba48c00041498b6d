import PipeShell.Programs.Regex

/-!
# Reading regular expressions

The two notations of regular expressions: the basic one, in which a backslash gives parentheses,
braces and the like their meaning, and the extended one, in which it takes it away.

`Regex.read` reads an expression, with warnings about repetitions of nothing.
-/

namespace PipeShell.Programs.Regex

/-- How an expression is read. -/
structure Style where
  /-- Whether the notation is the extended one. -/
  extended : Bool := false
  /-- Whether letters of either case are the same. -/
  foldsCase : Bool := false
  /-- Whether, in the basic notation, the signs `+` and `?` need no backslash. Then a backslash
  takes their meaning away, and no limits can be given. -/
  bareSigns : Bool := false

/-- Where the reading stands. -/
structure Reading where
  /-- The characters that have not been read. -/
  rest : List Char
  /-- How many groups have begun. -/
  groups : Nat := 0
  /-- The groups that have ended. -/
  closed : List Nat := []
  /-- How many groups are open. -/
  depth : Nat := 0
  /-- The warnings, last one first. -/
  warnings : List String := []

/-- A reader of a part of an expression. -/
abbrev Read := StateT Reading (Except String)

/-! ### Characters -/

/-- A character, or a kind of them, as an expression. -/
def ofKind (n : Style) (belongs : Char → Bool) : Regex :=
  if n.foldsCase then .char fun c => belongs c || belongs c.toLower || belongs c.toUpper
  else .char belongs

/-- Whether a character may stand in a word. -/
def isWordChar (c : Char) : Bool :=
  c.isAlphanum || c == '_'

/-- The kind of white space. -/
def isSpace (c : Char) : Bool :=
  c == ' ' || ('\t' ≤ c && c ≤ '\r')

/-- The place before a word. -/
def wordStart : Regex :=
  .place fun a b => !a.any isWordChar && b.any isWordChar

/-- The place behind a word. -/
def wordEnd : Regex :=
  .place fun a b => a.any isWordChar && !b.any isWordChar

/-- A place inside a word, or outside of all. -/
def noWordEdge : Regex :=
  .place fun a b => a.any isWordChar == b.any isWordChar

/-- What cannot be matched. -/
def nothing : Regex :=
  .place fun _ _ => false

/-! ### Sets of characters -/

/-- The message about a set that is not closed. -/
def unclosedSet : String :=
  "Unmatched [, [^, [:, [., or [="

/-- Reads what stands between two signs inside a set, as the name of a class does. -/
def readNamed (sign : Char) : List Char → Except String (List Char × List Char)
  | [] => .error unclosedSet
  | c :: rest =>
    match rest with
    | ']' :: behind => if c = sign then .ok ([], behind) else
      (readNamed sign rest).map fun (name, behind) => (c :: name, behind)
    | _ => (readNamed sign rest).map fun (name, behind) => (c :: name, behind)

/-- Reads the end of a range, or a single character, of a set. -/
def readMember : List Char → Except String (Char × List Char)
  | '[' :: '.' :: rest => do
    match ← readNamed '.' rest with
    | ([c], rest) => return (c, rest)
    | _ => throw "Invalid collation character"
  | c :: rest => .ok (c, rest)
  | [] => .error unclosedSet

/-- Reads the members of a set behind the ones that are known, `fuel` of them at most. -/
def readMembers : Nat → Bool → (Char → Bool) → List Char →
    Except String ((Char → Bool) × List Char)
  | 0, _, _, _ => .error unclosedSet
  | _, _, _, [] => .error unclosedSet
  | fuel + 1, isFirst, belongs, text =>
    match text with
    | '[' :: ':' :: rest => do
      let (name, rest) ← readNamed ':' rest
      match Text.characterClass? (String.ofList name), rest with
      | none, _ => throw "Invalid character class name"
      | some inClass, '-' :: ']' :: _ =>
        readMembers fuel false (fun c => belongs c || inClass c) rest
      | some _, '-' :: _ => throw "Invalid range end"
      | some inClass, _ => readMembers fuel false (fun c => belongs c || inClass c) rest
    | '[' :: '=' :: rest => do
      let (name, rest) ← readNamed '=' rest
      match name with
      | [d] => readMembers fuel false (fun c => belongs c || c == d) rest
      | _ => throw "Invalid collation character"
    | c :: behind =>
      if c == ']' && !isFirst then .ok (belongs, behind)
      else do
        let (low, rest) ← readMember text
        match rest with
        | '-' :: ']' :: rest =>
          return (fun c => belongs c || c == low || c == '-', rest)
        | '-' :: rest =>
          let (high, rest) ← readMember rest
          if high < low then throw "Invalid range end"
          readMembers fuel false (fun c => belongs c || (low ≤ c && c ≤ high)) rest
        | rest => readMembers fuel false (fun c => belongs c || c == low) rest
    | [] => .error unclosedSet

/-- Reads a set behind its bracket. -/
def readSet (n : Style) : Read Regex := do
  let r ← get
  let (negated, text) := match r.rest with
    | '^' :: rest => (true, rest)
    | rest => (false, rest)
  if text.isEmpty then throw "Invalid regular expression"
  let (belongs, rest) ← readMembers (text.length + 1) true (fun _ => false) text
  let inner := (text.take (text.length - rest.length - 1))
  let isPlain := !inner.contains '[' && !inner.contains '-'
  let isClass := inner.head? = some ':' && inner.getLast? = some ':'
  if !negated && isPlain && 2 < inner.length && isClass then
    throw "character class syntax is [[:space:]], not [:space:]"
  set { r with rest }
  if negated then
    match ofKind n belongs with
    | .char belongs => return .char fun c => !belongs c && c != '\n'
    | other => return other
  else return ofKind n belongs

/-! ### Repetitions -/

/-- How often anything may be repeated. -/
def maxRepeats : Nat := 32767

/-- Reads the limits of a repetition and what ends them. -/
def readLimits (extended : Bool) (text : List Char) : Option (Nat × Option Nat × List Char) :=
  let value (digits : List Char) : Nat := digits.foldl (fun n c => 10 * n + (c.toNat - 48)) 0
  let low := text.takeWhile Char.isDigit
  let close (least : Nat) (most : Option Nat) (rest : List Char) :
      Option (Nat × Option Nat × List Char) :=
    match extended, rest with
    | true, '\x7d' :: rest => some (least, most, rest)
    | false, '\\' :: '\x7d' :: rest => some (least, most, rest)
    | _, _ => none
  match text.drop low.length with
  | ',' :: rest =>
    let high := rest.takeWhile Char.isDigit
    close (value low) (if high.isEmpty then none else some (value high)) (rest.drop high.length)
  | rest => if low.isEmpty then none else close (value low) (some (value low)) rest

/-- Checks the limits of a repetition. -/
def repeated (least : Nat) (most : Option Nat) (a : Regex) : Read Regex := do
  if most.any (· < least) then throw "Invalid content of \\\x7b\\\x7d"
  if maxRepeats < least || most.any (maxRepeats < ·) then throw "Regular expression too big"
  return .many least most a

/-- Reads the repetitions behind an expression, `fuel` of them at most. -/
def readRepeats (n : Style) : Nat → Regex → Read Regex
  | 0, a => return a
  | fuel + 1, a => do
    let r ← get
    let go (least : Nat) (most : Option Nat) (rest : List Char) : Read Regex := do
      set { r with rest }
      readRepeats n fuel (← repeated least most a)
    let isBare := n.extended || n.bareSigns
    match n.extended, r.rest with
    | _, '*' :: rest => go 0 none rest
    | _, '+' :: rest => if isBare then go 1 none rest else return a
    | _, '?' :: rest => if isBare then go 0 (some 1) rest else return a
    | false, '\\' :: '+' :: rest => if isBare then return a else go 1 none rest
    | false, '\\' :: '?' :: rest => if isBare then return a else go 0 (some 1) rest
    | true, '\x7b' :: text =>
      match readLimits true text with
      | some (least, most, rest) => go least most rest
      | none => return a
    | false, '\\' :: '\x7b' :: text =>
      if isBare then return a
      match readLimits false text with
      | some (least, most, rest) => go least most rest
      | none =>
        if text.contains '\x7d' then throw "Invalid content of \\\x7b\\\x7d"
        else throw "Unmatched \\\x7b"
    | _, _ => return a

/-! ### Expressions -/

/-- Reads what a backslash makes of a character that is no operator. -/
def readEscaped (n : Style) (c : Char) : Read Regex := do
  match c with
  | 'w' => return ofKind n isWordChar
  | 'W' => return .char fun c => !isWordChar c
  | 's' => return ofKind n isSpace
  | 'S' => return .char fun c => !isSpace c
  | '<' => return wordStart
  | '>' => return wordEnd
  | 'b' => return .choice wordStart wordEnd
  | 'B' => return noWordEdge
  | '\x60' => return .place fun a _ => a.isNone
  | '\x27' => return .place fun _ b => b.isNone
  | c =>
    if c.isDigit && c != '0' then
      let number := c.toNat - 48
      if (← get).closed.contains number then return .back number
      else throw "Invalid back reference"
    else return ofKind n (· == c)

/-- Whether a text begins with the end of a branch; `inGroup` says whether a group is open. -/
def endsBranch (n : Style) (inGroup : Bool) : List Char → Bool
  | [] => true
  | '|' :: _ => n.extended
  | ')' :: _ => n.extended && inGroup
  | '\\' :: '|' :: _ => !n.extended
  | '\\' :: ')' :: _ => !n.extended
  | _ => false

/-- Reads a group, given the reader of what stands in it. -/
def readGroup (n : Style) (whole : Read Regex) : Read Regex := do
  let number := (← get).groups + 1
  modify fun r => { r with groups := number, depth := r.depth + 1 }
  let a ← whole
  let r ← get
  let close (rest : List Char) : Read Regex := do
    set { r with rest, depth := r.depth - 1, closed := number :: r.closed }
    return .group number a
  match n.extended, r.rest with
  | true, ')' :: rest => close rest
  | false, '\\' :: ')' :: rest => close rest
  | _, _ => throw "Unmatched ( or \\("

/-- Reads an expression that no repetition follows; `isFirst` says whether a branch begins. -/
def readAtom (n : Style) (whole : Read Regex) (isFirst : Bool) : Read Regex := do
  let r ← get
  let take (rest : List Char) (a : Regex) : Read Regex := do
    set { r with rest }
    return a
  -- a repetition of nothing
  let idle (rest : List Char) (sign : String) : Read Regex := do
    set { r with rest, warnings := (sign ++ " at start of expression") :: r.warnings }
    return .empty
  match n.extended, r.rest with
  | _, [] => return .empty
  | true, '(' :: rest =>
    set { r with rest }
    readGroup n whole
  | false, '\\' :: '(' :: rest =>
    set { r with rest }
    readGroup n whole
  | true, '^' :: rest => take rest (.place fun a _ => a.isNone)
  | true, '$' :: rest => take rest (.place fun _ b => b.isNone)
  | false, '^' :: rest =>
    take rest (if isFirst then .place fun a _ => a.isNone else ofKind n (· == '^'))
  | false, '$' :: rest =>
    take rest (if endsBranch n (r.depth ≠ 0) rest then .place fun _ b => b.isNone
      else ofKind n (· == '$'))
  | _, '.' :: rest => take rest (.char (· != '\n'))
  | _, '[' :: rest =>
    set { r with rest }
    readSet n
  | true, '\x7b' :: text =>
    match readLimits true text with
    | some (_, _, rest) =>
      idle rest "\x7b...\x7d"
    | none => take text (ofKind n (· == '\x7b'))
  | _, ['\\'] => throw "Trailing backslash"
  | _, '\\' :: c :: rest =>
    set { r with rest }
    readEscaped n c
  | true, '*' :: rest => idle rest "*"
  | true, '+' :: rest => idle rest "+"
  | true, '?' :: rest => idle rest "?"
  | _, c :: rest => take rest (ofKind n (· == c))

/-- Whether a text begins with the sign for the beginning of a line. -/
def beginsWithAnchor (n : Style) (isFirst : Bool) : List Char → Bool
  | '^' :: _ => isFirst || n.extended
  | _ => false

/-- Reads one branch behind the part that has been read, `fuel` steps at most. -/
def readBranch (n : Style) (whole : Read Regex) : Nat → Bool → Regex → Read Regex
  | 0, _, a => return a
  | fuel + 1, isFirst, a => do
    let r ← get
    if endsBranch n (r.depth ≠ 0) r.rest then return a
    let isAnchor := beginsWithAnchor n isFirst r.rest
    let atom ← readAtom n whole isFirst
    -- behind an anchor a branch has not really begun
    if isAnchor then readBranch n whole fuel true (.sequence a atom)
    else readBranch n whole fuel false (.sequence a (← readRepeats n r.rest.length atom))

/-- Reads all branches, given the reader of groups inside them, `fuel` branches at most. -/
def readBranches (n : Style) (whole : Read Regex) : Nat → Read Regex
  | 0 => return .empty
  | fuel + 1 => do
    let a ← readBranch n whole ((← get).rest.length + 1) true .empty
    let r ← get
    let more (rest : List Char) : Read Regex := do
      set { r with rest }
      return .choice a (← readBranches n whole fuel)
    match n.extended, r.rest with
    | true, '|' :: rest => more rest
    | false, '\\' :: '|' :: rest => more rest
    | _, _ => return a

/-- Reads an expression with so many levels of groups at most. -/
def readWhole (n : Style) : Nat → Read Regex
  | 0 => throw "Regular expression too big"
  | levels + 1 => do readBranches n (readWhole n levels) ((← get).rest.length + 1)

/-- Reads an expression, with warnings. -/
def read (n : Style) (text : String) : Except String (Regex × List String) := do
  let chars := text.toList
  let (a, r) ← (readWhole n (chars.length + 1)).run { rest := chars }
  match r.rest with
  | [] => return (a, r.warnings.reverse)
  | _ => throw "Unmatched ) or \\)"

end PipeShell.Programs.Regex
