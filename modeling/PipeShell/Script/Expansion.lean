import PipeShell.Script.Arithmetic
import PipeShell.Script.Pattern
import PipeShell.Script.State

/-!
# Expanding words

What words stand for: parameters get their values, commands are replaced by what they write,
arithmetic is done, the result is cut into fields, and fields with wildcards become the names of
files.

* `expandFields` makes fields out of words, as the arguments of a command need them.
* `expandText` makes one text, as an assignment needs it; `expandMarked` keeps what is quoted, as
  a pattern needs it.
-/

namespace PipeShell.Script

/-- A piece of an expanded word. -/
inductive Piece where
  /-- Characters: whether they are quoted, and whether separators among them count. -/
  | chars (text : String) (quoted splits : Bool)
  /-- The end of a field in any case. -/
  | break
  deriving Repr

/-- How the output of a command is taken; it sets the status too. -/
abbrev Taker := Command → Step String

/-! ### Values -/

/-- Puts breaks between the pieces of several texts. -/
def piecesOf (quoted : Bool) (texts : List String) : List Piece :=
  List.intercalate [.break] (texts.map fun text => [.chars text quoted (!quoted)])

/-- The pieces that a value stands for. -/
def valuePieces (quoted : Bool) (value : String) : List Piece :=
  [.chars value quoted (!quoted)]

/-- The pieces of all arguments. -/
def argumentPieces (name : String) (quoted : Bool) : Step (List Piece) := do
  let s ← get
  if name = "*" && quoted then
    let joint := match s.separators with
      | [] => ""
      | c :: _ => String.ofList [c]
    return valuePieces true (joint.intercalate s.arguments)
  else return piecesOf quoted s.arguments

/-- Fails because a parameter has no value. -/
def failUnset {α : Type} (name message : String) : Step α :=
  fail s!"{name}: {message}" 2

/-- The value of a parameter, which may be missing unless a script asks for strictness. -/
def strictValue (name : String) : Step (Option String) := do
  let s ← get
  match s.parameter? name with
  | some value => return some value
  | none => if s.options.contains 'u' then failUnset name "parameter not set" else return none

/-- The text of pieces. -/
def textOf (pieces : List Piece) : String :=
  String.join (pieces.map fun
    | .chars text _ _ => text
    | .break => " ")

/-- The characters of pieces, with what is quoted. -/
def markedOf (pieces : List Piece) : List Marked :=
  pieces.flatMap fun
    | .chars text quoted _ => text.toList.map fun c => ⟨c, quoted⟩
    | .break => [⟨' ', false⟩]

/-- Replaces a tilde in front of a word by a path, if nothing but unquoted characters stands
before the first slash. -/
def expandTilde (inAssignment : Bool) (word : Word) : Step Word := do
  match word with
  | .text text false :: rest =>
    match text.toList with
    | '~' :: chars =>
      let ends (c : Char) : Bool := c == '/' || (inAssignment && c == ':')
      let user := chars.takeWhile fun c => !ends c
      let behind := chars.drop user.length
      if behind.isEmpty && !rest.isEmpty then return word
      else
        let home ← if user.isEmpty then pure ((← get).value? "HOME")
          else pure (if user = "root".toList then some "/root" else none)
        match home with
        | some path => return .text path true :: .text (String.ofList behind) false :: rest
        | none => return word
    | _ => return word
  | _ => return word

/-! ### Parts -/

/-- What an arithmetic expression comes to. -/
def evaluate (text : String) : Step Int := do
  let s ← get
  let value (name : String) : Except Sum.Failure Int :=
    let text := (s.value? name).getD ""
    match integerOf? text with
    | some n => .ok n
    | none => .error (.illegal text)
  let (result, made) := ((Sum.read text.toList).eval value true).run []
  made.reverse.forM fun (name, m) => assign name (toString m)
  match result with
  | .ok n => return n
  | .error (.illegal value) => fail s!"Illegal number: {value}" 2
  | .error (.wrong message) => fail s!"arithmetic expression: {message}: \"{text}\"" 2

/-- The pieces of a part of a word; `depth` bounds how often words stand inside one another.
Unquoted characters are cut at separators if `splits`. -/
def expandPart (take : Taker) : Nat → Bool → WordPart → Step (List Piece)
  | 0, _, _ => return []
  | depth + 1, splits, part => do
    let inner (word : Word) : Step (List Piece) := do
      let word ← expandTilde false word
      return (← word.mapM (expandPart take depth true)).flatten
    let plain (word : Word) : Step (List Piece) := do
      let word ← expandTilde false word
      return (← word.mapM (expandPart take depth false)).flatten
    match part with
    | .text text quoted => return [.chars text quoted (splits && !quoted)]
    | .output body quoted =>
      let text ← take body
      return valuePieces quoted text
    | .sum expression quoted =>
      let pieces ← expression.mapM (expandPart take depth false)
      return valuePieces quoted (toString (← evaluate (textOf pieces.flatten)))
    | .parameter name use quoted =>
      let isList := name = "@" ∨ name = "*"
      let value : Step (Option (List Piece)) := do
        if isList then
          let pieces ← argumentPieces name quoted
          return if (← get).arguments.isEmpty then none else some pieces
        else return ((← get).parameter? name).map (valuePieces quoted)
      let isMissing (nullToo : Bool) (value : Option (List Piece)) : Bool :=
        match value with
        | none => true
        | some pieces => nullToo && (textOf pieces).isEmpty
      match use with
      | .bad => fail "Bad substitution" 2
      | .value =>
        if isList then argumentPieces name quoted
        else return match ← strictValue name with
          | some text => valuePieces quoted text
          | none => if quoted then [.chars "" true false] else []
      | .length =>
        let text ← if isList then pure (textOf (← argumentPieces name true))
          else pure ((← strictValue name).getD "")
        return valuePieces quoted (toString text.length)
      | .fallback nullToo word =>
        let value ← value
        if isMissing nullToo value then inner word else return value.getD []
      | .instead nullToo word =>
        if isMissing nullToo (← value) then return if quoted then [.chars "" true false] else []
        else inner word
      | .assign nullToo word =>
        let value ← value
        if isMissing nullToo value then
          if !isName name then fail s!"{name}: bad variable name" 2
          let text := textOf (← plain word)
          assign name text
          return valuePieces quoted text
        else return value.getD []
      | .demand nullToo word =>
        let value ← value
        if isMissing nullToo value then
          let standard := if nullToo then "parameter not set or null" else "parameter not set"
          let message := textOf (← plain word)
          failUnset name (if word.isEmpty then standard else message)
        else return value.getD []
      | .trimFront longest pattern =>
        let text ← if isList then pure (textOf (← argumentPieces name true))
          else pure ((← strictValue name).getD "")
        let pattern := Pattern.read (markedOf (← plain pattern))
        return valuePieces quoted (String.ofList (pattern.trimFront longest text.toList))
      | .trimBack longest pattern =>
        let text ← if isList then pure (textOf (← argumentPieces name true))
          else pure ((← strictValue name).getD "")
        let pattern := Pattern.read (markedOf (← plain pattern))
        return valuePieces quoted (String.ofList (pattern.trimBack longest text.toList))

/-- How often words may stand inside one another. -/
def maxDepth : Nat := 10000

/-- The pieces of a word. -/
def expandPieces (take : Taker) (inAssignment : Bool) (word : Word) : Step (List Piece) := do
  let word ← expandTilde inAssignment word
  return (← word.mapM (expandPart take maxDepth false)).flatten

/-- The text of a word. -/
def expandText (take : Taker) (inAssignment : Bool) (word : Word) : Step String := do
  return textOf (← expandPieces take inAssignment word)

/-- The characters of a word, with what is quoted. -/
def expandMarked (take : Taker) (word : Word) : Step (List Marked) := do
  return markedOf (← expandPieces take false word)

/-! ### Fields -/

/-- Fields under construction: everything is given last one first. -/
structure Fields where
  /-- The finished fields. -/
  finished : List (List Marked) := []
  /-- The field that has begun. -/
  current : Option (List Marked) := none
  /-- Whether blanks have ended the last field, so that a separator belongs to its end. -/
  endedByBlank : Bool := false

namespace Fields

/-- Ends the field, if one has begun. -/
def close (f : Fields) (byBlank : Bool) : Fields :=
  match f.current with
  | none => f
  | some field =>
    { finished := field.reverse :: f.finished, current := none, endedByBlank := byBlank }

/-- Adds a character to the field. -/
def add (f : Fields) (m : Marked) : Fields :=
  { f with current := some (m :: f.current.getD []), endedByBlank := false }

/-- Adds a character that ends a field if it is a separator. -/
def addOrCut (separators : List Char) (f : Fields) (c : Char) : Fields :=
  if separators.contains c then
    if c == ' ' || c == '\t' || c == '\n' then f.close true
    else match f.current with
      | some _ => f.close false
      | none =>
        if f.endedByBlank then { f with endedByBlank := false }
        else { f with finished := [] :: f.finished }
  else f.add ⟨c, false⟩

/-- Adds a piece. -/
def addPiece (separators : List Char) (f : Fields) : Piece → Fields
  | .break => f.close false
  | .chars text quoted splits =>
    if splits then text.toList.foldl (addOrCut separators) f
    else
      let f := if quoted then { f with current := some (f.current.getD []) } else f
      text.toList.foldl (fun f c => f.add ⟨c, quoted⟩) f

end Fields

/-- The fields of pieces. -/
def fieldsOf (separators : List Char) (pieces : List Piece) : List (List Marked) :=
  ((pieces.foldl (Fields.addPiece separators) {}).close false).finished.reverse

/-! ### Names of files -/

/-- The characters of a field. -/
def plainText (field : List Marked) : String :=
  String.ofList (field.map Marked.char)

/-- Whether something stands at a path. -/
def stands (path : String) : Program Bool := do
  match ← Program.examine path with
  | .ok _ => return true
  | .error _ => return false

/-- The names in a directory that a pattern matches, in order. A dot in front must be matched by
a dot. -/
def matchingNames (directory : String) (part : List Marked) : Program (List String) := do
  match ← Program.names directory with
  | .error _ => return []
  | .ok names =>
    let pattern := Pattern.read part
    let showsHidden := part.head?.any fun m => m.char == '.'
    let names := if showsHidden then "." :: ".." :: names else names
    let found := names.filter fun name =>
      pattern.isMatch name.toList && (showsHidden || !name.startsWith ".")
    return found.mergeSort fun a b => a ≤ b

/-- The paths that the parts of a pattern between slashes match, behind a path. -/
def matchingPaths : String → List (List Marked) → Program (List String)
  | front, [] => return [front]
  | front, [part] => do
    if Pattern.hasWildcard part then
      return (← matchingNames (if front.isEmpty then "." else front) part).map (front ++ ·)
    else
      let path := front ++ plainText part
      return if ← stands path then [path] else []
  | front, part :: rest => do
    if Pattern.hasWildcard part then
      let names ← matchingNames (if front.isEmpty then "." else front) part
      return (← names.mapM fun name => matchingPaths (front ++ name ++ "/") rest).flatten
    else matchingPaths (front ++ plainText part ++ "/") rest

/-- The parts of a field between slashes. -/
def partsOf (field : List Marked) : List (List Marked) :=
  let (parts, part) := field.foldr (fun m (parts, part) =>
    if m.char == '/' then (part :: parts, []) else (parts, m :: part))
    (([], []) : List (List Marked) × List Marked)
  part :: parts

/-- The names of files that a field stands for; the field itself if there are none. -/
def expandWildcards (field : List Marked) : Step (List String) := do
  let pattern := Pattern.resolve field
  if Pattern.hasWildcard pattern && !(← hasOption 'f') then
    match ← act (matchingPaths "" (partsOf pattern)) with
    | [] => return [plainText field]
    | paths => return paths
  else return [plainText field]

/-- The fields that words stand for. -/
def expandFields (take : Taker) (words : List Word) : Step (List String) := do
  let fields ← words.mapM fun word => do
    let pieces ← expandPieces take false word
    let fields := fieldsOf (← get).separators pieces
    return (← fields.mapM expandWildcards).flatten
  return fields.flatten

end PipeShell.Script
