import PipeShell.Text.CharacterClass

/-!
# Patterns of a script

Patterns with wildcards: a question mark stands for one character, a star for any number of them,
and brackets for one of a set. A quoted character stands for itself.

* `Pattern.read` reads a pattern, `Pattern.isMatch` matches a whole text.
* `Pattern.trimFront` and `Pattern.trimBack` take away what a pattern matches.
-/

namespace PipeShell.Script

/-- A character of a word, and whether it is quoted. -/
structure Marked where
  /-- The character. -/
  char : Char
  /-- Whether it is quoted. -/
  quoted : Bool
  deriving DecidableEq, Repr

/-- One place of a pattern. -/
inductive PatternItem where
  /-- One character. -/
  | char (c : Char)
  /-- Any character. -/
  | any
  /-- Any number of characters. -/
  | many
  /-- A character of a set. -/
  | set (holds : Char → Bool)

/-- A pattern. -/
abbrev Pattern := List PatternItem

namespace Pattern

/-- Whether a pattern matches the whole of a text. -/
def isMatch : Pattern → List Char → Bool
  | [], text => text.isEmpty
  | .char c :: rest, text =>
    match text with
    | [] => false
    | d :: text => c == d && isMatch rest text
  | .any :: rest, text =>
    match text with
    | [] => false
    | _ :: text => isMatch rest text
  | .set holds :: rest, text =>
    match text with
    | [] => false
    | d :: text => holds d && isMatch rest text
  | .many :: rest, text =>
    isMatch rest text ||
      match text with
      | [] => false
      | _ :: text => isMatch (.many :: rest) text
termination_by p text => (p.length, text.length)

/-! ### Reading a pattern -/

/-- A text in which a backslash that is not quoted quotes the character behind it. -/
def resolve : List Marked → List Marked
  | [] => []
  | [m] => if m.char == '\\' then [⟨'\\', true⟩] else [m]
  | m :: n :: rest =>
    if m.char == '\\' && !m.quoted then ⟨n.char, true⟩ :: resolve rest
    else m :: resolve (n :: rest)

/-- A member of a set: a class with a name, between its brackets. -/
def readClass? (text : List Marked) : Option ((Char → Bool) × List Marked) :=
  match text with
  | ⟨'[', _⟩ :: ⟨':', _⟩ :: rest =>
    let name := (rest.takeWhile fun m => m.char ≠ ':').map Marked.char
    match rest.dropWhile fun m => m.char ≠ ':' with
    | ⟨':', _⟩ :: ⟨']', _⟩ :: rest =>
      (Text.characterClass? (String.ofList name)).map fun holds => (holds, rest)
    | _ => none
  | _ => none

/-- Reads the members of a set up to its closing bracket, `fuel` of them at most. -/
def readMembers : Nat → Bool → (Char → Bool) → List Marked → Option ((Char → Bool) × List Marked)
  | 0, _, _, _ => none
  | _, _, _, [] => none
  | fuel + 1, isFirst, holds, m :: rest =>
    if m.char == ']' && !m.quoted && !isFirst then some (holds, rest)
    else match readClass? (m :: rest) with
      | some (more, rest) => readMembers fuel false (fun c => holds c || more c) rest
      | none =>
        match rest with
        | ⟨'-', false⟩ :: last :: rest' =>
          if last.char == ']' && !last.quoted then
            readMembers fuel false (fun c => holds c || c == m.char) rest
          else readMembers fuel false
            (fun c => holds c || (m.char ≤ c && c ≤ last.char)) rest'
        | rest => readMembers fuel false (fun c => holds c || c == m.char) rest

/-- Reads a set behind its opening bracket. -/
def readSet? (text : List Marked) : Option ((Char → Bool) × List Marked) :=
  let none' : Char → Bool := fun _ => false
  match text with
  | ⟨'!', false⟩ :: rest => negate (readMembers (rest.length + 1) true none' rest)
  | ⟨'^', false⟩ :: rest => negate (readMembers (rest.length + 1) true none' rest)
  | rest => readMembers (rest.length + 1) true none' rest
where
  /-- The set of all other characters. -/
  negate : Option ((Char → Bool) × List Marked) → Option ((Char → Bool) × List Marked) :=
    Option.map fun (holds, rest) => (fun c => !holds c, rest)

/-- Reads a pattern, `fuel` items at most. -/
def readItems : Nat → List Marked → Pattern
  | 0, _ => []
  | _, [] => []
  | fuel + 1, m :: rest =>
    if m.quoted then .char m.char :: readItems fuel rest
    else match m.char with
      | '*' => .many :: readItems fuel rest
      | '?' => .any :: readItems fuel rest
      | '[' =>
        match readSet? rest with
        | some (holds, rest) => .set holds :: readItems fuel rest
        | none => .char '[' :: readItems fuel rest
      | c => .char c :: readItems fuel rest

/-- Reads a pattern. -/
def read (text : List Marked) : Pattern :=
  readItems text.length (resolve text)

/-- Whether a text has a wildcard. -/
def hasWildcard (text : List Marked) : Bool :=
  text.any fun m => !m.quoted && ['*', '?', '['].contains m.char

/-! ### Trimming -/

/-- Takes away what the pattern matches at the front, as little or as much as possible. -/
def trimFront (pattern : Pattern) (longest : Bool) (text : List Char) : List Char :=
  let sizes := List.range (text.length + 1)
  match (if longest then sizes.reverse else sizes).find? fun n => pattern.isMatch (text.take n) with
  | some n => text.drop n
  | none => text

/-- Takes away what the pattern matches at the back, as little or as much as possible. -/
def trimBack (pattern : Pattern) (longest : Bool) (text : List Char) : List Char :=
  let sizes := List.range (text.length + 1)
  match (if longest then sizes else sizes.reverse).find? fun n => pattern.isMatch (text.drop n) with
  | some n => text.take n
  | none => text

end Pattern

end PipeShell.Script
