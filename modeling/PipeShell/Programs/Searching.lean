import PipeShell.Programs.RegexReader
import PipeShell.Programs.Tool
import PipeShell.Text.Integer

/-!
# Searching for lines

The program that shows the lines of its inputs that a pattern matches. Lines are looked at as they
come in, so that nothing more is read than is needed.

* `Search` is what is searched for and what is shown of it.
* `Search.takeLine` deals with one line.
-/

namespace PipeShell.Programs

/-- What is searched for, and what is shown of it. -/
structure Search where
  /-- Whether a line is found. -/
  finds : Array Char → Bool
  /-- The first match in a line from a place on. -/
  find? : Array Char → Nat → Option (Nat × Nat)
  /-- Whether the other lines are found instead. -/
  inverted : Bool
  /-- Whether the number of lines is shown in place of the lines. -/
  counts : Bool
  /-- Whether nothing is shown. -/
  silent : Bool
  /-- Whether the names of inputs with a line that is found, or without one, are shown. -/
  lists : Option Bool
  /-- Whether only the matches are shown. -/
  onlyMatches : Bool
  /-- Whether numbers of lines are shown. -/
  numbers : Bool
  /-- Whether offsets are shown. -/
  offsets : Bool
  /-- Whether names of inputs are shown. -/
  names : Bool
  /-- How many lines are shown before one that is found. -/
  before : Nat
  /-- How many lines are shown behind it. -/
  behind : Nat
  /-- How many lines are looked for, if there is a limit. -/
  limit : Option Nat
  /-- Whether an input that is no text is dealt with as if it were. -/
  anyText : Bool
  /-- Whether nothing is found in an input that is no text. -/
  onlyText : Bool
  /-- The octet that ends lines. -/
  mark : UInt8
  /-- Whether names end with a zero. -/
  zeroNames : Bool
  /-- Whether a tab stands behind what is shown in front of a line. -/
  tabs : Bool
  /-- Whether lines around the ones that are found are asked for. -/
  hasContext : Bool
  /-- What is shown between groups of lines that do not follow each other. -/
  separator : Option String

namespace Search

/-- How far the search in one input has come. -/
structure Progress where
  /-- How many lines have been found. -/
  hits : Nat := 0
  /-- The number of the line. -/
  line : Nat := 1
  /-- The offset of the line. -/
  offset : Nat := 0
  /-- The lines before it that may still be shown, last one first. -/
  waiting : List (Nat × Nat × Bytes) := []
  /-- How many lines are still shown behind the last one that was found. -/
  left : Nat := 0
  /-- The number of the last line that was shown. -/
  shown : Nat := 0
  /-- The beginning of a line, last octet first. -/
  begun : Bytes := []
  /-- Whether the input is no text. -/
  isBinary : Bool := false

/-- The name of an input as it is shown, with a sign behind it. -/
def nameShown (s : Search) (name sign : String) : String :=
  if s.names then name ++ (if s.zeroNames then "\x00" else sign) else ""

/-- A text that is shown, with what stands in front of it and behind it. -/
def shownLine (s : Search) (name sign : String) (line offset : Nat) (text : Bytes) : Bytes :=
  let front := s.nameShown name sign ++ (if s.numbers then toString line ++ sign else "") ++
    (if s.offsets then toString offset ++ sign else "")
  let tab := if s.tabs && !front.isEmpty && !text.isEmpty then "\t" else ""
  Text.toOctets (front ++ tab) ++ text ++ [s.mark]

/-- All matches in a line from a place on, so many at most. -/
def matchesFrom (s : Search) (text : Array Char) : Nat → Nat → List (Nat × Nat)
  | 0, _ => []
  | fuel + 1, offset =>
    match s.find? text offset with
    | none => []
    | some (first, last) =>
      if last = first then
        if text.size ≤ first then [] else matchesFrom s text fuel (first + 1)
      else (first, last) :: matchesFrom s text fuel last

/-- Whether lines are shown at all. -/
def showsLines (s : Search) : Bool :=
  !s.counts && !s.silent && s.lists.isNone

/-- The mark between groups of lines that do not follow each other. -/
def gap (s : Search) (p : Progress) (line : Nat) : Bytes :=
  if s.hasContext && p.shown ≠ 0 && p.shown + 1 < line then
    match s.separator with
    | some separator => Text.toOctets (separator ++ "\n")
    | none => []
  else []

/-- What is shown of a line that has been found, with the lines before it. -/
def showHit (s : Search) (name : String) (p : Progress) (text : Array Char) (line : Bytes) :
    Bytes :=
  let waiting := p.waiting.reverse
  let first := match waiting with
    | (n, _, _) :: _ => n
    | [] => p.line
  let context := waiting.flatMap fun (n, offset, line) =>
    s.shownLine name "-" n offset line
  if s.onlyMatches then
    let found := if s.inverted then [] else s.matchesFrom text (text.size + 1) 0
    let shown := found.flatMap fun (i, j) =>
      s.shownLine name ":" p.line (p.offset + i) ((line.drop i).take (j - i))
    s.gap p first ++ shown
  else
    s.gap p first ++ context ++ s.shownLine name ":" p.line p.offset line

/-- Deals with one line: what is shown. -/
def takeLine (s : Search) (name : String) (p : Progress) (line : Bytes) : Progress × Bytes :=
  let text := (line.map Text.charOfOctet).toArray
  let next := { p with line := p.line + 1, offset := p.offset + line.length + 1 }
  if s.finds text != s.inverted then
    let shown := if s.showsLines && !p.isBinary then s.showHit name p text line else []
    ({ next with hits := p.hits + 1, waiting := [], left := s.behind, shown := p.line }, shown)
  else if p.left ≠ 0 then
    let shown := if s.showsLines && !p.isBinary && !s.onlyMatches then
        s.shownLine name "-" p.line p.offset line
      else []
    ({ next with left := p.left - 1, shown := p.line }, shown)
  else
    ({ next with waiting := ((p.line, p.offset, line) :: p.waiting).take s.before }, [])

/-- Whether the search in an input is over. -/
def isOver (s : Search) (p : Progress) : Bool :=
  (p.isBinary && s.onlyText) ||
    (p.hits ≠ 0 && (s.silent || s.lists.isSome || (p.isBinary && !s.counts))) ||
    (s.limit.any (· ≤ p.hits) && p.left = 0)

/-- Takes a block: what is shown, and what is left of the block if the search is over. -/
def takeBlock (s : Search) (name : String) (p : Progress) (block : Bytes) :
    Progress × Bytes × Bytes :=
  let p := if s.mark ≠ 0 && block.contains 0 && !s.anyText then { p with isBinary := true } else p
  if p.isBinary && s.onlyText then (p, [], []) else
  go block.length p block []
where
  /-- Takes octet by octet, so many at most. -/
  go : Nat → Progress → Bytes → List Bytes → Progress × Bytes × Bytes
    | 0, p, rest, output => (p, output.reverse.flatten, rest)
    | fuel + 1, p, rest, output =>
      match rest with
      | [] => (p, output.reverse.flatten, [])
      | b :: rest =>
        if b = s.mark || (b = 0 && p.isBinary) then
          let (p, text) := s.takeLine name { p with begun := [] } p.begun.reverse
          if s.isOver p then (p, (text :: output).reverse.flatten, rest)
          else go fuel p rest (text :: output)
        else go fuel { p with begun := b :: p.begun } rest output

/-- Ends an input. -/
def finish (s : Search) (name : String) (p : Progress) : Progress × Bytes :=
  if p.begun.isEmpty || s.isOver p then (p, [])
  else s.takeLine name { p with begun := [] } p.begun.reverse

/-- What is shown about an input behind its lines. -/
def total (s : Search) (name : String) (p : Progress) : String :=
  if s.silent then ""
  else match s.lists with
    | some found =>
      if found = (p.hits ≠ 0 : Bool) then name ++ (if s.zeroNames then "\x00" else "\n") else ""
    | none => if s.counts then s.nameShown name ":" ++ toString p.hits ++ "\n" else ""

end Search

namespace Tool

/-- The options of a search. -/
def grepOptions : OptionTable where
  letters := (['E', 'F', 'G', 'P', 'i', 'y', 'v', 'w', 'x', 'c', 'L', 'l', 'n', 'o', 'q', 's', 'b',
      'H', 'h', 'r', 'R', 'a', 'I', 'U', 'z', 'T', 'Z'].map fun c => (c, .nothing)) ++
    (['e', 'f', 'm', 'A', 'B', 'C', 'd', 'D'].map fun c => (c, .value))
  words := [("extended-regexp", 'E', .nothing), ("fixed-strings", 'F', .nothing),
    ("basic-regexp", 'G', .nothing), ("ignore-case", 'i', .nothing),
    ("invert-match", 'v', .nothing), ("word-regexp", 'w', .nothing),
    ("line-regexp", 'x', .nothing), ("count", 'c', .nothing),
    ("files-without-match", 'L', .nothing), ("files-with-matches", 'l', .nothing),
    ("line-number", 'n', .nothing), ("only-matching", 'o', .nothing), ("quiet", 'q', .nothing),
    ("silent", 'q', .nothing), ("no-messages", 's', .nothing), ("byte-offset", 'b', .nothing),
    ("with-filename", 'H', .nothing), ("no-filename", 'h', .nothing), ("recursive", 'r', .nothing),
    ("text", 'a', .nothing), ("regexp", 'e', .value), ("file", 'f', .value),
    ("max-count", 'm', .value), ("after-context", 'A', .value), ("before-context", 'B', .value),
    ("context", 'C', .value), ("color", 'K', .maybe), ("colour", 'K', .maybe),
    ("null", 'Z', .nothing), ("null-data", 'z', .nothing), ("initial-tab", 'T', .nothing),
    ("line-buffered", 'u', .nothing), ("label", 'N', .value), ("binary-files", 't', .value),
    ("group-separator", 'S', .value), ("no-group-separator", 'O', .nothing),
    ("no-ignore-case", 'j', .nothing), ("perl-regexp", 'P', .nothing),
    ("dereference-recursive", 'R', .nothing), ("directories", 'd', .value),
    ("devices", 'D', .value), ("binary", 'U', .nothing)]

/-- Leaves with the usage of the search. -/
def grepUsage {α : Type} (t : Tool) : Program α :=
  let zero := t.zero
  .giveUp (s!"Usage: {zero} [OPTION]... PATTERNS [FILE]...\n" ++
    s!"Try '{zero} --help' for more information.\n") 2

/-- The number of lines that an argument is; one that is too large is as good as any. -/
def lineCount? (text : String) : Option Int :=
  match Amount.readSigned text with
  | .ok n => some n
  | .error .tooLarge => some (Nat.pow 2 62)
  | .error .invalid => none

/-- The number of lines around a match that an option asks for. -/
def contextSize? (text : String) : Option Nat :=
  (lineCount? text).bind fun n => if n < 0 then none else some n.toNat

/-- Leaves if an option of the search has a bad number. -/
def checkSearch (t : Tool) (letter : Char) (text : String) : Program Unit := do
  if ['A', 'B', 'C'].contains letter && (contextSize? text).isNone then
    t.fail s!"{text}: invalid context length argument"
  if letter == 'm' && (lineCount? text).isNone then t.fail "invalid max count"
  if letter == 't' && !(["binary", "text", "without-match"].contains text) then
    t.fail "unknown binary-files type"

/-- Whether a match stands alone as a word. -/
def standsAlone (text : Array Char) (first last : Nat) : Bool :=
  let before := if first = 0 then none else text[first - 1]?
  !before.any Regex.isWordChar && !(text[last]?).any Regex.isWordChar

/-- The first match that stands alone, from a place on, so many places further at most. Of the
matches at one place a shorter one may stand alone where the longest one does not. -/
def findWord (r : Regex) (text : Array Char) : Nat → Nat → Option (Nat × Nat)
  | 0, _ => none
  | fuel + 1, offset =>
    match r.find? text offset with
    | none => none
    | some (first, _) =>
      let found := (r.ends text r.looksBack [{ offset := first }]).reverse.find? fun s =>
        standsAlone text first s.offset
      match found with
      | some s => some (first, s.offset)
      | none => findWord r text fuel (first + 1)

/-- Replaces a number among the options that stands for itself by one of lines around. -/
def spellOutContext : List String → List String
  | [] => []
  | "--" :: rest => "--" :: rest
  | argument :: rest =>
    let digits := argument.toList.drop 1
    if argument.startsWith "-" && !digits.isEmpty && digits.all Char.isDigit then
      "-C" :: String.ofList digits :: spellOutContext rest
    else argument :: spellOutContext rest

/-- Searches for lines. -/
def grep (t : Tool) : Program Unit := do
  let t := { t with arguments := spellOutContext t.arguments }
  let i := Invocation.read grepOptions t.arguments
  i.options.forM fun (letter, text) => t.checkSearch letter text
  if let some message := i.fault then
    t.warn message
    t.grepUsage
  let fromFiles ← (i.values 'f').mapM fun file => do
    let text ← t.readAll file
    return (linesOf 10 text).map Text.ofOctets
  let given := (i.values 'e').flatMap fun p => p.splitOn "\n"
  let hasPatterns := i.has 'e' || i.has 'f'
  let (patterns, operands) ← match hasPatterns, i.operands with
    | true, operands => pure (given ++ fromFiles.flatten, operands)
    | false, p :: operands => pure (p.splitOn "\n", operands)
    | false, [] => t.grepUsage
  let foldsCase := (i.lastOf? ['i', 'y', 'j']).any (· ≠ 'j')
  let letter := i.lastOf? ['E', 'F', 'G', 'P']
  let style : Regex.Style := { extended := letter = some 'E' || letter = some 'P', foldsCase }
  let literal (text : String) : Regex :=
    text.toList.foldr (fun c r => .sequence (Regex.ofKind style (· == c)) r) .empty
  let read (p : String) : Program Regex :=
    if letter = some 'F' then .done (literal p)
    else match Regex.read style p with
      | .ok (r, warnings) => do
        warnings.forM fun warning => t.warn s!"warning: {warning}"
        return r
      | .error message => t.fail message
  let regexes ← patterns.mapM read
  let regex := match regexes with
    | [] => Regex.nothing
    | r :: rest => rest.foldl Regex.choice r
  let whole : Regex :=
    .sequence (.place fun a _ => a.isNone) (.sequence regex (.place fun _ b => b.isNone))
  let limit := ((i.value? 'm').bind lineCount?).bind fun n =>
    if n < 0 then none else some n.toNat
  let around := (i.value? 'C').bind contextSize?
  let before := (i.value? 'B').bind contextSize?
  let behind := (i.value? 'A').bind contextSize?
  let recursive := i.has 'r' || i.has 'R'
  let isFile ← match operands with
    | [operand] => do
      match ← Program.names operand with
      | .ok _ => pure false
      | .error _ => pure true
    | _ => pure false
  let names := match i.lastOf? ['H', 'h'] with
    | some c => c == 'H'
    | none => 1 < operands.length || (recursive && !isFile)
  let s : Search :=
    { finds := fun text =>
        if i.has 'x' then whole.isIn text
        else if i.has 'w' then (findWord regex text (text.size + 1) 0).isSome
        else regex.isIn text
      find? := fun text offset =>
        if i.has 'x' then whole.find? text offset
        else if i.has 'w' then findWord regex text (text.size + 1 - offset) offset
        else regex.find? text offset
      inverted := i.has 'v', counts := i.has 'c', silent := i.has 'q',
      lists := (i.lastOf? ['l', 'L']).map (· == 'l'), onlyMatches := i.has 'o',
      numbers := i.has 'n', offsets := i.has 'b', names,
      before := before.getD (around.getD 0), behind := behind.getD (around.getD 0), limit,
      anyText := i.lastOf? ['a', 'I', 't'] = some 'a' || i.value? 't' = some "text",
      onlyText := i.lastOf? ['a', 'I', 't'] = some 'I' || i.value? 't' = some "without-match",
      mark := lineMark i, zeroNames := i.has 'Z', tabs := i.has 'T',
      hasContext := ['A', 'B', 'C'].any i.has,
      separator := match i.lastOf? ['S', 'O'] with
        | some 'S' => i.value? 'S'
        | some _ => none
        | none => some "--" }
  if limit = some 0 then .exit 1
  let standard := if recursive then "." else "-"
  let operands := if operands.isEmpty then [standard] else operands
  let found ← operands.mapM fun operand => do
    if recursive && operand ≠ "-" then filesUnder 1000 operand else return [operand]
  let (found, status) ← searchAll t i s found.flatten (false, 0)
  .exit (if found && (s.silent || status = 0) then 0 else if status ≠ 0 then 2 else 1)
where
  /-- The files under a path, so many levels at most. A dot in front is not shown. -/
  filesUnder : Nat → String → Program (List String)
    | 0, _ => return []
    | levels + 1, path => do
      match ← Program.names path with
      | .error _ => return [path]
      | .ok names =>
        let front := if path = "." then "" else if path.endsWith "/" then path else path ++ "/"
        return (← names.mapM fun name => filesUnder levels (front ++ name)).flatten
  /-- Searches one input, given its name in the output: whether something is to be told. -/
  searchOne (t : Tool) (s : Search) (name : String) (fd : Fd) :
      Program (Except Errno Search.Progress) := do
    let result ← throughBlocks fd blockSize ({} : Search.Progress) fun p block => do
      let (p, output, rest) := s.takeBlock name p block
      t.put output
      if s.isOver p && s.limit.isSome then .attempt (.giveBack fd rest.length)
      return (p, !s.isOver p)
    match result with
    | .error cause => return .error cause
    | .ok p =>
      let (p, output) := s.finish name p
      t.put output
      t.say (s.total name p)
      if p.isBinary && p.hits ≠ 0 && s.showsLines then t.warn s!"{name}: binary file matches"
      return .ok p
  /-- Searches all inputs: whether a line has been found, and whether something went wrong. -/
  searchAll (t : Tool) (i : Invocation) (s : Search) :
      List String → Bool × Nat → Program (Bool × Nat)
    | [], result => return result
    | operand :: rest, (found, status) => do
      let name := if operand = "-" then (i.value? 'N').getD "(standard input)" else operand
      let complain (message : String) : Program Unit := do
        if !i.has 's' then t.warn message
      let fd ← if operand = "-" then pure (.ok Fd.stdin) else Program.openFile operand .read
      match fd with
      | .error cause =>
        complain (Complaint.openFailure "grep" operand cause)
        searchAll t i s rest (found, 2)
      | .ok fd =>
        match ← searchOne t s name fd with
        | .error cause =>
          complain (Complaint.readFailure "grep" name cause)
          t.say (s.total name {})
          closeInput operand fd
          searchAll t i s rest (found, 2)
        | .ok p =>
          closeInput operand fd
          let hit := p.hits ≠ 0
          if hit && s.silent then return (true, status)
          searchAll t i s rest (found || hit, status)

/-- Searches under an old name, which stands for an option. -/
def oldGrep (option : String) (t : Tool) : Program Unit :=
  { t with name := "grep", zero := "grep", arguments := option :: t.arguments }.grep

end Tool

end PipeShell.Programs
