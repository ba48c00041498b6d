import PipeShell.Programs.Escape
import PipeShell.Programs.Tool
import PipeShell.Text.Integer

/-!
# Programs that work inside lines

The programs that keep parts of lines, put lines beside each other, break long lines, and replace
characters by others.
-/

namespace PipeShell.Programs.Tool

/-! ### Parts of lines -/

/-- The options of keeping parts. -/
def cutOptions : OptionTable where
  letters := [('b', .value), ('c', .value), ('d', .value), ('f', .value), ('n', .nothing),
    ('s', .nothing), ('z', .nothing)]
  words := [("bytes", 'b', .value), ("characters", 'c', .value), ("delimiter", 'd', .value),
    ("fields", 'f', .value), ("complement", 'C', .nothing), ("only-delimited", 's', .nothing),
    ("output-delimiter", 'O', .value), ("zero-terminated", 'z', .nothing)]

/-- Positions from one to another, or to the end. -/
structure Range where
  /-- The first position, counted from one. -/
  first : Nat
  /-- The last one. -/
  last : Option Nat
  deriving DecidableEq, Repr

/-- Whether a position is in a range. -/
def Range.has (r : Range) (n : Nat) : Bool :=
  r.first ≤ n && r.last.all (n ≤ ·)

/-- A range that is being read. -/
structure RangeText where
  /-- The number in front of the hyphen, if there is one. -/
  low : Option Nat := none
  /-- Whether there is a hyphen. -/
  hasHyphen : Bool := false
  /-- The number behind it, if there is one. -/
  high : Option Nat := none

/-- The wording of a place before the first one. -/
def zeroPlace (inFields : Bool) : String :=
  if inFields then "fields are numbered from 1" else "byte/character positions are numbered from 1"

/-- The range that has been read. -/
def RangeText.range (inFields : Bool) (r : RangeText) : Except String Range :=
  match r.low, r.hasHyphen, r.high with
  | none, true, none => .error "invalid range with no endpoint: -"
  | some low, true, none => .ok ⟨low, none⟩
  | low, true, some high =>
    if high < low.getD 1 then .error "invalid decreasing range" else .ok ⟨low.getD 1, some high⟩
  | low, false, _ =>
    match low.getD 0 with
    | 0 => .error (zeroPlace inFields)
    | n => .ok ⟨n, some n⟩

/-- Reads a list of ranges; `inFields` says what is counted. -/
def readRanges (inFields : Bool) (r : RangeText) : List Char → Except String (List Range)
  | [] => do return [← r.range inFields]
  | c :: rest =>
    if c == '-' then
      if r.hasHyphen then
        .error (if inFields then "invalid field range" else "invalid byte or character range")
      else if r.low = some 0 then .error (zeroPlace inFields)
      else readRanges inFields { r with hasHyphen := true } rest
    else if c == ',' || c == ' ' || c == '\t' then do
      let range ← r.range inFields
      return range :: (← readRanges inFields {} rest)
    else if c.isDigit then
      let add (n : Option Nat) : Option Nat := some (10 * n.getD 0 + (c.toNat - 48))
      readRanges inFields
        (if r.hasHyphen then { r with high := add r.high } else { r with low := add r.low }) rest
    else
      let shown := quoted (String.ofList (c :: rest))
      .error (if inFields then s!"invalid field value {shown}"
        else s!"invalid byte/character position {shown}")

/-- Pieces of a text between separators. -/
def splitOctets (separator : UInt8) (text : Bytes) : List Bytes :=
  let (pieces, piece) := text.foldl (fun (pieces, piece) b =>
    if b = separator then (piece.reverse :: pieces, []) else (pieces, b :: piece))
    (([], []) : List Bytes × Bytes)
  (piece.reverse :: pieces).reverse

/-- Whether an octet at a position begins a range that the one before it does not belong to. -/
def beginsRange (ranges : List Range) (n : Nat) : Bool :=
  ranges.any fun r => r.first = n && !ranges.any fun other => other.has (n - 1) && other.has n

/-- Keeps octets of a line. -/
def cutOctets (keeps : Nat → Bool) (ranges : List Range) (joint : Bytes) (line : Bytes) : Bytes :=
  let (_, output) := line.foldl (fun (n, output) b =>
    let isApart := !joint.isEmpty && !output.isEmpty && beginsRange ranges n
    let gap : Bytes := if isApart then joint else []
    (n + 1, if keeps n then (gap ++ [b]) :: output else output)) ((1, []) : Nat × List Bytes)
  output.reverse.flatten

/-- Keeps parts of lines. -/
def cut (t : Tool) : Program Unit := do
  let isList (o : Char × String) : Bool := ['b', 'c', 'f'].contains o.1
  let i := Invocation.read cutOptions t.arguments
  let _ ← i.options.foldlM (fun lists o => do
    if o.1 == 'd' && 1 < o.2.length then t.misuse "the delimiter must be a single character"
    if isList o && 0 < lists then t.misuse "only one list may be specified"
    return if isList o then lists + 1 else lists) 0
  if let some message := i.fault then t.misuse message
  let (letter, list) ← match i.options.find? isList with
    | none => t.misuse "you must specify a list of bytes, characters, or fields"
    | some one => pure one
  let inFields := letter == 'f'
  if i.has 'd' && !inFields then
    t.misuse "an input delimiter may be specified only when operating on fields"
  if i.has 's' && !inFields then
    t.misuse "suppressing non-delimited lines makes sense\n\tonly when operating on fields"
  let separator : UInt8 := match (i.value? 'd').map String.toList with
    | none => 9
    | some [] => 0
    | some (c :: _) => UInt8.ofNat c.toNat
  let ranges ← match readRanges inFields {} list.toList with
    | .ok ranges => pure ranges
    | .error message => t.misuse message
  let keeps (n : Nat) : Bool := (ranges.any fun r => r.has n) != i.has 'C'
  let mark := lineMark i
  let joint := (i.value? 'O').map Text.toOctets
  t.filterLines mark i.operands () fun _ line _ =>
    if inFields then
      match splitOctets separator line with
      | [_] => ((), if i.has 's' then [] else line ++ [mark])
      | fields =>
        let kept := (fields.zipIdx 1).filterMap fun (field, n) =>
          if keeps n then some field else none
        ((), List.intercalate (joint.getD [separator]) kept ++ [mark])
    else ((), cutOctets keeps ranges (joint.getD []) line ++ [mark])

/-! ### Lines beside each other -/

/-- The separators that a list of them stands for. -/
def readSeparators (text : String) : List Bytes :=
  go text.toList
where
  /-- Reads the list. -/
  go : List Char → List Bytes
    | [] => []
    | '\\' :: c :: rest =>
      (match c with
        | 'n' => [10]
        | 't' => [9]
        | '0' => []
        | 'b' => [8]
        | 'f' => [12]
        | 'r' => [13]
        | 'v' => [11]
        | c => [UInt8.ofNat c.toNat]) :: go rest
    | c :: rest => [UInt8.ofNat c.toNat] :: go rest

/-- The separator behind a column. -/
def separatorAt (separators : List Bytes) (n : Nat) : Bytes :=
  separators.getD (n % separators.length) []

/-- Texts with separators between them, the first one being given. -/
def joinWith (separators : List Bytes) (texts : List Bytes) : Bytes :=
  (texts.zipIdx.map fun (text, n) =>
    if n = 0 then text else separatorAt separators (n - 1) ++ text).flatten

/-- Takes the next line of every column. A column that stands for the standard input shares its
lines with the others that do. -/
def takeRow : List (Option (List Bytes)) → List Bytes →
    List Bytes × List (Option (List Bytes)) × List Bytes × Bool
  | [], shared => ([], [], shared, false)
  | none :: rest, shared =>
    let (row, columns, left, some') := takeRow rest (shared.drop 1)
    (shared.headD [] :: row, none :: columns, left, some' || !shared.isEmpty)
  | some lines :: rest, shared =>
    let (row, columns, left, some') := takeRow rest shared
    (lines.headD [] :: row, some (lines.drop 1) :: columns, left, some' || !lines.isEmpty)

/-- Puts columns beside each other, so many rows at most. -/
def rowsOf (separators : List Bytes) (mark : UInt8) :
    Nat → List (Option (List Bytes)) → List Bytes → List Bytes → List Bytes
  | 0, _, _, done => done.reverse
  | fuel + 1, columns, shared, done =>
    match takeRow columns shared with
    | (row, columns, shared, true) =>
      rowsOf separators mark fuel columns shared ((joinWith separators row ++ [mark]) :: done)
    | _ => done.reverse

/-- Puts lines beside each other. -/
def paste (t : Tool) : Program Unit := do
  let i ← t.given
    { letters := [('d', .value), ('s', .nothing), ('z', .nothing)]
      words := [("delimiters", 'd', .value), ("serial", 's', .nothing),
        ("zero-terminated", 'z', .nothing)] }
  let mark := lineMark i
  let list := (i.value? 'd').getD "\t"
  if (list.toList.reverse.takeWhile (· == '\\')).length % 2 = 1 then
    t.fail s!"delimiter list ends with an unescaped backslash: {list}"
  let separators := readSeparators list
  let separators := if separators.isEmpty then [[]] else separators
  let operands := orStandard i.operands
  if i.has 's' then
    let (_, status) ← t.throughInputs (fun _ fd _ => do
      match ← .readToEnd fd with
      | .ok text =>
        t.put (joinWith separators (linesOf mark text) ++ [mark])
        return ((), none)
      | .error cause =>
        t.put [mark]
        return ((), some cause)) operands () 0
    .exit status
  -- files are opened before anything is read
  let inputs ← operands.mapM fun operand => do
    match ← t.openInput operand with
    | some fd => return (operand, fd)
    | none => .exit 1
  let read (fd : Fd) : Program (List Bytes × Option Errno) := do
    match ← .readToEnd fd with
    | .ok text => return (linesOf mark text, none)
    | .error cause => return ([], some cause)
  let (shared, fault) ← if operands.contains "-" then read Fd.stdin else pure ([], none)
  let read ← inputs.mapM fun (operand, fd) => do
    if operand = "-" then return (none, operand, fault)
    else
      let (lines, fault) ← read fd
      return (some lines, operand, fault)
  let faults := read.filterMap fun (_, operand, fault) => fault.map (operand, ·)
  let columns := read.map Prod.fst
  let most := (columns.map fun c => (c.getD shared).length).foldl max 0
  faults.forM fun (operand, cause) =>
    t.warn (Complaint.readFailure t.name (t.inputName operand) cause)
  t.put (rowsOf separators mark (most + 1) columns shared []).flatten
  .exit (if faults.isEmpty then 0 else 1)

/-! ### Long lines and tabs -/

/-- The column behind an octet. -/
def columnBehind (inOctets : Bool) (column : Nat) (b : UInt8) : Nat :=
  if inOctets then column + 1
  else if b = 8 then column - 1
  else if b = 13 then 0
  else if b = 9 then column + 8 - column % 8
  else column + 1

/-- Breaks a line, given what the piece that has begun holds, last octet first, and its width. -/
def foldLine (width : Nat) (inOctets atSpaces : Bool) :
    Nat → Bytes → Bytes → Nat → List Bytes → List Bytes
  | 0, _, piece, _, done => piece.reverse :: done
  | _, [], piece, _, done => piece.reverse :: done
  | fuel + 1, b :: rest, piece, column, done =>
    let next := columnBehind inOctets column b
    if width < next && !piece.isEmpty then
      let word := piece.takeWhile fun b => b ≠ 32 && b ≠ 9
      if atSpaces && word.length < piece.length then
        let column := word.reverse.foldl (columnBehind inOctets) 0
        foldLine width inOctets atSpaces fuel (b :: rest) word column
          ((piece.drop word.length).reverse :: done)
      else foldLine width inOctets atSpaces fuel (b :: rest) [] 0 (piece.reverse :: done)
    else foldLine width inOctets atSpaces fuel rest (b :: piece) next done

/-- Breaks long lines. -/
def fold (t : Tool) : Program Unit := do
  let arguments := t.arguments.map fun a =>
    let digits := a.toList.drop 1
    if a.startsWith "-" && !digits.isEmpty && digits.all Char.isDigit then
      "-w" ++ String.ofList digits
    else a
  let widthOf (text : String) : Program Nat := do
    return (← t.amountBetween 1 (Nat.pow 2 64 - 10) "invalid number of columns" text).toNat
  let i ← { t with arguments }.givenWith
    { letters := [('b', .nothing), ('c', .nothing), ('s', .nothing), ('w', .value)]
      words := [("bytes", 'b', .nothing), ("spaces", 's', .nothing), ("width", 'w', .value)] }
    fun letter text => do
      if letter == 'w' then
        let _ ← widthOf text
  let width ← match i.value? 'w' with
    | some text => widthOf text
    | none => pure 80
  t.filterLines 10 i.operands () fun _ line ended =>
    let pieces := foldLine width (i.has 'b') (i.has 's') (3 * line.length + 1) line [] 0 []
    ((), List.intercalate [10] pieces.reverse ++ if ended then [10] else [])

/-- Where tabs go to. -/
structure TabStops where
  /-- The columns that are named. -/
  columns : List Nat := []
  /-- The size of the steps behind them, counted from the beginning of the line. -/
  every : Option Nat := none
  /-- The size of the steps behind them, counted from the last of them. -/
  further : Option Nat := none
  deriving Repr

/-- How the next number in a list of tab stops counts. -/
inductive TabStopKind where
  | column
  | every
  | further
  deriving DecidableEq, Repr

namespace TabStops

/-- Adds a number. -/
def add (s : TabStops) (kind : TabStopKind) (n : Nat) : Except String TabStops :=
  match kind with
  | .column => .ok { s with columns := s.columns ++ [n] }
  | .every =>
    if s.every.any (· ≠ 0) then .error "'/' specifier only allowed with the last value"
    else .ok { s with every := some n }
  | .further =>
    if s.further.any (· ≠ 0) then .error "'+' specifier only allowed with the last value"
    else .ok { s with further := some n }

/-- Reads a list of tab stops: those so far, how the next number counts, and its value so far. -/
def readList (s : TabStops) (kind : TabStopKind) (n : Option Nat) :
    List Char → Except String TabStops
  | [] =>
    match n with
    | some n => s.add kind n
    | none => .ok s
  | c :: rest =>
    if c == ',' || c == ' ' || c == '\t' then
      match n with
      | some n => do readList (← s.add kind n) kind none rest
      | none => readList s kind none rest
    else if c == '/' || c == '+' then
      if n.isSome then
        let shown := quoted (String.ofList (c :: rest))
        .error s!"'{c}' specifier not at start of number: {shown}"
      else readList s (if c == '/' then .every else .further) none rest
    else if c.isDigit then readList s kind (some (10 * n.getD 0 + (c.toNat - 48))) rest
    else
      let shown := quoted (String.ofList (c :: rest))
      .error s!"tab size contains invalid character(s): {shown}"

/-- What is wrong with tab stops, if anything is. -/
def fault? (s : TabStops) : Option String :=
  if s.columns.contains 0 then some "tab size cannot be 0"
  else if (s.columns.zip (s.columns.drop 1)).any fun (a, b) => b ≤ a then
    some "tab sizes must be ascending"
  else if s.every.any (· ≠ 0) && s.further.any (· ≠ 0) then
    some "'/' specifier is mutually exclusive with '+'"
  else none

/-- The column that a tab at a column goes to. -/
def next (s : TabStops) (column : Nat) : Nat :=
  let every := (s.every.filter (· ≠ 0))
  let further := (s.further.filter (· ≠ 0))
  let round (size : Nat) : Nat := column + (size - column % size)
  match s.columns, every, further with
  | [], some size, _ => round size
  | [], none, some size => round size
  | [], none, none => round 8
  | [size], none, none => round size
  | columns, every, further =>
    match columns.find? (column < ·), every, further with
    | some stop, _, _ => stop
    | none, some size, _ => round size
    | none, none, some size => column + (size - (column - columns.getLastD 0) % size)
    | none, none, none => column + 1

end TabStops

/-- Replaces the tabs of a line by spaces. -/
def expandLine (stops : TabStops) (onlyFront : Bool) (line : Bytes) : Bytes :=
  let (_, _, output) := line.foldl (fun (column, inFront, output) b =>
    if b = 9 && (inFront || !onlyFront) then
      let behind := stops.next column
      (behind, inFront, List.replicate (behind - column) 32 :: output)
    else (if b = 8 then column - 1 else column + 1, inFront && b = 32, [b] :: output))
    ((0, true, []) : Nat × Bool × List Bytes)
  output.reverse.flatten

/-- Replaces tabs by spaces. -/
def expand (t : Tool) : Program Unit := do
  let digits := "0123456789".toList
  let i := Invocation.read
    { letters := [('i', .nothing), ('t', .value)] ++ digits.map fun c => (c, .maybe)
      words := [("initial", 'i', .nothing), ("tabs", 't', .value)] } t.arguments
  let stops ← i.options.foldlM (fun (stops : TabStops) (letter, text) => do
    let list := if letter == 't' then text.toList
      else if digits.contains letter then letter :: text.toList
      else []
    match stops.readList .column none list with
    | .ok stops => return stops
    | .error message => t.fail message) {}
  if let some message := i.fault then t.misuse message
  if let some message := stops.fault? then t.fail message
  let each (_ : Unit) (line : Bytes) (ended : Bool) : Unit × Bytes :=
    ((), expandLine stops (i.has 'i') line ++ if ended then [10] else [])
  t.filter (lineFilter 10 each fun _ => []) i.operands ((), [])

/-! ### Characters -/

/-- A member of a set of characters that are replaced. -/
inductive SetItem where
  /-- A character. -/
  | one (b : UInt8)
  /-- All characters that count as equal to one. -/
  | equals (b : UInt8)
  /-- A range. -/
  | range (low high : UInt8)
  /-- A class with a name. -/
  | class' (name : String)
  /-- A character so many times; as often as it takes if there is no number. -/
  | times (b : UInt8) (count : Nat)
  deriving Repr

/-- Resolves the backslashes of a set: every character with whether a backslash stood before it. -/
def unescapeSet : Nat → List Char → List (Char × Bool)
  | 0, _ => []
  | _, [] => []
  | fuel + 1, c :: rest =>
    if c == '\\' then
      match rest with
      | [] => [('\\', true)]
      | d :: more =>
        match readEscape {} rest with
        | .char e rest => (e, true) :: unescapeSet fuel rest
        | _ => (d, true) :: unescapeSet fuel more
    else (c, false) :: unescapeSet fuel rest

/-- What stands before a pair of signs that is not escaped, and behind it. -/
def upTo (a b : Char) : List (Char × Bool) → Option (List (Char × Bool) × List (Char × Bool))
  | [] => none
  | x :: rest =>
    match rest with
    | y :: behind =>
      if x = (a, false) && y = (b, false) then some ([], behind)
      else (upTo a b rest).map fun (before, behind) => (x :: before, behind)
    | [] => none

/-- Reads the members of a set, `fuel` of them at most. -/
def readItems : Nat → List (Char × Bool) → Except String (List SetItem)
  | 0, _ => .ok []
  | _, [] => .ok []
  | fuel + 1, text =>
    let octet (c : Char × Bool) : UInt8 := UInt8.ofNat c.1.toNat
    let single : Except String (List SetItem) :=
      match text with
      | low :: ('-', false) :: high :: rest =>
        if octet high < octet low then
          let shown := String.ofList [low.1, '-', high.1]
          .error s!"range-endpoints of '{shown}' are in reverse collating sequence order"
        else (readItems fuel rest).map (.range (octet low) (octet high) :: ·)
      | c :: rest => (readItems fuel rest).map (.one (octet c) :: ·)
      | [] => .ok []
    match text with
    | ('[', false) :: (':', false) :: rest =>
      match upTo ':' ']' rest with
      | some (name, behind) =>
        let name := String.ofList (name.map Prod.fst)
        match Text.characterClass? name with
        | some _ => (readItems fuel behind).map (.class' name :: ·)
        | none => .error s!"invalid character class '{name}'"
      | none => single
    | ('[', false) :: ('=', false) :: rest =>
      match upTo '=' ']' rest with
      | some ([c], behind) => (readItems fuel behind).map (.equals (octet c) :: ·)
      | _ => single
    | ('[', false) :: c :: ('*', false) :: rest =>
      let digits := rest.takeWhile fun d => d.1.isDigit
      match rest.drop digits.length with
      | (']', false) :: behind =>
        let digits := digits.map Prod.fst
        let count := if digits.head? = some '0' then
            (readDigits octalValue? 8 digits.length 0 digits).1
          else (Text.digits? (String.ofList digits)).getD 0
        (readItems fuel behind).map (.times (octet c) count :: ·)
      | _ => single
    | _ => single

/-- The octets of a class, ascending. -/
def classOctets (name : String) : Bytes :=
  match Text.characterClass? name with
  | some belongs => ((List.range 256).map UInt8.ofNat).filter fun b => belongs (Text.charOfOctet b)
  | none => []

namespace SetItem

/-- How many characters a member stands for; one that fills up stands for none by itself. -/
def size : SetItem → Nat
  | one _ => 1
  | equals _ => 1
  | range low high => high.toNat + 1 - low.toNat
  | class' name => (classOctets name).length
  | times _ count => count

/-- Whether a member fills up. -/
def fillsUp : SetItem → Bool
  | times _ 0 => true
  | _ => false

/-- Whether a member is a class of letters of one case. -/
def isCase : SetItem → Bool
  | class' name => name = "upper" || name = "lower"
  | _ => false

/-- Whether a member is a class of another kind. -/
def isOtherClass : SetItem → Bool
  | class' name => name ≠ "upper" && name ≠ "lower"
  | _ => false

/-- Whether a member is given by a character that it counts as equal to. -/
def isEquals : SetItem → Bool
  | equals _ => true
  | _ => false

end SetItem

/-- The places where the classes of letters of one case begin, the first member being at the given
place; a member that fills up takes so many places. -/
def casePlaces (filling : Nat) : Nat → List SetItem → List Nat
  | _, [] => []
  | place, item :: rest =>
    let behind := place + if item.fillsUp then filling else item.size
    if item.isCase then place :: casePlaces filling behind rest
    else casePlaces filling behind rest

/-- What is wrong with two sets of which the first is replaced by the second, if anything is. -/
def replacementFault? (complements truncates : Bool) (source target : List SetItem)
    (sourceSize : Nat) : Option String :=
  let targetSize := (target.map SetItem.size).foldl (· + ·) 0
  let fills := target.any SetItem.fillsUp
  let filling := sourceSize - targetSize
  let sourcePlaces := casePlaces 0 0 source
  if target.any SetItem.isEquals then
    some "[=c=] expressions may not appear in string2 when translating"
  else if target.any SetItem.isOtherClass then
    some ("when translating, the only character classes that may appear in\n" ++
      "string2 are 'upper' and 'lower'")
  else if !complements && (casePlaces filling 0 target).any fun place =>
      place ≤ sourceSize && !sourcePlaces.contains place then
    some "misaligned [:upper:] and/or [:lower:] construct"
  else if targetSize < sourceSize && !fills && !truncates then
    if target.isEmpty then some "when not truncating set1, string2 must be non-empty"
    else if target.getLast?.any SetItem.isCase then
      some ("when translating with string1 longer than string2,\n" ++
        "the latter string must not end with a character class")
    else none
  else none

/-- The octets that a set stands for; `room` is how many there should be if a member fills up. -/
def octetsOfSet (room : Nat) (items : List SetItem) : Bytes :=
  let fixed := (items.map SetItem.size).foldl (· + ·) 0
  items.flatMap fun
    | .one b => [b]
    | .equals b => [b]
    | .range low high => (List.range (high.toNat + 1 - low.toNat)).map fun n => low + UInt8.ofNat n
    | .class' name => classOctets name
    | .times b count => List.replicate (if count = 0 then room - fixed else count) b

/-- The table that replaces octets by others; the last one stands in for those that are missing. -/
def substitution (truncates : Bool) (source target : Bytes) : Array UInt8 :=
  let last := target.getLast?.getD 0
  let missing := if truncates then 0 else source.length - target.length
  (source.zip (target ++ List.replicate missing last)).foldl
    (fun table (a, b) => table.setIfInBounds a.toNat b) ((Array.range 256).map UInt8.ofNat)

/-- Drops repeats of octets that a set has; the first part of the state is the last octet. -/
def squeeze (set : Array Bool) (last : Option UInt8) (block : Bytes) : Option UInt8 × Bytes :=
  let (last, output) := block.foldl (fun (last, output) b =>
    if some b = last && (set[b.toNat]?).getD false then (last, output) else (some b, b :: output))
    ((last, []) : Option UInt8 × Bytes)
  (last, output.reverse)

/-- A set of octets as a table. -/
def membership (octets : Bytes) : Array Bool :=
  octets.foldl (fun table b => table.setIfInBounds b.toNat true) (Array.replicate 256 false)

/-- Replaces, drops or squeezes characters. -/
def tr (t : Tool) : Program Unit := do
  let i ← t.given
    { letters := (['c', 'C', 'd', 's', 't'].map fun c => (c, .nothing))
      words := [("complement", 'c', .nothing), ("delete", 'd', .nothing),
        ("squeeze-repeats", 's', .nothing), ("truncate-set1", 't', .nothing)]
      endsEarly := true }
  let deletes := i.has 'd'
  let squeezes := i.has 's'
  let least := if deletes = squeezes then 2 else 1
  let most := if deletes && !squeezes then 1 else 2
  if i.operands.length < least then
    match i.operands.getLast? with
    | none => t.misuse "missing operand"
    | some last =>
      let shown := quoted last
      t.warn s!"missing operand after {shown}"
      .complain (if squeezes then
        "Two strings must be given when both deleting and squeezing repeats.\n"
        else "Two strings must be given when translating.\n")
      t.leaveToHelp
  if let some extra := i.operands[most]? then
    let shown := quoted extra
    t.warn s!"extra operand {shown}"
    if i.operands.length = 2 then
      .complain "Only one string may be given when deleting without squeezing repeats.\n"
    t.leaveToHelp
  let sets ← i.operands.mapM fun text => do
    if (text.toList.reverse.takeWhile (· == '\\')).length % 2 = 1 then
      t.warn "warning: an unescaped backslash at end of string is not portable"
    match readItems (text.length + 1) (unescapeSet text.length text.toList) with
    | .ok items => return items
    | .error message => t.fail message
  if (sets.headD []).any SetItem.fillsUp then
    t.fail "the [c*] repeat construct may not appear in string1"
  if 1 < ((sets.getD 1 []).filter SetItem.fillsUp).length then
    t.fail "only one [c*] repeat construct may appear in string2"
  let complements := i.has 'c' || i.has 'C'
  let first := octetsOfSet 0 (sets.headD [])
  let source := if complements then
      let table := membership first
      ((List.range 256).map UInt8.ofNat).filter fun b => !(table[b.toNat]?).getD false
    else first
  let second := sets[1]?.map (octetsOfSet source.length)
  let finish (table : Array UInt8) (dropped squeezed : Array Bool) : Program Unit := do
    let feed (last : Option UInt8) (block : Bytes) : Option UInt8 × Bytes :=
      let block := block.filter fun b => !(dropped[b.toNat]?).getD false
      let block := block.map fun b => (table[b.toNat]?).getD b
      if squeezes then squeeze squeezed last block else (none, block)
    let result ← throughBlocks Fd.stdin blockSize none fun last block => do
      let (last, output) := feed last block
      t.put output
      return (last, true)
    match result with
    | .ok _ => .exit 0
    | .error cause => t.fail (Complaint.readFailure t.name "-" cause)
  let same := (Array.range 256).map UInt8.ofNat
  let none' := membership []
  if deletes && (sets.getD 1 []).any SetItem.fillsUp then
    t.fail "the [c*] construct may appear in string2 only when translating"
  match deletes, second with
  | true, none => finish same (membership source) none'
  | true, some second => finish same (membership source) (membership second)
  | false, none => finish same none' (membership source)
  | false, some second =>
    let target := sets.getD 1 []
    if let some fault := replacementFault? complements (i.has 't') (sets.headD []) target
        source.length then t.fail fault
    let maps (b : UInt8) : Bool := second.all (· = b)
    if complements && (sets.headD []).any (fun item => item.isCase || item.isOtherClass) &&
        !((if i.has 't' then second.length = source.length else second.length ≤ source.length) &&
          second.head?.any maps) then
      t.fail ("when translating with complemented character classes,\n" ++
        "string2 must map all characters in the domain to one")
    finish (substitution (i.has 't') source second) none' (membership second)

end PipeShell.Programs.Tool
