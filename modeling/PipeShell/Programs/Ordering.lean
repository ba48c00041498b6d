import PipeShell.Programs.Tool
import PipeShell.Text.FloatingPoint

/-!
# Programs about the order of lines

The program that puts lines in order by keys, the one that keeps one of several equal lines, and
the one that compares two inputs whose lines are in order.
-/

namespace PipeShell.Programs.Tool

/-! ### Comparing lines -/

/-- Compares octets. -/
def compareOctets : Bytes → Bytes → Ordering
  | [], [] => .eq
  | [], _ :: _ => .lt
  | _ :: _, [] => .gt
  | a :: as, b :: bs => if a = b then compareOctets as bs else if a < b then .lt else .gt

/-- Whether an octet is a blank. -/
def isBlank (b : UInt8) : Bool :=
  b == 32 || b == 9

/-- The number that a text begins with, as a numerator of a power of ten: sign, digits before and
behind the point. -/
def leadingNumber (text : Bytes) : Bool × Nat × List Nat :=
  let text := text.dropWhile isBlank
  let (negative, text) := match text with
    | 45 :: rest => (true, rest)
    | rest => (false, rest)
  let isDigit (b : UInt8) : Bool := 48 ≤ b && b ≤ 57
  let value (b : UInt8) : Nat := b.toNat - 48
  let whole := text.takeWhile isDigit
  let places := match text.drop whole.length with
    | 46 :: rest => rest.takeWhile isDigit
    | _ => []
  (negative, whole.foldl (fun n b => 10 * n + value b) 0, places.map value)

/-- Compares digits behind a point. -/
def comparePlaces : List Nat → List Nat → Ordering
  | [], [] => .eq
  | [], bs => if bs.any (· ≠ 0) then .lt else .eq
  | as, [] => if as.any (· ≠ 0) then .gt else .eq
  | a :: as, b :: bs => if a = b then comparePlaces as bs else compare a b

/-- Compares texts by the numbers that they begin with. -/
def compareNumbers (a b : Bytes) : Ordering :=
  let (aNegative, m, as) := leadingNumber a
  let (bNegative, n, bs) := leadingNumber b
  let aZero := m = 0 ∧ as.all (· = 0)
  let bZero := n = 0 ∧ bs.all (· = 0)
  let size := (compare m n).then (comparePlaces as bs)
  match aNegative && !aZero, bNegative && !bZero with
  | false, false => size
  | true, true => size.swap
  | true, false => .lt
  | false, true => .gt

/-- Compares texts by the numbers with a power of ten that they begin with; a text without one
comes first. -/
def compareGeneral (a b : Bytes) : Ordering :=
  let read (text : Bytes) : Option (Text.Fraction × List Char) :=
    Text.Fraction.read? (Text.ofOctets text).toList
  match read a, read b with
  | none, none => .eq
  | none, some _ => .lt
  | some _, none => .gt
  | some (x, _), some (y, _) =>
    let signed (x : Text.Fraction) (n : Nat) : Int := if x.negative then -(n : Int) else n
    compare (signed x (x.numerator * y.denominator)) (signed y (y.numerator * x.denominator))

/-- The power that a letter behind a number stands for. -/
def unitRank (text : Bytes) : Nat :=
  let rest := (text.dropWhile isBlank).dropWhile fun b =>
    b == 45 || b == 46 || (48 ≤ b && b ≤ 57)
  match rest with
  | b :: _ => ("KMGTPEZY".toList.map fun c => UInt8.ofNat c.toNat).idxOf
      (if b = 107 then 75 else b) + 1
  | [] => 0

/-- Compares texts by numbers with a letter for a power. -/
def compareHuman (a b : Bytes) : Ordering :=
  let rank (text : Bytes) : Int :=
    let n : Int := if unitRank text = 9 then 0 else unitRank text
    if (leadingNumber text).1 then -n else n
  (compare (rank a) (rank b)).then (compareNumbers a b)

/-- The number of the month that a text begins with. -/
def month (text : Bytes) : Nat :=
  let name := (Text.ofOctets ((text.dropWhile isBlank).take 3)).toUpper
  let names := ["JAN", "FEB", "MAR", "APR", "MAY", "JUN", "JUL", "AUG", "SEP", "OCT", "NOV", "DEC"]
  if names.contains name then names.idxOf name + 1 else 0

/-- The capital form of an octet. -/
def upperOctet (b : UInt8) : UInt8 :=
  if 97 ≤ b && b ≤ 122 then b - 32 else b

/-- Whether an octet is a letter or a digit. -/
def isAlphanumeric (b : UInt8) : Bool :=
  (48 ≤ b && b ≤ 57) || (65 ≤ b && b ≤ 90) || (97 ≤ b && b ≤ 122)

/-- Compares texts piece by piece, where rows of digits count as numbers. -/
def compareVersions : Nat → Bytes → Bytes → Ordering
  | 0, _, _ => .eq
  | _, [], [] => .eq
  | _, [], _ => .lt
  | _, _, [] => .gt
  | fuel + 1, a :: as, b :: bs =>
    let isDigit (b : UInt8) : Bool := 48 ≤ b && b ≤ 57
    if isDigit a && isDigit b then
      let m := (a :: as).takeWhile isDigit
      let n := (b :: bs).takeWhile isDigit
      let value (digits : Bytes) : Nat := digits.foldl (fun n b => 10 * n + (b.toNat - 48)) 0
      (compare (value m) (value n)).then
        (compareVersions fuel ((a :: as).drop m.length) ((b :: bs).drop n.length))
    else if a = b then compareVersions fuel as bs
    else if isDigit a then .lt
    else if isDigit b then .gt
    else if a < b then .lt else .gt

/-! ### Keys -/

/-- A part of a line by which lines are compared, and how. -/
structure SortKey where
  /-- How many fields stand before it; none if it is the whole line. -/
  first : Nat := 0
  /-- How many octets of its first field stand before it. -/
  firstOffset : Nat := 0
  /-- How many fields stand before its last one; none if it ends with the line. -/
  last : Option Nat := none
  /-- How many octets of the last field belong to it; zero if all do. -/
  lastOffset : Nat := 0
  /-- The letters of the options for its beginning, and for the comparison. -/
  letters : List Char := []
  /-- The letters of the options for its end. -/
  endLetters : List Char := []
  deriving Repr

/-- The options of the order. -/
def orderLetters : List Char :=
  ['b', 'd', 'f', 'g', 'h', 'i', 'M', 'n', 'R', 'r', 'V']

/-- Drops fields. -/
def dropFields (separator : Option UInt8) : Nat → Bytes → Bytes
  | 0, text => text
  | n + 1, text =>
    match separator with
    | some c => dropFields separator n ((text.dropWhile (· ≠ c)).drop 1)
    | none => dropFields separator n ((text.dropWhile isBlank).dropWhile fun b => !isBlank b)

/-- What follows a number of fields, without the separator in front. -/
def dropToEnd (separator : Option UInt8) (fields : Nat) (text : Bytes) : Bytes :=
  match separator with
  | none => dropFields none fields text
  | some c =>
    match fields with
    | 0 => text
    | n + 1 => (dropFields separator n text).dropWhile (· ≠ c)

/-- The part of a line that a key names. -/
def SortKey.part (key : SortKey) (separator : Option UInt8) (line : Bytes) : Bytes :=
  let start := dropFields separator key.first line
  let start := if key.letters.contains 'b' then start.dropWhile isBlank else start
  let start := start.drop key.firstOffset
  match key.last with
  | none => start
  | some last =>
    let rest :=
      if key.lastOffset = 0 then dropToEnd separator (last + 1) line
      else
        let field := dropFields separator last line
        let field := if key.endLetters.contains 'b' then field.dropWhile isBlank else field
        field.drop key.lastOffset
    start.take (start.length - rest.length)

/-- Compares two parts as letters say. -/
def compareParts (letters : List Char) (a b : Bytes) : Ordering :=
  let has (c : Char) : Bool := letters.contains c
  let result :=
    if has 'n' then compareNumbers a b
    else if has 'g' then compareGeneral a b
    else if has 'h' then compareHuman a b
    else if has 'M' then compare (month a) (month b)
    else if has 'V' then compareVersions (a.length + b.length) a b
    else
      let shape (text : Bytes) : Bytes :=
        let text := if has 'd' then text.filter fun b => isAlphanumeric b || isBlank b else text
        let text := if has 'i' then text.filter fun b => 32 ≤ b && b < 127 else text
        if has 'f' then text.map upperOctet else text
      compareOctets (shape a) (shape b)
  if has 'r' then result.swap else result

/-- Compares two lines by keys. -/
def compareKeys (separator : Option UInt8) (a b : Bytes) : List SortKey → Ordering
  | [] => .eq
  | key :: rest =>
    (compareParts key.letters (key.part separator a) (key.part separator b)).then
      (compareKeys separator a b rest)

/-- Reads a field number and an offset: the field, the offset if there is one, and the letters. -/
def readPosition (text : List Char) : Option (Nat × Option Nat × List Char) :=
  let digits := text.takeWhile Char.isDigit
  if digits.isEmpty then none
  else
    let value (digits : List Char) : Nat := Text.Fraction.digitsValue digits
    match text.drop digits.length with
    | '.' :: rest =>
      let offset := rest.takeWhile Char.isDigit
      if offset.isEmpty then none
      else some (value digits, some (value offset), rest.drop offset.length)
    | rest => some (value digits, none, rest)

/-- Leaves because a key is none. -/
def badKey {α : Type} (t : Tool) (what text : String) : Program α :=
  let shown := quoted text
  t.fail s!"{what}: invalid field specification {shown}"

/-- Reads a key. -/
def readKey (t : Tool) (text : String) : Program SortKey := do
  let badCount (place rest : String) : Program SortKey :=
    let shown := quoted rest
    t.fail s!"invalid number at field {place}: invalid count at start of {shown}"
  match readPosition text.toList with
  | none => badCount "start" text
  | some (first, offset, rest) =>
    if first = 0 then t.badKey "field number is zero" text
    if offset = some 0 then t.badKey "character offset is zero" text
    let letters := rest.takeWhile orderLetters.contains
    let key : SortKey :=
      { first := first - 1, firstOffset := offset.getD 1 - 1, letters }
    match rest.drop letters.length with
    | [] => return key
    | ',' :: behind =>
      match readPosition behind with
      | none => badCount "after ','" (String.ofList behind)
      | some (last, offset, rest) =>
        if last = 0 then t.badKey "field number is zero" text
        let endLetters := rest.takeWhile orderLetters.contains
        if rest.length ≠ endLetters.length then t.badKey "stray character in field spec" text
        let others := endLetters.filter (· ≠ 'b')
        return { key with
          last := some (last - 1), lastOffset := offset.getD 0, letters := letters ++ others,
          endLetters }
    | _ => t.badKey "stray character in field spec" text

/-- The letters of a key that exclude each other, if there are such ones. -/
def SortKey.conflict? (key : SortKey) : Option String :=
  let has (c : Char) : Bool := key.letters.contains c
  let kinds := ['n', 'g', 'h', 'M'].countP has
  let others := if ['V', 'R', 'd', 'i'].any has then 1 else 0
  if kinds + others ≤ 1 then none
  else
    let ignored := key.letters.reverse.find? fun c => c == 'd' || c == 'i'
    let isTold (c : Char) : Bool := has c && !((c == 'd' || c == 'i') && ignored ≠ some c)
    some (String.ofList (['d', 'f', 'g', 'h', 'i', 'M', 'n', 'R', 'V'].filter isTold))

/-! ### Putting in order -/

/-- The options of putting in order. -/
def sortOptions : OptionTable where
  letters := ((orderLetters ++ ['c', 'C', 'm', 's', 'u', 'z']).map fun c => (c, .nothing)) ++
    (['k', 'o', 'S', 't', 'T'].map fun c => (c, .value))
  words := [("ignore-leading-blanks", 'b', .nothing), ("dictionary-order", 'd', .nothing),
    ("ignore-case", 'f', .nothing), ("general-numeric-sort", 'g', .nothing),
    ("human-numeric-sort", 'h', .nothing), ("ignore-nonprinting", 'i', .nothing),
    ("month-sort", 'M', .nothing), ("numeric-sort", 'n', .nothing), ("reverse", 'r', .nothing),
    ("version-sort", 'V', .nothing), ("check", 'c', .nothing), ("key", 'k', .value),
    ("merge", 'm', .nothing), ("output", 'o', .value), ("stable", 's', .nothing),
    ("buffer-size", 'S', .value), ("field-separator", 't', .value), ("unique", 'u', .nothing),
    ("zero-terminated", 'z', .nothing)]

/-- The separator that an option asks for. -/
def sortSeparator (t : Tool) : Option String → Program (Option UInt8)
  | none => return none
  | some text =>
    match text.toList with
    | [] => t.fail "empty tab"
    | [c] => return some (UInt8.ofNat c.toNat)
    | ['\\', '0'] => return some 0
    | _ =>
      let shown := quoted text
      t.fail s!"multi-character tab {shown}"

/-- The first line that does not stand behind the one before it, with its number. -/
def firstDisorder (isInOrder : Bytes → Bytes → Bool) : Nat → List Bytes → Option (Nat × Bytes)
  | n, a :: b :: rest =>
    if isInOrder a b then firstDisorder isInOrder (n + 1) (b :: rest) else some (n + 1, b)
  | _, _ => none

/-- Keeps the first of neighbours that are equal. -/
def keepFirsts (isEqual : Bytes → Bytes → Bool) (lines : List Bytes) : List Bytes :=
  (lines.foldl (fun kept line =>
    match kept with
    | last :: _ => if isEqual last line then kept else line :: kept
    | [] => [line]) []).reverse

/-- Puts lines in order. -/
def sort (t : Tool) : Program Unit := do
  let i ← t.given sortOptions
  let mark := lineMark i
  let separator ← t.sortSeparator (i.value? 't')
  let global := (i.options.map Prod.fst).filter orderLetters.contains
  let keys ← (i.values 'k').mapM fun text => do
    let key ← t.readKey text
    return if key.letters.isEmpty && key.endLetters.isEmpty then
        { key with letters := global, endLetters := global.filter (· == 'b') }
      else key
  let keys := if keys.isEmpty && global.any (· ≠ 'r') then [{ letters := global }] else keys
  if let some letters := keys.findSome? SortKey.conflict? then
    t.fail s!"options '-{letters}' are incompatible"
  let isStable := i.has 's' || i.has 'u'
  let byKeys (a b : Bytes) : Ordering :=
    if keys.isEmpty then
      (let order := compareOctets a b
       if global.contains 'r' then order.swap else order)
    else compareKeys separator a b keys
  let order (a b : Bytes) : Ordering :=
    let first := byKeys a b
    if isStable || keys.isEmpty then first
    else
      let rest := compareOctets a b
      first.then (if global.contains 'r' then rest.swap else rest)
  if i.has 'c' || i.has 'C' then
    if let some extra := i.operands[1]? then
      let shown := quoted extra
      let letter := (i.lastOf? ['c', 'C']).getD 'c'
      t.fail s!"extra operand {shown} not allowed with -{letter}"
    let operand := i.operands.headD "-"
    if operand ≠ "-" then
      if let .error cause ← Program.openFile operand .read then
        let shown := Complaint.fileShown operand
        let text := cause.text
        t.fail s!"open failed: {shown}: {text}"
    let lines := linesOf mark (← t.readAll operand)
    let isInOrder (a b : Bytes) : Bool :=
      match order a b with
      | .lt => true
      | .eq => !i.has 'u'
      | .gt => false
    match firstDisorder isInOrder 1 lines with
    | none => .exit 0
    | some (n, line) =>
      if i.lastOf? ['c', 'C'] = some 'c' then
        let text := Text.ofOctets line
        t.warn s!"{operand}:{n}: disorder: {text}"
      .exit 1
  let texts ← (orStandard i.operands).mapM fun operand => do
    return linesOf mark (← t.readAll operand)
  let isInOrder (a b : Bytes) : Bool := order a b != .gt
  let sorted := if i.has 'm' then texts.foldl (fun a b => List.merge a b isInOrder) []
    else texts.flatten.mergeSort isInOrder
  let sorted := if i.has 'u' then keepFirsts (fun a b => byKeys a b == .eq) sorted else sorted
  let output := joinLines mark sorted
  match i.value? 'o' with
  | none => t.put output
  | some path =>
    match ← .openFile path .overwrite with
    | .ok fd =>
      let _ ← Program.write fd output
    | .error cause =>
      let shown := Complaint.fileShown path
      let text := cause.text
      t.fail s!"open failed: {shown}: {text}"
  .exit 0

/-! ### Equal lines -/

/-- The options of keeping one of equal lines. -/
def uniqOptions : OptionTable where
  letters := [('c', .nothing), ('d', .nothing), ('D', .nothing), ('u', .nothing), ('i', .nothing),
    ('f', .value), ('s', .value), ('w', .value), ('z', .nothing)] ++
    "0123456789".toList.map fun c => (c, .nothing)
  words := [("count", 'c', .nothing), ("repeated", 'd', .nothing), ("all-repeated", 'D', .maybe),
    ("group", 'G', .maybe), ("skip-fields", 'f', .value), ("ignore-case", 'i', .nothing),
    ("skip-chars", 's', .value), ("unique", 'u', .nothing), ("zero-terminated", 'z', .nothing),
    ("check-chars", 'w', .value)]

/-- Where empty lines stand that tell groups of lines apart. -/
inductive Gaps where
  | none
  | before
  | behind
  | between
  | around
  deriving DecidableEq, Repr

/-- The values of the option that shows all lines that are repeated. -/
def repeatGaps : List (String × Gaps) :=
  [("none", .none), ("prepend", .before), ("separate", .between)]

/-- The values of the option that shows all lines. -/
def groupGaps : List (String × Gaps) :=
  [("prepend", .before), ("append", .behind), ("separate", .between), ("both", .around)]

/-- How groups of equal lines are shown. -/
structure GroupStyle where
  /-- Whether lines are shown that stand alone. -/
  single : Bool := true
  /-- Whether one line of a group of several is shown. -/
  several : Bool := true
  /-- Whether the others of them are shown. -/
  others : Bool := false
  /-- Whether lines are counted. -/
  counts : Bool := false
  /-- Where empty lines stand around the groups that are shown. -/
  gaps : Gaps := .none
  /-- Whether all lines are shown. -/
  all : Bool := false

/-- Whether an empty line stands in front of a group; `isFirst` says that it is the first one. -/
def GroupStyle.gapBefore (s : GroupStyle) (isFirst : Bool) : Bool :=
  match s.gaps with
  | .before => true
  | .around => true
  | .between => !isFirst
  | .behind => !isFirst
  | .none => false

/-- A group of equal lines as it is shown. -/
def GroupStyle.shown (s : GroupStyle) (mark : UInt8) (isFirst : Bool) (lines : List Bytes) :
    Bytes :=
  let n := lines.length
  let gap : Bytes := if s.gapBefore isFirst then [mark] else []
  if s.all then gap ++ joinLines mark lines
  else if s.others then
    if n = 1 then (if s.single then joinLines mark lines else [])
    else gap ++ joinLines mark (if s.several then lines else lines.dropLast)
  else if if n = 1 then s.single else s.several then
    let digits := toString n
    let counted := if s.counts then
        Text.toOctets (String.ofList (List.replicate (7 - digits.length) ' ') ++ digits ++ " ")
      else []
    counted ++ joinLines mark (lines.take 1)
  else []

/-- The style that options ask for. -/
def groupStyle (t : Tool) (i : Invocation) : Program GroupStyle := do
  let style ← i.options.foldlM (fun (s : GroupStyle) (letter, text) => do
    match letter with
    | 'c' => return { s with counts := true }
    | 'd' => return { s with single := false }
    | 'u' => return { s with several := false }
    | 'D' =>
      let gaps ← if text.isEmpty then pure Gaps.none
        else t.choice "--all-repeated" repeatGaps text
      return { s with single := false, others := true, gaps }
    | 'G' =>
      let gaps ← if text.isEmpty then pure Gaps.between else t.choice "--group" groupGaps text
      return { s with all := true, gaps }
    | _ => return s) {}
  if let some message := i.fault then t.misuse message
  if style.all && ['c', 'd', 'D', 'u'].any i.has then
    t.misuse "--group is mutually exclusive with -c/-d/-D/-u"
  if style.counts && style.others then
    t.misuse "printing all duplicated lines and repeat counts is meaningless"
  return style

/-- Keeps one of equal lines. -/
def uniq (t : Tool) : Program Unit := do
  let number (what text : String) : Program Nat :=
    match Amount.read [] text with
    | .ok n => .done n
    | .error .tooLarge => .done (Nat.pow 2 64 - 1)
    | .error .invalid => t.fail s!"{text}: invalid number of {what}"
  let i := Invocation.read uniqOptions t.arguments
  let (_, oldFields, fields, chars, width) ← i.options.foldlM
    (fun (isOld, old, fields, chars, width) (letter, text) => do
      match letter with
      | 'f' => return (false, 0, ← number "fields to skip" text, chars, width)
      | 's' => return (isOld, old, fields, ← number "bytes to skip" text, width)
      | 'w' => return (isOld, old, fields, chars, some (← number "bytes to compare" text))
      | letter =>
        if letter.isDigit then return (true, 10 * old + (letter.toNat - 48), 0, chars, width)
        else return (isOld, old, fields, chars, width))
    ((false, 0, 0, 0, none) : Bool × Nat × Nat × Nat × Option Nat)
  let style ← t.groupStyle i
  -- an operand with a plus sign and a number says how many characters are passed over
  let isCount (operand : String) : Bool :=
    operand.startsWith "+" && (Amount.read [] operand).toOption.isSome
  let chars := ((i.operands.filter isCount).getLast?.bind fun operand =>
    (Amount.read [] operand).toOption).getD chars
  let operands := i.operands.filter fun operand => !isCount operand
  if let some extra := operands[2]? then t.extraOperand extra
  let compared (line : Bytes) : Bytes :=
    let rest := (dropFields none (min (oldFields + fields) line.length) line).drop chars
    let rest := match width with
      | some width => rest.take width
      | none => rest
    if i.has 'i' then rest.map upperOctet else rest
  let mark := lineMark i
  let operand := operands.headD "-"
  let fd ← match ← t.openInput operand with
    | some fd => pure fd
    | none => .exit 1
  let output ← match operands[1]? with
    | none => pure Fd.stdout
    | some "-" => pure Fd.stdout
    | some path =>
      match ← .openFile path .overwrite with
      | .ok fd => pure fd
      | .error cause =>
        let shown := Complaint.fileShown path
        let text := cause.text
        t.fail s!"{shown}: {text}"
  let put (bytes : Bytes) : Program Unit := do
    if output = Fd.stdout then t.put bytes
    else
      let _ ← Program.write output bytes
  -- the state is whether no group has been shown, and the group that has begun, last line first
  let take : Bool × List Bytes → Bytes → Bool → (Bool × List Bytes) × Bytes
    | (isFirst, []), line, _ => ((isFirst, [line]), [])
    | (isFirst, last :: lines), line, _ =>
      if compared last = compared line then ((isFirst, line :: last :: lines), [])
      else
        let shown := style.shown mark isFirst (last :: lines).reverse
        ((isFirst && shown.isEmpty, [line]), shown)
  let finish : Bool × List Bytes → Bytes
    | (_, []) => []
    | (isFirst, lines) =>
      style.shown mark isFirst lines.reverse ++
        (if style.gaps = .behind || style.gaps = .around then [mark] else [])
  let f := lineFilter mark take finish
  match ← throughBlocks fd blockSize (((true, []), []) : (Bool × List Bytes) × Bytes)
      fun state block => do
        let (state, bytes) := f.feed state block
        put bytes
        return (state, true) with
  | .ok state =>
    put (f.finish state)
    .exit 0
  | .error cause => t.fail (Complaint.readFailure t.name operand cause)

/-! ### Two inputs -/

/-- What is noticed when two lists of lines are compared. -/
inductive Finding where
  /-- A line, with the column that it belongs to. -/
  | line (column : Nat) (text : Bytes)
  /-- A list, the first or the second, is not in order. -/
  | disorder (list : Nat)
  deriving Repr

/-- A list of lines that is gone through. -/
structure Side where
  /-- Which one it is: the first or the second. -/
  number : Nat
  /-- The lines that have been seen, the last one first. -/
  seen : List Bytes := []
  /-- The others. -/
  rest : List Bytes
  /-- Whether its disorder has been noticed. -/
  isNoted : Bool := false

namespace Side

/-- Goes on to the next line. -/
def advance (s : Side) : Side :=
  { s with seen := s.rest.take 1 ++ s.seen.take 1, rest := s.rest.drop 1 }

/-- Whether the last two lines that are known, the next one among them, are in the wrong order. -/
def isInDisorder (s : Side) : Bool :=
  match s.rest, s.seen with
  | next :: _, last :: _ => compareOctets last next == .gt
  | [], last :: before :: _ => compareOctets before last == .gt
  | _, _ => false

/-- Goes on to the next line and looks at the order if that is asked for. -/
def step (checks : Bool) (s : Side) : Side × List Finding :=
  let s := s.advance
  if checks && !s.isNoted && s.isInDisorder then ({ s with isNoted := true }, [.disorder s.number])
  else (s, [])

end Side

/-- When the order of lines is looked at: always, never, or from the first line on that only one
of the lists has. -/
inductive OrderCheck where
  | always
  | never
  | unpaired
  deriving DecidableEq, Repr

/-- Compares two lists of lines in order, so many lines at most. -/
def findings (check : OrderCheck) : Nat → Bool → Side → Side → List Finding
  | 0, _, _, _ => []
  | fuel + 1, unpaired, a, b =>
    let order := match a.rest, b.rest with
      | [], _ => Ordering.gt
      | _, [] => .lt
      | x :: _, y :: _ => compareOctets x y
    let unpaired := unpaired || order != .eq
    let checks := check = .always || check = .unpaired && unpaired
    match order, a.rest, b.rest with
    | _, [], [] => []
    | .lt, x :: _, _ =>
      let (a, found) := a.step checks
      .line 1 x :: found ++ findings check fuel unpaired a b
    | .eq, _, y :: _ =>
      let (a, found) := a.step checks
      let (b, more) := b.step checks
      .line 3 y :: found ++ more ++ findings check fuel unpaired a b
    | _, _, y :: _ =>
      let (b, found) := b.step checks
      .line 2 y :: found ++ findings check fuel unpaired a b
    | _, _, _ => []

/-- Writes what has been found; whether a list was not in order. -/
def tellFindings (t : Tool) (isStrict : Bool) (shown : Nat → Bytes → Bytes) :
    List Finding → Bytes → Program Bool
  | [], text => do
    t.put text
    return false
  | .line column line :: rest, text =>
    tellFindings t isStrict shown rest (text ++ shown column line)
  | .disorder list :: rest, text => do
    t.put text
    t.warn s!"file {list} is not in sorted order"
    if isStrict then .exit 1
    let _ ← tellFindings t isStrict shown rest []
    return true

/-- Compares two inputs whose lines are in order. -/
def comm (t : Tool) : Program Unit := do
  let i ← t.given
    { letters := (['1', '2', '3', 'z'].map fun c => (c, .nothing))
      words := [("output-delimiter", 'O', .value), ("check-order", 'C', .nothing),
        ("nocheck-order", 'N', .nothing), ("total", 'T', .nothing),
        ("zero-terminated", 'z', .nothing)] }
  match i.operands with
  | [a, b] =>
    let mark := lineMark i
    let as := linesOf mark (← t.readAll a)
    let bs := linesOf mark (← t.readAll b)
    let tab := match i.value? 'O' with
      | none => [9]
      | some "" => [0]
      | some text => Text.toOctets text
    let front (column : Nat) : Bytes :=
      (if column ≠ 1 && !i.has '1' then tab else []) ++
        (if column = 3 && !i.has '2' then tab else [])
    let isShown (column : Nat) : Bool := !i.has (Char.ofNat (48 + column))
    let check : OrderCheck := match i.lastOf? ['C', 'N'] with
      | some 'C' => .always
      | some _ => .never
      | none => .unpaired
    let found := findings check (as.length + bs.length + 1) false
      { number := 1, rest := as } { number := 2, rest := bs }
    let disordered ← t.tellFindings (check = .always) (fun column line =>
      if isShown column then front column ++ line ++ [mark] else []) found []
    if i.has 'T' then
      let count (column : Nat) : Bytes :=
        Text.toOctets (toString (found.countP fun
          | .line c _ => c = column
          | .disorder _ => false)) ++ tab
      t.put ((([1, 2, 3] : List Nat).flatMap count) ++ Text.toOctets "total" ++ [mark])
    if disordered then t.fail "input is not in sorted order"
    .exit 0
  | [] => t.misuse "missing operand"
  | [a] =>
    let shown := quoted a
    t.misuse s!"missing operand after {shown}"
  | _ :: _ :: extra :: _ => t.extraOperand extra

end PipeShell.Programs.Tool
