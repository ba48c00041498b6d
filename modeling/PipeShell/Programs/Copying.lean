import PipeShell.Programs.Tool

/-!
# Programs that copy

The programs whose output is their input, or a part of it: all of it, perhaps with marks, its
beginning, or its end.
-/

namespace PipeShell.Programs.Tool

/-! ### Everything -/

/-- The options of plain copying. -/
def catOptions : OptionTable where
  letters := (['A', 'b', 'e', 'E', 'n', 's', 't', 'T', 'u', 'v'].map fun c => (c, .nothing))
  words :=
    [("show-all", 'A', .nothing), ("number-nonblank", 'b', .nothing), ("show-ends", 'E', .nothing),
      ("number", 'n', .nothing), ("squeeze-blank", 's', .nothing), ("show-tabs", 'T', .nothing),
      ("show-nonprinting", 'v', .nothing)]

/-- The marks that a copy may get. -/
structure Marks where
  /-- Whether lines are numbered. -/
  numbers : Bool
  /-- Whether only those that are not empty are. -/
  skipsEmpty : Bool
  /-- Whether ends of lines are shown. -/
  ends : Bool
  /-- Whether tabs are shown. -/
  tabs : Bool
  /-- Whether other controls are shown. -/
  controls : Bool
  /-- Whether of several empty lines one is kept. -/
  squeezes : Bool

/-- How far a marked copy has come. -/
structure MarkedCopy where
  /-- The number of the last line. -/
  line : Nat := 0
  /-- Whether a line begins. -/
  atStart : Bool := true
  /-- Whether the last line was empty. -/
  wasEmpty : Bool := false
  /-- Whether a carriage return has not been written yet. -/
  holdsReturn : Bool := false

/-- The number of a line as it is shown. -/
def lineNumber (n : Nat) : Bytes :=
  let digits := toString n
  Text.toOctets (String.ofList (List.replicate (6 - digits.length) ' ') ++ digits ++ "\t")

/-- An octet as it is shown. -/
def shownOctet (m : Marks) (b : UInt8) : Bytes :=
  if b = 9 then if m.tabs then [94, 73] else [9]
  else if m.controls then
    let low (b : UInt8) : Bytes :=
      if b < 32 then [94, b + 64] else if b = 127 then [94, 63] else [b]
    if 128 ≤ b then 77 :: 45 :: low (b - 128) else low b
  else [b]

/-- Takes an octet of a marked copy. -/
def markOctet (m : Marks) (c : MarkedCopy) (b : UInt8) : MarkedCopy × Bytes :=
  let held : Bytes := if c.holdsReturn then (if b = 10 then [94, 77] else shownOctet m 13) else []
  let c := { c with holdsReturn := false }
  if b = 10 then
    if c.atStart then
      if m.squeezes && c.wasEmpty then (c, held)
      else
        let counted := m.numbers && !m.skipsEmpty
        let line := if counted then c.line + 1 else c.line
        ({ c with line, wasEmpty := true },
          held ++ (if counted then lineNumber line else []) ++ (if m.ends then [36, 10] else [10]))
    else
      let end' : Bytes := if m.ends then [36, 10] else [10]
      ({ c with atStart := true, wasEmpty := false }, held ++ end')
  else
    let counted := c.atStart && m.numbers
    let line := if counted then c.line + 1 else c.line
    let front := held ++ if counted then lineNumber line else []
    let c := { c with line, atStart := false, wasEmpty := false }
    if b = 13 && m.ends && !m.controls then ({ c with holdsReturn := true }, front)
    else (c, front ++ shownOctet m b)

/-- Copies everything. -/
def cat (t : Tool) : Program Unit := do
  let i ← t.given catOptions
  let has (letters : List Char) : Bool := letters.any i.has
  let m : Marks :=
    { numbers := has ['n', 'b'], skipsEmpty := i.has 'b', ends := has ['A', 'e', 'E'],
      tabs := has ['A', 't', 'T'], controls := has ['A', 'e', 't', 'v'], squeezes := i.has 's' }
  if m.numbers || m.ends || m.tabs || m.controls || m.squeezes then
    let feed (c : MarkedCopy) (block : Bytes) : MarkedCopy × Bytes :=
      let (c, output) := block.foldl (fun (c, output) b =>
        let (c, text) := markOctet m c b
        (c, text :: output)) ((c, []) : MarkedCopy × List Bytes)
      (c, output.reverse.flatten)
    t.filter { feed, finish := fun c => if c.holdsReturn then [13] else [] } i.operands {}
  else t.filter { feed := fun u block => (u, block) } i.operands ()

/-! ### The beginning -/

/-- Which part of an input is copied. -/
structure Part where
  /-- Whether octets are counted, and not lines. -/
  octets : Bool
  /-- How many. -/
  count : Nat
  /-- Whether they are counted from the other side than usual. -/
  contrary : Bool
  deriving Repr

/-- The options of copying a part. The digits are old options, which are not taken here. -/
def partOptions : OptionTable where
  letters := [('c', .value), ('n', .value), ('q', .nothing), ('v', .nothing), ('z', .nothing)] ++
    "0123456789".toList.map fun c => (c, .nothing)
  words := [("bytes", 'c', .value), ("lines", 'n', .value), ("quiet", 'q', .nothing),
    ("silent", 'q', .nothing), ("verbose", 'v', .nothing), ("zero-terminated", 'z', .nothing)]

/-- The options of copying the end. -/
def tailOptions : OptionTable where
  letters := partOptions.letters ++ [('f', .nothing), ('F', .nothing), ('s', .value)]
  words := partOptions.words

/-- The number of lines or octets that an argument is, or leaves. -/
def partCount (t : Tool) (octets : Bool) (text : String) : Program Nat :=
  let what := if octets then "bytes" else "lines"
  t.amount Amount.commonUnits s!"invalid number of {what}" text

/-- Writes the name of an input in front of it. -/
def putHeader (t : Tool) (shows isFirst : Bool) (operand : String) : Program Unit := do
  if shows then
    let name := t.inputName operand
    let gap := if isFirst then "" else "\n"
    t.say s!"{gap}==> {name} <==\n"

/-- Whether names are written in front of inputs. -/
def showsHeaders (i : Invocation) : Bool :=
  match i.lastOf? ['q', 'v'] with
  | some c => c == 'v'
  | none => 1 < i.operands.length

/-- The first lines of a piece, last octet first, how many lines are still wanted, and what is
left over. -/
def takeLines (mark : UInt8) (taken : Bytes) : Nat → Bytes → Bytes × Nat × Bytes
  | 0, rest => (taken, 0, rest)
  | left, [] => (taken, left, [])
  | left + 1, b :: rest =>
    if b = mark then takeLines mark (b :: taken) left rest
    else takeLines mark (b :: taken) (left + 1) rest

/-- How much the program for beginnings reads at once. -/
def headBlock : Nat := 8192

/-- Why something has failed, if it has. -/
def causeOf? {α : Type} : Except Errno α → Option Errno
  | .ok _ => none
  | .error cause => some cause

/-- Copies the first octets. -/
def copyOctets (t : Tool) (fd : Fd) (count : Nat) : Program (Except Errno Unit) :=
  .loop count fun left => do
    if left = 0 then return .inr (.ok ())
    match ← .read fd (min left headBlock) with
    | .ok [] => return .inr (.ok ())
    | .ok block =>
      t.put block
      return .inl (left - block.length)
    | .error .eintr => return .inl left
    | .error cause => return .inr (.error cause)

/-- Copies the first lines. What was read behind them is given back. -/
def copyLines (t : Tool) (mark : UInt8) (fd : Fd) (count : Nat) : Program (Except Errno Unit) :=
  .loop count fun left => do
    if left = 0 then return .inr (.ok ())
    match ← .read fd headBlock with
    | .ok [] => return .inr (.ok ())
    | .ok block =>
      let (taken, left, rest) := takeLines mark [] left block
      if left = 0 then .attempt (.giveBack fd rest.length)
      t.put taken.reverse
      return .inl left
    | .error .eintr => return .inl left
    | .error cause => return .inr (.error cause)

/-- The last lines of a text, so many, and what stands before them. -/
def splitLast (mark : UInt8) (count : Nat) (text : Bytes) : Bytes × Bytes :=
  let lines := linesOf mark text
  let front := lines.take (lines.length - count)
  let size := (front.map fun line => line.length + 1).foldl (· + ·) 0
  (text.take size, text.drop size)

/-- Copies everything but the end. -/
def copyBut (t : Tool) (mark : UInt8) (fd : Fd) (part : Part) : Program (Except Errno Unit) := do
  match ← .readToEnd fd with
  | .error cause => return .error cause
  | .ok text =>
    let (front, rest) := if part.octets then text.splitAt (text.length - part.count)
      else splitLast mark part.count text
    t.put front
    .attempt (.giveBack fd rest.length)
    return .ok ()

/-- Reads an argument that is a number and letters behind it, which stand for options of their own:
how many units, and the options. -/
def readOldHead (t : Tool) (text : List Char) : Program (Part × List (Char × String)) := do
  let digits := text.takeWhile Char.isDigit
  let letters := text.drop digits.length
  let isUnit (c : Char) : Bool := ['b', 'k', 'm'].contains c
  if let some c := letters.find? fun c => !("cbkmlqvz".toList.contains c) then
    t.misuse s!"invalid trailing option -- {c}"
  let counting := letters.filter fun c => isUnit c || c == 'c' || c == 'l'
  let octets := counting.getLast?.any (· ≠ 'l')
  let unit := (letters.filter fun c => isUnit c || c == 'c').getLast?.filter isUnit
  let count ← t.partCount octets (String.ofList (digits ++ unit.toList))
  return (⟨octets, count, false⟩,
    (letters.filter fun c => ['q', 'v', 'z'].contains c).map fun c => (c, ""))

/-- Copies the beginning of every input. -/
def head (t : Tool) : Program Unit := do
  let (part, old, arguments) ← match t.arguments with
    | argument :: rest =>
      match argument.toList with
      | '-' :: c :: more =>
        if c.isDigit then do
          let (part, old) ← t.readOldHead (c :: more)
          pure (part, old, rest)
        else pure (⟨false, 10, false⟩, [], t.arguments)
      | _ => pure (⟨false, 10, false⟩, [], t.arguments)
    | [] => pure (⟨false, 10, false⟩, [], [])
  let read (part : Part) (letter : Char) (text : String) : Program Part := do
    if letter.isDigit then t.misuse s!"invalid trailing option -- {letter}"
    if letter == 'c' || letter == 'n' then
      let octets := letter == 'c'
      let contrary := text.startsWith "-"
      let count ← t.partCount octets (if contrary then (text.drop 1).toString else text)
      return ⟨octets, count, contrary⟩
    else return part
  let i := Invocation.read partOptions arguments
  let part ← i.options.foldlM (fun part (letter, text) => read part letter text) part
  if let some message := i.fault then t.misuse message
  let i := { i with options := old ++ i.options }
  let mark := lineMark i
  let (_, status) ← t.throughInputs (fun operand fd isFirst => do
    t.putHeader (showsHeaders i) isFirst operand
    let result ← if part.contrary then t.copyBut mark fd part
      else if part.octets then t.copyOctets fd part.count
      else t.copyLines mark fd part.count
    return (false, causeOf? result)) (orStandard i.operands) true 0
  .exit status

/-! ### The end -/

/-- Copies everything from an octet or a line on, which are counted from one. -/
def copyFrom (t : Tool) (mark : UInt8) (fd : Fd) (part : Part) : Program (Except Errno Unit) := do
  let result ← throughBlocks fd blockSize (part.count - 1) fun left block => do
    if part.octets then
      t.put (block.drop left)
      return (left - block.length, true)
    else
      let (_, left, rest) := takeLines mark [] left block
      t.put rest
      return (left, true)
  return result.map fun _ => ()

/-- Copies the end of an input. -/
def copyLast (t : Tool) (mark : UInt8) (fd : Fd) (part : Part) : Program (Except Errno Unit) := do
  match ← .readToEnd fd with
  | .error cause => return .error cause
  | .ok text =>
    t.put (if part.octets then text.drop (text.length - part.count)
      else (splitLast mark part.count text).2)
    return .ok ()

/-- Reads a first argument that is a sign, a number and letters: which part it asks for, if it is
of that form. -/
def oldTail? (argument : String) : Option Part :=
  match argument.toList with
  | [] => none
  | sign :: text =>
    let digits := text.takeWhile Char.isDigit
    let rest := text.drop digits.length
    let (octets, factor, rest) := match rest with
      | 'b' :: rest => (true, 512, rest)
      | 'c' :: rest => (true, 1, rest)
      | 'l' :: rest => (false, 1, rest)
      | rest => (false, 1, rest)
    let bare := text.isEmpty || text = ['c']
    if !rest.isEmpty || !(sign == '+' || sign == '-' && !bare) then none
    else
      let count := if digits.isEmpty then 10 else Amount.valueOf digits
      some ⟨octets, min (count * factor) (Nat.pow 2 64 - 1), sign == '+'⟩

/-- The part that a first argument asks for; there may be only one operand besides it. -/
def oldTailPart? : List String → Option Part
  | [argument] => oldTail? argument
  | [argument, operand] =>
    if operand.startsWith "-" && operand ≠ "-" && operand ≠ "--" then none else oldTail? argument
  | [argument, "--", _] => oldTail? argument
  | _ => none

/-- Copies the end of every input. -/
def tail (t : Tool) : Program Unit := do
  let old := oldTailPart? t.arguments
  let read (part : Part) (letter : Char) (text : String) : Program Part := do
    if letter.isDigit then t.fail s!"option used in invalid context -- {letter}"
    if letter == 'c' || letter == 'n' then
      let octets := letter == 'c'
      let count ← t.partCount octets
        (if text.startsWith "-" then (text.drop 1).toString else text)
      return ⟨octets, count, part.contrary || text.startsWith "+"⟩
    else return part
  let i := Invocation.read tailOptions (if old.isSome then t.arguments.drop 1 else t.arguments)
  let part ← i.options.foldlM (fun part (letter, text) => read part letter text)
    (old.getD ⟨false, 10, false⟩)
  if let some message := i.fault then t.misuse message
  if part.count = 0 && !part.contrary then .exit 0
  let mark := lineMark i
  let (_, status) ← t.throughInputs (fun operand fd isFirst => do
    t.putHeader (showsHeaders i) isFirst operand
    let result ← if part.contrary then t.copyFrom mark fd part else t.copyLast mark fd part
    return (false, causeOf? result)) (orStandard i.operands) true 0
  .exit status

/-! ### Several outputs -/

/-- Copies its input to its output and to files. -/
def tee (t : Tool) : Program Unit := do
  let i ← t.given
    { letters := [('a', .nothing), ('i', .nothing), ('p', .nothing)]
      words := [("append", 'a', .nothing), ("ignore-interrupts", 'i', .nothing)] }
  let access := if i.has 'a' then Access.append else .overwrite
  let (fds, status) ← i.operands.foldlM (fun (fds, status) operand => do
    match ← Program.openFile operand access with
    | .ok fd => return (fds ++ [fd], status)
    | .error cause =>
      let shown := Complaint.fileShown operand
      let text := cause.text
      t.warn s!"{shown}: {text}"
      return (fds, 1)) (([], 0) : List Fd × Nat)
  let result ← throughBlocks Fd.stdin blockSize () fun _ block => do
    t.put block
    fds.forM fun fd => do
      let _ ← Program.write fd block
    return ((), true)
  match result with
  | .ok () => .exit status
  | .error cause => t.fail (Complaint.readFailure t.name "-" cause)

end PipeShell.Programs.Tool
