import PipeShell.Programs.Tool

/-!
# Copying blocks

The program that copies its input in blocks of a size of their own. Its operands are settings of
the form `name=value`.

* `BlockCopy` holds the settings, and `Tool.readSettings` reads them.
* `Conversion` holds what is done to the octets between reading and writing.
-/

namespace PipeShell.Programs.Tool

/-! ### Settings -/

/-- What is asked of a copy in blocks. -/
structure BlockCopy where
  /-- The input, if it is not the standard one. -/
  input : Option String := none
  /-- The output, if it is not the standard one. -/
  output : Option String := none
  /-- How much is read at once. -/
  inputSize : Nat := 512
  /-- How much is written at once. -/
  outputSize : Nat := 512
  /-- How much is read and written at once, if the sizes are the same. -/
  size : Option Nat := none
  /-- The length of a record. -/
  recordSize : Nat := 0
  /-- How many blocks of the input are passed over. -/
  skip : Nat := 0
  /-- How many blocks of the output are passed over. -/
  seek : Nat := 0
  /-- How many blocks are copied, if not all are. -/
  count : Option Nat := none
  /-- The conversions. -/
  conversions : List String := []
  /-- What is asked of the input. -/
  inputFlags : List String := []
  /-- How much is told at the end. -/
  status : String := ""

/-- The conversions that there are. -/
def conversionNames : List String :=
  ["ascii", "ebcdic", "ibm", "block", "unblock", "lcase", "ucase", "sparse", "swab", "noerror",
    "nocreat", "excl", "notrunc", "sync", "fdatasync", "fsync"]

/-- What may be asked of an input or an output. -/
def flagNames : List String :=
  ["append", "binary", "cio", "direct", "directory", "dsync", "noatime", "nocache", "noctty",
    "nofollow", "nolinks", "nonblock", "sync", "text", "fullblock", "count_bytes", "skip_bytes",
    "seek_bytes"]

/-- The names that a value lists, or leaves. -/
def namesIn (t : Tool) (known : List String) (complaint value : String) : Program (List String) :=
  (value.splitOn ",").mapM fun name => do
    if !known.contains name then
      let shown := quoted name
      t.misuse s!"{complaint}: {shown}"
    return name

/-- The units of sizes of blocks. -/
def sizeUnits : List Char :=
  ['b', 'c', 'w', 'B', 'k', 'K', 'M', 'G', 'T', 'P', 'E', 'Z', 'Y', 'R', 'Q']

/-- The product of numbers with units. -/
def productOf : List String → Except Amount.Fault Nat
  | [] => .ok 1
  | text :: rest => do
    let n ← Amount.read sizeUnits text
    let m ← productOf rest
    if n * m < Nat.pow 2 63 then return n * m else .error .tooLarge

/-- The number that a value is, which is at least so large, or leaves. -/
def blockNumber (t : Tool) (least : Nat) (value : String) : Program Nat :=
  let cause? : Option (Option String) :=
    match productOf (value.splitOn "x") with
    | .ok n => if n < least then some none else none
    | .error fault => some fault.cause?
  match productOf (value.splitOn "x"), cause? with
  | .ok n, none => .done n
  | _, cause => t.badNumber "invalid number" value cause.join

/-- Takes a setting, or leaves. -/
def readSetting (t : Tool) (c : BlockCopy) (operand : String) : Program BlockCopy := do
  let name := String.ofList (operand.toList.takeWhile (· ≠ '='))
  let value := (operand.drop (name.length + 1)).toString
  let unknown : Program BlockCopy :=
    let shown := shellQuoted operand
    t.misuse s!"unrecognized operand {shown}"
  if name = operand then unknown
  else match name with
    | "if" => return { c with input := some value }
    | "of" => return { c with output := some value }
    | "conv" =>
      let more ← t.namesIn conversionNames "invalid conversion" value
      return { c with conversions := c.conversions ++ more }
    | "iflag" =>
      let more ← t.namesIn flagNames "invalid input flag" value
      return { c with inputFlags := c.inputFlags ++ more }
    | "oflag" =>
      let _ ← t.namesIn flagNames "invalid output flag" value
      return c
    | "status" =>
      let status ← t.namesIn ["none", "noxfer", "progress"] "invalid status level" value
      return { c with status := status.headD "" }
    | "ibs" => return { c with inputSize := ← t.blockNumber 1 value }
    | "obs" => return { c with outputSize := ← t.blockNumber 1 value }
    | "bs" => return { c with size := some (← t.blockNumber 1 value) }
    | "cbs" => return { c with recordSize := ← t.blockNumber 1 value }
    | "skip" => return { c with skip := ← t.blockNumber 0 value }
    | "iseek" => return { c with skip := ← t.blockNumber 0 value }
    | "seek" => return { c with seek := ← t.blockNumber 0 value }
    | "oseek" => return { c with seek := ← t.blockNumber 0 value }
    | "count" => return { c with count := some (← t.blockNumber 0 value) }
    | _ => unknown

/-- Pairs of conversions that exclude each other. -/
def exclusivePairs : List (String × String) :=
  [("block", "unblock"), ("lcase", "ucase"), ("excl", "nocreat")]

/-- Reads the settings, or leaves. -/
def readSettings (t : Tool) : Program BlockCopy := do
  let i ← t.given { endsEarly := true }
  let c ← i.operands.foldlM t.readSetting {}
  exclusivePairs.forM fun (a, b) => do
    if c.conversions.contains a && c.conversions.contains b then
      t.fail s!"cannot combine {a} and {b}"
  return match c.size with
    | some size => { c with inputSize := size, outputSize := size }
    | none => c

/-! ### Conversions -/

/-- The octets on their way from a block that is read to one that is written. -/
structure Conversion where
  /-- An octet that waits for its neighbour. -/
  waiting : Option UInt8 := none
  /-- How many octets of a record have gone by. -/
  column : Nat := 0
  /-- How many spaces of a record have been held back. -/
  spaces : Nat := 0
  /-- How many records have been cut off. -/
  truncated : Nat := 0

/-- Changes neighbours for each other; an octet without one is given back too. -/
def swapPairs : Bytes → Bytes × Option UInt8
  | a :: b :: rest =>
    let (done, left) := swapPairs rest
    (b :: a :: done, left)
  | [a] => ([], some a)
  | [] => ([], none)

/-- Makes records of one length out of lines. -/
def toRecords (size : Nat) (c : Conversion) (bytes : Bytes) : Conversion × Bytes :=
  let (c, output) := bytes.foldl (fun ((c : Conversion), output) b =>
    if b = 10 then
      ({ c with column := 0 }, List.replicate (size - c.column) 32 :: output)
    else
      let truncated := if c.column = size then c.truncated + 1 else c.truncated
      ({ c with column := c.column + 1, truncated },
        if c.column < size then [b] :: output else output)) (c, ([] : List Bytes))
  (c, output.reverse.flatten)

/-- Makes lines out of records of one length; spaces at the end of a record are dropped. -/
def toLines (size : Nat) (c : Conversion) (bytes : Bytes) : Conversion × Bytes :=
  let (c, output) := bytes.foldl (fun ((c : Conversion), output) b =>
    let (c, output) : Conversion × List Bytes :=
      if c.column = size then ({ c with column := 0, spaces := 0 }, [10] :: output)
      else (c, output)
    let c := { c with column := c.column + 1 }
    if b = 32 then ({ c with spaces := c.spaces + 1 }, output)
    else ({ c with spaces := 0 }, (List.replicate c.spaces 32 ++ [b]) :: output))
    (c, ([] : List Bytes))
  (c, output.reverse.flatten)

namespace BlockCopy

/-- Whether a conversion is asked for. -/
def converts (s : BlockCopy) (name : String) : Bool :=
  s.conversions.contains name

/-- Makes records or lines, if that is asked for. -/
def shape (s : BlockCopy) (c : Conversion) (bytes : Bytes) : Conversion × Bytes :=
  if s.converts "block" && s.recordSize ≠ 0 then toRecords s.recordSize c bytes
  else if s.converts "unblock" && s.recordSize ≠ 0 then toLines s.recordSize c bytes
  else (c, bytes)

/-- Converts a block. -/
def convert (s : BlockCopy) (c : Conversion) (block : Bytes) : Conversion × Bytes :=
  let upper (b : UInt8) : UInt8 := if 97 ≤ b && b ≤ 122 then b - 32 else b
  let lower (b : UInt8) : UInt8 := if 65 ≤ b && b ≤ 90 then b + 32 else b
  let block :=
    if s.converts "ucase" then block.map upper
    else if s.converts "lcase" then block.map lower
    else block
  if s.converts "swab" then
    let (swapped, waiting) := swapPairs (c.waiting.toList ++ block)
    s.shape { c with waiting } swapped
  else s.shape c block

/-- What is left to write at the end of the input. -/
def finish (s : BlockCopy) (c : Conversion) : Bytes :=
  let (c, rest) := s.shape c c.waiting.toList
  let behind : Bytes :=
    if c.column = 0 then []
    else if s.converts "block" then List.replicate (s.recordSize - c.column) 32
    else if s.converts "unblock" then [10]
    else []
  rest ++ behind

/-- Whether blocks are written as they have been read. -/
def isDirect (s : BlockCopy) : Bool :=
  s.size.isSome && !(["block", "unblock", "lcase", "ucase", "swab"].any s.converts)

/-- What fills up a block that is too short. -/
def filling (s : BlockCopy) : UInt8 :=
  if s.converts "block" || s.converts "unblock" then 32 else 0

end BlockCopy

/-! ### Copying -/

/-- How far a copy in blocks has come. -/
structure BlockState where
  /-- How many blocks may still be read. -/
  left : Nat
  /-- How many whole blocks have been read. -/
  fullIn : Nat := 0
  /-- How many others. -/
  partIn : Nat := 0
  /-- How many whole blocks have been written. -/
  fullOut : Nat := 0
  /-- How many others. -/
  partOut : Nat := 0
  /-- What has been read and not been written yet. -/
  rest : Bytes := []
  /-- The octets on their way. -/
  conversion : Conversion := {}

/-- Reads a block; `isWhole` says that it is filled up by more reading. -/
def readBlock (fd : Fd) (size : Nat) (isWhole : Bool) : Program (Except Errno Bytes) :=
  .loop ([] : Bytes) fun begun => do
    match ← .read fd (size - begun.length) with
    | .ok [] => return .inr (.ok begun)
    | .ok block =>
      let begun := begun ++ block
      return if isWhole && begun.length < size then .inl begun else .inr (.ok begun)
    | .error .eintr => return .inl begun
    | .error cause => return .inr (.error cause)

/-- Writes the whole blocks of what has been read. -/
def writeBlocks (t : Tool) (s : BlockCopy) (output : Fd) (b : BlockState) : Program BlockState :=
  .loop b fun b => do
    if b.rest.length < s.outputSize then return .inr b
    match ← .write output (b.rest.take s.outputSize) with
    | .error cause => t.fail (Complaint.writeFailure "dd" cause)
    | .ok () =>
      return .inl { b with fullOut := b.fullOut + 1, rest := b.rest.drop s.outputSize }

/-- Tells how much has been copied. -/
def tellBlocks (s : BlockCopy) (b : BlockState) : Program Unit := do
  if s.status ≠ "none" then
    let fullIn := b.fullIn
    let partIn := b.partIn
    let fullOut := b.fullOut
    let partOut := b.partOut
    let truncated := b.conversion.truncated
    let cut := match truncated with
      | 0 => ""
      | 1 => "1 truncated record\n"
      | n => s!"{n} truncated records\n"
    .complain s!"{fullIn}+{partIn} records in\n{fullOut}+{partOut} records out\n{cut}"

/-- Writes what is left, tells how much has been copied and leaves. -/
def finishBlocks (t : Tool) (s : BlockCopy) (output : Fd) (b : BlockState) (status : Nat) :
    Program Unit := do
  let b ← t.writeBlocks s output { b with rest := b.rest ++ s.finish b.conversion }
  if b.rest.isEmpty then
    tellBlocks s b
    .exit status
  match ← .write output b.rest with
  | .error cause => t.fail (Complaint.writeFailure "dd" cause)
  | .ok () =>
    tellBlocks s { b with partOut := b.partOut + 1 }
    .exit status

/-- Opens an input or an output, or leaves. -/
def openBlocks (t : Tool) (standard : Fd) (access : Access) : Option String → Program Fd
  | none => .done standard
  | some path => do
    match ← .openFile path access with
    | .ok fd => return fd
    | .error cause => t.fail (Complaint.openFailure "dd" path cause)

/-- Passes over blocks of an input; how many are missing. -/
def skipBlocks (t : Tool) (s : BlockCopy) (input : Fd) (name : String) : Program Nat :=
  .loop s.skip fun left => do
    if left = 0 then return .inr 0
    match ← readBlock input s.inputSize (s.inputFlags.contains "fullblock") with
    | .ok [] => return .inr left
    | .ok _ => return .inl (left - 1)
    | .error cause => t.fail (Complaint.readFailure "dd" name cause)

/-- Copies blocks. -/
def dd (t : Tool) : Program Unit := do
  let s ← t.readSettings
  let input ← t.openBlocks Fd.stdin .read s.input
  let access := if s.converts "notrunc" then Access.append else .overwrite
  let output ← t.openBlocks Fd.stdout access s.output
  let name := s.input.getD "standard input"
  if (← t.skipBlocks s input name) ≠ 0 && s.status ≠ "none" then
    let shown := shellShown name
    t.warn s!"{shown}: cannot skip to specified offset"
  if s.seek ≠ 0 && !(← .isRereadable output) then
    let shown := shellShown (s.output.getD "standard output")
    t.fail s!"{shown}: cannot seek: Illegal seek"
  .loop ({ left := s.count.getD Program.patience } : BlockState) fun b => do
    if b.left = 0 then
      t.finishBlocks s output b 0
      return .inl b
    match ← readBlock input s.inputSize (s.inputFlags.contains "fullblock") with
    | .ok [] =>
      t.finishBlocks s output b 0
      return .inl b
    | .ok block =>
      let isFull := block.length = s.inputSize
      let b := { b with
        left := b.left - 1, fullIn := if isFull then b.fullIn + 1 else b.fullIn
        partIn := if isFull then b.partIn else b.partIn + 1 }
      let block := if s.converts "sync" then
          block ++ List.replicate (s.inputSize - block.length) s.filling
        else block
      if s.isDirect then
        match ← .write output block with
        | .error cause => t.fail (Complaint.writeFailure "dd" cause)
        | .ok () =>
          let isFull := block.length = s.inputSize
          return .inl { b with
            fullOut := if isFull then b.fullOut + 1 else b.fullOut
            partOut := if isFull then b.partOut else b.partOut + 1 }
      else
        let (conversion, bytes) := s.convert b.conversion block
        return .inl (← t.writeBlocks s output { b with conversion, rest := b.rest ++ bytes })
    | .error cause =>
      t.warn (Complaint.readFailure "dd" name cause)
      t.finishBlocks s output b 1
      return .inl b

end PipeShell.Programs.Tool
