import PipeShell.Programs.RegexReader
import PipeShell.Programs.Tool

/-!
# Programs that count

The programs that count what their inputs hold, and the one that numbers lines.
-/

namespace PipeShell.Programs.Tool

/-! ### Totals -/

/-- The options of counting. -/
def wcOptions : OptionTable where
  letters := (['c', 'l', 'L', 'm', 'w'].map fun c => (c, .nothing))
  words := [("bytes", 'c', .nothing), ("lines", 'l', .nothing), ("max-line-length", 'L', .nothing),
    ("chars", 'm', .nothing), ("words", 'w', .nothing), ("total", 'T', .value)]

/-- When the counts of all inputs together are shown. -/
inductive TotalUse where
  /-- If there are several inputs. -/
  | auto
  /-- Always. -/
  | always
  /-- Always, and nothing else. -/
  | only
  /-- Never. -/
  | never
  deriving DecidableEq, Repr

/-- The values of the option about totals. -/
def totalUses : List (String × TotalUse) :=
  [("auto", .auto), ("always", .always), ("only", .only), ("never", .never)]

/-- What has been counted. -/
structure Counts where
  lines : Nat := 0
  words : Nat := 0
  octets : Nat := 0
  /-- The width of the widest line. -/
  widest : Nat := 0
  /-- Whether a word has begun. -/
  inWord : Bool := false
  /-- The width of the line so far. -/
  width : Nat := 0
  deriving Repr

namespace Counts

/-- Counts an octet. -/
def add (c : Counts) (b : UInt8) : Counts :=
  let c := { c with octets := c.octets + 1 }
  let between : Counts :=
    { c with words := c.words + (if c.inWord then 1 else 0), inWord := false }
  if b = 10 then
    { between with lines := c.lines + 1, widest := max c.widest c.width, width := 0 }
  else if b = 13 || b = 12 then { between with widest := max c.widest c.width, width := 0 }
  else if b = 9 then { between with width := c.width + 8 - c.width % 8 }
  else if b = 32 then { between with width := c.width + 1 }
  else if b = 11 then between
  else if 32 < b && b < 127 then { c with inWord := true, width := c.width + 1 }
  else c

/-- Ends an input. -/
def finish (c : Counts) : Counts :=
  { c with
    words := c.words + (if c.inWord then 1 else 0), inWord := false
    widest := max c.widest c.width, width := 0 }

/-- The counts of two inputs together. -/
def join (a b : Counts) : Counts :=
  { lines := a.lines + b.lines, words := a.words + b.words, octets := a.octets + b.octets,
    widest := max a.widest b.widest }

/-- The counts that are shown, in their fixed order. -/
def shown (c : Counts) (i : Invocation) : List Nat :=
  if i.options.all fun o => o.1 == 'T' then [c.lines, c.words, c.octets]
  else
    (if i.has 'l' then [c.lines] else []) ++ (if i.has 'w' then [c.words] else []) ++
      (if i.has 'm' then [c.octets] else []) ++ (if i.has 'c' then [c.octets] else []) ++
      (if i.has 'L' then [c.widest] else [])

end Counts

/-- A number at the end of a field of the given width. -/
def padded (width n : Nat) : String :=
  let digits := toString n
  String.ofList (List.replicate (width - digits.length) ' ') ++ digits

/-- How wide the counts of inputs are written: one number of one input as it is, others as wide
as the sum of the sizes, and inputs without a size at least seven wide. -/
def countWidth (i : Invocation) : Program Nat := do
  let operands := orStandard i.operands
  if operands.length = 1 && (({} : Counts).shown i).length = 1 then return 1
  let (sum, least) ← operands.foldlM (fun (sum, least) operand => do
    let kind ← if operand = "-" then Program.inspect Fd.stdin else Program.examine operand
    match kind with
    | .ok (.file _ size _) => return (sum + size, least)
    | .ok _ => return (sum, 7)
    | .error _ => return (sum, least)) (0, 1)
  return max least (toString sum).length

/-- Counts lines, words and octets. -/
def wc (t : Tool) : Program Unit := do
  let i ← t.given wcOptions
  let use ← match i.value? 'T' with
    | none => pure TotalUse.auto
    | some text => t.choice "--total" totalUses text
  let width ← if use = .only then pure 1 else countWidth i
  let put (c : Counts) (name : String) : Program Unit :=
    let named := if name.isEmpty then "" else " " ++ name
    t.say (" ".intercalate ((c.shown i).map (padded width)) ++ named ++ "\n")
  let (total, status) ← (orStandard i.operands).foldlM (fun (total, status) operand => do
    match ← t.openInput operand with
    | none => return (total, 1)
    | some fd =>
      let (counts, status) ← count t (!i.operands.isEmpty) operand fd status
      closeInput operand fd
      if use ≠ .only then put counts (if i.operands.isEmpty then "" else operand)
      return (total.join counts, status)) (({}, 0) : Counts × Nat)
  match use with
  | .auto => if 1 < i.operands.length then put total "total"
  | .always => put total "total"
  | .only => put total ""
  | .never => pure ()
  .exit status
where
  /-- Counts one input. -/
  count (t : Tool) (isNamed : Bool) (operand : String) (fd : Fd) (status : Nat) :
      Program (Counts × Nat) :=
    .loop ({} : Counts) fun counts => do
      match ← .read fd blockSize with
      | .ok [] => return .inr (counts.finish, status)
      | .ok block => return .inl (block.foldl Counts.add counts)
      | .error .eintr => return .inl counts
      | .error cause =>
        let name := if isNamed then operand else t.inputName operand
        t.warn (Complaint.readFailure t.name name cause)
        return .inr (counts.finish, 1)

/-! ### Line numbers -/

/-- The options of numbering lines. -/
def nlOptions : OptionTable where
  letters := (['b', 'd', 'f', 'h', 'i', 'l', 'n', 's', 'v', 'w'].map fun c => (c, .value)) ++
    [('p', .nothing)]
  words := [("body-numbering", 'b', .value), ("section-delimiter", 'd', .value),
    ("footer-numbering", 'f', .value), ("header-numbering", 'h', .value),
    ("line-increment", 'i', .value), ("join-blank-lines", 'l', .value),
    ("number-format", 'n', .value), ("no-renumber", 'p', .nothing),
    ("number-separator", 's', .value), ("starting-line-number", 'v', .value),
    ("number-width", 'w', .value)]

/-- How lines are numbered. -/
structure Numbering where
  /-- Which lines of the body, the header and the footer are: a letter and a pattern. -/
  styles : List String
  /-- The step from one number to the next. -/
  step : Int
  /-- The first number. -/
  first : Int
  /-- How the number is placed: `ln`, `rn` or `rz`. -/
  placing : String
  /-- What stands behind it. -/
  separator : String
  /-- How wide it is. -/
  width : Nat
  /-- Whether sections go on with the numbers. -/
  goesOn : Bool
  /-- Of how many empty lines one is numbered. -/
  joins : Nat
  /-- What a line consists of, once, twice or thrice, that begins a section. -/
  mark : Bytes

/-- How far the numbering has come. -/
structure NumberedCopy where
  /-- The next number. -/
  next : Int
  /-- Which section it is: zero is the body, one the header, two the footer. -/
  region : Nat := 0
  /-- How many empty lines have gone by. -/
  empty : Nat := 0

/-- A number as it is placed. -/
def Numbering.place (n : Numbering) (number : Int) : String :=
  let sign := if number < 0 then "-" else ""
  let digits := toString number.natAbs
  let missing := n.width - sign.length - digits.length
  let filled (c : Char) : String := String.ofList (List.replicate missing c)
  match n.placing with
  | "ln" => sign ++ digits ++ filled ' '
  | "rz" => sign ++ filled '0' ++ digits
  | _ => filled ' ' ++ sign ++ digits

/-- Numbers a line. -/
def numberLine (n : Numbering) (c : NumberedCopy) (line : Bytes) : NumberedCopy × Bytes :=
  let isMark (times : Nat) : Bool :=
    2 ≤ n.mark.length && line = (List.replicate times n.mark).flatten
  let enter (region : Nat) : NumberedCopy × Bytes :=
    ({ c with region, next := if n.goesOn then c.next else n.first, empty := 0 }, [10])
  if isMark 3 then enter 1
  else if isMark 2 then enter 0
  else if isMark 1 then enter 2
  else
    let style := n.styles.getD c.region "n"
    let numbered := (Text.toOctets (n.place c.next ++ n.separator)) ++ line ++ [10]
    let gap := String.ofList (List.replicate (n.width + n.separator.length) ' ')
    let plain := Text.toOctets gap ++ line ++ [10]
    let counts := match style.toList with
      | 'a' :: _ => n.joins ≤ c.empty + 1 || !line.isEmpty
      | 't' :: _ => !line.isEmpty
      | 'p' :: pattern =>
        match Regex.read {} (String.ofList pattern) with
        | .ok (r, _) => r.isIn (line.map Text.charOfOctet).toArray
        | .error _ => false
      | _ => false
    let empty := if line.isEmpty && !counts then c.empty + 1 else 0
    if counts then ({ c with next := c.next + n.step, empty }, numbered)
    else ({ c with empty }, plain)

/-- Looks at an option of numbering; whether it is good. One that cannot be read at all is left
with. -/
def checkNumbering (t : Tool) (letter : Char) (text : String) : Program Bool := do
  let amount (least : Int) (most : Nat) (what : String) : Program Bool := do
    let _ ← t.amountBetween least most s!"invalid {what}" text
    return true
  let shown := quoted text
  let style (what : String) : Program Bool := do
    if ["a", "t", "n"].contains text || text.startsWith "p" then return true
    t.warn s!"invalid {what} numbering style: {shown}"
    return false
  match letter with
  | 'b' => style "body"
  | 'h' => style "header"
  | 'f' => style "footer"
  | 'v' => amount (-Nat.pow 2 63) (Nat.pow 2 63) "starting line number"
  | 'i' => amount (-Nat.pow 2 63) (Nat.pow 2 63) "line number increment"
  | 'l' => amount 1 (Nat.pow 2 63) "line number of blank lines"
  | 'w' => amount 1 (Nat.pow 2 31 - 1) "line number field width"
  | 'n' =>
    if ["ln", "rn", "rz"].contains text then return true
    t.warn s!"invalid line numbering format: {shown}"
    return false
  | _ => return true

/-- Numbers lines. -/
def nl (t : Tool) : Program Unit := do
  let i := Invocation.read nlOptions t.arguments
  let good ← i.options.foldlM (fun good (letter, text) => do
    return (← t.checkNumbering letter text) && good) true
  if let some message := i.fault then t.misuse message
  if !good then t.leaveToHelp
  let number (letter : Char) (standard : Int) : Int :=
    match (i.value? letter).map Amount.readSigned with
    | some (.ok n) => n
    | _ => standard
  let text (letter : Char) (standard : String) : String := (i.value? letter).getD standard
  let delimiter := Text.toOctets (text 'd' "\\:")
  let n : Numbering :=
    { styles := [text 'b' "t", text 'h' "n", text 'f' "n"], step := number 'i' 1,
      first := number 'v' 1, placing := text 'n' "rn", separator := text 's' "\t",
      width := (number 'w' 6).toNat, goesOn := i.has 'p', joins := (number 'l' 1).toNat,
      mark := if delimiter.length = 1 then delimiter ++ [58] else delimiter }
  t.filterLines 10 i.operands ({ next := n.first } : NumberedCopy)
    fun c line _ => numberLine n c line

end PipeShell.Programs.Tool
