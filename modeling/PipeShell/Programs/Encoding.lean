import PipeShell.Programs.Tool
import PipeShell.Text.Integer

/-!
# Programs that show octets

The programs that show what octets an input holds: as numbers, as letters of a small alphabet, or
as a digest; and the one that takes numbers apart.
-/

namespace PipeShell.Programs.Tool

/-! ### Dumps -/

/-- A way to show units of some octets each. -/
structure DumpStyle where
  /-- A letter: `o`, `x`, `d`, `u` for numbers, `c` and `a` for characters. -/
  letter : Char
  /-- How many octets a unit has. -/
  size : Nat
  /-- Whether the characters stand behind a line too. -/
  withText : Bool := false
  deriving DecidableEq, Repr

/-- How many digits the largest number of a unit has. -/
def DumpStyle.width (s : DumpStyle) : Nat :=
  match s.letter with
  | 'o' => (8 * s.size + 2) / 3
  | 'x' => 2 * s.size
  | 'u' => (toString (Nat.pow 256 s.size - 1)).length
  | 'd' => (toString (Nat.pow 256 s.size / 2)).length + 1
  | _ => 3

/-- Digits of a number in a base, with zeros in front. -/
def digitsIn (base width n : Nat) : String :=
  let digits := Nat.toDigits base n
  String.ofList (List.replicate (width - digits.length) '0' ++ digits)

/-- The names of the controls. -/
def controlNames : List String :=
  ["nul", "soh", "stx", "etx", "eot", "enq", "ack", "bel", "bs", "ht", "nl", "vt", "ff", "cr", "so",
    "si", "dle", "dc1", "dc2", "dc3", "dc4", "nak", "syn", "etb", "can", "em", "sub", "esc", "fs",
    "gs", "rs", "us", "sp"]

/-- An octet as a character. -/
def DumpStyle.charShown (s : DumpStyle) (b : UInt8) : String :=
  if s.letter = 'a' then
    let b := b &&& 127
    if b = 127 then "del"
    else controlNames.getD b.toNat (String.ofList [Text.charOfOctet b])
  else
    let c := Text.charOfOctet b
    if b = 0 then "\\0"
    else match controlLetter? c with
      | some letter => String.ofList ['\\', letter]
      | none => if isShown c then String.ofList [c] else digitsIn 8 3 b.toNat

/-- A unit as it is shown. -/
def DumpStyle.shown (s : DumpStyle) (unit : Bytes) : String :=
  let n := unit.reverse.foldl (fun n b => 256 * n + b.toNat) 0
  match s.letter with
  | 'o' => digitsIn 8 s.width n
  | 'x' => digitsIn 16 s.width n
  | 'u' => toString n
  | 'd' =>
    let n : Int := if Nat.pow 256 s.size ≤ 2 * n then (n : Int) - Nat.pow 256 s.size else n
    toString n
  | _ => s.charShown (unit.headD 0)

/-- Cuts octets into pieces of a size, so many at most. -/
def piecesOfSize (size : Nat) : Nat → Bytes → List Bytes
  | 0, _ => []
  | fuel + 1, bytes =>
    if bytes.isEmpty then [] else bytes.take size :: piecesOfSize size fuel (bytes.drop size)

/-- A line of a dump in one style; `room` is how wide a full line is. -/
def DumpStyle.line (s : DumpStyle) (perLine room : Nat) (octets : Bytes) : String :=
  let fields := perLine / s.size
  let pad := room - s.width * fields
  let units := piecesOfSize s.size octets.length octets
  String.join (units.zipIdx.map fun (unit, n) =>
    let before := pad * (fields - n) / fields
    let behind := pad * (fields - n - 1) / fields
    let text := s.shown unit
    String.ofList (List.replicate (before - behind + s.width - text.length) ' ') ++ text) ++
    if s.withText then
      let left := (fields - units.length) * s.width + pad * (fields - units.length) / fields
      let text := octets.map fun b => let c := Text.charOfOctet b; if isShown c then c else '.'
      String.ofList (List.replicate left ' ') ++ "  >" ++ String.ofList text ++ "<"
    else ""

/-- The styles that a value of an option names. -/
def readStyles : Nat → List Char → Option (List DumpStyle)
  | 0, _ => none
  | _, [] => some []
  | fuel + 1, c :: rest =>
    if c == 'c' || c == 'a' then (readStyles fuel rest).map (⟨c, 1, false⟩ :: ·)
    else if ['o', 'x', 'd', 'u'].contains c then
      let digits := rest.takeWhile Char.isDigit
      match rest.drop digits.length with
      | more =>
        let (size, more) := match digits, more with
          | [], 'C' :: more => (1, more)
          | [], 'S' :: more => (2, more)
          | [], 'I' :: more => (4, more)
          | [], 'L' :: more => (8, more)
          | [], more => (4, more)
          | digits, more => ((Text.digits? (String.ofList digits)).getD 0, more)
        let withText := more.head? = some 'z'
        let more := if withText then more.drop 1 else more
        if [1, 2, 4, 8].contains size then (readStyles fuel more).map (⟨c, size, withText⟩ :: ·)
        else none
    else none

/-- Shows the octets of inputs. -/
def od (t : Tool) : Program Unit := do
  let i ← t.given
    { letters := (['a', 'b', 'c', 'd', 'i', 'l', 'o', 's', 'v', 'x'].map fun c => (c, .nothing)) ++
        (['A', 'j', 'N', 't'].map fun c => (c, .value)) ++ [('w', .maybe)]
      words := [("address-radix", 'A', .value), ("format", 't', .value),
        ("read-bytes", 'N', .value), ("skip-bytes", 'j', .value), ("width", 'w', .maybe),
        ("output-duplicates", 'v', .nothing)] }
  let styleOf (o : Char × String) : Program (List DumpStyle) :=
    match o with
    | ('a', _) => .done [⟨'a', 1, false⟩]
    | ('b', _) => .done [⟨'o', 1, false⟩]
    | ('c', _) => .done [⟨'c', 1, false⟩]
    | ('d', _) => .done [⟨'u', 2, false⟩]
    | ('i', _) => .done [⟨'d', 4, false⟩]
    | ('l', _) => .done [⟨'d', 8, false⟩]
    | ('o', _) => .done [⟨'o', 2, false⟩]
    | ('s', _) => .done [⟨'d', 2, false⟩]
    | ('x', _) => .done [⟨'x', 2, false⟩]
    | ('t', text) =>
      match readStyles (text.length + 1) text.toList with
      | some styles => .done styles
      | none =>
        let shown := quoted text
        match text.toList.find? fun c => !(['a', 'c', 'd', 'o', 'u', 'x', 'z', 'C', 'S', 'I',
          'L'].contains c || c.isDigit) with
        | some c => t.fail s!"invalid character '{c}' in type string {shown}"
        | none => t.fail s!"invalid type string {shown}"
    | _ => .done []
  let styles := (← i.options.mapM styleOf).flatten
  let styles := if styles.isEmpty then [⟨'o', 2, false⟩] else styles
  let perLine := match i.value? 'w' with
    | some text => if text.isEmpty then 32 else (Text.digits? text).getD 16
    | none => 16
  let radix ← match i.value? 'A' with
    | none => pure "o"
    | some text =>
      if ["d", "o", "x", "n"].contains (text.take 1).toString then pure (text.take 1).toString
      else
        let shown := (text.take 1).toString
        t.fail
          s!"invalid output address radix '{shown}'; it must be one character from [doxn]"
  let count (letter : Char) : Program (Option Nat) :=
    (i.value? letter).mapM fun text =>
      match Amount.read ('B' :: Amount.commonUnits) text with
      | .ok n => .done n
      | .error fault =>
        let shown := quoted text
        match fault with
        | .invalid => t.fail s!"invalid -{letter} argument {shown}"
        | .tooLarge => t.fail s!"-{letter} argument {shown} too large"
  let skip := (← count 'j').getD 0
  let most ← count 'N'
  let (texts, status) ← t.throughInputs (fun _ fd texts => do
    match ← .readToEnd fd with
    | .ok text => return (text :: texts, none)
    | .error cause => return ([] :: texts, some cause)) (orStandard i.operands) ([] : List Bytes) 0
  if texts.isEmpty then .exit status
  let all := texts.reverse.flatten
  if all.length < skip then t.fail "cannot skip past end of combined input"
  let octets := all.drop skip
  let octets := match most with
    | some n => octets.take n
    | none => octets
  let address (n : Nat) : String :=
    match radix with
    | "n" => ""
    | "d" => digitsIn 10 7 n
    | "x" => digitsIn 16 6 n
    | _ => digitsIn 8 7 n
  let room := (styles.map fun s => (s.width + 1) * (perLine / s.size)).foldl max 0
  let lines := piecesOfSize perLine (octets.length + 1) octets
  let (output, _, _) := lines.zipIdx.foldl (fun (output, last, starred) (line, n) =>
    if !i.has 'v' && last = some line && line.length = perLine then
      (if starred then output else "*\n" :: output, last, true)
    else
      let front := address (skip + n * perLine)
      let gap := String.ofList (List.replicate front.length ' ')
      let texts := styles.zipIdx.map fun (s, k) =>
        (if k = 0 then front else gap) ++ s.line perLine room line ++ "\n"
      (String.join texts :: output, some line, false))
    (([], none, false) : List String × Option Bytes × Bool)
  let last := address (skip + octets.length)
  t.say (String.join output.reverse ++ if last.isEmpty then "" else last ++ "\n")
  .exit status

/-! ### Letters -/

/-- The alphabet of sixty-four letters. -/
def alphabet : List Char :=
  "ABCDEFGHIJKLMNOPQRSTUVWXYZabcdefghijklmnopqrstuvwxyz0123456789+/".toList

/-- Octets as letters of the alphabet. -/
def encode64 (bytes : Bytes) : List Char :=
  (piecesOfSize 3 bytes.length bytes).flatMap fun piece =>
    let n := (piece ++ List.replicate (3 - piece.length) 0).foldl (fun n b => 256 * n + b.toNat) 0
    let letters := [n / 262144 % 64, n / 4096 % 64, n / 64 % 64, n % 64].map fun d =>
      alphabet.getD d 'A'
    letters.take (piece.length + 1) ++ List.replicate (3 - piece.length) '='

/-- The octets that up to four letters stand for, and whether they are good. -/
def decodeFour (letters : List Char) : Bytes × Bool :=
  let value? (c : Char) : Option Nat := alphabet.findIdx? (· == c)
  let octet (n : Nat) : UInt8 := UInt8.ofNat (n % 256)
  match letters with
  | a :: b :: rest =>
    match value? a, value? b with
    | some a, some b =>
      let first := octet (4 * a + b / 16)
      match rest with
      | ['=', '='] => ([first], true)
      | c :: rest =>
        match value? c, rest with
        | some c, ['='] => ([first, octet (16 * b + c / 4)], true)
        | some c, [d] =>
          match value? d with
          | some d => ([first, octet (16 * b + c / 4), octet (64 * c + d)], true)
          | none => ([first, octet (16 * b + c / 4)], false)
        | some c, _ => ([first, octet (16 * b + c / 4)], false)
        | none, _ => ([first], false)
      | [] => ([first], false)
    | _, _ => ([], false)
  | _ => ([], false)

/-- The octets that letters stand for, four by four up to the first fault, and whether all of them
are good. -/
def decode64 : Nat → List Char → Bytes × Bool
  | 0, _ => ([], true)
  | _, [] => ([], true)
  | fuel + 1, letters =>
    match decodeFour (letters.take 4) with
    | (octets, false) => (octets, false)
    | (octets, true) =>
      let (rest, good) := decode64 fuel (letters.drop 4)
      (octets ++ rest, good)

/-- Shows octets as letters, or the contrary. -/
def base64 (t : Tool) : Program Unit := do
  let i ← t.given
    { letters := [('d', .nothing), ('D', .nothing), ('i', .nothing), ('w', .value)]
      words := [("decode", 'd', .nothing), ("ignore-garbage", 'i', .nothing),
        ("wrap", 'w', .value)] }
  if let some extra := i.operands[1]? then t.extraOperand extra
  let bytes ← t.readAll (i.operands.headD "-")
  if i.has 'd' then
    let letters := (bytes.filter (· ≠ 10)).map Text.charOfOctet
    let letters := letters.filter fun c => !i.has 'i' || alphabet.contains c || c == '='
    let (octets, good) := decode64 letters.length letters
    t.put octets
    if !good then t.fail "invalid input"
    .exit 0
  let width ← match i.value? 'w' with
    | none => pure 76
    | some text =>
      match Amount.readSigned text with
      | .ok n =>
        if n < 0 then t.badNumber "invalid wrap size" text none else pure n.toNat
      | .error .tooLarge => pure 0
      | .error .invalid => t.badNumber "invalid wrap size" text none
  let letters := Text.toOctets (String.ofList (encode64 bytes))
  if width = 0 then t.put letters
  else t.put (joinLines 10 (piecesOfSize width letters.length letters))
  .exit 0

/-! ### Digests -/

/-- A word of 32 bits turned to the left. -/
def rotate (x : UInt32) (n : Nat) : UInt32 :=
  (x <<< UInt32.ofNat n) ||| (x >>> UInt32.ofNat (32 - n))

/-- A message with its end mark and its length, in blocks of 64 octets. -/
def paddedBlocks (bigEndian : Bool) (message : Bytes) : List Bytes :=
  let size := message.length
  let zeros := (119 - size % 64) % 64
  let length := (List.range 8).map fun k => UInt8.ofNat (8 * size / Nat.pow 256 k)
  let length := if bigEndian then length.reverse else length
  let whole := message ++ 128 :: List.replicate zeros 0 ++ length
  piecesOfSize 64 (whole.length / 64 + 1) whole

/-- The words of a block. -/
def wordsOf (bigEndian : Bool) (block : Bytes) : Array UInt32 :=
  ((piecesOfSize 4 16 block).map fun piece =>
    (if bigEndian then piece else piece.reverse).foldl (fun n b => n * 256 + b.toUInt32) 0).toArray

/-- Words as hexadecimal digits. -/
def hexWords (bigEndian : Bool) (words : List UInt32) : String :=
  String.join (words.map fun (w : UInt32) =>
    let octets := [w >>> 24, w >>> 16, w >>> 8, w].map fun (x : UInt32) => x.toNat % 256
    String.join ((if bigEndian then octets else octets.reverse).map fun n => digitsIn 16 2 n))

/-- The whole part of a root of a number, times a power of two, by bisection. -/
def rootOf (degree scale n : Nat) : Nat :=
  (List.range 45).reverse.foldl (fun root k =>
    let next := root + Nat.pow 2 k
    if Nat.pow next degree ≤ n * Nat.pow 2 (degree * scale) then next else root) 0

/-- The first prime numbers. -/
def primes (count : Nat) : List Nat :=
  ((List.range 312).filter fun n =>
    2 ≤ n && ((List.range n).drop 2).all fun d => n % d != 0).take count

/-- The constants of the first kind of digest: values of the sine. -/
def md5Constants : Array UInt32 :=
  #[0xd76aa478, 0xe8c7b756, 0x242070db, 0xc1bdceee, 0xf57c0faf, 0x4787c62a, 0xa8304613, 0xfd469501,
    0x698098d8, 0x8b44f7af, 0xffff5bb1, 0x895cd7be, 0x6b901122, 0xfd987193, 0xa679438e, 0x49b40821,
    0xf61e2562, 0xc040b340, 0x265e5a51, 0xe9b6c7aa, 0xd62f105d, 0x02441453, 0xd8a1e681, 0xe7d3fbc8,
    0x21e1cde6, 0xc33707d6, 0xf4d50d87, 0x455a14ed, 0xa9e3e905, 0xfcefa3f8, 0x676f02d9, 0x8d2a4c8a,
    0xfffa3942, 0x8771f681, 0x6d9d6122, 0xfde5380c, 0xa4beea44, 0x4bdecfa9, 0xf6bb4b60, 0xbebfbc70,
    0x289b7ec6, 0xeaa127fa, 0xd4ef3085, 0x04881d05, 0xd9d4d039, 0xe6db99e5, 0x1fa27cf8, 0xc4ac5665,
    0xf4292244, 0x432aff97, 0xab9423a7, 0xfc93a039, 0x655b59c3, 0x8f0ccc92, 0xffeff47d, 0x85845dd1,
    0x6fa87e4f, 0xfe2ce6e0, 0xa3014314, 0x4e0811a1, 0xf7537e82, 0xbd3af235, 0x2ad7d2bb, 0xeb86d391]

/-- The turns of the first kind of digest. -/
def md5Turns (n : Nat) : Nat :=
  let rounds := [[7, 12, 17, 22], [5, 9, 14, 20], [4, 11, 16, 23], [6, 10, 15, 21]]
  (rounds.getD (n / 16) []).getD (n % 4) 0

/-- A digest of 128 bits. -/
def md5 (message : Bytes) : String :=
  let start : UInt32 × UInt32 × UInt32 × UInt32 := (0x67452301, 0xefcdab89, 0x98badcfe, 0x10325476)
  let (a, b, c, d) := (paddedBlocks false message).foldl (fun (a, b, c, d) block =>
    let words := wordsOf false block
    let (a', b', c', d') := (List.range 64).foldl (fun (a, b, c, d) n =>
      let (f, k) :=
        if n < 16 then ((b &&& c) ||| (b.complement &&& d), n)
        else if n < 32 then ((d &&& b) ||| (d.complement &&& c), (5 * n + 1) % 16)
        else if n < 48 then (b ^^^ c ^^^ d, (3 * n + 5) % 16)
        else (c ^^^ (b ||| d.complement), 7 * n % 16)
      let sum := a + f + md5Constants.getD n 0 + words.getD k 0
      (d, b + rotate sum (md5Turns n), b, c)) (a, b, c, d)
    (a + a', b + b', c + c', d + d')) start
  hexWords false [a, b, c, d]

/-- A digest of 160 bits. -/
def sha1 (message : Bytes) : String :=
  let start : List UInt32 := [0x67452301, 0xefcdab89, 0x98badcfe, 0x10325476, 0xc3d2e1f0]
  hexWords true ((paddedBlocks true message).foldl (fun h block =>
    let words := (List.range 64).foldl (fun (w : Array UInt32) n =>
      let at' (k : Nat) : UInt32 := w.getD (n + 16 - k) 0
      w.push (rotate (at' 3 ^^^ at' 8 ^^^ at' 14 ^^^ at' 16) 1)) (wordsOf true block)
    match h with
    | [a, b, c, d, e] =>
      let (a', b', c', d', e') := (List.range 80).foldl (fun (a, b, c, d, e) n =>
        let (f, k) : UInt32 × UInt32 :=
          if n < 20 then ((b &&& c) ||| (b.complement &&& d), 0x5a827999)
          else if n < 40 then (b ^^^ c ^^^ d, 0x6ed9eba1)
          else if n < 60 then ((b &&& c) ||| (b &&& d) ||| (c &&& d), 0x8f1bbcdc)
          else (b ^^^ c ^^^ d, 0xca62c1d6)
        (rotate a 5 + f + e + k + words.getD n 0, a, rotate b 30, c, d)) (a, b, c, d, e)
      [a + a', b + b', c + c', d + d', e + e']
    | h => h) start)

/-- A digest of 256 bits. -/
def sha256 (message : Bytes) : String :=
  let fraction (degree n : Nat) : UInt32 := UInt32.ofNat (rootOf degree 32 n % Nat.pow 2 32)
  let start := (primes 8).map (fraction 2)
  let constants := ((primes 64).map (fraction 3)).toArray
  let right (x : UInt32) (n : Nat) : UInt32 := rotate x (32 - n)
  hexWords true ((paddedBlocks true message).foldl (fun h block =>
    let words := (List.range 48).foldl (fun (w : Array UInt32) n =>
      let at' (k : Nat) : UInt32 := w.getD (n + 16 - k) 0
      let x := at' 15
      let y := at' 2
      w.push (at' 16 + (right x 7 ^^^ right x 18 ^^^ (x >>> 3)) + at' 7 +
        (right y 17 ^^^ right y 19 ^^^ (y >>> 10)))) (wordsOf true block)
    let turned := (List.range 64).foldl (fun h n =>
      match h with
      | [a, b, c, d, e, f, g, h] =>
        let first := h + (right e 6 ^^^ right e 11 ^^^ right e 25) +
          ((e &&& f) ^^^ (e.complement &&& g)) + constants.getD n 0 + words.getD n 0
        let second := (right a 2 ^^^ right a 13 ^^^ right a 22) +
          ((a &&& b) ^^^ (a &&& c) ^^^ (b &&& c))
        [first + second, a, b, c, d + first, e, f, g]
      | h => h) h
    List.zipWith (· + ·) h turned) start)

/-- Shows digests of inputs. -/
def digest (t : Tool) (f : Bytes → String) : Program Unit := do
  let i ← t.given
    { letters := (['b', 't', 'c', 'z'].map fun c => (c, .nothing))
      words := [("binary", 'b', .nothing), ("text", 't', .nothing)] }
  let sign := if i.lastOf? ['b', 't'] = some 'b' then "*" else " "
  t.eachWhole i.operands fun operand bytes =>
    t.say (f bytes ++ " " ++ sign ++ operand ++ "\n")

/-- The check value of octets. -/
def checkValue (bytes : Bytes) : Nat :=
  let size := bytes.length
  let length := ((List.range 8).map fun k => UInt8.ofNat (size / Nat.pow 256 k)).take
    ((Nat.toDigits 256 size).length - if size = 0 then 1 else 0)
  let value : UInt32 := (bytes ++ length).foldl (fun (value : UInt32) b =>
    let top : UInt32 := UInt32.ofNat (b.toNat * Nat.pow 2 24)
    let mixed : UInt32 := value ^^^ top
    (List.range 8).foldl (fun (value : UInt32) _ =>
      if value &&& 0x80000000 = 0 then value <<< 1 else (value <<< 1) ^^^ 0x04c11db7) mixed) 0
  value.complement.toNat

/-- Shows check values and sizes of inputs. -/
def cksum (t : Tool) : Program Unit := do
  let i ← t.given {}
  t.eachWhole i.operands fun operand bytes => do
    let name := if i.operands.isEmpty then "" else " " ++ operand
    let value := checkValue bytes
    let size := bytes.length
    t.say s!"{value} {size}{name}\n"

/-! ### Factors -/

/-- The prime factors of a number from a divisor on, so many steps at most. -/
def factorsFrom : Nat → Nat → Nat → List Nat
  | 0, _, n => [n]
  | fuel + 1, d, n =>
    if n ≤ 1 then []
    else if n < d * d then [n]
    else if n % d = 0 then d :: factorsFrom fuel d (n / d)
    else factorsFrom fuel (d + 1) n

/-- Takes numbers apart. -/
def factor (t : Tool) : Program Unit := do
  let i ← t.given {}
  let texts ← if i.operands.isEmpty then do
      let text := Text.ofOctets (← t.readAll "-")
      pure ((text.toList.splitBy fun a b => isSpace a == isSpace b).filterMap fun word =>
        if word.any isSpace then none else some (String.ofList word))
    else pure i.operands
  let status ← texts.foldlM (fun status text => do
    let digits := text.toList.dropWhile (· == ' ')
    let digits := if digits.head? == some '+' then digits.drop 1 else digits
    match Text.digits? (String.ofList digits) with
    | some n =>
      let factors := factorsFrom (n + 64) 2 n
      t.say (toString n ++ ":" ++ String.join (factors.map fun f => " " ++ toString f) ++ "\n")
      return status
    | none =>
      let shown := quoted text
      t.warn s!"{shown} is not a valid positive integer"
      return 1) 0
  .exit status
where
  /-- Whether a character separates numbers. -/
  isSpace (c : Char) : Bool := c == ' ' || ('\t' ≤ c && c ≤ '\r')

end PipeShell.Programs.Tool
