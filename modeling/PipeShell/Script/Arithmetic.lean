import PipeShell.Script.Reader
import PipeShell.Text.Integer

/-!
# Arithmetic expressions of a script

Expressions over whole numbers of 64 bits, with variables and assignments. An expression is read
into a tree first (`Sum.read`) and evaluated then (`Sum.eval`). A text that goes wrong has a tree
too, with the fault where the reading stopped: what stands before it is evaluated first, so that a
variable that is no number is complained about before a parenthesis behind it that is missing.
-/

namespace PipeShell.Script

/-- The number of 64 bits that a number becomes. -/
def wrap64 (n : Int) : Int :=
  Int.bmod n (Nat.pow 2 64)

/-- The operators between two numbers, from the ones that bind loosest to the tightest. -/
def binaryOperators : List (List String) :=
  [["|"], ["^"], ["&"], ["==", "!="], ["<=", ">=", "<", ">"], ["<<", ">>"], ["+", "-"],
    ["*", "/", "%"]]

/-- An arithmetic expression. -/
inductive Sum where
  /-- A number. -/
  | number (n : Int)
  /-- A variable. -/
  | named (name : String)
  /-- A sign or a complement. -/
  | unary (op : Char) (a : Sum)
  /-- Two numbers and an operator. -/
  | binary (op : String) (a b : Sum)
  /-- Whether both are other than zero. -/
  | both (a b : Sum)
  /-- Whether one is other than zero. -/
  | either (a b : Sum)
  /-- One of two, as a first one is other than zero or not. -/
  | choose (test yes no : Sum)
  /-- A variable that becomes a value, or what an operator makes of its own value and that one. -/
  | assign (name : String) (op : Option String) (value : Sum)
  /-- A text that goes wrong behind an expression. -/
  | broken (a : Sum) (message : String)

namespace Sum

/-- A text that goes wrong at once. -/
def fault (message : String) : Sum :=
  .broken (.number 0) message

/-! ### Reading -/

/-- Skips blanks. -/
def skip (text : List Char) : List Char :=
  text.dropWhile fun c => c == ' ' || c == '\t' || c == '\n'

/-- The value of a digit in some base. -/
def digitOf (c : Char) : Nat :=
  if c.isDigit then c.toNat - 48
  else if 'a' ≤ c ∧ c ≤ 'z' then c.toNat - 87
  else if 'A' ≤ c ∧ c ≤ 'Z' then c.toNat - 55
  else 99

/-- Reads digits of a base. -/
def readBase (base : Nat) (text : List Char) : Nat × List Char :=
  let digits := text.takeWhile fun c => digitOf c < base
  (digits.foldl (fun n c => base * n + digitOf c) 0, text.drop digits.length)

/-- Reads a number: hexadecimal and octal ones are told by their beginning. -/
def readNumber (text : List Char) : Nat × List Char :=
  match text with
  | '0' :: x :: digit :: _ =>
    if (x == 'x' || x == 'X') && digitOf digit < 16 then readBase 16 (text.drop 2)
    else readBase 8 text
  | '0' :: _ => readBase 8 text
  | _ => readBase 10 text

/-- The text behind a given beginning. -/
def behind? (front text : List Char) : Option (List Char) :=
  if front.isPrefixOf text then some (text.drop front.length) else none

/-- The first of the operators that the text begins with. An operator that goes on as another one
does not count. -/
def operator? (operators : List String) (text : List Char) : Option (String × List Char) :=
  operators.findSome? fun op =>
    match behind? op.toList text with
    | none => none
    | some rest =>
      let goesOn := match op, rest with
        | "|", c :: _ => c == '|' || c == '='
        | "&", c :: _ => c == '&' || c == '='
        | "<", c :: _ => c == '<' || c == '='
        | ">", c :: _ => c == '>' || c == '='
        | "==", _ => false
        | "!=", _ => false
        | "<=", _ => false
        | ">=", _ => false
        | _, c :: _ => c == '='
        | _, [] => false
      if goesOn then none else some (op, rest)

/-- The operator of an assignment, and what follows it. -/
def assignment? (text : List Char) : Option (Option String × List Char) :=
  match text with
  | '=' :: '=' :: _ => none
  | '=' :: rest => some (none, rest)
  | text =>
    ["<<", ">>", "+", "-", "*", "/", "%", "&", "^", "|"].findSome? fun op =>
      (behind? (op ++ "=").toList text).map fun rest => (some op, rest)

/-- The operators of one level, folded from the left over operands, `fuel` of them at most. -/
def readLevel (operand : List Char → Sum × List Char) (operators : List String) :
    Nat → Sum → List Char → Sum × List Char
  | 0, a, text => (a, text)
  | fuel + 1, a, text =>
    match operator? operators (skip text) with
    | none => (a, text)
    | some (op, rest) =>
      let (b, rest) := operand rest
      readLevel operand operators fuel (.binary op a b) rest

/-- Reads operators of all given levels. -/
def readLevels (operand : List Char → Sum × List Char) :
    List (List String) → List Char → Sum × List Char
  | [], text => operand text
  | operators :: tighter, text =>
    let (a, rest) := readLevels operand tighter text
    readLevel (readLevels operand tighter) operators rest.length a rest

/-- Reads what operators stand between; `expression` reads a whole expression. -/
def readOperand (expression : List Char → Sum × List Char) : Nat → List Char → Sum × List Char
  | 0, text => (fault "expecting primary", text)
  | fuel + 1, text =>
    match skip text with
    | '(' :: rest =>
      let (a, rest) := expression rest
      match skip rest with
      | ')' :: rest => (a, rest)
      | _ => (.broken a "expecting ')'", rest)
    | c :: rest =>
      if c.isDigit then
        let (n, rest) := readNumber (c :: rest)
        (.number (min n (Nat.pow 2 63 - 1)), rest)
      else if beginsName c then
        (.named (String.ofList ((c :: rest).takeWhile isNameChar)),
          (c :: rest).dropWhile isNameChar)
      else if ['-', '+', '~', '!'].contains c && !(c == '!' && rest.head? == some '=') then
        let (a, rest) := readOperand expression fuel rest
        (.unary c a, rest)
      else (fault "expecting primary", rest)
    | [] => (fault "expecting primary", [])

/-- Reads conjunctions, `fuel` of them at most. -/
def readBoth (operand : List Char → Sum × List Char) : Nat → List Char → Sum × List Char
  | 0, text => operand text
  | fuel + 1, text =>
    let (a, rest) := operand text
    match skip rest with
    | '&' :: '&' :: rest =>
      let (b, rest) := readBoth operand fuel rest
      (.both a b, rest)
    | _ => (a, rest)

/-- Reads disjunctions, `fuel` of them at most. -/
def readEither (operand : List Char → Sum × List Char) : Nat → List Char → Sum × List Char
  | 0, text => operand text
  | fuel + 1, text =>
    let (a, rest) := operand text
    match skip rest with
    | '|' :: '|' :: rest =>
      let (b, rest) := readEither operand fuel rest
      (.either a b, rest)
    | _ => (a, rest)

/-- Reads a choice between two expressions, or what stands for the test if nothing is chosen,
`fuel` choices at most. -/
def readChoice (test expression : List Char → Sum × List Char) : Nat → List Char → Sum × List Char
  | 0, text => test text
  | fuel + 1, text =>
    let (a, rest) := test text
    match skip rest with
    | '?' :: rest =>
      let (yes, rest) := expression rest
      match skip rest with
      | ':' :: rest =>
        let (no, rest) := readChoice test expression fuel rest
        (.choose a yes no, rest)
      | _ => (.choose a yes (fault "expecting ':'"), rest)
    | _ => (a, rest)

/-- Reads an expression, `fuel` levels of parentheses at most. -/
def readExpression : Nat → List Char → Sum × List Char
  | 0, text => (fault "expecting primary", text)
  | fuel + 1, text =>
    let name := (skip text).takeWhile isNameChar
    let isVariable := match name with
      | c :: _ => beginsName c
      | [] => false
    match isVariable, assignment? (skip ((skip text).dropWhile isNameChar)) with
    | true, some (op, rest) =>
      let (value, rest) := readExpression fuel rest
      (.assign (String.ofList name) op value, rest)
    | _, _ =>
      let operand := readLevels (readOperand (readExpression fuel) text.length) binaryOperators
      let test := readEither (readBoth operand text.length) text.length
      readChoice test (readExpression fuel) text.length text

/-- Reads a text that is an expression and nothing else. -/
def read (text : List Char) : Sum :=
  let (a, rest) := readExpression (text.length + 1) text
  if (skip rest).isEmpty then a else .broken a "expecting EOF"

/-! ### Evaluating -/

/-- Why an expression has no value. -/
inductive Failure where
  /-- Something is wrong with the expression. -/
  | wrong (message : String)
  /-- A variable has a value that is no number. -/
  | illegal (value : String)

/-- One if so, zero if not. -/
def ofBool (b : Bool) : Int :=
  if b then 1 else 0

/-- The bits of two numbers of 64 bits put together. -/
def bitwise (f : BitVec 64 → BitVec 64 → BitVec 64) (a b : Int) : Int :=
  (f (BitVec.ofInt 64 a) (BitVec.ofInt 64 b)).toInt

/-- The value of an operator. -/
def apply (op : String) (a b : Int) : Except Failure Int :=
  match op with
  | "|" => .ok (bitwise (· ||| ·) a b)
  | "^" => .ok (bitwise (· ^^^ ·) a b)
  | "&" => .ok (bitwise (· &&& ·) a b)
  | "==" => .ok (ofBool (a == b))
  | "!=" => .ok (ofBool (a != b))
  | "<=" => .ok (ofBool (a ≤ b))
  | ">=" => .ok (ofBool (b ≤ a))
  | "<" => .ok (ofBool (a < b))
  | ">" => .ok (ofBool (b < a))
  | "<<" => .ok (wrap64 (a * Nat.pow 2 (b % 64).toNat))
  | ">>" => .ok (a.fdiv (Nat.pow 2 (b % 64).toNat))
  | "+" => .ok (wrap64 (a + b))
  | "-" => .ok (wrap64 (a - b))
  | "*" => .ok (wrap64 (a * b))
  | "/" => if b = 0 then .error (.wrong "division by zero") else .ok (wrap64 (a.tdiv b))
  | _ => if b = 0 then .error (.wrong "division by zero") else .ok (wrap64 (a.tmod b))

/-- An evaluation that may fail; it knows the assignments that it has made, last one first. -/
abbrev Evaluation := ExceptT Failure (StateM (List (String × Int)))

/-- The value of a variable, which may have been assigned. -/
def look (value : String → Except Failure Int) (name : String) : Evaluation Int := do
  match (← get).lookup name with
  | some n => return n
  | none => MonadExcept.ofExcept (value name)

/-- Evaluates an expression. Without `live` nothing but its faults counts: no variable is looked
at, and nothing is assigned or divided. -/
def eval (value : String → Except Failure Int) (live : Bool) : Sum → Evaluation Int
  | number n => return n
  | named name => if live then look value name else return 0
  | unary op a => do
    let n ← eval value live a
    match op with
    | '-' => return wrap64 (-n)
    | '~' => return -n - 1
    | '!' => return ofBool (n == 0)
    | _ => return n
  | binary op a b => do
    let m ← eval value live a
    let n ← eval value live b
    if live then MonadExcept.ofExcept (apply op m n) else return n
  | both a b => do
    let m ← eval value live a
    let n ← eval value (live && m != 0) b
    return ofBool (m != 0 && n != 0)
  | either a b => do
    let m ← eval value live a
    let n ← eval value (live && m == 0) b
    return ofBool (m != 0 || n != 0)
  | choose test yes no => do
    let n ← eval value live test
    let a ← eval value (live && n != 0) yes
    let b ← eval value (live && n == 0) no
    return if n != 0 then a else b
  | assign name op a => do
    let n ← eval value live a
    if live then
      let n ← match op with
        | none => pure n
        | some op => do MonadExcept.ofExcept (apply op (← look value name) n)
      modify fun made => (name, n) :: made
      return n
    else return n
  | broken a message => do
    let _ ← eval value live a
    throw (.wrong message)

end Sum

/-- The number that a text is, with blanks around it: the notation of arithmetic expressions
holds, and so does a sign. The empty text is zero. -/
def integerOf? (text : String) : Option Int :=
  let isSpace (c : Char) : Bool := c == ' ' || ('\t' ≤ c && c ≤ '\x0d')
  let text := text.toList.dropWhile isSpace
  let (negative, digits) := match text with
    | '-' :: rest => (true, rest)
    | '+' :: rest => (false, rest)
    | text => (false, text)
  if text.isEmpty then some 0
  else match digits with
    | [] => none
    | c :: _ =>
      let (magnitude, rest) := Sum.readNumber digits
      let n : Int := if negative then -magnitude else magnitude
      let isWord := -(Nat.pow 2 63) ≤ n && n < Nat.pow 2 63
      if c.isDigit && (rest.dropWhile isSpace).isEmpty && isWord then some n
      else none

end PipeShell.Script
