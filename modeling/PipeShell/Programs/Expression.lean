import PipeShell.Programs.RegexReader
import PipeShell.Programs.Tool
import PipeShell.Text.Integer

/-!
# Expressions as arguments

The program that evaluates an expression whose parts are its arguments: sums, comparisons,
matches, and choices between texts.

* `Expression.value` reads and evaluates; what is not needed is read but fails nowhere.
-/

namespace PipeShell.Programs

namespace Expression

/-- Why there is no value. -/
inductive Fault where
  /-- The arguments are no expression. -/
  | misuse (message : String)
  /-- The expression has no value. -/
  | failure (message : String)
  deriving DecidableEq, Repr

/-- A reader of arguments; the state is the arguments that are left, with the last one that was
read. -/
abbrev Reading := StateT (List String × String) (Except Fault)

/-- The number that a text is. -/
def integer? (text : String) : Option Int :=
  if text.startsWith "-" then (Text.digits? (text.drop 1).toString).map fun n => -(n : Int)
  else (Text.digits? text).map Int.ofNat

/-- Whether a value counts as false: a text that is empty, or a zero. -/
def isNull (value : String) : Bool :=
  value.isEmpty || match integer? value with
    | some n => n == 0
    | none => false

/-- The number that a value is. -/
def number (value : String) : Reading Int :=
  match integer? value with
  | some n => return n
  | none => throw (.failure "non-integer argument")

/-- Takes the next argument if it is one of several. -/
def takeIf (names : List String) : Reading (Option String) := do
  match ← get with
  | (a :: rest, _) =>
    if names.contains a then
      set (rest, a)
      return some a
    else return none
  | _ => return none

/-- Takes the next argument. -/
def take : Reading String := do
  match ← get with
  | (a :: rest, _) =>
    set (rest, a)
    return a
  | ([], last) =>
    let shown := quoted last
    throw (.misuse s!"syntax error: missing argument after {shown}")

/-- Matches a text with a pattern from its beginning: what the first group has matched, or how
long the match is. -/
def matched (text pattern : String) : Reading String := do
  match Regex.read {} pattern with
  | .error message => throw (.misuse message)
  | .ok (r, _) =>
    let chars := text.toList.toArray
    let hasGroup := (pattern.splitOn "\\(").length ≠ 1
    match r.longestAt chars hasGroup 0 with
    | none => return if hasGroup then "" else "0"
    | some s =>
      if hasGroup then
        match s.groups.lookup 1 with
        | some (first, last) => return String.ofList ((text.toList.drop first).take (last - first))
        | none => return ""
      else return toString s.offset

/-- Reads a value that no operator joins to another one; `whole` reads an expression. -/
def primary (whole : Reading String) : Reading String := do
  let a ← take
  match a with
  | "+" => take
  | "(" =>
    let value ← whole
    match ← takeIf [")"] with
    | some _ => return value
    | none =>
      match ← get with
      | ([], last) =>
        let shown := quoted last
        throw (.misuse s!"syntax error: expecting ')' after {shown}")
      | (b :: _, _) =>
        let shown := quoted b
        throw (.misuse s!"syntax error: expecting ')' instead of {shown}")
  | ")" => throw (.misuse "syntax error: unexpected ')'")
  | a => return a

/-- Reads a function of texts, or a value. -/
def prefixed (whole : Reading String) : Nat → Reading String
  | 0 => primary whole
  | fuel + 1 => do
    match ← takeIf ["match", "substr", "index", "length"] with
    | some "match" =>
      let text ← prefixed whole fuel
      matched text (← prefixed whole fuel)
    | some "substr" =>
      let text ← prefixed whole fuel
      let first ← prefixed whole fuel
      let size ← prefixed whole fuel
      match integer? first, integer? size with
      | some i, some n =>
        if i ≤ 0 || n ≤ 0 then return ""
        else return String.ofList ((text.toList.drop (i.toNat - 1)).take n.toNat)
      | _, _ => return ""
    | some "index" =>
      let text ← prefixed whole fuel
      let chars := (← prefixed whole fuel).toList
      match text.toList.findIdx? chars.contains with
      | some i => return toString (i + 1)
      | none => return "0"
    | some _ =>
      let text ← prefixed whole fuel
      return toString text.length
    | none => primary whole

/-- Reads values that operators of one level join, from the left, `fuel` of them at most. -/
def chain (operators : List String) (operand : Reading String)
    (apply : String → String → String → Reading String) : Nat → String → Reading String
  | 0, a => return a
  | fuel + 1, a => do
    match ← takeIf operators with
    | none => return a
    | some op =>
      let b ← operand
      chain operators operand apply fuel (← apply op a b)

/-- The value of a sum or a product. -/
def arithmetic (op a b : String) : Reading String := do
  let m ← number a
  let n ← number b
  match op with
  | "+" => return toString (m + n)
  | "-" => return toString (m - n)
  | "*" => return toString (m * n)
  | op =>
    if n = 0 then throw (.failure "division by zero")
    return toString (if op = "/" then m.tdiv n else m.tmod n)

/-- The value of a comparison: of numbers if both are, and of texts otherwise. -/
def comparison (op a b : String) : Reading String :=
  let order : Ordering := match integer? a, integer? b with
    | some m, some n => compare m n
    | _, _ => compare a b
  let holds : Bool := match op with
    | "<" => order == .lt
    | "<=" => order != .gt
    | ">" => order == .gt
    | ">=" => order != .lt
    | "!=" => order != .eq
    | _ => order == .eq
  return if holds then "1" else "0"

/-- Reads an expression with so many levels of parentheses at most. -/
def value : Nat → Reading String
  | 0 => throw (.misuse "syntax error: too many levels")
  | levels + 1 => do
    let fuel := (← get).1.length + 1
    let simple := prefixed (value levels) fuel
    let level (operators : List String) (operand : Reading String)
        (apply : String → String → String → Reading String) : Reading String := do
      chain operators operand apply fuel (← operand)
    let matches' := level [":"] simple fun _ a b => matched a b
    let products := level ["*", "/", "%"] matches' arithmetic
    let sums := level ["+", "-"] products arithmetic
    let comparisons := level ["<", "<=", "=", "==", "!=", ">=", ">"] sums comparison
    let both := level ["&"] comparisons fun _ a b =>
      return if isNull a || isNull b then "0" else a
    level ["|"] both fun _ a b =>
      return if !isNull a then a else if isNull b then "0" else b

end Expression

namespace Tool

/-- Evaluates an expression. -/
def expr (t : Tool) : Program Unit := do
  let arguments := match t.arguments with
    | "--" :: rest => rest
    | arguments => arguments
  match arguments with
  | [] =>
    t.warn "missing operand"
    let zero := t.zero
    .giveUp s!"Try '{zero} --help' for more information.\n" 2
  | first :: _ =>
    match (Expression.value (arguments.length + 2)).run (arguments, first) with
    | .error (.misuse message) =>
      t.warn message
      .exit 2
    | .error (.failure message) =>
      t.warn message
      .exit (if message = "non-integer argument" || message = "division by zero" then 2 else 3)
    | .ok (value, ([], _)) =>
      t.say (value ++ "\n")
      .exit (if Expression.isNull value then 1 else 0)
    | .ok (_, (extra :: _, _)) =>
      let shown := quoted extra
      t.warn s!"syntax error: unexpected argument {shown}"
      .exit 2

end Tool

end PipeShell.Programs
