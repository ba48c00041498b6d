import PipeShell.Programs.ConditionReader
import PipeShell.Programs.Format
import PipeShell.Script.Builtin.Usage

/-!
# Commands that write and test

The commands of a script that write their arguments, as they are or by a format, and the one that
evaluates a condition.
-/

namespace PipeShell.Script

open PipeShell.Programs

/-- The escapes that a script knows. -/
def scriptRules : EscapeRules := { letters := [('e', '\x1b')] }

/-- The escapes that are resolved where text is echoed. -/
def echoRules : EscapeRules := { scriptRules with skipsZero := true, stops := true }

/-- Echoes arguments; escapes are resolved. -/
def echo (arguments : List String) : Step Nat :=
  let (silent, texts) := match arguments with
    | "-n" :: rest => (true, rest)
    | texts => (false, texts)
  let (text, stopped) := unescape echoRules (" ".intercalate texts)
  say (text ++ if silent || stopped then "" else "\n")

/-- How a format is understood. -/
def formatDialect : Format.Dialect :=
  { rules := scriptRules, inner := echoRules, quotes := false, sizes := false, precision := 53,
    lone := true }

/-- Tells what is wrong with an argument of a format, or with the format; the second is a
failure. -/
def tellTrouble (trouble : Format.Trouble) : Step Bool := do
  match trouble with
  | .noNumber argument => warn s!"{argument}: expected numeric value"
  | .goesOn argument => warn s!"{argument}: not completely converted"
  | .outOfRange argument => warn s!"{argument}: Numerical result out of range"
  | .unfinished _ => warn "missing format character"
  | .badDirective text => warn s!"{text}: invalid directive"
  | .badAmount what argument => warn s!"invalid {what}: {argument}"
  | .moreThanOne _ => pure ()
  return match trouble with
    | .unfinished _ => true
    | .badDirective _ => true
    | _ => false

/-- Writes arguments by a format. -/
def printf (arguments : List String) : Step Nat := do
  match ← operands arguments with
  | [] => fail "usage: printf format [arg ...]" 2
  | format :: rest =>
    let outcome := Format.apply formatDialect format rest
    let failures ← outcome.troubles.mapM tellTrouble
    let status ← say outcome.output
    if failures.contains true then
      setStatus 2
      throw .failure
    let isWrong := outcome.troubles.any fun
      | .moreThanOne _ => false
      | _ => true
    return if isWrong then 1 else status

/-! ### Conditions -/

/-- The number that an operand of a condition is. -/
def operandNumber? (operand : String) : Option Int :=
  let isSpace (c : Char) : Bool := c == ' ' || ('\t' ≤ c && c ≤ '\x0d')
  let digits := ((operand.toList.dropWhile isSpace).reverse.dropWhile isSpace).reverse
  let (negative, digits) := match digits with
    | '-' :: digits => (true, digits)
    | '+' :: digits => (false, digits)
    | digits => (false, digits)
  (Text.digits? (String.ofList digits)).bind fun n =>
    let n : Int := if negative then -n else n
    if -(Nat.pow 2 63) ≤ n && n < Nat.pow 2 63 then some n else none

/-- The wording of a bad condition. -/
def conditionMessage : Condition.Fault → String
  | .unexpected before =>
    if before.isEmpty then "unexpected operator" else s!"{before}: unexpected operator"
  | .noOperand op => s!"{op}: argument expected"
  | .unclosed _ => "closing paren expected"
  | .noNumber operand => s!"Illegal number: {operand}"
  | .nothingBehind argument => s!"{argument}: argument expected"
  | .notUnary argument => s!"{argument}: unexpected operator"
  | .notBinary argument => s!"{argument}: unexpected operator"
  | .extra argument => s!"{argument}: unexpected operator"

/-- Evaluates a condition. -/
def test (arguments : List String) : Step Nat := do
  match ← act ((Condition.read arguments).holds operandNumber?) with
  | .ok true => return 0
  | .ok false => return 1
  | .error e => fail (conditionMessage e) 2

/-- Evaluates a condition between brackets. -/
def bracket (arguments : List String) : Step Nat :=
  if arguments.getLast? = some "]" then test arguments.dropLast else fail "missing ]" 2

end PipeShell.Script
