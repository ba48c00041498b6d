import PipeShell.Programs.Program

/-!
# Conditions

Conditions on texts, numbers and files, with negation, conjunction and disjunction. A list of
arguments that is no condition is one too, with the fault where the reading stopped: what stands
before it is evaluated first.

`Condition.holds` evaluates a condition.
-/

namespace PipeShell.Programs

/-- Why arguments are no condition, or one that cannot be evaluated. -/
inductive Condition.Fault where
  /-- Something stands behind an argument where the condition must end. -/
  | unexpected (before : String)
  /-- An operator has no operand. -/
  | noOperand (op : String)
  /-- A parenthesis is not closed; what stands there, if anything does. -/
  | unclosed (found : Option String)
  /-- An operand is no number. -/
  | noNumber (operand : String)
  /-- Nothing stands behind the last argument. -/
  | nothingBehind (argument : String)
  /-- An argument stands where an operator with one operand must. -/
  | notUnary (argument : String)
  /-- An argument stands where an operator with two operands must. -/
  | notBinary (argument : String)
  /-- An argument stands where the condition must end. -/
  | extra (argument : String)
  deriving DecidableEq, Repr

/-- A condition. -/
inductive Condition where
  /-- A text that is not empty. -/
  | text (text : String)
  /-- A test of one operand. -/
  | unary (op : Char) (operand : String)
  /-- A test of two operands. -/
  | binary (op : String) (a b : String)
  /-- The contrary. -/
  | negation (a : Condition)
  /-- Both. -/
  | both (a b : Condition)
  /-- At least one. -/
  | either (a b : Condition)
  /-- What never holds. -/
  | never
  /-- Arguments that go wrong behind a condition. -/
  | broken (a : Condition) (fault : Condition.Fault)

namespace Condition

/-- Arguments that go wrong at once. -/
def wrong (fault : Fault) : Condition :=
  broken never fault

/-- Compares two numbers. -/
def compare (op : String) (a b : Int) : Bool :=
  match op with
  | "-eq" => a == b
  | "-ne" => a != b
  | "-lt" => a < b
  | "-le" => a ≤ b
  | "-gt" => b < a
  | _ => b ≤ a

/-- Whether what stands at a path passes a test. -/
def passes (op : Char) (kind : NodeKind) : Bool :=
  match op, kind with
  | 'e', _ => true
  | 'f', .file _ _ _ => true
  | 'd', .directory => true
  | 'r', _ => true
  | 'w', _ => true
  | 'x', .file executable _ _ => executable
  | 'x', .directory => true
  | 's', .file _ size _ => size ≠ 0
  | 's', .directory => true
  | 'c', .device => true
  | 'O', _ => true
  | 'G', _ => true
  | _, _ => false

/-- Whether a condition holds; `number?` says which number an operand is. Every part is evaluated,
from left to right, so that the first thing that is wrong is the one that is told. -/
def holds (number? : String → Option Int) : Condition → Program (Except Fault Bool)
  | never => .done (.ok false)
  | text a => .done (.ok (!a.isEmpty))
  | unary op a => do
    match op with
    | 'n' => return .ok (!a.isEmpty)
    | 'z' => return .ok a.isEmpty
    | 't' =>
      match number? a with
      | some n => return .ok (← Program.isTerminal n)
      | none => return .error (.noNumber a)
    | op =>
      match ← Program.examine a with
      | .ok kind => return .ok (passes op kind)
      | .error _ => return .ok false
  | binary op a b => do
    match op with
    | "=" => return .ok (a == b)
    | "==" => return .ok (a == b)
    | "!=" => return .ok (a != b)
    | "<" => return .ok (a < b)
    | ">" => return .ok (b < a)
    | "-ef" =>
      match ← Program.examine a, ← Program.examine b with
      | .ok (.file _ _ m), .ok (.file _ _ n) => return .ok (m == n && a == b || m == n && m != 0)
      | .ok .directory, .ok .directory => return .ok (a == b)
      | _, _ => return .ok false
    -- nothing is known about the times of files
    | "-nt" => return .ok false
    | "-ot" => return .ok false
    | op =>
      match number? a, number? b with
      | some m, some n => return .ok (compare op m n)
      | none, _ => return .error (.noNumber a)
      | _, none => return .error (.noNumber b)
  | negation a => do
    return (← a.holds number?).map (!·)
  | both a b => do
    match ← a.holds number? with
    | .ok first => return (← b.holds number?).map (first && ·)
    | .error e => return .error e
  | either a b => do
    match ← a.holds number? with
    | .ok first => return (← b.holds number?).map (first || ·)
    | .error e => return .error e
  | broken a fault => do
    match ← a.holds number? with
    | .ok _ => return .error fault
    | .error e => return .error e

end Condition

end PipeShell.Programs
