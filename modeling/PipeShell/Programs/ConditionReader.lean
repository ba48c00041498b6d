import PipeShell.Programs.Condition

/-!
# Conditions as arguments

Conditions as lists of arguments: operators of one and of two operands, negation, conjunction,
disjunction and parentheses. An argument may look like an operator and be an operand; two ways to
tell are in use.

* `Condition.read` looks at the arguments behind one to tell whether it is an operator.
* `Condition.readStrictly` goes by how many arguments there are, as long as there are few.
-/

namespace PipeShell.Programs.Condition

/-- The letters of the tests of one operand. -/
def unaryLetters : List Char :=
  ['n', 'z', 't', 'e', 'f', 'd', 'r', 'w', 'x', 's', 'h', 'L', 'p', 'S', 'b', 'c', 'g', 'u', 'k',
    'O', 'G']

/-- The tests of two operands. -/
def binaryOperators : List String :=
  ["=", "!=", "<", ">", "-eq", "-ne", "-lt", "-le", "-gt", "-ge", "-ef", "-nt", "-ot"]

/-! ### By what follows -/

/-- What an argument is. -/
inductive Role where
  /-- A test of one operand. -/
  | unary (op : Char)
  /-- The sign of a negation. -/
  | negation
  /-- A parenthesis that opens. -/
  | opening
  /-- A parenthesis that closes. -/
  | closing
  /-- Anything else. -/
  | other
  deriving DecidableEq, Repr

/-- Whether arguments begin with a test of two operands. -/
def beginsBinary : List String → Bool
  | op :: _ => binaryOperators.contains op
  | [] => false

/-- What an argument is, given those behind it. -/
def roleOf (argument : String) (behind : List String) : Role :=
  match argument.toList with
  | ['!'] => .negation
  | ['('] => if behind.isEmpty then .other else .opening
  | [')'] => .closing
  | ['-', c] =>
    let isOperand := behind.isEmpty || (1 < behind.length && beginsBinary behind)
    if unaryLetters.contains c && !isOperand then .unary c else .other
  | _ => .other

/-- Reads a condition that no operator joins to another one; `whole` reads one between
parentheses. -/
def readPrimary (whole : List String → Condition × List String) :
    List String → Condition × List String
  | [] => (never, [])
  | a :: rest =>
    match roleOf a rest, rest with
    | .opening, ")" :: rest => (never, rest)
    | .opening, rest =>
      match whole rest with
      | (c, ")" :: rest) => (c, rest)
      | (c, rest) => (broken c (.unclosed rest.head?), [])
    | .unary op, b :: rest => (unary op b, rest)
    | _, rest =>
      if beginsBinary rest then
        match rest with
        | op :: b :: rest => (binary op a b, rest)
        | rest => (wrong (.noOperand (rest.headD "")), [])
      else (text a, rest)

/-- Reads a condition with signs of negation in front. -/
def readNegation (whole : List String → Condition × List String) :
    List String → Condition × List String
  | [] => (never, [])
  | a :: rest =>
    if roleOf a rest = .negation then
      let (c, rest) := readNegation whole rest
      (negation c, rest)
    else readPrimary whole (a :: rest)

/-- Reads conditions that must all hold, `fuel` of them at most. -/
def readBoth (whole : List String → Condition × List String) :
    Nat → List String → Condition × List String
  | 0, arguments => readNegation whole arguments
  | fuel + 1, arguments =>
    match readNegation whole arguments with
    | (a, "-a" :: rest) =>
      let (b, rest) := readBoth whole fuel rest
      (both a b, rest)
    | read => read

/-- Reads conditions of which one must hold, `fuel` of them at most, with parentheses. -/
def readEither : Nat → List String → Condition × List String
  | 0, arguments => (wrong (.unclosed none), arguments)
  | fuel + 1, arguments =>
    match readBoth (readEither fuel) arguments.length arguments with
    | (a, "-o" :: rest) =>
      let (b, rest) := readEither fuel rest
      (either a b, rest)
    | read => read

/-- Reads arguments that are a condition and nothing else. -/
def readAll (arguments : List String) : Condition :=
  match readEither (arguments.length + 1) arguments with
  | (c, []) => c
  | (c, rest) =>
    let read := arguments.take (arguments.length - rest.length)
    broken c (.unexpected (read.getLast?.getD ""))

/-- The condition that arguments are. One between two others is their operator if it can be. -/
def read : List String → Condition
  | [] => never
  | [a, b, c] =>
    if binaryOperators.contains b then binary b a c
    else if a = "(" ∧ c = ")" then readAll [b]
    else if a = "!" then negation (readAll [b, c])
    else readAll [a, b, c]
  | [a, b, c, d] =>
    if a = "(" ∧ d = ")" then readAll [b, c]
    else if a = "!" then negation (read [b, c, d])
    else readAll [a, b, c, d]
  | arguments => readAll arguments

/-! ### By how many there are -/

/-- The tests of two operands, where one of them has a second name. -/
def strictOperators : List String :=
  ["=", "==", "!=", "-eq", "-ne", "-lt", "-le", "-gt", "-ge", "-ef", "-nt", "-ot"]

/-- Whether an argument looks like a test of one operand. -/
def looksUnary (argument : String) : Bool :=
  argument.length = 2 && argument.startsWith "-"

/-- Reads a test of one operand; `last` is the last of all arguments. -/
def readUnary (last : String) : List String → Condition × List String
  | [] => (wrong (.nothingBehind last), [])
  | op :: rest =>
    let letter := (op.toList.drop 1).headD ' '
    if !('N' :: unaryLetters).contains letter then (wrong (.notUnary op), [])
    else match rest with
      | [] => (wrong (.nothingBehind last), [])
      | a :: rest => (unary letter a, rest)

/-- Turns around what has been read. -/
def negated (read : Condition × List String) : Condition × List String :=
  (negation read.1, read.2)

/-- Reads a condition of one argument. -/
def readOne : List String → Condition × List String
  | [] => (never, [])
  | a :: rest => (text a, rest)

/-- Reads a condition of two arguments. -/
def readTwo (last : String) : List String → Condition × List String
  | [] => (never, [])
  | a :: rest =>
    if a = "!" then negated (readOne rest)
    else if looksUnary a then readUnary last (a :: rest)
    else (wrong (.nothingBehind last), [])

/-- Reads a condition of three arguments; `joined` reads one of any number. -/
def readThree (last : String) (joined : List String → Condition × List String) :
    List String → Condition × List String
  | a :: op :: b :: rest =>
    if strictOperators.contains op then (binary op a b, rest)
    else if a = "!" then negated (readTwo last (op :: b :: rest))
    else if a = "(" ∧ b = ")" then (text op, rest)
    else if op = "-a" ∨ op = "-o" then joined (a :: op :: b :: rest)
    else (wrong (.notBinary op), [])
  | rest => joined rest

/-- Reads a condition of so many arguments; `joined` reads one of any number. -/
def readCounted (last : String) (joined : List String → Condition × List String) (count : Nat)
    (arguments : List String) : Condition × List String :=
  match count, arguments with
  | 1, arguments => readOne arguments
  | 2, arguments => readTwo last arguments
  | 3, arguments => readThree last joined arguments
  | 4, a :: b :: c :: d :: rest =>
    if a = "!" then negated (readThree last joined (b :: c :: d :: rest))
    else if a = "(" ∧ d = ")" then
      let (condition, rest) := readTwo last (b :: c :: d :: rest)
      (condition, rest.drop 1)
    else joined arguments
  | _, arguments => joined arguments

/-- How many of some arguments stand before a parenthesis that closes; all of them if that is far
away. -/
def countEnclosed (arguments : List String) : Nat :=
  let near := ((arguments.drop 1).take 4).takeWhile (· ≠ ")")
  if near.length = 4 then arguments.length else near.length + 1

/-- Reads a condition that no operator joins to another one. -/
def readTerm (last : String) (joined : List String → Condition × List String) :
    List String → Condition × List String
  | [] => (wrong (.nothingBehind last), [])
  | a :: rest =>
    if a = "!" then negated (readTerm last joined rest)
    else if a = "(" then
      if rest.isEmpty then (wrong (.nothingBehind last), [])
      else match readCounted last joined (countEnclosed rest) rest with
        | (c, ")" :: rest) => (c, rest)
        | (c, rest) => (broken c (.unclosed rest.head?), [])
    else
      let alone : Condition × List String :=
        if looksUnary a then readUnary last (a :: rest) else (text a, rest)
      match rest with
      | op :: b :: behind =>
        match a, behind with
        | "-l", c :: behind =>
          if strictOperators.contains b then (binary b (toString op.length) c, behind)
          else if strictOperators.contains op then (binary op a b, c :: behind)
          else alone
        | _, behind => if strictOperators.contains op then (binary op a b, behind) else alone
      | _ => alone

/-- Reads terms that must all hold, `fuel` of them at most. -/
def readTerms (last : String) (joined : List String → Condition × List String) :
    Nat → List String → Condition × List String
  | 0, arguments => readTerm last joined arguments
  | fuel + 1, arguments =>
    match readTerm last joined arguments with
    | (a, "-a" :: rest) =>
      let (b, rest) := readTerms last joined fuel rest
      (both a b, rest)
    | read => read

/-- Reads any number of joined terms, `fuel` of them at most, with parentheses. -/
def readJoined (last : String) : Nat → List String → Condition × List String
  | 0, arguments => (wrong (.unclosed none), arguments)
  | fuel + 1, arguments =>
    match readTerms last (readJoined last fuel) arguments.length arguments with
    | (a, "-o" :: rest) =>
      let (b, rest) := readJoined last fuel rest
      (either a b, rest)
    | read => read

/-- The condition that arguments are, by how many there are. -/
def readStrictly (arguments : List String) : Condition :=
  match arguments.getLast? with
  | none => never
  | some last =>
    match readCounted last (readJoined last (arguments.length + 1)) arguments.length arguments with
    | (c, []) => c
    | (c, extra :: _) => broken c (.extra extra)

end PipeShell.Programs.Condition
