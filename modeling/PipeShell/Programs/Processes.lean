import PipeShell.Programs.Tool
import PipeShell.System.Child
import PipeShell.Text.Integer

/-!
# Programs about processes

The programs that let time pass, start other programs in a changed surrounding, or end them after
some time.
-/

namespace PipeShell.Programs.Tool

/-! ### Time -/

/-- A duration in seconds with decimals, or in larger units, as milliseconds. -/
def milliseconds? (text : String) : Option Nat :=
  let (number, factor) := match text.toList.getLast? with
    | some 's' => ((text.dropEnd 1).toString, 1000)
    | some 'm' => ((text.dropEnd 1).toString, 60000)
    | some 'h' => ((text.dropEnd 1).toString, 3600000)
    | some 'd' => ((text.dropEnd 1).toString, 86400000)
    | _ => (text, 1000)
  if number = "inf" || number = "infinity" || text = "infinity" then some Program.patience
  else match number.splitOn "." with
    | [whole] => (Text.digits? whole).map fun n => n * factor
    | [whole, decimals] =>
      if whole.isEmpty && decimals.isEmpty then none
      else match (if whole.isEmpty then some 0 else Text.digits? whole),
          (if decimals.isEmpty then some 0 else Text.digits? decimals) with
        | some n, some d => some (n * factor + d * factor / Nat.pow 10 decimals.length)
        | _, _ => none
    | _ => none

/-- Lets time pass. -/
def sleep (t : Tool) : Program Unit := do
  let i ← t.given {}
  if i.operands.isEmpty then t.misuse "missing operand"
  let bad := i.operands.filter fun a => (milliseconds? a).isNone
  bad.forM fun a => do
    let shown := quoted a
    t.warn s!"invalid time interval {shown}"
  if !bad.isEmpty then t.leaveToHelp
  .attempt (.sleep ((i.operands.filterMap milliseconds?).foldl (· + ·) 0))
  .exit 0

/-! ### Starting programs -/

/-- Starts a program in place of this one; if that fails it says so with a message of its own. -/
def start (t : Tool) (message : String → String → String) (environment command : List String) :
    Program Unit := do
  let cause ← .exec environment command
  let text := cause.text
  t.warn (message (quoted (command.headD "")) text)
  .exit cause.execStatus

/-- Whether an argument is an assignment. -/
def isAssignment (argument : String) : Bool :=
  argument.toList.contains '='

/-- The name in front of an assignment. -/
def assignedName (line : String) : String :=
  (line.takeWhile (· ≠ '=')).toString

/-- Puts an assignment into an environment. -/
def putVariable (environment : List String) (line : String) : List String :=
  if environment.any fun old => assignedName old = assignedName line then
    environment.map fun old => if assignedName old = assignedName line then line else old
  else environment ++ [line]

/-- Starts a program in a changed environment, or shows that. -/
def env (t : Tool) : Program Unit := do
  let i ← t.given
    { letters := [('i', .nothing), ('0', .nothing), ('u', .value), ('C', .value), ('v', .nothing)]
      words := [("ignore-environment", 'i', .nothing), ("null", '0', .nothing),
        ("unset", 'u', .value), ("chdir", 'C', .value)]
      endsEarly := true }
  let (isBare, operands) := match i.operands with
    | "-" :: rest => (true, rest)
    | operands => (false, operands)
  let environment := if isBare || i.has 'i' then [] else t.environment
  let environment := environment.filter fun line => !(i.values 'u').contains (assignedName line)
  let assignments := operands.takeWhile isAssignment
  let environment := assignments.foldl putVariable environment
  if let some path := i.value? 'C' then
    match ← .perform (.enter (Text.textOf path)) with
    | .ok () => pure ()
    | .error cause =>
      let shown := quoted path
      let text := cause.text
      t.fail s!"cannot change directory to {shown}: {text}"
  match operands.drop assignments.length with
  | [] =>
    let mark := if i.has '0' then "\x00" else "\n"
    t.say (String.join (environment.map (· ++ mark)))
    .exit 0
  | command =>
    if i.has '0' then t.misuse "cannot specify --null (-0) with command"
    t.start (fun name text => s!"{name}: {text}") environment command

/-- Shows the environment, or variables of it. -/
def printenv (t : Tool) : Program Unit := do
  let i ← t.given
    { letters := [('0', .nothing)], words := [("null", '0', .nothing)], endsEarly := true }
  let mark := if i.has '0' then "\x00" else "\n"
  if i.operands.isEmpty then
    t.say (String.join (t.environment.map (· ++ mark)))
    .exit 0
  let status ← i.operands.foldlM (fun status name => do
    match t.environment.find? fun line => assignedName line = name && line ≠ name with
    | some line =>
      t.say ((line.drop (name.length + 1)).toString ++ mark)
      return status
    | none => return 1) 0
  .exit status

/-- Starts a program that the end of a session does not end. -/
def nohup (t : Tool) : Program Unit := do
  let i ← t.given { endsEarly := true }
  if i.operands.isEmpty then t.misuse "missing operand"
  if ← .isTerminal Fd.stdin then t.warn "ignoring input"
  .attempt (.react 1 .ignored)
  t.start (fun name text => s!"failed to run command {name}: {text}") t.environment i.operands

/-- Starts a program with another priority, which makes no difference to what it does. -/
def nice (t : Tool) : Program Unit := do
  let i ← t.given
    { letters := [('n', .value)], words := [("adjustment", 'n', .value)], endsEarly := true }
  if i.operands.isEmpty then
    t.say "0\n"
    .exit 0
  t.start (fun name text => s!"{name}: {text}") t.environment i.operands

/-- Starts a program that holds back its output otherwise, which makes no difference to what it
writes in the end. -/
def stdbuf (t : Tool) : Program Unit := do
  let modes := [("input", 'i', Takes.value), ("output", 'o', .value), ("error", 'e', .value)]
  let i ← t.givenWith
    { letters := modes.map fun m => (m.2.1, .value), words := modes, endsEarly := true }
    fun letter mode => do
      if letter == 'i' && mode = "L" then t.misuse "line buffering stdin is meaningless"
      let units := 'B' :: Amount.commonUnits
      if mode ≠ "L" && (Amount.read units mode).toOption.isNone then
        let shown := quoted mode
        .giveUp s!"stdbuf: invalid mode {shown}\n" 125
  if i.operands.isEmpty then t.misuse "missing operand"
  if i.options.isEmpty then t.misuse "you must specify a buffering mode option"
  t.start (fun name text => s!"failed to run command {name}: {text}") t.environment i.operands

/-- The number of a signal that is given by its name or its number. -/
def signalNumber? (text : String) : Option Nat :=
  match Text.digits? text with
  | some n => some n
  | none =>
    let name := text.toUpper
    let name := if name.startsWith "SIG" then (name.drop 3).toString else name
    (Signal.ofShortName? name).map Signal.number

/-- Starts a program and ends it after some time. -/
def timeout (t : Tool) : Program Unit := do
  let i ← t.given
    { letters := [('s', .value), ('k', .value), ('v', .nothing), ('f', .nothing), ('p', .nothing)]
      words := [("signal", 's', .value), ("kill-after", 'k', .value), ("verbose", 'v', .nothing),
        ("foreground", 'f', .nothing), ("preserve-status", 'p', .nothing)]
      endsEarly := true }
  let time (text : String) : Program Nat :=
    match milliseconds? text with
    | some n => .done n
    | none =>
      let shown := quoted text
      t.misuse s!"invalid time interval {shown}"
  let number ← match i.value? 's' with
    | none => pure Signal.term.number
    | some text =>
      match signalNumber? text with
      | some n => pure n
      | none =>
        let shown := quoted text
        t.misuse s!"{shown}: invalid signal"
  let patience ← (i.value? 'k').mapM time
  match i.operands with
  | limit :: command@(_ :: _) =>
    let limit ← time limit
    match ← .fork with
    | .error cause =>
      let text := cause.text
      t.fail s!"fork system call failed: {text}"
    | .ok none =>
      t.start (fun name text => s!"failed to run command {name}: {text}") t.environment command
    | .ok (some pid) =>
      let leave (timedOut : Bool) (how : Ending) : Program Unit := do
        match how with
        | .exited status => .exit (if timedOut && !i.has 'p' then 124 else status)
        | .killed signal =>
          if !timedOut then
            let (own, _) ← Program.identity
            .attempt (.signal own signal)
          let isOwn := timedOut && !i.has 'p' && signal ≠ Signal.kill.number
          .exit (if isOwn then 124 else 128 + signal)
      match ← .wait (some pid) (if limit = 0 then none else some limit) with
      | .ok (_, how) => leave false how
      | .error .eagain =>
        .attempt (.signal pid number)
        .attempt (.signal pid Signal.cont.number)
        -- the signal is for everybody around
        if number = Signal.kill.number && !i.has 'f' then
          let (own, _) ← Program.identity
          .attempt (.signal own number)
        match ← .wait (some pid) patience with
        | .ok (_, how) => leave true how
        | .error _ =>
          .attempt (.signal pid Signal.kill.number)
          match ← .wait (some pid) none with
          | .ok (_, how) => leave true how
          | .error _ => .exit 125
      | .error _ => .exit 125
  | _ => t.leaveToHelp

end PipeShell.Programs.Tool
