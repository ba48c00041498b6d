import PipeShell.Script.Builtin.Jobs

/-!
# Commands about signals

The commands of a script that send signals and choose what is done about them.
-/

namespace PipeShell.Script

/-- The name of a signal that has a number only. -/
def realTimeName (number : Nat) : String :=
  if number = 34 then "RTMIN"
  else if number = 64 then "RTMAX"
  else if number < 34 then toString number
  else if number ≤ 49 then
    let n := number - 34
    s!"RTMIN+{n}"
  else
    let n := 64 - number
    s!"RTMAX-{n}"

/-- The name of a signal; zero is the end of the script. -/
def signalName (number : Nat) : String :=
  if number = 0 then "EXIT"
  else match Signal.ofNumber? number with
    | some signal => signal.shortName
    | none => realTimeName number

/-- The number of a signal that is given by its number or its name; names begin with the number
`least`. -/
def signalNumber? (least : Nat) (text : String) : Option Nat :=
  match Text.digits? text with
  | some n => if n < signalCount then some n else none
  | none =>
    (List.range signalCount).find? fun n => least ≤ n && signalName n == text.toUpper

/-! ### Sending -/

/-- The process that an argument names; a job is meant by its first process, and a group, which no
process forms, by a sign. -/
def targetOf (argument : String) : Step (Option Nat) := do
  if argument.startsWith "%" then
    let _ ← findJob (some argument)
    return none
  else if argument.startsWith "-" then
    let _ ← wholeNumber (argument.drop 1).toString
    return none
  else return some (← wholeNumber argument)

/-- Sends a signal to processes. -/
def sendTo (number : Nat) (processes : List String) : Step Nat :=
  processes.foldlM (fun status process => do
    let sent ← match ← targetOf process with
      | some pid => act (.perform (.signal pid number))
      | none => pure (.error .esrch)
    match sent with
    | .ok () => return status
    | .error cause =>
      warn (cause.text ++ "\n")
      return 1) 0

/-- Lists the signals, or names the one that a status stands for. -/
def listSignals (arguments : List String) : Step Nat := do
  match arguments with
  | [] =>
    say (String.join ("0\n" :: ((List.range signalCount).drop 1).map fun n => signalName n ++ "\n"))
  | argument :: _ =>
    let n ← wholeNumber argument
    let n := if 128 < n then n - 128 else n
    if 0 < n && n < signalCount then say (signalName n ++ "\n")
    else fail s!"invalid signal number or exit status: {argument}" 2

/-- The wording of how signals are sent. -/
def killUsage : String :=
  "Usage: kill [-s sigspec | -signum | -sigspec] [pid | job]... or\n" ++ "kill -l [exitstatus]"

/-- Sends signals. -/
def kill (arguments : List String) : Step Nat := do
  let send (number : Nat) (processes : List String) : Step Nat :=
    if processes.isEmpty then fail killUsage 2 else sendTo number processes
  match arguments with
  | [] => fail killUsage 2
  | argument :: processes =>
    if argument.startsWith "-" then
      match signalNumber? 1 (argument.drop 1).toString with
      | some number => send number processes
      | none =>
        let given ← options { plain := ['l'], valued := ['s'] } arguments
        let number ← given.options.foldlM (fun number (letter, name) => do
          if letter == 's' then
            match signalNumber? 1 name with
            | some number => return some number
            | none => fail s!"invalid signal number or name: {name}" 2
          else return number) none
        if given.has 'l' then
          if number.isSome && !given.operands.isEmpty then fail killUsage 2
          else listSignals given.operands
        else send (number.getD Signal.term.number) given.operands
    else send Signal.term.number arguments

/-! ### Answering -/

/-- Chooses what is done about a signal. -/
def setTrap (number : Nat) (action : String) : Step Unit := do
  let others := (← get).traps.filter fun t => t.1 ≠ number
  let traps := if action = "-" then others else (number, action) :: others
  modify fun s => { s with traps }
  if number ≠ 0 then
    let reaction := if action = "-" then Reaction.usual
      else if action.isEmpty then .ignored else .collected
    act (.attempt (.react number reaction))

/-- Chooses what is done about signals, or lists that. -/
def trap (arguments : List String) : Step Nat := do
  match ← operands arguments with
  | [] =>
    let traps := (← get).traps.mergeSort fun a b => a.1 ≤ b.1
    say (String.join (traps.map fun (number, action) =>
      "trap -- " ++ singleQuoted action ++ " " ++ signalName number ++ "\n"))
  | first :: rest =>
    let isNumber := (Text.digits? first).any (· < signalCount)
    let (action, names) := if rest.isEmpty || isNumber then ("-", first :: rest) else (first, rest)
    names.foldlM (fun status name => do
      if status ≠ 0 then return status
      match signalNumber? 0 name with
      | none =>
        act (.complain s!"trap: {name}: bad trap\n")
        return 1
      | some number =>
        setTrap number action
        return 0) 0

end PipeShell.Script
