import PipeShell.Script.Lookup
import PipeShell.Script.Redirection

/-!
# Running commands

What the commands of a script do. Commands stand inside one another, and a text may be run as
commands, so everything here is given the runner of commands (`Runner`); `runner` closes the
circle for a number of levels that no script reaches.

* `runText` runs a text line by line.
* `runSimple` runs a command without others inside it: a function, a command of the script itself,
  or a program.
* `leave` does what a script wants to be done at its end.
-/

namespace PipeShell.Script

/-- How a command is run. -/
structure Mode where
  /-- Whether nothing is left to be done behind the command, so that a program may take the place
  of the script. -/
  isLast : Bool := false
  /-- Whether the status is looked at, so that a failure does not end the script. -/
  isTested : Bool := false

/-- How commands are run. -/
abbrev Runner := Mode → Command → Step Unit

/-! ### Texts -/

/-- Notes the line that runs. -/
def setLine (line : Nat) : Step Unit :=
  modify fun s => { s with line }

/-- The lines that a reader has read, up to one with a number. -/
def Reader.linesTo (reader : Reader) (line : Nat) : List Char :=
  (((String.ofList reader.rest).splitOn "\n").take (line + 1 - reader.line)).flatMap fun line =>
    line.toList ++ ['\n']

/-- Reads the commands on the next line, and shows the lines that have been read if that is asked
for; none if there may be more of them. -/
def readCommands (reader : Reader) : Step (Option (CommandList × Reader)) := do
  let s ← get
  let echo (text : List Char) : Step Unit := do
    if reader.isShown && s.options.contains 'v' then act (.complain (String.ofList text))
  match readLine { reader with documents := s.documents, aliases := s.aliases } with
  | .error (.wrong line message) =>
    echo (reader.linesTo line)
    setLine line
    fail message 2
  | .error .incomplete => return none
  | .ok (list, after) =>
    echo (reader.rest.take (reader.rest.length - after.rest.length))
    modify fun s => { s with documents := after.documents }
    return some (list, after)

/-- Runs the commands of a text line by line, so many lines at most, behind a status. -/
def runLines (run : Runner) (mode : Mode) : Nat → Reader → Nat → Step Nat
  | 0, _, status => return status
  | fuel + 1, reader, status => do
    match ← readCommands reader with
    | none => return status
    | some (list, reader) =>
      let status ← match list.command with
        | some command => do
          run { mode with isLast := mode.isLast && list.isLast } command
          pure (← get).status
        | none => pure status
      if list.isLast then return status else runLines run mode fuel reader status

/-- Runs a text; the status is the one of its last command. -/
def runText (run : Runner) (mode : Mode) (text : String) : Step Nat :=
  runLines run mode (text.length + 2) { rest := text.toList } 0

/-- Runs the text of a file, whose lines may be shown; the status is the one of its last
command. -/
def runFile (run : Runner) (text : String) : Step Nat :=
  runLines run {} (text.length + 2) { rest := text.toList, isShown := true } 0

/-! ### Signals and the end -/

/-- Runs what is done about a signal, or about the end. The status is the one from before, then
and afterwards. -/
def answerWith (run : Runner) (action : String) : Step Unit := do
  let s ← get
  let status := s.answeredStatus.getD s.status
  set { s with answeredStatus := some status }
  let _ ← runText run {} action
  modify fun after => { after with status, answeredStatus := s.answeredStatus }

/-- Answers the signals that have been collected. -/
def answerSignals (run : Runner) : Step Unit := do
  if !(← get).traps.isEmpty then
    noticeSignals signalCount
    let numbers := (← get).noticed
    modify fun s => { s with noticed := [] }
    (numbers.eraseDups.mergeSort (· ≤ ·)).forM fun number => do
      match (← get).traps.lookup number with
      | some action => if !action.isEmpty then answerWith run action
      | none => return

/-- Does what the script wants to be done at its end. -/
def leave (run : Runner) : Step Unit := do
  let s ← get
  match s.traps.lookup 0 with
  | none => return
  | some action =>
    set { s with traps := s.traps.filter fun t => t.1 ≠ 0 }
    tryCatch (answerWith run action) fun
      | .exit => return
      | .failure => return
      | _ => setStatus s.status

/-! ### Processes -/

/-- Takes what a command writes, which runs in a process of its own. -/
def takeOutput (run : Runner) : Taker
  | .nothing => return ""
  | body => do
    match ← act .pipe with
    | .error _ => fail "Pipe call failed" 2
    | .ok (read, write) =>
      let pid ← spawn {} (leave run) do
        act (.close read)
        moveTo write 1
        run { isLast := true } body
      act (.close write)
      let bytes ← act (.readToEnd read)
      act (.close read)
      let takenStatus ← waitFor [pid]
      modify fun s => { s with takenStatus }
      let text := Text.ofOctets (((bytes.toOption.getD []).filter (· ≠ 0)).reverse.dropWhile
        (· = 10)).reverse
      return text

/-- Starts commands that pipes join, each in a process of its own; `input` is what the first one
reads, if that is a pipe. The numbers of the processes are given last one first. -/
def spawnJoined (run : Runner) (isTested isBackground : Bool) :
    List Command → Option Fd → List Nat → Step (List Nat)
  | [], _, pids => return pids
  | command :: rest, input, pids => do
    let ends ← if rest.isEmpty then pure none else
      match ← act .pipe with
      | .ok ends => pure (some ends)
      | .error _ => fail "Pipe call failed" 2
    let readsNothing := isBackground && pids.isEmpty
    let pid ← spawn { isBackground, readsNothing } (leave run) do
      if let some (read, _) := ends then act (.close read)
      if let some fd := input then moveTo fd 0
      if let some (_, write) := ends then moveTo write 1
      run { isLast := true, isTested } command
    if let some fd := input then act (.close fd)
    if let some (_, write) := ends then act (.close write)
    spawnJoined run isTested isBackground rest (ends.map Prod.fst) (pid :: pids)

/-- Runs commands that pipes join. -/
def runJoined (run : Runner) (isTested : Bool) (commands : List Command) : Step Unit := do
  let pids ← spawnJoined run isTested false commands none []
  setStatus (← waitFor pids.reverse)

/-- Starts a command that nobody waits for. -/
def runBackground (run : Runner) (body : Command) : Step Unit := do
  match body with
  | .pipeline commands =>
    let pids ← spawnJoined run false true commands none []
    noteJob pids.reverse
  | body =>
    noteJob [← spawn { isBackground := true, readsNothing := true } (leave run)
      (run { isLast := true } body)]
  setStatus 0

/-- Makes redirections for the time of a computation. If one fails, the computation does not run,
and the status is two. -/
def redirectingSafely (run : Runner) (redirections : List Redirection) (body : Step Unit) :
    Step Unit := do
  let saved ← tryCatch ((applyRedirections (takeOutput run) true redirections []).map some) fun
    | .failure => return none
    | e => throw e
  match saved with
  | none => return
  | some saved =>
    tryCatch body fun e => do
      restore saved
      throw e
    restore saved

/-- Runs a command in a process of its own, or in place of the script if nothing follows. -/
def runSubshell (run : Runner) (mode : Mode) (body : Command) (redirections : List Redirection) :
    Step Unit := do
  let inner : Step Unit := do
    let _ ← applyRedirections (takeOutput run) false redirections []
    run { mode with isLast := true } body
  if mode.isLast && !(← hasTraps) then inner
  else setStatus (← waitFor [← spawn {} (leave run) inner])

/-! ### Loops -/

/-- Goes round, with a status, for as long as a round says so; so many rounds at most. -/
def rounds (round : Nat → Step (Nat × Bool)) : Nat → Nat → Step Unit
  | 0, status => setStatus status
  | fuel + 1, status => do
    act (.attempt .pause)
    let (status, goesOn) ← round status
    if goesOn then rounds round fuel status else setStatus status

/-- Runs one round of a loop, which may end it, or the loops around it. -/
def inLoop (round : Step (Nat × Bool)) : Step (Nat × Bool) := do
  let loops := (← get).loops
  let back : Step Unit := modify fun s => { s with loops }
  modify fun s => { s with loops := loops + 1 }
  let result ← tryCatch round fun
    | .broken n => do
      back
      if 1 < n then throw (.broken (n - 1))
      return ((← get).status, false)
    | .continued n => do
      back
      if 1 < n then throw (.continued (n - 1))
      return ((← get).status, true)
    | e => do
      back
      throw e
  back
  return result

/-- Runs a command again and again, as another one succeeds or fails. -/
def runLoop (run : Runner) (isTested negated : Bool) (test body : Command) : Step Unit :=
  rounds (fun status => inLoop do
    run { isTested := true } test
    if ((← get).status = 0) = negated then return (status, false)
    else
      run { isTested } body
      return ((← get).status, true)) Program.patience 0

/-- Runs a command for every text. -/
def runForEach (run : Runner) (isTested : Bool) (name : String) (body : Command) :
    List String → Nat → Step Unit
  | [], status => setStatus status
  | text :: rest, _ => do
    assign name text
    let (status, goesOn) ← inLoop do
      run { isTested } body
      return ((← get).status, true)
    if goesOn then runForEach run isTested name body rest status else setStatus status

/-- The first command with a pattern that matches a text. -/
def chosen (run : Runner) (text : String) :
    List (List Word × Command) → Step (Option Command)
  | [] => return none
  | (patterns, body) :: rest => do
    let found ← patterns.foldlM (fun found pattern => do
      if found then return true
      let pattern ← expandMarked (takeOutput run) pattern
      return (Pattern.read pattern).isMatch text.toList) false
    if found then return some body else chosen run text rest

/-! ### Functions and commands that run others -/

/-- How many functions may be around one another. -/
def maxCalls : Nat := 1000

/-- Calls a function. -/
def callFunction (run : Runner) (isTested : Bool) (f : Function) (arguments : List String) :
    Step Unit := do
  let s ← get
  if maxCalls ≤ s.calls then
    fail s!"Maximum function recursion depth ({maxCalls}) reached" 2
  set { s with
    arguments, loops := 0, calls := s.calls + 1, locals := [], functionLine := f.line
    localOptions := none, optionIndex := 1, optionOffset := none }
  let back : Step Unit := modify fun after =>
    let after := after.locals.foldl (fun after (name, old) => after.put name old) after
    { after with
      arguments := s.arguments, loops := s.loops, calls := s.calls, locals := s.locals
      options := after.localOptions.getD after.options, localOptions := s.localOptions
      functionLine := s.functionLine, optionIndex := s.optionIndex, optionOffset := s.optionOffset }
  tryCatch (run { isTested } f.body) fun e => do
    if e ≠ .returned then
      back
      throw e
  back

/-- Starts a program in place of the script. -/
def replaceBy (arguments : List String) : Step Unit := do
  let s ← get
  let cause ← act (.exec s.environment arguments)
  warn (startFailure (arguments.headD "") cause)
  let isMissing := [Errno.enoent, .enotdir, .enametoolong].contains cause
  setStatus (if isMissing then 127 else 126)
  throw .exit

/-- Runs a file as a part of the script. -/
def source (run : Runner) (arguments : List String) : Step Nat := do
  match ← operands arguments with
  | [] => return 0
  | name :: _ =>
    let path ← if name.toList.contains '/' then pure name else
      match ← act (findIn name .enoent (← directories)) with
      | .ok path => pure path
      | .error _ => fail s!"{name}: not found" 2
    match ← act (.openFile path .read) with
    | .error cause => fail (openFailure false path cause) 2
    | .ok fd =>
      let bytes ← act (.readToEnd fd)
      act (.close fd)
      modify fun s => { s with owner := some path }
      tryCatch (runFile run (Text.ofOctets (bytes.toOption.getD []))) fun
        | .returned => return (← get).status
        | e => throw e

/-- Runs a command of the script itself, by its name. -/
def runOwn (run : Runner) (mode : Mode) (name : String) (arguments : List String) : Step Nat :=
  match name with
  | "." => source run arguments
  | "eval" => runText run { isTested := mode.isTested } (" ".intercalate arguments)
  | "exec" => do
    let arguments ← operands arguments
    if !arguments.isEmpty then replaceBy arguments
    return 0
  | "command" => commandCommand arguments
  | "type" => describeAll true false arguments
  | "hash" => hash arguments
  | name =>
    match builtin? name with
    | some command => command arguments
    | none => return 127

/-! ### Simple commands -/

/-- What the name of a command stands for. -/
inductive Meaning where
  /-- No command at all. -/
  | nothing
  /-- A function. -/
  | function (f : Function)
  /-- A command of the script itself. -/
  | own (isSpecial : Bool)
  /-- A program, perhaps the standard one of its name. -/
  | program (standard : Bool)

/-- The commands whose arguments may be assignments. -/
def takesAssignments (name : String) : Bool :=
  ["export", "readonly", "local", "alias"].contains name

/-- The command behind one that says that no function is meant, if there is one; the second result
is whether the standard program of that name is meant. -/
def behindCommand : List String → Bool → Option (List String × Bool)
  | [], _ => none
  | argument :: rest, standard =>
    if argument = "--" then if rest.isEmpty then none else some (rest, standard)
    else match argument.toList with
      | '-' :: c :: letters =>
        if (c :: letters).all (· == 'p') then behindCommand rest true else none
      | _ => some (argument :: rest, standard)

/-- The arguments behind commands that say that no function is meant, `fuel` of them at most, if
there are any. -/
def withoutFunctionsIn : Nat → List String → Option (List String × Bool)
  | 0, _ => none
  | fuel + 1, fields =>
    match fields with
    | "command" :: rest =>
      (behindCommand rest false).map fun (fields, standard) =>
        match withoutFunctionsIn fuel fields with
        | some (fields, inner) => (fields, standard || inner)
        | none => (fields, standard)
    | _ => none

/-- The arguments behind a command that says that no function is meant, if it does. -/
def withoutFunctions (fields : List String) : Option (List String × Bool) :=
  withoutFunctionsIn fields.length fields

/-- The fields that words stand for. Behind the name of a command that takes assignments, those are
not cut into fields. -/
def expandCommand (take : Taker) : List Word → List String → Step (List String)
  | [], fields => return fields
  | word :: rest, fields => do
    let meant := ((withoutFunctions fields).map Prod.fst).getD fields
    match takesAssignments (meant.headD ""), Grammar.assignment? word with
    | true, some (name, value) =>
      let text ← expandText take true value
      expandCommand take rest (fields ++ [name ++ "=" ++ text])
    | _, _ => expandCommand take rest (fields ++ (← expandFields take [word]))

/-- What fields stand for. -/
def meaning (s : State) (isBare standard : Bool) : List String → Meaning
  | [] => .nothing
  | name :: _ =>
    match s.functions.lookup name, isBare with
    | some f, false => .function f
    | _, _ =>
      if isOwn name then .own (isSpecialCommand name && !isBare) else .program standard

/-- Gives variables their values for the time of one command; what they were before is given, last
one first. -/
def assignForCommand (take : Taker) :
    List (String × Word) → List (String × Option Variable) →
      Step (List String × List (String × Option Variable))
  | [], before => return ([], before)
  | (name, word) :: rest, before => do
    let value ← expandText take true word
    let old := (← get).known? name
    assign name value
    modify fun s => s.put name (((s.known? name).map fun v => { v with exported := true }))
    let (shown, before) ← assignForCommand take rest ((name, old) :: before)
    return ((name ++ "=" ++ value) :: shown, before)

/-- Gives variables their values for good. -/
def assignForGood (take : Taker) (exports : Bool) : List (String × Word) → Step (List String)
  | [] => return []
  | (name, word) :: rest => do
    let value ← expandText take true word
    assign name value
    if exports then
      modify fun s => s.put name (((s.known? name).map fun v => { v with exported := true }))
    return (name ++ "=" ++ value) :: (← assignForGood take exports rest)

/-- Runs a computation with the name of a command of the script itself in front of messages. -/
def ownedBy (name : String) (body : Step Unit) : Step Unit := do
  let owner := (← get).owner
  let back : Step Unit := modify fun s => { s with owner }
  modify fun s => { s with owner := some name }
  tryCatch body fun e => do
    back
    throw e
  back

/-- Runs what fields stand for. -/
def runMeaning (run : Runner) (mode : Mode) (fields : List String) : Meaning → Step Unit
  | .nothing => do setStatus (← get).takenStatus
  | .function f => callFunction run mode.isTested f (fields.drop 1)
  | .own isSpecial => do
    let name := fields.headD ""
    let body : Step Unit := ownedBy name do
      setStatus (← runOwn run mode name (fields.drop 1))
    if isSpecial then body
    else tryCatch body fun
      | .failure => return
      | e => throw e
  | .program standard => do
    let name := fields.headD ""
    let found ← if name.toList.contains '/' then pure (.ok name) else findProgram name standard
    match found with
    | .error cause =>
      warn (startFailure name cause)
      setStatus 127
    | .ok _ =>
      if mode.isLast && !(← hasTraps) then replaceBy fields
      else setStatus (← waitFor [← spawn {} (return) (replaceBy fields)])

/-- The mark in front of commands that are shown. While it is expanded nothing is shown. -/
def traceMark (take : Taker) : Step String := do
  let s ← get
  match quotedWord ((s.value? "PS4").getD "") with
  | .error _ => return ""
  | .ok word =>
    set { s with options := s.options.filter (· ≠ 'x') }
    let mark ← expandText take false word
    modify fun after => { after with options := s.options, status := s.status }
    return mark

/-- Shows a command before it runs, if that is asked for. -/
def trace (take : Taker) (saved : List Saved) (texts : List String) : Step Unit := do
  if ← hasOption 'x' then
    let fd : Fd := ((saved.find? fun s => s.fd = 2).bind Saved.kept).getD Fd.stderr
    let mark ← traceMark take
    let _ ← act (.write fd (Text.toOctets (mark ++ " ".intercalate texts ++ "\n")))

/-- Runs a command without others inside it. -/
def runSimple (run : Runner) (mode : Mode) (assignments : List (String × Word))
    (words : List Word) (redirections : List Redirection) : Step Unit := do
  let take := takeOutput run
  modify fun s => { s with takenStatus := 0 }
  let written ← expandCommand take words []
  let bare := withoutFunctions written
  let (fields, standard) := bare.getD (written, false)
  let meant := meaning (← get) bare.isSome standard fields
  let isSpecial := match meant with
    | .own isSpecial => isSpecial
    | _ => false
  let replaces := isSpecial && fields.headD "" = "exec"
  let saved ← tryCatch ((applyRedirections take (!replaces) redirections []).map some) fun
    | .failure => if isSpecial then throw .failure else return none
    | e => throw e
  match saved with
  | none => return
  | some saved =>
    let body : Step Unit := do
      let isForGood := isSpecial || fields.isEmpty
      let (shown, before) ← if isForGood then
          pure (← assignForGood take (replaces && 1 < fields.length) assignments, [])
        else assignForCommand take assignments []
      trace take saved (shown ++ written)
      let back : Step Unit := modify fun s =>
        before.foldl (fun s (name, old) => s.put name old) s
      tryCatch (runMeaning run mode fields meant) fun e => do
        back
        throw e
      back
    tryCatch body fun e => do
      restore saved
      throw e
    restore saved

/-! ### All commands -/

/-- Whether a failure of a command may end the script. -/
def isChecked : Command → Bool
  | .simple _ _ _ _ => true
  | .subshell _ _ _ => true
  | .pipeline _ => true
  | _ => false

/-- Runs a command, given how the commands inside it are run. -/
def runCommand (run : Runner) (mode : Mode) : Command → Step Unit
  | .nothing => return
  | .simple line assignments words redirections => do
    setLine line
    runSimple run mode assignments words redirections
  | .pipeline commands => runJoined run mode.isTested commands
  | .background body => runBackground run body
  | .negation body => do
    run { isTested := true } body
    setStatus (if (← get).status = 0 then 1 else 0)
  | .sequence first second => do
    run { isTested := mode.isTested } first
    run mode second
  | .conjunction first second => do
    run { isTested := true } first
    if (← get).status = 0 then run mode second
  | .disjunction first second => do
    run { isTested := true } first
    if (← get).status ≠ 0 then run mode second
  | .subshell line body redirections => do
    setLine line
    runSubshell run mode body redirections
  | .redirected line body redirections => do
    setLine line
    redirectingSafely run redirections (run { isTested := mode.isTested } body)
  | .branch test yes no => do
    run { isTested := true } test
    if (← get).status = 0 then run mode yes
    else match no with
      | .nothing => setStatus 0
      | no => run mode no
  | .loop negated test body => runLoop run mode.isTested negated test body
  | .forEach line name words body => do
    setLine line
    let texts ← match words with
      | some words => expandFields (takeOutput run) words
      | none => pure (← get).arguments
    runForEach run mode.isTested name body texts 0
  | .choice line word cases => do
    setLine line
    let text ← expandText (takeOutput run) false word
    match ← chosen run text cases with
    | none => setStatus 0
    | some .nothing => setStatus 0
    | some body => run mode body
  | .definition line name body => do
    modify fun s =>
      let others := s.functions.filter fun f => f.1 ≠ name
      { s with functions := (name, ⟨line, body⟩) :: others, status := 0 }

/-- Runs a command and answers signals before and behind it. A failure that nobody looks at ends
the script if that is asked for. -/
def runStep (run : Runner) : Runner := fun mode command => do
  if !(← hasOption 'n') then
    answerSignals run
    runCommand run mode command
    answerSignals run
    if isChecked command && !mode.isTested && (← get).status ≠ 0 && (← hasOption 'e') then
      throw .exit

/-- Runs commands with so many levels inside one another. -/
def runnerOf : Nat → Runner
  | 0 => fun _ _ => fail "too many levels" 2
  | levels + 1 => runStep (runnerOf levels)

/-- How many levels of commands may stand inside one another. -/
def maxLevels : Nat := 1000000

/-- Runs commands. -/
def runner : Runner := runnerOf maxLevels

end PipeShell.Script
