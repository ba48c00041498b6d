import PipeShell.Script.Evaluation

/-!
# Starting a script

The program that runs scripts: what its arguments mean, where the text of the script comes from,
and what a script knows at its beginning.

* `runInput` runs what the program reads from its input, line by line as it comes in.
* `program` is the whole program.
-/

namespace PipeShell.Script

/-- How many octets of a script are read at once. -/
def blockSize : Nat := 8192

/-- How often an end of the input is passed over, if the script asks for that. -/
def maxEnds : Nat := 50

/-- Says that the input is over, as often as that is passed over. -/
def passEnds : Step Unit := do
  if ← hasOption 'I' then
    (List.range maxEnds).forM fun _ => act (.complain "\nUse \"exit\" to leave shell.\n")

/-- Runs what comes in, so many lines or blocks at most. -/
def runInput (run : Runner) : Nat → Reader → Step Unit
  | 0, _ => return
  | fuel + 1, reader => do
    match ← readCommands reader with
    | none =>
      match ← act (.read Fd.stdin blockSize) with
      | .ok [] => runInput run fuel { reader with more := false }
      | .ok block =>
        let rest := reader.rest ++ block.map Text.charOfOctet
        runInput run fuel { reader with rest }
      | .error .eintr => runInput run fuel reader
      | .error _ => runInput run fuel { reader with more := false }
    | some (list, reader) =>
      if let some command := list.command then run {} command
      if list.isLast then passEnds else runInput run fuel reader

/-- Reads the options in front of the arguments: whether the script is the first argument itself,
and the arguments that are left. -/
def startOptions (isText : Bool) : List String → Step (Bool × List String)
  | [] => return (isText, [])
  | argument :: rest => do
    let sign := (argument.take 1).toString
    let letters := argument.toList.drop 1
    if argument = "-" || argument = "--" then return (isText, rest)
    else if sign = "-" || sign = "+" then
      let isText := isText || letters.contains 'c'
      switchAll (sign ++ String.ofList (letters.filter fun c => !(['c', 'l', 'o'].contains c)))
      if letters.contains 'o' then
        match rest with
        | name :: rest =>
          switchNamed (sign = "-") name
          startOptions isText rest
        | [] =>
          let _ ← listOptions (sign = "+")
          return (isText, [])
      else startOptions isText rest
    else return (isText, argument :: rest)

/-- Runs the script that the arguments ask for. -/
def start (arguments : List String) : Step Unit := do
  let (isText, rest) ← startOptions false arguments
  let readsInput ← hasOption 's'
  let input : Step Unit := runInput runner Program.patience
    { rest := [], more := true, isShown := true }
  match isText, rest with
  | true, [] => fail "-c requires an argument" 2
  | true, text :: rest =>
    modify fun s => { s with zero := rest.headD s.zero, arguments := rest.drop 1 }
    let _ ← runText runner { isLast := !readsInput } text
    if readsInput then input
  | false, [] =>
    switch true 's'
    input
  | false, path :: rest =>
    if readsInput then
      modify fun s => { s with arguments := path :: rest }
      input
    else
      match ← act (.openFile path .read) with
      | .error cause => fail (openFailure false path cause) 2
      | .ok fd =>
        let bytes ← act (.readToEnd fd)
        act (.close fd)
        modify fun s => { s with zero := path, arguments := rest }
        let _ ← runFile runner (Text.ofOctets (bytes.toOption.getD []))

/-- The variable that a line of the environment stands for, with its value. -/
def variableOf? (line : String) : Option (String × String) :=
  match splitAssignment line with
  | (name, some value) => if isName name then some (name, value) else none
  | _ => none

/-- Where programs are looked for if nothing else is said. -/
def standardPath : String :=
  "/usr/local/sbin:/usr/local/bin:/usr/sbin:/usr/bin:/sbin:/bin"

/-- Gives a variable a value at the beginning of a script. One that programs have found in their
environment stays there. -/
def State.begin (s : State) (name value : String) (exported : Bool) : State :=
  let old := (s.known? name).getD {}
  s.put name (some { old with value := some value, exported := old.exported || exported })

/-- What a script knows at its beginning: the standard variables, what it finds in its
environment, and what it does not take from there. -/
def State.first (environment argv : List String) (own maker : Nat) (path : String) : State :=
  let always := [("IFS", " \t\n"), ("OPTIND", "1")]
  let standard := [("PATH", standardPath), ("PS1", "# "), ("PS2", "> "), ("PS4", "+ ")] ++ always
  let s : State := { zero := argv.headD "sh", own, maker, line := 0, directory := path }
  let s := standard.foldl (fun s (name, value) => s.begin name value false) s
  let s := (environment.filterMap variableOf?).foldl (fun s (name, value) =>
    s.begin name value true) s
  let s := (always ++ [("PPID", toString maker)]).foldl (fun s (name, value) =>
    s.begin name value false) s
  s.begin "PWD" path true

/-- The program that runs scripts. -/
def program (environment argv : List String) : Program Unit := do
  let (own, maker) ← Program.identity
  let path ← Program.whereabouts
  let whole : Step Unit := do
    tryCatch (start (argv.drop 1)) fun _ => pure ()
    leave runner
  let (_, s) ← whole.run (State.first environment argv own maker path)
  Program.exit s.status

end PipeShell.Script
