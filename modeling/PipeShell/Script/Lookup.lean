import PipeShell.Script.Builtin

/-!
# What names stand for

How a script finds the program that a name stands for, and what it tells about names.

* `findProgram` finds a program and remembers its path.
* `describe` tells what a name stands for.
-/

namespace PipeShell.Script

/-- The directories that are searched for programs. -/
def directories : Step (List String) := do
  return (((← get).value? "PATH").getD "").splitOn ":"

/-- The directories in which the standard programs are found. -/
def standardDirectories : List String :=
  ["/usr/local/sbin", "/usr/local/bin", "/usr/sbin", "/usr/bin", "/sbin", "/bin"]

/-- The path of a name in a directory. -/
def pathIn (directory name : String) : String :=
  if directory.isEmpty then name else directory ++ "/" ++ name

/-- The first path in directories with a file for a name, or why there is none. -/
def findIn (name : String) (cause : Errno) : List String → Program (Except Errno String)
  | [] => return .error cause
  | directory :: rest => do
    let path := pathIn directory name
    match ← Program.examine path with
    | .ok (.file _ _ _) => return .ok path
    | .ok _ => findIn name .eacces rest
    | .error .enoent => findIn name cause rest
    | .error .enotdir => findIn name cause rest
    | .error cause => findIn name cause rest

/-- The path of a program, or why there is none. What has been found by the usual directories is
remembered. -/
def findProgram (name : String) (standard : Bool) : Step (Except Errno String) := do
  if name.toList.contains '/' then
    match ← act (.examine name) with
    | .ok _ => return .ok name
    | .error cause => return .error cause
  else if standard then act (findIn name .enoent standardDirectories)
  else match (← get).found.lookup name with
    | some path => return .ok path
    | none =>
      match ← act (findIn name .enoent (← directories)) with
      | .ok path =>
        modify fun s => { s with found := s.found ++ [(name, path)] }
        return .ok path
      | .error cause => return .error cause

/-- The wording of a failure to start a program. -/
def startFailure (name : String) (cause : Errno) : String :=
  if cause = .enoent ∨ cause = .enotdir then s!"{name}: not found"
  else
    let text := cause.text
    s!"{name}: {text}"

/-- The names of the commands that run or find others. -/
def runningNames : List String :=
  [".", "eval", "exec", "command", "type", "hash"]

/-- Whether a name is a command of the script itself. -/
def isOwn (name : String) : Bool :=
  runningNames.contains name || (builtin? name).isSome

/-- Tells what a name stands for, in few words or in many. -/
def describe (inFull standard : Bool) (name : String) : Step (Option String) := do
  let s ← get
  let short (text : String) : Option String := some (if inFull then text else name)
  if keywords.contains name then return short s!"{name} is a shell keyword"
  else if let some text := s.aliases.lookup name then
    return some (if inFull then s!"{name} is an alias for {text}"
      else "alias " ++ name ++ "=" ++ singleQuoted text)
  else if (s.functions.lookup name).isSome then return short s!"{name} is a shell function"
  else if isSpecialCommand name then return short s!"{name} is a special shell builtin"
  else if isOwn name then return short s!"{name} is a shell builtin"
  else
    let isKnown := (s.found.lookup name).isSome && !standard
    match ← findProgram name standard with
    | .ok path =>
      let relation := if isKnown then "is a tracked alias for" else "is"
      return some (if inFull then s!"{name} {relation} {path}" else path)
    | .error _ => return none

/-- Tells what names stand for. -/
def describeAll (inFull standard : Bool) (names : List String) : Step Nat :=
  names.foldlM (fun status name => do
    match ← describe inFull standard name with
    | some text =>
      let _ ← say (text ++ "\n")
      return status
    | none =>
      if inFull then
        let _ ← say s!"{name}: not found\n"
      return 127) 0

/-- Tells what the name behind an option stands for. -/
def commandCommand (arguments : List String) : Step Nat := do
  let given ← options { plain := ['p', 'v', 'V'] } arguments
  if given.has 'v' || given.has 'V' then
    describeAll (given.has 'V') (given.has 'p') (given.operands.take 1)
  else return 0

/-- How many rows the table of programs that have been found has. -/
def foundRows : Nat := 31

/-- Finds programs and remembers where, or lists those that have been found. -/
def hash (arguments : List String) : Step Nat := do
  let given ← options { plain := ['r'] } arguments
  if given.has 'r' then
    modify fun s => { s with found := [] }
    return 0
  else if given.operands.isEmpty then
    say (String.join ((inTableOrder foundRows (← get).found).map fun entry => entry.2 ++ "\n"))
  else
    given.operands.foldlM (fun status name => do
      if isOwn name || ((← get).functions.lookup name).isSome then return status
      modify fun s => { s with found := s.found.filter fun f => f.1 ≠ name }
      match ← findProgram name false with
      | .ok _ => return status
      | .error cause =>
        warn (startFailure name cause)
        return 1) 0

end PipeShell.Script
