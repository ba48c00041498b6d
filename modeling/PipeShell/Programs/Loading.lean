import PipeShell.Programs.Installation

/-!
# Finding programs

A name with a slash is a path. Any other name is looked up in the directories of the search path,
one after the other; a directory that does not have it, or has it out of reach, is passed over, and
being out of reach is remembered. A file whose first line names an interpreter is run by it, and
any other file that may be started is a script.

* `Loading.load` is the whole search, with the cause if it fails.
* `repertoire` is the collection of all programs, as a machine takes it.
-/

namespace PipeShell

namespace Loading

/-- The directories that are searched if the environment does not name any. -/
def standardPath : String :=
  "/bin:/usr/bin"

/-- The directories that are searched for programs. -/
def directories (environment : List String) : List String :=
  let value := environment.findSome? fun line =>
    if line.startsWith "PATH=" then some (line.drop 5).toString else none
  (value.getD standardPath).splitOn ":"

/-- How long an argument may be, in octets, with its end mark. -/
def maxArgument : Nat := 131072

/-- Whether a character is a blank. -/
def isBlank (c : Char) : Bool :=
  c == ' ' || c == '\t'

/-- The interpreter that the first line of a file names, with its argument if it has one. -/
def interpreter? (content : Bytes) : Option (List String) :=
  match content with
  | 0x23 :: 0x21 :: rest =>
    let line := (rest.takeWhile (· ≠ 10)).map Text.charOfOctet
    let line := ((line.dropWhile isBlank).reverse.dropWhile isBlank).reverse
    let path := line.takeWhile fun c => !isBlank c
    let argument := (line.drop path.length).dropWhile isBlank
    if path.isEmpty then some []
    else some (String.ofList path :: if argument.isEmpty then [] else [String.ofList argument])
  | _ => none

/-- Starts the first program with a name that one of the directories has. -/
def tryDirectories (startAt : String → Except Errno (Program Unit)) (name : String)
    (refused : Bool) : List String → Except Errno (Program Unit)
  | [] => .error (if refused then .eacces else .enoent)
  | directory :: rest =>
    match startAt (if directory.isEmpty then name else directory ++ "/" ++ name) with
    | .ok program => .ok program
    | .error .eacces => tryDirectories startAt name true rest
    | .error .enoent => tryDirectories startAt name refused rest
    | .error .enotdir => tryDirectories startAt name refused rest
    | .error cause => .error cause

/-- Starts what stands at a path. `depth` bounds how often an interpreter leads on. -/
def loadAt (tree : FileTree) (environment : List String) :
    Nat → String → List String → Except Errno (Program Unit)
  | 0, _, _ => .error .enoexec
  | depth + 1, path, argv => do
    match ← tree.node (Text.textOf path) with
    | .program name => return Programs.programOf name environment argv
    | .file true number =>
      match interpreter? (tree.held number).toList with
      | some [] => throw .enoexec
      | some (interpreter :: argument) =>
        loadAt tree environment depth interpreter
          (interpreter :: argument ++ path :: argv.drop 1)
      | none => loadAt tree environment depth "/bin/sh" ("/bin/sh" :: path :: argv.drop 1)
    | _ => throw .eacces

/-- How often an interpreter may lead on. -/
def maxInterpreters : Nat := 6

/-- Starts a program, given its environment and the list of its name and arguments. -/
def load (tree : FileTree) (environment argv : List Bytes) : Except Errno (Program Unit) :=
  if argv.any fun argument => maxArgument ≤ argument.length then .error .e2big
  else
    let environment := environment.map Text.ofOctets
    let argv := argv.map Text.ofOctets
    let name := argv.headD ""
    let startAt (path : String) : Except Errno (Program Unit) :=
      loadAt tree environment maxInterpreters path argv
    if name = "" then .error .enoent
    else if name.toList.contains '/' then startAt name
    else if FileTree.maxName < name.length then .error .enametoolong
    else tryDirectories startAt name false (directories environment)

end Loading

/-- The programs that are known, as a machine takes them. -/
def repertoire : Repertoire (Program Unit) where
  load := Loading.load
  act
    | .done () => .exit 0
    | .exit status => .exit status
    | .ask act _ => act
  resume
    | .ask _ next, reply => next reply
    | program, _ => program

end PipeShell
