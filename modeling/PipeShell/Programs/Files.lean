import PipeShell.Programs.ConditionReader
import PipeShell.Programs.Format
import PipeShell.Programs.Tool

/-!
# Programs about files

The programs that test, make, copy and remove files, and those that take paths apart.
-/

namespace PipeShell.Programs.Tool

/-! ### Paths -/

/-- The names of a path. -/
def pathNames (path : String) : List String :=
  (path.splitOn "/").filter fun name => !name.isEmpty

/-- The last name of a path. -/
def lastName (path : String) : String :=
  if path.isEmpty then "" else (pathNames path).getLast?.getD "/"

/-- A text without what it ends with, unless that is all of it. -/
def dropSuffix (suffix text : String) : String :=
  if text.endsWith suffix && text ≠ suffix then (text.dropEnd suffix.length).toString else text

/-- The octet behind each name that is written. -/
def nameEnd (i : Invocation) : String :=
  if i.has 'z' then "\x00" else "\n"

/-- Writes the last names of paths. -/
def basename (t : Tool) : Program Unit := do
  let i ← t.given
    { letters := [('a', .nothing), ('s', .value), ('z', .nothing)]
      words := [("multiple", 'a', .nothing), ("suffix", 's', .value), ("zero", 'z', .nothing)]
      endsEarly := true }
  let suffix := (i.value? 's').getD ""
  let isMany := i.has 'a' || i.has 's'
  match i.operands with
  | [] => t.misuse "missing operand"
  | first :: rest =>
    if isMany then
      (first :: rest).forM fun path => t.say (dropSuffix suffix (lastName path) ++ nameEnd i)
    else
      if let some extra := rest[1]? then t.extraOperand extra
      t.say (dropSuffix (rest.headD "") (lastName first) ++ nameEnd i)
    .exit 0

/-- A path without its last name. -/
def dirnameOf (path : String) : String :=
  let trim (text : List Char) : List Char := text.dropWhile (· == '/')
  let back := trim path.toList.reverse
  let front := trim (back.dropWhile (· != '/'))
  if !front.isEmpty then String.ofList front.reverse
  else if path.startsWith "/" then "/" else "."

/-- Writes paths without their last names. -/
def dirname (t : Tool) : Program Unit := do
  let i ← t.given { letters := [('z', .nothing)], words := [("zero", 'z', .nothing)] }
  if i.operands.isEmpty then t.misuse "missing operand"
  i.operands.forM fun path => t.say (dirnameOf path ++ nameEnd i)
  .exit 0

/-- The names that lead to a path from the root. -/
def resolved (directory path : String) : List String :=
  let names := if path.startsWith "/" then pathNames path else pathNames directory ++ pathNames path
  names.foldl (fun done name =>
    if name = "." then done else if name = ".." then done.dropLast else done ++ [name]) []

/-- Writes paths from the root. -/
def realpath (t : Tool) : Program Unit := do
  let i ← t.given
    { letters := (['e', 'm', 's', 'z', 'q', 'P', 'L', 'f', 'n'].map fun c => (c, .nothing)) }
  if i.operands.isEmpty then t.misuse "missing operand"
  let directory ← Program.whereabouts
  let status ← i.operands.foldlM (fun status path => do
    let place := "/" ++ "/".intercalate (resolved directory path)
    match ← Program.examine (dirnameOf place) with
    | .ok .directory =>
      t.say (place ++ nameEnd i)
      return status
    | found =>
      let cause := match found with
        | .error cause => cause
        | .ok _ => .enotdir
      let shown := Complaint.fileShown path
      let text := cause.text
      t.warn s!"{shown}: {text}"
      return 1) 0
  .exit status

/-- Writes the path of the working directory. -/
def pwd (t : Tool) : Program Unit := do
  let i ← t.given { letters := [('L', .nothing), ('P', .nothing)] }
  if !i.operands.isEmpty then t.warn "ignoring non-option arguments"
  t.say ((← Program.whereabouts) ++ "\n")
  .exit 0

/-! ### Testing -/

/-- The wording of a bad condition. -/
def conditionMessage : Condition.Fault → String
  | .unexpected before => s!"extra argument behind {before}"
  | .noOperand op =>
    let shown := quoted op
    s!"missing argument after {shown}"
  | .unclosed none => "')' expected"
  | .unclosed (some found) =>
    let shown := quoted found
    s!"')' expected, found {shown}"
  | .noNumber operand =>
    let shown := quoted operand
    s!"invalid integer {shown}"
  | .nothingBehind argument =>
    let shown := quoted argument
    s!"missing argument after {shown}"
  | .notUnary argument =>
    let shown := quoted argument
    s!"{shown}: unary operator expected"
  | .notBinary argument =>
    let shown := quoted argument
    s!"{shown}: binary operator expected"
  | .extra argument =>
    let shown := quoted argument
    s!"extra argument {shown}"

/-- The whole number that an operand is, of any size. -/
def operandNumber? (operand : String) : Option Int :=
  let digits := operand.toList.dropWhile Format.isBlank
  let digits := (digits.reverse.dropWhile Format.isBlank).reverse
  match digits with
  | '-' :: digits => (Text.digits? (String.ofList digits)).map fun n => -(n : Int)
  | '+' :: digits => (Text.digits? (String.ofList digits)).map Int.ofNat
  | digits => (Text.digits? (String.ofList digits)).map Int.ofNat

/-- Evaluates a condition. -/
def test (t : Tool) : Program Unit := do
  let arguments ← if t.name = "[" then
      if t.arguments.getLast? = some "]" then pure t.arguments.dropLast
      else t.fail "missing ']'"
    else pure t.arguments
  match ← (Condition.readStrictly arguments).holds operandNumber? with
  | .ok yes => .exit (if yes then 0 else 1)
  | .error e => t.fail (conditionMessage e)

/-! ### Making and removing -/

/-- Says that something could not be done to a path. -/
def cannot (t : Tool) (what path : String) (cause : Errno) : Program Unit := do
  let shown := shellQuoted path
  let text := cause.text
  t.warn s!"{what} {shown}: {text}"

/-- Does something for every operand; the status is one if anything fails. -/
def forOperands (t : Tool) (operands : List String) (body : String → Program Bool) :
    Program Unit := do
  if operands.isEmpty then t.misuse "missing operand"
  let status ← operands.foldlM (fun status operand => do
    return if ← body operand then status else 1) 0
  .exit status

/-- Makes files. -/
def touch (t : Tool) : Program Unit := do
  let i ← t.given
    { letters := [('a', .nothing), ('c', .nothing), ('m', .nothing), ('d', .value), ('r', .value),
        ('t', .value)]
      words := [("no-create", 'c', .nothing)] }
  if i.operands.isEmpty then t.misuse "missing file operand"
  t.forOperands i.operands fun path => do
    match ← Program.examine path with
    | .ok _ => return true
    | .error _ =>
      if i.has 'c' then return true
      match ← Program.openFile path .append with
      | .ok fd =>
        Program.close fd
        return true
      | .error cause =>
        t.cannot "cannot touch" path cause
        return false

/-- Makes directories. -/
def mkdir (t : Tool) : Program Unit := do
  let i ← t.given
    { letters := [('p', .nothing), ('m', .value), ('v', .nothing)]
      words := [("parents", 'p', .nothing), ("mode", 'm', .value), ("verbose", 'v', .nothing)] }
  t.forOperands i.operands fun path => do
    let fronts := if i.has 'p' then
        let names := pathNames path
        let root := if path.startsWith "/" then "/" else ""
        (List.range (names.length - 1)).map fun n => root ++ "/".intercalate (names.take (n + 1))
      else []
    fronts.forM fun front => do
      let _ ← Program.change front .makeDirectory
    match ← Program.change path .makeDirectory with
    | .ok () =>
      if i.has 'v' then
        let zero := t.zero
        let shown := shellQuoted path
        t.say s!"{zero}: created directory {shown}\n"
      return true
    | .error cause =>
      if i.has 'p' && cause = .eexist then return true
      t.cannot "cannot create directory" path cause
      return false

/-- Removes empty directories. -/
def rmdir (t : Tool) : Program Unit := do
  let i ← t.given { letters := [('p', .nothing), ('v', .nothing)] }
  t.forOperands i.operands fun path => do
    match ← Program.change path .removeDirectory with
    | .ok () => return true
    | .error cause =>
      t.cannot "failed to remove" path cause
      return false

/-- Removes a file, or a directory with everything in it, so many levels at most. -/
def removeTree (t : Tool) : Nat → String → Program Bool
  | 0, _ => return false
  | levels + 1, path => do
    match ← Program.names path with
    | .ok names =>
      let done ← names.foldlM (fun done name => do
        return (← removeTree t levels (path ++ "/" ++ name)) && done) true
      match ← Program.change path .removeDirectory with
      | .ok () => return done
      | .error cause =>
        t.cannot "cannot remove" path cause
        return false
    | .error _ =>
      match ← Program.change path .remove with
      | .ok () => return true
      | .error cause =>
        t.cannot "cannot remove" path cause
        return false

/-- Removes files. -/
def rm (t : Tool) : Program Unit := do
  let i ← t.given
    { letters := [('d', .nothing), ('f', .nothing), ('i', .nothing), ('I', .nothing),
        ('r', .nothing), ('R', .nothing), ('v', .nothing)]
      words := [("force", 'f', .nothing), ("recursive", 'r', .nothing), ("dir", 'd', .nothing)] }
  if i.operands.isEmpty && i.has 'f' then .exit 0
  t.forOperands i.operands fun path => do
    match ← Program.examine path with
    | .error cause =>
      if i.has 'f' && cause = .enoent then return true
      t.cannot "cannot remove" path cause
      return false
    | .ok .directory =>
      if i.has 'r' || i.has 'R' then removeTree t 1000 path
      else
        t.cannot "cannot remove" path .eisdir
        return false
    | .ok _ => removeTree t 1 path

/-- Copies a file. -/
def copyFile (t : Tool) (source target : String) : Program Bool := do
  match ← Program.openFile source .read with
  | .error cause =>
    t.warn (Complaint.openFailure t.name source cause)
    return false
  | .ok input =>
    match ← Program.openFile target .overwrite with
    | .error cause =>
      t.cannot "cannot create regular file" target cause
      Program.close input
      return false
    | .ok output =>
      let result ← throughBlocks input blockSize () fun _ block => do
        let _ ← Program.write output block
        return ((), true)
      Program.close input
      Program.close output
      match result with
      | .ok () =>
        if let .ok (.file executable _ _) ← Program.examine source then
          let _ ← Program.change target (.setExecutable executable)
        return true
      | .error cause =>
        t.warn (Complaint.readFailure t.name source cause)
        return false

/-- Copies a file or a directory, so many levels at most. -/
def copyTree (t : Tool) : Nat → String → String → Program Bool
  | 0, _, _ => return false
  | levels + 1, source, target => do
    match ← Program.names source with
    | .error _ => copyFile t source target
    | .ok names =>
      let _ ← Program.change target .makeDirectory
      names.foldlM (fun done name => do
        return (← copyTree t levels (source ++ "/" ++ name) (target ++ "/" ++ name)) && done) true

/-- Splits operands into sources and a target; the target of each source is given too. -/
def withTargets (t : Tool) (operands : List String) : Program (List (String × String)) := do
  match operands with
  | [] => t.misuse "missing file operand"
  | [only] =>
    let shown := shellQuoted only
    t.misuse s!"missing destination file operand after {shown}"
  | operands =>
    let target := operands.getLast?.getD ""
    let sources := operands.dropLast
    match ← Program.examine target with
    | .ok .directory =>
      return sources.map fun source => (source, dropSuffix "/" target ++ "/" ++ lastName source)
    | found =>
      if 1 < sources.length then
        let shown := shellQuoted target
        let text := match found with
          | .error cause => cause.text
          | .ok _ => Errno.enotdir.text
        t.fail s!"target {shown}: {text}"
      return sources.map fun source => (source, target)

/-- Copies files. -/
def cp (t : Tool) : Program Unit := do
  let i ← t.given
    { letters := ['a', 'f', 'i', 'l', 'n', 'p', 'r', 'R', 'u', 'v', 'T'].map fun c => (c, .nothing)
      words := [("recursive", 'r', .nothing), ("force", 'f', .nothing)] }
  let pairs ← t.withTargets i.operands
  let status ← pairs.foldlM (fun status (source, target) => do
    match ← Program.examine source with
    | .error cause =>
      t.cannot "cannot stat" source cause
      return 1
    | .ok .directory =>
      if i.has 'r' || i.has 'R' || i.has 'a' then
        return if ← copyTree t 1000 source target then status else 1
      else
        let shown := shellQuoted source
        t.warn s!"-r not specified; omitting directory {shown}"
        return 1
    | .ok _ =>
      if source = target then
        let shown := shellQuoted source
        t.warn s!"{shown} and {shown} are the same file"
        return 1
      return if ← copyFile t source target then status else 1) 0
  .exit status

/-- Gives files other paths. -/
def mv (t : Tool) : Program Unit := do
  let i ← t.given
    { letters := (['f', 'i', 'n', 'u', 'v', 'T'].map fun c => (c, .nothing))
      words := [("force", 'f', .nothing)] }
  let pairs ← t.withTargets i.operands
  let status ← pairs.foldlM (fun status (source, target) => do
    match ← Program.examine source with
    | .error cause =>
      t.cannot "cannot stat" source cause
      return 1
    | .ok _ =>
      match ← Program.change source (.rename (Text.textOf target)) with
      | .ok () => return status
      | .error cause =>
        let shown := shellQuoted source
        let other := shellQuoted target
        let text := cause.text
        t.warn s!"cannot move {shown} to {other}: {text}"
        return 1) 0
  .exit status

/-- Gives files second paths. -/
def ln (t : Tool) : Program Unit := do
  let i ← t.given { letters := ['f', 's', 'v', 'n'].map fun c => (c, .nothing) }
  let pairs ← match i.operands with
    | [source] => pure [(source, lastName source)]
    | operands => t.withTargets operands
  let status ← pairs.foldlM (fun status (source, target) => do
    match ← Program.examine source with
    | .error cause =>
      t.cannot "failed to access" source cause
      return 1
    | .ok _ =>
      if i.has 'f' then
        let _ ← Program.change target .remove
      match ← Program.change source (.link (Text.textOf target)) with
      | .ok () => return status
      | .error cause =>
        if cause = .eperm then
          let shown := shellQuoted source
          t.warn s!"{shown}: hard link not allowed for directory"
        else t.cannot "failed to create hard link" target cause
        return 1) 0
  .exit status

/-- Removes one file. -/
def unlink (t : Tool) : Program Unit := do
  let i ← t.given {}
  match i.operands with
  | [] => t.misuse "missing operand"
  | _ :: extra :: _ => t.extraOperand extra
  | [path] =>
    match ← Program.change path .remove with
    | .ok () => .exit 0
    | .error cause =>
      t.cannot "cannot unlink" path cause
      .exit 1

/-- Gives one file a second path. -/
def link (t : Tool) : Program Unit := do
  let i ← t.given {}
  match i.operands with
  | [] => t.misuse "missing operand"
  | [source] =>
    let shown := quoted source
    t.misuse s!"missing operand after {shown}"
  | _ :: _ :: extra :: _ => t.extraOperand extra
  | [source, target] =>
    match ← Program.change source (.link (Text.textOf target)) with
    | .ok () => .exit 0
    | .error cause =>
      let old := shellQuoted source
      let new := shellQuoted target
      let text := cause.text
      t.fail s!"cannot create link {new} to {old}: {text}"

/-- Chooses whether files may be started. -/
def chmod (t : Tool) : Program Unit := do
  let takesAway (argument : String) : Bool :=
    argument.startsWith "-" && ((argument.toList.drop 1).head?).any fun c =>
      ['r', 'w', 'x', 'X', 's', 't'].contains c
  let arguments := t.arguments.takeWhile fun a => !takesAway a
  let rest := t.arguments.drop arguments.length
  let arguments := arguments ++ if rest.isEmpty then [] else "--" :: rest
  let i ← { t with arguments }.given
    { letters := [('R', .nothing), ('v', .nothing), ('f', .nothing)] }
  match i.operands with
  | [] => t.misuse "missing operand"
  | [mode] =>
    let shown := quoted mode
    t.misuse s!"missing operand after {shown}"
  | mode :: paths =>
    let executable : Option Bool :=
      if mode.toList.all Char.isDigit then some (mode.toList.any fun c => (c.toNat - 48) % 2 = 1)
      else if mode.toList.contains 'x' then
        some (mode.toList.contains '+' || mode.toList.contains '=')
      else none
    t.forOperands paths fun path => do
      match ← Program.examine path with
      | .error cause =>
        t.cannot "cannot access" path cause
        return false
      | .ok _ =>
        if let some executable := executable then
          let _ ← Program.change path (.setExecutable executable)
        return true

end PipeShell.Programs.Tool
