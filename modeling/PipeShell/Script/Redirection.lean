import PipeShell.Script.Expansion

/-!
# Redirections

What redirections do to the descriptors of a script. A descriptor that is replaced for the time of
a command is kept under a higher number and put back afterwards.

* `applyRedirections` replaces descriptors, `restore` puts them back.
-/

namespace PipeShell.Script

/-- The number from which on descriptors are kept. -/
def savedFrom : Nat := 10

/-- What a descriptor was before it was replaced: the number that it is kept under, or none if it
was not open. -/
structure Saved where
  /-- The descriptor. -/
  fd : Nat
  /-- Where it is kept. -/
  kept : Option Fd

/-- The wording of a failure to open a file, or to make one. -/
def openFailure (makes : Bool) (path : String) (cause : Errno) : String :=
  let missing := cause = .enoent ∨ cause = .enotdir
  if makes then
    let text := if missing then "Directory nonexistent" else cause.text
    s!"cannot create {path}: {text}"
  else
    let text := if missing then "No such file" else cause.text
    s!"cannot open {path}: {text}"

/-- How much of a document fits into a pipe that nobody reads yet. -/
def documentRoom : Nat := 4096

/-- The end of a pipe from which a document can be read. -/
def openDocument (text : String) : Step Fd := do
  match ← act .pipe with
  | .error _ => fail "Pipe call failed" 2
  | .ok (read, write) =>
    let bytes := Text.toOctets text
    if bytes.length ≤ documentRoom then
      let _ ← act (.write write bytes)
    else
      match ← act .fork with
      | .ok none =>
        act (.close read)
        let _ ← act (.write write bytes)
        act (.exit 0)
      | _ => pure ()
    act (.close write)
    return read

/-- Makes a descriptor refer to what another one refers to. -/
def duplicate (fd : Fd) (target : Nat) : Step Unit := do
  match ← act (.perform (.duplicate fd target)) with
  | .ok () => return
  | .error cause => fail s!"{fd}: {cause.text}" 2

/-- Keeps a descriptor. -/
def keep (fd : Nat) : Step Saved := do
  let kept ← act (.request (.save fd savedFrom) fun
    | .opened kept => some kept
    | _ => none)
  return ⟨fd, kept.toOption⟩

/-- Moves a descriptor to another number. -/
def moveTo (opened : Fd) (fd : Nat) : Step Unit := do
  if opened ≠ fd then
    duplicate opened fd
    act (.close opened)

/-- Opens what a redirection leads to, if it leads to something new. -/
def openGoal (take : Taker) : Goal → Step (Option Fd)
  | .file access clobbers word => do
    let path ← expandText take false word
    let makes := access ≠ .read
    let access := if access = .overwrite && !clobbers && (← hasOption 'C') then .fresh else access
    match ← act (.openFile path access) with
    | .ok fd => return some fd
    | .error cause => fail (openFailure makes path cause) 2
  | .document number => do
    let word := (← get).documents.getD number []
    return some (← openDocument (← expandText take false word))
  | _ => return none

/-- Makes one redirection; `saves` says whether what was there is kept. -/
def applyRedirection (take : Taker) (saves : Bool) : Redirection → Step (Option Saved)
  | .mk fd goal => do
    let goal ← match goal with
      | .named word => do
        let text ← expandText take false word
        match text, Text.digits? text with
        | "-", _ => pure .closed
        | _, some n => pure (.descriptor n)
        | _, none => fail "Syntax error: Bad fd number" 2
      | goal => pure goal
    let opened ← openGoal take goal
    let saved ← if saves && opened ≠ some (fd : Int) then (keep fd).map some
      else if saves then pure (some ⟨fd, none⟩) else pure none
    match opened, goal with
    | some opened, _ => moveTo opened fd
    | none, .descriptor source => if source ≠ fd then duplicate source fd
    | none, _ => act (.close fd)
    return saved

/-- Puts descriptors back, the last one that was replaced first. -/
def restore (saved : List Saved) : Step Unit :=
  saved.forM fun s => do
    match s.kept with
    | some kept =>
      act (.attempt (.duplicate kept s.fd))
      act (.close kept)
    | none => act (.close s.fd)

/-- Makes redirections, and gives what is to be put back, the last one first. If one fails, the
ones before it are put back at once. -/
def applyRedirections (take : Taker) (saves : Bool) :
    List Redirection → List Saved → Step (List Saved)
  | [], saved => return saved
  | r :: rest, saved => do
    let more ← tryCatch (applyRedirection take saves r) fun e => do
      restore saved
      throw e
    applyRedirections take saves rest (more.toList ++ saved)

end PipeShell.Script
