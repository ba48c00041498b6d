import PipeShell.Script.Builtin.Usage

/-!
# Commands about the surroundings

The commands of a script that change its working directory, the permissions that its files do not
get, and its limits.
-/

namespace PipeShell.Script

/-! ### Directories -/

/-- The path that a path means, seen from a directory, by its names alone: a name followed by two
dots is dropped with them. Two slashes in front, but not more, stay. -/
def logicalPath (directory path : String) : String :=
  let whole := if path.startsWith "/" then path else directory ++ "/" ++ path
  let isDouble := whole.startsWith "//" && !whole.startsWith "///"
  let names := (whole.splitOn "/").foldl (fun names name =>
    if name = "" ∨ name = "." then names
    else if name = ".." then names.drop 1
    else name :: names) []
  (if isDouble then "//" else "/") ++ "/".intercalate names.reverse

/-- Makes a directory the working directory; `isLogical` says how its path is found. -/
def enter (isLogical : Bool) (path : String) : Step Unit := do
  let s ← get
  let logical := logicalPath s.directory path
  match ← act (.perform (.enter (Text.textOf (if isLogical then logical else path)))) with
  | .error _ => fail s!"can't cd to {path}" 2
  | .ok () =>
    let directory ← if isLogical then pure logical else act .whereabouts
    assign "OLDPWD" s.directory
    assign "PWD" directory
    modify fun s =>
      let export? (s : State) (name : String) : State :=
        s.put name ((s.known? name).map fun v => { v with exported := true })
      { export? (export? s "OLDPWD") "PWD" with directory }

/-- Whether a directory stands at a path. -/
def isDirectory (path : String) : Program Bool := do
  match ← Program.examine path with
  | .ok .directory => return true
  | _ => return false

/-- The first of some directories in which another one stands, with the path of that one. -/
def searchDirectories (path : String) : List String → Program (Option (String × String))
  | [] => return none
  | front :: rest => do
    let whole := if front.isEmpty then path else front ++ "/" ++ path
    if ← isDirectory whole then return some (front, whole) else searchDirectories path rest

/-- Whether the first name of a path tells where it begins. -/
def isAnchored (path : String) : Bool :=
  match (path.splitOn "/").head? with
  | some name => name = "" || name = "." || name = ".."
  | none => false

/-- Makes a directory the working directory. -/
def changeDirectory (arguments : List String) : Step Nat := do
  let given ← options { plain := ['L', 'P'] } arguments
  let isLogical := (given.options.getLast?.map Prod.fst) ≠ some 'P'
  let s ← get
  let (path, shows) := match given.operands with
    | [] => ((s.value? "HOME").getD "", false)
    | "-" :: _ => ((s.value? "OLDPWD").getD "", true)
    | path :: _ => (path, false)
  let path := if path.isEmpty then "." else path
  let fronts := match s.value? "CDPATH" with
    | some fronts => if isAnchored path then [] else fronts.splitOn ":"
    | none => []
  let shows ← match ← act (searchDirectories path fronts) with
    | some (front, whole) => do
      enter isLogical whole
      pure (shows || !front.isEmpty)
    | none => do
      enter isLogical path
      pure shows
  if shows then say ((← get).directory ++ "\n") else return 0

/-- Writes the path of the working directory. -/
def showDirectory (arguments : List String) : Step Nat := do
  let given ← options { plain := ['L', 'P'] } arguments
  if (given.options.getLast?.map Prod.fst) = some 'P' then say ((← act .whereabouts) ++ "\n")
  else say ((← get).directory ++ "\n")

/-! ### Permissions -/

/-- The permissions of one kind of user in letters. -/
def permissionLetters (bits : Nat) : String :=
  (if bits / 4 % 2 = 1 then "r" else "") ++ (if bits / 2 % 2 = 1 then "w" else "") ++
    (if bits % 2 = 1 then "x" else "")

/-- The permissions of three kinds of users in letters. -/
def shownPermissions (bits : Nat) : String :=
  let user := permissionLetters (bits / 64)
  let group := permissionLetters (bits / 8)
  let other := permissionLetters bits
  s!"u={user},g={group},o={other}\n"

/-- The bits of a letter that names permissions; `before` are those from before. -/
def permissionBits (before : Nat) : Char → Option Nat
  | 'r' => some 4
  | 'w' => some 2
  | 'x' => some 1
  | 'u' => some (before / 64 % 8)
  | 'g' => some (before / 8 % 8)
  | 'o' => some (before % 8)
  | 'X' => some (if before.land 0o111 ≠ 0 then 1 else 0)
  | 's' => some 0
  | _ => none

/-- The users that letters name: a one for each kind; all of them without any. -/
def userBits (letters : List Char) : Nat :=
  let bits := letters.foldl (fun bits c =>
    bits.lor (match c with
      | 'u' => 0o100
      | 'g' => 0o010
      | 'o' => 0o001
      | _ => 0o111)) 0
  if bits = 0 then 0o111 else bits

/-- Changes permissions as a text says, `fuel` changes at most; none if the text is none. `before`
are those from before, `bits` those so far, `users` the users that are meant. -/
def changePermissions (before : Nat) : Nat → Nat → Option Nat → List Char → Option Nat
  | 0, _, _, _ => none
  | fuel + 1, bits, users, text =>
    let letters := text.takeWhile ['a', 'u', 'g', 'o'].contains
    let users := match users with
      | some users => if letters.isEmpty then users else users.lor (userBits letters)
      | none => userBits letters
    match text.drop letters.length with
    | op :: rest =>
      if op == '=' || op == '+' || op == '-' then
        let given := rest.takeWhile fun c => (permissionBits before c).isSome
        let value := given.foldl (fun bits c => bits.lor ((permissionBits before c).getD 0)) 0
        let value := value * users
        let bits := if op == '-' then bits - bits.land value
          else if op == '+' then bits.lor value
          else (bits - bits.land (users * 7)).lor value
        match rest.drop given.length with
        | [] => some bits
        | [','] => some bits
        | ',' :: rest => changePermissions before fuel bits none rest
        | c :: rest =>
          if c == '=' || c == '+' || c == '-' then
            changePermissions before fuel bits (some users) (c :: rest)
          else none
      else none
    | [] => none

/-- Chooses the permissions that new files do not get, or shows them. -/
def umask (arguments : List String) : Step Nat := do
  let given ← options { plain := ['S'] } arguments
  let mask := (← get).mask
  match given.operands with
  | [] =>
    if given.has 'S' then say (shownPermissions (0o777 - mask))
    else
      let digits := String.ofList (Nat.toDigits 8 mask)
      say (String.ofList (List.replicate (4 - digits.length) '0') ++ digits ++ "\n")
  | text :: _ =>
    let chars := text.toList
    if chars.head?.any Char.isDigit then
      if chars.all fun c => '0' ≤ c && c ≤ '7' then
        let mask := chars.foldl (fun n c => (8 * n + (c.toNat - 48)) % 0o1000) 0
        modify fun s => { s with mask }
        return 0
      else fail s!"Illegal number: {text}" 2
    else
      match if chars.isEmpty then some (0o777 - mask)
        else changePermissions (0o777 - mask) (chars.length + 1) (0o777 - mask) none chars with
      | some bits =>
        modify fun s => { s with mask := 0o777 - bits }
        return 0
      | none => fail s!"Illegal mode: {text}" 2

/-! ### Limits -/

/-- A limit. -/
structure Limit where
  /-- The letter of its option. -/
  letter : Char
  /-- Its name. -/
  name : String
  /-- The value, if there is one. -/
  value : Option Nat := none

/-- The limits that a script begins with. -/
def firstLimits : List Limit :=
  [⟨'t', "time(seconds)", none⟩, ⟨'f', "file(blocks)", none⟩, ⟨'d', "data(kbytes)", none⟩,
    ⟨'s', "stack(kbytes)", some 8192⟩, ⟨'c', "coredump(blocks)", some 0⟩,
    ⟨'m', "memory(kbytes)", none⟩, ⟨'l', "locked memory(kbytes)", some 8192⟩,
    ⟨'p', "process", none⟩, ⟨'n', "nofiles", some 1048576⟩, ⟨'v', "vmemory(kbytes)", none⟩,
    ⟨'w', "locks", none⟩, ⟨'r', "rtprio", some 0⟩]

/-- How a limit is shown. -/
def shownLimit (value : Option Nat) : String :=
  ((value.map toString).getD "unlimited") ++ "\n"

/-- Chooses a limit, or shows limits. -/
def ulimit (arguments : List String) : Step Nat := do
  let given ← options { plain := 'H' :: 'S' :: 'a' :: firstLimits.map Limit.letter } arguments
  let changed := (← get).limits
  let valueOf (limit : Limit) : Option Nat := (changed.lookup limit.letter).getD limit.value
  let letters := given.options.map Prod.fst
  let letter := (letters.filter fun c => !(['H', 'S', 'a'].contains c)).getLast?
  match given.operands with
  | [] =>
    if given.has 'a' then
      say (String.join (firstLimits.map fun limit =>
        let padding := String.ofList (List.replicate (20 - limit.name.length) ' ')
        limit.name ++ padding ++ " " ++ shownLimit (valueOf limit)))
    else
      match firstLimits.find? fun limit => limit.letter == letter.getD 'f' with
      | some limit => say (shownLimit (valueOf limit))
      | none => return 0
  | text :: rest =>
    if given.has 'a' || !rest.isEmpty then fail "too many arguments" 2
    let value ← if text = "unlimited" then pure none
      else if text.toList.all Char.isDigit then pure (some ((Text.digits? text).getD 0))
      else fail "bad number" 2
    modify fun s => { s with limits := (letter.getD 'f', value) :: s.limits }
    return 0

end PipeShell.Script
