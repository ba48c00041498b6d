import PipeShell.Script.Builtin.Usage

/-!
# Commands about variables and arguments

The commands of a script that change its variables, its arguments and its options, and list them.
-/

namespace PipeShell.Script

/-! ### Variables -/

/-- The name and the value of an argument that is an assignment. -/
def splitAssignment (argument : String) : String × Option String :=
  let name := argument.toList.takeWhile (· ≠ '=')
  match argument.toList.drop name.length with
  | _ :: value => (String.ofList name, some (String.ofList value))
  | [] => (argument, none)

/-- The variables with a property, each as a command that sets it. -/
def listVariables (word : String) (shown : Variable → Bool) : Step Nat := do
  let found := (← get).bindings.filter fun v => shown v.2
  let names := (found.map Prod.fst).mergeSort fun a b => a ≤ b
  let s ← get
  say (String.join (names.map fun name =>
    let value := match s.value? name with
      | some value => "=" ++ singleQuoted value
      | none => ""
    word ++ name ++ value ++ "\n"))

/-- Fails unless a text is the name of a variable. -/
def demandName (name : String) : Step Unit :=
  if isName name then pure () else fail s!"{name}: bad variable name" 2

/-- Changes variables, each of which may be given a value first. -/
def markVariables (word : String) (shown : Variable → Bool) (mark : Variable → Variable)
    (arguments : List String) : Step Nat := do
  let given ← options { plain := ['p'] } arguments
  if given.has 'p' || given.operands.isEmpty then listVariables (word ++ " ") shown
  else
    given.operands.forM fun argument => do
      let (name, value) := splitAssignment argument
      demandName name
      if let some value := value then assign name value
      modify fun s => s.put name (some (mark ((s.known? name).getD {})))
    return 0

/-- Gives variables of a function a life of their own, or the options. -/
def makeLocal (arguments : List String) : Step Nat := do
  if (← get).calls = 0 then fail "not in a function" 2
  arguments.forM fun argument => do
    if argument = "-" then
      modify fun s => { s with localOptions := s.localOptions.or (some s.options) }
    else
      let (name, value) := splitAssignment argument
      demandName name
      modify fun s =>
        if (s.locals.lookup name).isSome then s
        else { s with locals := (name, s.known? name) :: s.locals }
      if let some value := value then assign name value
  return 0

/-- Takes variables or functions away. -/
def unset (arguments : List String) : Step Nat := do
  let given ← options { plain := ['v', 'f'] } arguments
  given.operands.forM fun name => do
    if (given.options.getLast?.map Prod.fst) = some 'f' then
      modify fun s => { s with functions := s.functions.filter fun f => f.1 ≠ name }
    else
      demandName name
      if ((← get).known? name).any Variable.readOnly then fail s!"{name}: is read only" 2
      modify fun s => s.put name none
      if name = "PATH" then modify fun s => { s with found := [] }
  return 0

/-! ### Arguments -/

/-- Gives the script, or a function, other arguments; the reader of options begins anew. -/
def setArguments (arguments : List String) : Step Unit :=
  modify fun s => { s with arguments, optionIndex := 1, optionOffset := none }

/-- Drops arguments. -/
def shift (arguments : List String) : Step Nat := do
  let n ← match arguments with
    | [] => pure 1
    | argument :: _ => wholeNumber argument
  let before := (← get).arguments
  if before.length < n then fail "can't shift that many" 2
  setArguments (before.drop n)
  return 0

/-! ### Options -/

/-- The options by name; some have no letter. -/
def optionNames : List (String × Option Char) :=
  [("errexit", 'e'), ("noglob", 'f'), ("ignoreeof", 'I'), ("interactive", 'i'), ("monitor", 'm'),
    ("noexec", 'n'), ("stdin", 's'), ("xtrace", 'x'), ("verbose", 'v'), ("vi", 'V'),
    ("emacs", 'E'), ("noclobber", 'C'), ("allexport", 'a'), ("notify", 'b'),
    ("nounset", 'u')].map (fun (name, letter) => (name, some letter)) ++
  [("privileged", none), ("nolog", none), ("debug", none)]

/-- Switches an option on or off. Jobs cannot be watched, for that needs a terminal. -/
def switch (on : Bool) (letter : Char) : Step Unit := do
  if on && letter == 'm' then warn "can't access tty; job control turned off"
  else modify fun s =>
    let others := s.options.filter (· ≠ letter)
    { s with options := if on then letter :: others else others }

/-- Switches the options of an argument on or off. -/
def switchAll (argument : String) : Step Unit :=
  (argument.toList.drop 1).forM fun letter => do
    if optionNames.any fun o => o.2 = some letter then switch (argument.startsWith "-") letter
    else fail s!"Illegal option -{letter}" 2

/-- Lists the options: whether they are on, or the commands that switch them. -/
def listOptions (asCommands : Bool) : Step Nat := do
  let s ← get
  let lines := optionNames.map fun (name, letter) =>
    let isOn := letter.any s.options.contains
    if asCommands then "set " ++ (if isOn then "-o " else "+o ") ++ name ++ "\n"
    else
      let padding := String.ofList (List.replicate (16 - name.length) ' ')
      name ++ padding ++ (if isOn then "on" else "off") ++ "\n"
  say ((if asCommands then "" else "Current option settings\n") ++ String.join lines)

/-- Switches an option by its name. -/
def switchNamed (on : Bool) (name : String) : Step Unit :=
  match optionNames.lookup name with
  | some (some letter) => switch on letter
  | some none => pure ()
  | none =>
    let sign := if on then "-o" else "+o"
    fail s!"Illegal option {sign} {name}" 2

/-- Sets options and arguments. -/
def setOptions : List String → Step Nat
  | [] => return 0
  | "-" :: rest => do
    switch false 'x'
    switch false 'v'
    if !rest.isEmpty then setArguments rest
    return 0
  | "--" :: rest => do
    setArguments rest
    return 0
  | argument :: rest => do
    if argument.startsWith "-" || argument.startsWith "+" then
      let sign := (argument.take 1).toString
      let letters := argument.toList.drop 1
      switchAll (sign ++ String.ofList (letters.filter (· ≠ 'o')))
      if letters.contains 'o' then
        match rest with
        | name :: rest =>
          switchNamed (sign = "-") name
          setOptions rest
        | [] => listOptions (sign = "+")
      else setOptions rest
    else
      setArguments (argument :: rest)
      return 0

/-- Sets options and arguments, or lists the variables. -/
def setCommand (arguments : List String) : Step Nat :=
  if arguments.isEmpty then listVariables "" fun v => v.value.isSome else setOptions arguments

end PipeShell.Script
