/-!
# Settings

The limits and toggles of a shell. `Settings.standard` are the values without any flag;
`Settings.fromEnvironment` also heeds the environment.
-/

namespace PipeShell

/-- The limits and toggles of a shell. -/
structure Settings where
  /-- How many words a command may have. -/
  maxWords : Nat := 64
  /-- How many commands a line may have. -/
  maxStages : Nat := 200
  /-- Whether every command is shown on the error stream before it runs. -/
  trace : Bool := false
  /-- The word that stops the shell when it is the whole line. -/
  terminator : String := "exit"
  /-- Where an interactive session keeps its history, if anywhere. -/
  history : Option String := none
  deriving DecidableEq, Repr

/-- What a shell looks at in its environment. -/
structure Environment where
  /-- The home directory by the environment variable. -/
  home : Option String := none
  /-- The home directory by the system's list of users. -/
  account : Option String := none
  /-- The variable that switches the trace on. -/
  trace : Option String := none
  /-- The kind of the terminal. -/
  terminal : Option String := none
  deriving DecidableEq, Repr

namespace Environment

/-- The home directory: the variable, unless it is unset or empty, else the list of users. -/
def homeDirectory (environment : Environment) : Option String :=
  match environment.home with
  | some home => if home.isEmpty then environment.account else some home
  | none => environment.account

end Environment

namespace Settings

/-- The name of the history file in the home directory. -/
def historyName : String := ".pipesh_history"

/-- A name inside a directory: one slash stands between them. -/
def inside (directory name : String) : String :=
  if directory.isEmpty || directory.endsWith "/" then directory ++ name
  else directory ++ "/" ++ name

/-- The settings without flags. -/
def standard (environment : Environment) : Settings :=
  { history := environment.homeDirectory.map fun home => inside home historyName }

/-- The settings without flags, and the trace if its variable is set, to whatever value. -/
def fromEnvironment (environment : Environment) : Settings :=
  { standard environment with trace := environment.trace.isSome }

end Settings

end PipeShell
