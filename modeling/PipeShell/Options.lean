import PipeShell.Session.Basic
import PipeShell.Text.Integer

/-!
# Options

The options on the command line. They are read from left to right, and the first one that cannot
be used decides the complaint. A request for help may stand anywhere, but no option may follow it.

* `Options.read` reads a command line.
* `Session.ofArguments` is the session that a command line asks for.
-/

namespace PipeShell

/-- The options. -/
structure Options where
  /-- The line to be run. -/
  command : Option String := none
  /-- Whether every command is shown before it runs. -/
  trace : Bool := false
  /-- How many words a command may have. -/
  maxWords : Option Nat := none
  /-- How many commands a line may have. -/
  maxStages : Option Nat := none
  /-- The file of the history. -/
  history : Option String := none
  deriving DecidableEq, Repr

/-- What a command line asks for. -/
inductive Invocation where
  /-- A text about the options. -/
  | help
  /-- A session. -/
  | session (options : Options)
  deriving DecidableEq, Repr

/-- Why the value of an option cannot be used. -/
inductive ValueError where
  /-- The option has a value already. -/
  | repeated
  /-- The value is no number. -/
  | number (fault : Text.IntegerFault)
  deriving DecidableEq, Repr

/-- Why a command line cannot be used. -/
inductive UsageError where
  /-- There is no such option, or it is no option at all. -/
  | unknown (argument : String)
  /-- The value of an option is missing. -/
  | noValue (option : String)
  /-- The value of an option cannot be used. -/
  | badValue (option value : String) (cause : ValueError)
  /-- An option follows a request for help. -/
  | afterHelp
  deriving DecidableEq, Repr

/-- The wording of a bad value. -/
def ValueError.message : ValueError → String
  | repeated => "duplicate values provided"
  | number fault => fault.message

namespace UsageError

/-- The wording of a command line that cannot be used. -/
def message : UsageError → String
  | unknown argument => s!"Unrecognized argument: {argument}\n"
  | noValue option => s!"No value provided for option '{option}'.\n"
  | badValue option value cause =>
    s!"Error parsing option '{option}' with value '{value}': {cause.message}\n"
  | afterHelp => "Trailing arguments are not allowed after \x60help\x60."

/-- The whole complaint, with a hint. -/
def complaint (e : UsageError) : String :=
  e.message ++ "\nRun pipesh --help for more information.\n"

end UsageError

namespace Options

/-- The text about the options. -/
def help : String :=
  let synopsis := " ".intercalate ["Usage: pipesh", "[-c <command>]", "[--debug]",
    "[--max-args <max-args>]", "[--max-stages <max-stages>]", "[--history <history>]"]
  String.join ([synopsis,
    "",
    "Run commands connected by pipes.",
    "",
    "Options:",
    "  -c, --command     run a single line and exit with its status",
    "  --debug           echo every parsed command and its arguments to stderr",
    "  --max-args        maximum number of arguments per command",
    "  --max-stages      maximum number of commands per line",
    "  --history         history file for interactive sessions",
    "  --help, help      display usage information",
    ""].map fun line => line ++ "\n")

/-- The options that have a value. -/
inductive Valued where
  | command
  | maxWords
  | maxStages
  | history
  deriving DecidableEq, Repr

/-- The option with a value that an argument names. -/
def Valued.ofArgument? : String → Option Valued
  | "-c" => some command
  | "--command" => some command
  | "--max-args" => some maxWords
  | "--max-stages" => some maxStages
  | "--history" => some history
  | _ => none

/-- Reads the value of an option, which must not have one yet. -/
def readValue {α : Type} (old : Option α) (value : Except ValueError α) :
    Except ValueError (Option α) :=
  match old with
  | some _ => .error .repeated
  | none => value.map some

/-- Reads a number. -/
def readNumber (value : String) : Except ValueError Nat :=
  (Text.readNatural Text.maxNatural64 value.toList).mapError .number

/-- Sets an option. -/
def set (o : Options) (option : Valued) (value : String) : Except ValueError Options :=
  match option with
  | .command => (readValue o.command (.ok value)).map fun command => { o with command }
  | .maxWords => (readValue o.maxWords (readNumber value)).map fun maxWords => { o with maxWords }
  | .maxStages =>
    (readValue o.maxStages (readNumber value)).map fun maxStages => { o with maxStages }
  | .history => (readValue o.history (.ok value)).map fun history => { o with history }

/-- Reads arguments behind others; `wantsHelp` and `isEnded` say whether help has been asked for
and whether a double hyphen has ended the options. -/
def readFrom (o : Options) (wantsHelp isEnded : Bool) :
    List String → Except UsageError Invocation
  | [] => .ok (if wantsHelp then .help else .session o)
  | argument :: rest =>
    if isEnded then .error (.unknown argument)
    else if argument = "--help" ∨ argument = "help" then readFrom o true isEnded rest
    else if argument = "--" then readFrom o wantsHelp true rest
    else if !argument.startsWith "-" then .error (.unknown argument)
    else if wantsHelp then .error .afterHelp
    else if argument = "--debug" then readFrom { o with trace := true } wantsHelp isEnded rest
    else match Valued.ofArgument? argument, rest with
      | none, _ => .error (.unknown argument)
      | some _, [] => .error (.noValue argument)
      | some option, value :: rest =>
        match o.set option value with
        | .error cause => .error (.badValue argument value cause)
        | .ok o => readFrom o wantsHelp isEnded rest

/-- Reads a command line. -/
def read (arguments : List String) : Except UsageError Invocation :=
  readFrom {} false false arguments

/-- The settings that the environment and the options give, the options first. -/
def settings (o : Options) (environment : Environment) : Settings :=
  let s := Settings.fromEnvironment environment
  { s with
    trace := o.trace || s.trace
    maxWords := o.maxWords.getD s.maxWords
    maxStages := o.maxStages.getD s.maxStages
    history := o.history.or s.history }

/-- The session that the options ask for. -/
def session (o : Options) (environment : Environment) : Session :=
  let shell : Shell := { runner := { settings := o.settings environment } }
  match o.command with
  | some line => .single shell line
  | none => .opening shell environment.terminal

end Options

/-- The session that a command line asks for. -/
def Session.ofArguments (arguments : List String) (environment : Environment) : Session :=
  match Options.read arguments with
  | .error e => .notice Fd.stderr e.complaint 1
  | .ok .help => .notice Fd.stdout Options.help 0
  | .ok (.session options) => options.session environment

end PipeShell
