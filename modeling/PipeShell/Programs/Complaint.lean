import PipeShell.Programs.Quoting
import PipeShell.System.Errno

/-!
# Complaints of programs

What programs say when an input cannot be opened or read, or when their output cannot be written.
Most programs name the input and the cause; the others have a wording of their own. What stands
here goes behind the name of the program.
-/

namespace PipeShell.Programs.Complaint

/-- The name of a file in a message: between quotes where that is needed to tell where it ends. -/
def fileShown (name : String) : String :=
  if name.toList.contains ':' then shellQuoted name else shellShown name

/-- What a program says when it cannot open an input. -/
def openFailure (owner path : String) (cause : Errno) : String :=
  let text := cause.text
  let sure := shellQuoted path
  let shown := fileShown path
  match owner with
  | "head" => s!"cannot open {sure} for reading: {text}"
  | "tail" => s!"cannot open {sure} for reading: {text}"
  | "tac" => s!"failed to open {sure} for reading: {text}"
  | "sort" => s!"cannot read: {shown}: {text}"
  | "dd" => s!"failed to open {sure}: {text}"
  | "cp" => s!"cannot open {sure} for reading: {text}"
  | "grep" => s!"{path}: {text}"
  | _ => s!"{shown}: {text}"

/-- What a program says when it cannot read an input. -/
def readFailure (owner name : String) (cause : Errno) : String :=
  let text := cause.text
  let sure := shellQuoted name
  let shown := fileShown name
  match owner with
  | "head" => s!"error reading {sure}: {text}"
  | "tail" => s!"error reading {sure}: {text}"
  | "uniq" => s!"error reading {sure}: {text}"
  | "dd" => s!"error reading {sure}: {text}"
  | "cp" => s!"error reading {sure}: {text}"
  | "sort" => s!"read failed: {shown}: {text}"
  | "tac" => s!"{shown}: read error: {text}"
  | "tr" => s!"read error: {text}"
  | "tee" => s!"read error: {text}"
  | "base64" => s!"read error: {text}"
  | "grep" => s!"{name}: {text}"
  | "factor" => s!"error reading input: {text}"
  | _ => s!"{shown}: {text}"

/-- What a program says when it cannot write its output. -/
def writeFailure (owner : String) (cause : Errno) : String :=
  let text := cause.text
  match owner with
  | "head" => s!"error writing 'standard output': {text}"
  | "tail" => s!"error writing 'standard output': {text}"
  | "dd" => s!"error writing 'standard output': {text}"
  | "tee" => s!"'standard output': {text}"
  | "sort" => s!"write failed: 'standard output': {text}"
  | "yes" => s!"standard output: {text}"
  | _ => s!"write error: {text}"

/-- The status of a program that has complained. -/
def status (owner : String) : Nat :=
  if ["grep", "sort", "ls", "test", "["].contains owner then 2
  else if owner = "expr" then 3
  else if ["env", "timeout", "nohup", "nice", "stdbuf"].contains owner then 125
  else 1

/-- What a program calls its standard input. -/
def inputName (owner : String) : String :=
  match owner with
  | "head" => "standard input"
  | "tail" => "standard input"
  | "wc" => "standard input"
  | "tac" => "standard input"
  | "od" => "standard input"
  | "dd" => "standard input"
  | "grep" => "(standard input)"
  | _ => "-"

end PipeShell.Programs.Complaint
