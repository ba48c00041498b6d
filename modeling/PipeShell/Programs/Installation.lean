import PipeShell.Programs.Blocks
import PipeShell.Programs.Columns
import PipeShell.Programs.Copying
import PipeShell.Programs.Counting
import PipeShell.Programs.Encoding
import PipeShell.Programs.Expression
import PipeShell.Programs.Files
import PipeShell.Programs.Listing
import PipeShell.Programs.Ordering
import PipeShell.Programs.Output
import PipeShell.Programs.Processes
import PipeShell.Programs.Reversing
import PipeShell.Programs.Searching
import PipeShell.Script.Start

/-!
# Installed programs

The programs that every machine has, by their names, and the directories and special files that
stand around them.

* `tools` is the list of programs, `programOf` starts one of them.
* `installed` is what stands in the root directory; a machine adds the files of its user.
-/

namespace PipeShell

namespace Programs

/-- Leaves with a status whatever the arguments are. -/
def leaveWith (status : Nat) (_ : Tool) : Program Unit :=
  .exit status

/-- Tells whether the input is a terminal. -/
def Tool.tty (t : Tool) : Program Unit := do
  let i ← t.given
    { letters := [('s', .nothing)], words := [("silent", 's', .nothing), ("quiet", 's', .nothing)] }
  if let some extra := i.operands.head? then t.extraOperand extra
  if ← .isTerminal Fd.stdin then
    if !i.has 's' then t.say "/dev/pts/0\n"
    .exit 0
  if !i.has 's' then t.say "not a tty\n"
  .exit 1

/-- Tells the name of the system. -/
def Tool.uname (t : Tool) : Program Unit := do
  let i ← t.given { letters := [('s', .nothing), ('o', .nothing)] }
  if let some extra := i.operands.head? then t.extraOperand extra
  t.say (if i.has 'o' then "GNU/Linux\n" else "Linux\n")
  .exit 0

/-- Tells the name of the user. -/
def Tool.whoami (t : Tool) : Program Unit := do
  let i ← t.given {}
  if let some extra := i.operands.head? then t.extraOperand extra
  t.say "root\n"
  .exit 0

/-- The programs that do one thing, by name. -/
def tools : List (String × (Tool → Program Unit)) :=
  [("[", Tool.test), ("base64", Tool.base64), ("basename", Tool.basename), ("cat", Tool.cat),
    ("chmod", Tool.chmod), ("cksum", Tool.cksum), ("comm", Tool.comm), ("cp", Tool.cp),
    ("cut", Tool.cut), ("dd", Tool.dd), ("dirname", Tool.dirname), ("echo", Tool.echo),
    ("egrep", Tool.oldGrep "-E"), ("env", Tool.env), ("expand", Tool.expand),
    ("expr", Tool.expr), ("factor", Tool.factor), ("false", leaveWith 1),
    ("fgrep", Tool.oldGrep "-F"), ("fold", Tool.fold), ("grep", Tool.grep), ("head", Tool.head),
    ("link", Tool.link), ("ln", Tool.ln), ("ls", Tool.ls),
    ("md5sum", fun t => t.digest Tool.md5), ("mkdir", Tool.mkdir), ("mv", Tool.mv),
    ("nice", Tool.nice), ("nl", Tool.nl), ("nohup", Tool.nohup), ("od", Tool.od),
    ("paste", Tool.paste), ("printenv", Tool.printenv), ("printf", Tool.printf),
    ("pwd", Tool.pwd), ("realpath", Tool.realpath), ("rm", Tool.rm), ("rmdir", Tool.rmdir),
    ("seq", Tool.seq), ("sha1sum", fun t => t.digest Tool.sha1),
    ("sha256sum", fun t => t.digest Tool.sha256), ("sleep", Tool.sleep), ("sort", Tool.sort),
    ("stdbuf", Tool.stdbuf), ("sync", leaveWith 0), ("tac", Tool.tac), ("tail", Tool.tail),
    ("tee", Tool.tee), ("test", Tool.test), ("timeout", Tool.timeout), ("touch", Tool.touch),
    ("tr", Tool.tr), ("true", leaveWith 0), ("tty", Tool.tty), ("uname", Tool.uname),
    ("uniq", Tool.uniq), ("unlink", Tool.unlink), ("wc", Tool.wc), ("whoami", Tool.whoami),
    ("yes", Tool.yes)]

/-- The names of the program that runs scripts. -/
def scriptRunners : List String :=
  ["dash", "sh"]

/-- The program with a name, given its environment and the list of its name and arguments. -/
def programOf (name : String) (environment argv : List String) : Program Unit :=
  if scriptRunners.contains name then Script.program environment argv
  else match tools.lookup name with
    | some tool =>
      tool { name, zero := argv.headD name, arguments := argv.drop 1, environment }
    | none => .exit 127

end Programs

/-- The directory of the programs. -/
def programDirectory : Node :=
  .directory ((Programs.scriptRunners ++ Programs.tools.map Prod.fst).map fun name =>
    (name, .program name))

/-- What stands in the root directory of every machine. -/
def installed : List (String × Node) :=
  [("usr", .directory [("bin", programDirectory)]),
    ("bin", programDirectory),
    ("dev", .directory
      [("null", .null), ("zero", .zeros), ("fd", .descriptors), ("stdin", .descriptor 0),
        ("stdout", .descriptor 1), ("stderr", .descriptor 2)]),
    ("proc", .directory [("self", .directory [("fd", .descriptors)])]),
    ("tmp", .directory [])] ++
  ["boot", "etc", "home", "lib", "lib64", "media", "mnt", "opt", "root", "run", "sbin", "srv",
    "sys", "var"].map fun name => (name, .directory [])

end PipeShell
