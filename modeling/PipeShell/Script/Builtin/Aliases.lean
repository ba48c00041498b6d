import PipeShell.Script.Builtin.Usage

/-!
# Commands about aliases

The commands of a script that let a word stand for another text where a command begins, and undo
that.
-/

namespace PipeShell.Script

/-- How an alias is shown. -/
def shownAlias (entry : String × String) : String :=
  entry.1 ++ "=" ++ singleQuoted entry.2 ++ "\n"

/-- Lets a word stand for another text. -/
def State.putAlias (s : State) (name text : String) : State :=
  if (s.aliases.lookup name).isSome then
    { s with aliases := s.aliases.map fun a => if a.1 = name then (name, text) else a }
  else { s with aliases := s.aliases ++ [(name, text)] }

/-- Sets aliases, or lists them. -/
def aliasCommand (arguments : List String) : Step Nat := do
  if arguments.isEmpty then
    say (String.join ((inTableOrder wordRows (← get).aliases).map shownAlias))
  else
    arguments.foldlM (fun status argument => do
      let name := argument.toList.take 1 ++ (argument.toList.drop 1).takeWhile (· ≠ '=')
      if name.length < argument.length then
        let text := String.ofList (argument.toList.drop (name.length + 1))
        modify fun s => s.putAlias (String.ofList name) text
        return status
      else
        match (← get).aliases.lookup argument with
        | some text =>
          let _ ← say (shownAlias (argument, text))
          return status
        | none =>
          act (.complain s!"alias: {argument} not found\n")
          return 1) 0

/-- Takes aliases away. -/
def unaliasCommand (arguments : List String) : Step Nat := do
  let given ← options { plain := ['a'] } arguments
  if given.has 'a' then
    modify fun s => { s with aliases := [] }
    return 0
  else
    given.operands.foldlM (fun status name => do
      if ((← get).aliases.lookup name).isSome then
        modify fun s => { s with aliases := s.aliases.filter fun a => a.1 ≠ name }
        return status
      else
        act (.complain s!"unalias: {name} not found\n")
        return 1) 0

end PipeShell.Script
