import PipeShell.Script.Builtin.Usage

/-!
# Commands that leave

The commands of a script that end loops, functions and the script.
-/

namespace PipeShell.Script

/-- How many loops an argument asks for, of those that are there. -/
def loopArgument (arguments : List String) : Step Nat := do
  let n ← match arguments with
    | [] => pure 1
    | argument :: _ => do
      let n ← wholeNumber argument
      if n = 0 then fail s!"Illegal number: {argument}" 2
      pure n
  return min n (← get).loops

/-- Ends loops. -/
def breakLoops (arguments : List String) : Step Nat := do
  let n ← loopArgument arguments
  if n = 0 then return 0
  setStatus 0
  throw (.broken n)

/-- Goes on with the next round of a loop. -/
def continueLoops (arguments : List String) : Step Nat := do
  let n ← loopArgument arguments
  if n = 0 then return 0
  setStatus 0
  throw (.continued n)

/-- The status that an argument asks for; the one of the last command without any. -/
def statusArgument (arguments : List String) : Step Nat :=
  match arguments with
  | [] => return (← get).status
  | argument :: _ => wholeNumber argument

/-- Ends a function. -/
def returnCommand (arguments : List String) : Step Nat := do
  setStatus (← statusArgument arguments)
  throw .returned

/-- Ends the script. Where a signal is answered, or the end, the status is the one from before. -/
def exitCommand (arguments : List String) : Step Nat := do
  let s ← get
  match arguments, s.answeredStatus with
  | [], some status => setStatus status
  | arguments, _ => setStatus (← statusArgument arguments)
  throw .exit

end PipeShell.Script
