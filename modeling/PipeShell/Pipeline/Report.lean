import PipeShell.Pipeline.Error
import PipeShell.System.Interaction

/-!
# Reports

What is known about a line whose processes have all been waited for: how each stage ended, and
which waits failed. A line is a success only if every stage left with status zero.
-/

namespace PipeShell

/-- How a stage ended. -/
inductive StageStatus where
  /-- The process left with a status. -/
  | exited (status : Int)
  /-- A signal ended the process. -/
  | signaled (signal : Signal)
  /-- The process could not be waited for. -/
  | lost
  deriving DecidableEq, Repr

namespace StageStatus

/-- Whether the stage did what it was asked for. -/
def isSuccess : StageStatus → Bool
  | exited status => status == 0
  | _ => false

/-- The status that an ending means; a death by a signal without a name cannot be told. -/
def ofEnding : Ending → Except Errno StageStatus
  | .exited status => .ok (exited status)
  | .killed number =>
    match Signal.ofNumber? number with
    | some signal => .ok (signaled signal)
    | none => .error .einval

end StageStatus

/-- What is known about one stage. -/
structure StageReport where
  /-- The position of the stage. -/
  index : Nat
  /-- Its process. -/
  pid : Pid
  /-- How it ended. -/
  status : StageStatus
  deriving DecidableEq, Repr

/-- Whether a line succeeded. -/
inductive Outcome where
  | success
  | failure
  deriving DecidableEq, Repr

namespace Outcome

/-- Whether the outcome is a success. -/
def isSuccess (o : Outcome) : Bool :=
  o == success

/-- The status of an outcome. -/
def exitCode : Outcome → Int
  | success => 0
  | failure => 1

end Outcome

/-- What is known about a line whose processes have been waited for. -/
structure Report where
  /-- The stages, in the order of the line. -/
  stages : List StageReport := []
  /-- The waits that failed, in the order of the line. -/
  waitErrors : List WaitError := []
  deriving DecidableEq, Repr

namespace Report

/-- A line succeeds if no wait failed and every stage left with status zero. -/
def outcome (r : Report) : Outcome :=
  if r.waitErrors.isEmpty && r.stages.all fun s => s.status.isSuccess then .success
  else .failure

/-- The stages that did not succeed. -/
def failed (r : Report) : List StageReport :=
  r.stages.filter fun s => !s.status.isSuccess

/-- Adds what a wait told about a process. -/
def record (r : Report) (index : Nat) (pid : Pid) (answer : Except Errno StageStatus) : Report :=
  match answer with
  | .ok status => { r with stages := r.stages ++ [⟨index, pid, status⟩] }
  | .error cause =>
    { stages := r.stages ++ [⟨index, pid, .lost⟩], waitErrors := r.waitErrors ++ [⟨pid, cause⟩] }

end Report

end PipeShell
