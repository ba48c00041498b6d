import PipeShell.Machine.Step

/-!
# Running a machine

The steps of `Machine/Step.lean` in one particular order: the shell goes on until it has to wait,
then every process in turn goes on until it has to wait, and when nothing moves the clock jumps
to the next time at which a sleeper wakes up. Statements about all orders speak of the steps;
this order is the one that answers are computed in.

The number of steps is bounded by `fuel`, since a program may go on for ever.
-/

namespace PipeShell

/-- How a run ends. -/
inductive Run (α σ : Type) where
  /-- The computation is over. -/
  | finished (result : α) (machine : Machine σ)
  /-- A signal has ended the shell. -/
  | killed (signal : Nat) (machine : Machine σ)
  /-- Everybody waits, or there was no fuel left. -/
  | stuck (machine : Machine σ)

namespace Run

variable {α σ : Type}

/-- The machine at the end of a run. -/
def machine : Run α σ → Machine σ
  | finished _ m => m
  | killed _ m => m
  | stuck m => m

end Run

namespace Machine

variable {σ α : Type}

/-- Lets a process go on until it has to wait, and tells how much fuel is left. -/
def advance (rep : Repertoire σ) (pid : Pid) : Nat → Machine σ → Nat × Machine σ
  | 0, m => (0, m)
  | fuel + 1, m =>
    match m.childStep rep pid with
    | none => (fuel + 1, m)
    | some m => advance rep pid fuel m

/-- Lets the processes from `pid` on, `count` of them, go on in turn. -/
def advanceFrom (rep : Repertoire σ) (pid : Pid) : Nat → Nat → Machine σ → Nat × Machine σ
  | 0, fuel, m => (fuel, m)
  | count + 1, fuel, m =>
    let (fuel, m) := advance rep pid fuel m
    advanceFrom rep (pid + 1) count fuel m

/-- Lets every process go on in turn. -/
def advanceAll (rep : Repertoire σ) (fuel : Nat) (m : Machine σ) : Nat × Machine σ :=
  advanceFrom rep 0 m.children.size fuel m

/-- The next time at which a sleeper wakes up. -/
def nextWake (m : Machine σ) : Option Nat :=
  m.children.foldl (fun soonest child =>
    if child.life.isActive then
      match soonest, child.wake with
      | some a, some b => some (min a b)
      | none, time => time
      | time, none => time
    else soonest) none

/-- Lets every process go on, and the clock with them, until nothing moves any more. -/
def settle (rep : Repertoire σ) : Nat → Machine σ → Machine σ
  | 0, m => m
  | fuel + 1, m =>
    let (left, m) := m.advanceAll rep fuel
    if left < fuel then settle rep fuel m
    else match m.nextWake with
      | some time => settle rep fuel { m with clock := max m.clock time }
      | none => m

/-- Runs a computation of the shell. -/
def run (rep : Repertoire σ) : Nat → Interaction α → Machine σ → Run α σ
  | 0, _, m => .stuck m
  | fuel + 1, p, m =>
    match m.shellKilledBy with
    | some signal => .killed signal m
    | none =>
      match p with
      | .done a => .finished a m
      | .aborted => .killed Signal.abrt.number m
      | p =>
        match p.step m with
        | some (p, m) => run rep fuel p m
        | none =>
          let (left, m) := m.advanceAll rep fuel
          if left < fuel then run rep fuel p m
          else match m.nextWake with
            | some time =>
              if m.clock < time then run rep fuel p { m with clock := time } else .stuck m
            | none => .stuck m

/-- Runs a computation that is repeated until it comes to a result. -/
def repeatRun {β : Type} (rep : Repertoire σ) (turn : α → Interaction (α ⊕ β)) (fuel : Nat) :
    Nat → α → Machine σ → Run β σ
  | 0, _, m => .stuck m
  | turns + 1, a, m =>
    match m.run rep fuel (turn a) with
    | .finished (.inl a) m => repeatRun rep turn fuel turns a m
    | .finished (.inr b) m => .finished b m
    | .killed signal m => .killed signal m
    | .stuck m => .stuck m

end Machine

end PipeShell
