import Mathlib.Logic.Relation
import PipeShell.Machine.Run

/-!
# All orders of steps

`Machine.run` computes in one order. Here the shell and its processes step in any order: a state
is what the shell still does, together with the machine, and `Machine.Step` lets the shell, any
process, or the clock go on. Whoever has to wait has no step.

* `reaches_of_follow` reaches a state along a given schedule.
* `reaches_of_run` says that the order in which answers are computed is one of these orders.
-/

namespace PipeShell

namespace Machine

variable {σ α : Type} {rep : Repertoire σ}

/-- One step of the shell, of a process, or of the clock. -/
inductive Step (rep : Repertoire σ) :
    Interaction α × Machine σ → Interaction α × Machine σ → Prop where
  | shell {p p' m m'} (alive : m.shellKilledBy = none) (step : p.step m = some (p', m')) :
    Step rep (p, m) (p', m')
  | process {p m m'} (pid : Pid) (step : m.childStep rep pid = some m') : Step rep (p, m) (p, m')
  | tick {p m} (time : Nat) (later : m.clock ≤ time) : Step rep (p, m) (p, { m with clock := time })

/-- What some order of steps leads to. -/
def Reaches (rep : Repertoire σ) :
    Interaction α × Machine σ → Interaction α × Machine σ → Prop :=
  Relation.ReflTransGen (Step rep)

namespace Reaches

variable {s t u : Interaction α × Machine σ}

theorem refl (s : Interaction α × Machine σ) : Reaches rep s s := Relation.ReflTransGen.refl

theorem trans (h : Reaches rep s t) (h' : Reaches rep t u) : Reaches rep s u :=
  Relation.ReflTransGen.trans h h'

theorem tail (h : Reaches rep s t) (step : Step rep t u) : Reaches rep s u :=
  Relation.ReflTransGen.tail h step

theorem head (step : Step rep s t) (h : Reaches rep t u) : Reaches rep s u :=
  Relation.ReflTransGen.head step h

end Reaches

/-! ### A given order -/

/-- The state behind the steps of a schedule: none stands for the shell, a number for a process. -/
def follow (rep : Repertoire σ) : List (Option Pid) → Interaction α × Machine σ →
    Option (Interaction α × Machine σ)
  | [], s => some s
  | none :: rest, (p, m) =>
    if m.shellKilledBy = none then (p.step m).bind (follow rep rest) else none
  | some pid :: rest, (p, m) => (m.childStep rep pid).bind fun m => follow rep rest (p, m)

theorem reaches_of_follow {schedule : List (Option Pid)} {s t : Interaction α × Machine σ}
    (h : follow rep schedule s = some t) : Reaches rep s t := by
  induction schedule generalizing s with
  | nil =>
    cases h
    exact .refl _
  | cons who rest ih =>
    obtain ⟨p, m⟩ := s
    cases who with
    | none =>
      rw [follow] at h
      split at h
      · rename_i alive
        obtain ⟨⟨p', m'⟩, step, h⟩ := Option.bind_eq_some_iff.mp h
        exact .head (.shell alive step) (ih h)
      · cases h
    | some pid =>
      obtain ⟨m', step, h⟩ := Option.bind_eq_some_iff.mp h
      exact .head (.process pid step) (ih h)

/-! ### The order of `run` -/

theorem reaches_advance (pid : Pid) (p : Interaction α) (fuel : Nat) (m : Machine σ) :
    Reaches rep (p, m) (p, (advance rep pid fuel m).2) := by
  induction fuel generalizing m with
  | zero => exact .refl _
  | succ fuel ih =>
    rw [advance]
    cases h : m.childStep rep pid with
    | none => exact .refl _
    | some m' => exact .head (.process pid h) (ih m')

theorem reaches_advanceFrom (p : Interaction α) (pid : Pid) (count fuel : Nat) (m : Machine σ) :
    Reaches rep (p, m) (p, (advanceFrom rep pid count fuel m).2) := by
  induction count generalizing pid fuel m with
  | zero => exact .refl _
  | succ count ih => exact (reaches_advance pid p fuel m).trans (ih _ _ _)

theorem reaches_advanceAll (p : Interaction α) (fuel : Nat) (m : Machine σ) :
    Reaches rep (p, m) (p, (m.advanceAll rep fuel).2) :=
  reaches_advanceFrom p 0 m.children.size fuel m

/-- The order in which answers are computed is one of all orders. -/
theorem reaches_of_run {fuel : Nat} {p : Interaction α} {m m' : Machine σ} {a : α}
    (h : m.run rep fuel p = .finished a m') : Reaches rep (p, m) (.done a, m') := by
  induction fuel generalizing p m with
  | zero => cases h
  | succ fuel ih =>
    unfold run at h
    cases alive : m.shellKilledBy with
    | some signal => simp only [alive] at h; cases h
    | none =>
      simp only [alive] at h
      split at h
      · cases h
        exact .refl _
      · cases h
      · split at h
        · rename_i step
          exact .head (.shell alive step) (ih h)
        · -- the shell waits, so the processes go on as far as they can
          have waits : Reaches rep (p, m) (p, (m.advanceAll rep fuel).2) :=
            reaches_advanceAll p fuel m
          split at h
          · exact waits.trans (ih h)
          · split at h
            · split at h
              · -- if they wait as well, they sleep, and the clock is put forward
                exact waits.trans (.head (.tick _ (by omega)) (ih h))
              · cases h
            · cases h

end Machine

end PipeShell
