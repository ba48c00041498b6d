import Mathlib.Order.Nat
import PipeShell.Proofs.Pipeline.Phase

/-!
# How far a line has come

A phase knows what is left to do. `Progress` is the other side: the pipes that the shell has made,
the ends of them that it has open, how many processes it has made, and how many of these are known
to be over. Processes are numbered in the order in which they are made, from `base` on.

* `Progress.next` says how an answer adds to what has been done.
* `Phase.Stands` relates a phase to what has been done when it is reached. `Phase.stands_phase`
  says so of the first phase of a line, and `Phase.Stands.next` is the step: it holds again
  behind every answer.
-/

namespace PipeShell

/-- What has been done for a line. -/
structure Progress where
  /-- The pipes. -/
  wiring : Wiring
  /-- The pipe ends that the shell has open. -/
  opened : List Fd
  /-- How many processes have been made. -/
  made : Nat
  /-- How many of these are known to be over, from the first on. -/
  gone : Nat

namespace Progress

/-- Nothing has been done for a line of `count` stages. -/
def start (count : Nat) : Progress :=
  ⟨⟨count, []⟩, [], 0, 0⟩

/-- What has been done behind an answer. -/
def next (s : Progress) : (r : Request) → r.Answer → Progress
  | .pipe, .ok (read, write) =>
    let wiring := { s.wiring with pipes := s.wiring.pipes ++ [⟨read, write⟩] }
    { s with wiring, opened := wiring.fds }
  | .fork _, .ok _ => { s with made := s.made + 1 }
  | .close _, _ => { s with opened := s.opened.tail }
  | .kill _ _, _ => { s with gone := s.gone + 1 }
  | .wait _, _ => { s with gone := min (s.gone + 1) s.made }
  | _, _ => s

/-- Whether an answer gives a new process the next number from `base` on. -/
def Numbers (base : Nat) (s : Progress) : (r : Request) → r.Answer → Prop
  | .fork _, .ok pid => pid = base + s.made
  | _, _ => True

end Progress

/-- The processes of the first `count` stages, made one after another from `base` on. -/
def handlesFrom (base count : Nat) : List Handle :=
  (List.range count).map fun i => ⟨i, base + i⟩

@[simp] theorem length_handlesFrom (base count : Nat) :
    (handlesFrom base count).length = count := by
  simp [handlesFrom]

theorem handlesFrom_succ (base count : Nat) :
    handlesFrom base (count + 1) = handlesFrom base count ++ [⟨count, base + count⟩] := by
  simp [handlesFrom, List.range_succ]

/-- Where a handle of a line is, it names its stage and its process. -/
theorem of_drop_handlesFrom {base count d : Nat} {h : Handle} {rest : List Handle}
    (hdrop : (handlesFrom base count).drop d = h :: rest) :
    h = ⟨d, base + d⟩ ∧ d < count ∧ (handlesFrom base count).drop (d + 1) = rest := by
  have hlt : d < count := by
    have hlength := congrArg List.length hdrop
    rw [List.length_drop, length_handlesFrom, List.length_cons] at hlength
    omega
  have hlt' : d < (handlesFrom base count).length := by rwa [length_handlesFrom]
  rw [List.drop_eq_getElem_cons hlt'] at hdrop
  obtain ⟨hhead, htail⟩ := List.cons.inj hdrop
  refine ⟨?_, hlt, htail⟩
  rw [← hhead]
  simp [handlesFrom]

theorem drop_handlesFrom_eq_nil {base count d : Nat}
    (hdrop : (handlesFrom base count).drop d = []) : count ≤ d := by
  have hlength := congrArg List.length hdrop
  rw [List.length_drop, length_handlesFrom, List.length_nil] at hlength
  omega

/-- Whether a wiring has all pipes for the stages. -/
def Wiring.IsComplete (w : Wiring) (stages : List Stage) : Prop :=
  w.stages = stages.length ∧ w.pipes.length + 1 = stages.length

/-- What has been done when only an aftermath is left. -/
def Aftermath.Fits (base : Nat) (stages : List Stage) (made : Nat) : Aftermath → Prop
  | fail _ => made = 0
  | stop _ => made = 0
  | cull handles _ => handles = handlesFrom base made
  | collect handles => handles = handlesFrom base made ∧ made = stages.length

namespace Phase

/-- **What has been done when a phase is reached.** -/
def Stands (base : Nat) (stages : List Stage) (s : Progress) : Phase → Prop
  | trace _ _ read => read.toOption.getD [] = stages ∧ s = .start stages.length
  | wire w left rest => rest = stages ∧ w.stages = stages.length ∧
      w.pipes.length + left + 2 = stages.length ∧ s = ⟨w, w.fds, 0, 0⟩
  | launch w handles stage rest => w.IsComplete stages ∧ stages.drop s.made = stage :: rest ∧
      handles = handlesFrom base s.made ∧ s = ⟨w, w.fds, s.made, 0⟩
  | close fd rest next => s.opened = fd :: rest ∧ s.opened <:+ s.wiring.fds ∧
      next.Fits base stages s.made ∧ s.gone = 0
  | kill h rest handles _ => s.opened = [] ∧ handles = handlesFrom base s.made ∧
      handles.drop s.gone = h :: rest
  | reap h rest _ => s.opened = [] ∧ s.gone = s.made ∧
      ∃ d, (handlesFrom base s.made).drop d = h :: rest
  | wait _ h rest => s.opened = [] ∧ s.made = stages.length ∧
      (handlesFrom base s.made).drop s.gone = h :: rest
  | finished _ => s.opened = [] ∧ s.gone = s.made
  | aborted => s = .start stages.length

section Stands

variable {l : Launcher} {base : Nat} {stages : List Stage} {s : Progress}

/-! ### The phases behind an answer -/

theorem stands_reaping {error : LaunchError} {handles : List Handle} {d : Nat}
    (hopened : s.opened = []) (hgone : s.gone = s.made)
    (hdrop : (handlesFrom base s.made).drop d = handles) :
    (reaping error handles).Stands base stages s := by
  cases handles with
  | nil => exact ⟨hopened, hgone⟩
  | cons h rest => exact ⟨hopened, hgone, d, hdrop⟩

theorem stands_killing {error : LaunchError} {handles rest : List Handle}
    (hopened : s.opened = []) (hhandles : handles = handlesFrom base s.made)
    (hle : s.gone ≤ s.made) (hdrop : handles.drop s.gone = rest) :
    (killing handles error rest).Stands base stages s := by
  cases rest with
  | nil =>
    rw [hhandles] at hdrop ⊢
    exact stands_reaping hopened (hle.antisymm (drop_handlesFrom_eq_nil hdrop))
      (List.drop_zero : (handlesFrom base s.made).drop 0 = _)
  | cons h rest => exact ⟨hopened, hhandles, hdrop⟩

theorem stands_waiting {report : Report} {handles : List Handle} (hopened : s.opened = [])
    (hmade : s.made = stages.length) (hle : s.gone ≤ s.made)
    (hdrop : (handlesFrom base s.made).drop s.gone = handles) :
    (waiting report handles).Stands base stages s := by
  cases handles with
  | nil => exact ⟨hopened, hle.antisymm (drop_handlesFrom_eq_nil hdrop)⟩
  | cons h rest => exact ⟨hopened, hmade, hdrop⟩

theorem stands_aftermath {next : Aftermath} (hopened : s.opened = []) (hgone : s.gone = 0)
    (hfits : next.Fits base stages s.made) : next.phase.Stands base stages s := by
  have hle : s.gone ≤ s.made := by omega
  cases next with
  | fail error => exact ⟨hopened, hgone.trans (show s.made = 0 from hfits).symm⟩
  | stop status => exact ⟨hopened, hgone.trans (show s.made = 0 from hfits).symm⟩
  | cull handles error =>
    exact stands_killing hopened hfits hle (by rw [hgone, List.drop_zero])
  | collect handles =>
    obtain ⟨hhandles, hmade⟩ := hfits
    exact stands_waiting hopened hmade hle (by rw [hgone, List.drop_zero, hhandles])

theorem stands_closing {next : Aftermath} (hsuffix : s.opened <:+ s.wiring.fds)
    (hgone : s.gone = 0) (hfits : next.Fits base stages s.made) :
    (closing next s.opened).Stands base stages s := by
  cases hopened : s.opened with
  | nil => exact stands_aftermath hopened hgone hfits
  | cons fd rest => exact ⟨hopened, hsuffix, hfits, hgone⟩

theorem stands_launching {w : Wiring} {rest : List Stage} (hcomplete : w.IsComplete stages)
    (hle : s.made ≤ stages.length) (hdrop : stages.drop s.made = rest)
    (hs : s = ⟨w, w.fds, s.made, 0⟩) :
    (launching l w (handlesFrom base s.made) rest).Stands base stages s := by
  refine launching_cases l w _ rest (fun stage rest' hrest => ?_) fun next hends => ?_
  · exact ⟨hcomplete, hdrop.trans hrest, rfl, hs⟩
  · have hlength := congrArg List.length hdrop
    rw [List.length_drop] at hlength
    have hfits : next.Fits base stages s.made := by
      cases next with
      | fail error => exact hends.elim
      | stop status =>
        -- a line that asks the shell to stop has one stage, and that one is not launched
        obtain ⟨hleft, halone⟩ := hends
        have hpos := List.length_pos_iff.mpr hleft
        have hcount := hcomplete.1
        change s.made = 0
        omega
      | cull handles error => exact hends.2
      | collect handles =>
        obtain ⟨hnil, hhandles⟩ := hends
        rw [hnil, List.length_nil] at hlength
        exact ⟨hhandles, by omega⟩
    have hopened : s.opened = w.fds := congrArg Progress.opened hs
    have hwiring : s.wiring = w := congrArg Progress.wiring hs
    rw [← hopened]
    exact stands_closing (hopened ▸ hwiring ▸ List.suffix_rfl) (congrArg Progress.gone hs) hfits

theorem stands_wiring {w : Wiring} {left : Nat} (hcount : w.stages = stages.length)
    (hleft : w.pipes.length + left + 1 = stages.length) :
    (wiring l stages w left).Stands base stages ⟨w, w.fds, 0, 0⟩ := by
  cases left with
  | zero =>
    exact stands_launching ⟨hcount, hleft⟩ (Nat.zero_le _) List.drop_zero rfl
  | succ left => exact ⟨rfl, hcount, by omega, rfl⟩

theorem stands_starting {read : Except LineError (List Stage)}
    (hread : read.toOption.getD [] = stages) :
    (starting l read).Stands base stages (.start stages.length) := by
  match read with
  | .error e => exact ⟨rfl, rfl⟩
  | .ok [] => exact ⟨rfl, rfl⟩
  | .ok (stage :: rest) =>
    obtain rfl : stage :: rest = stages := hread
    exact stands_wiring rfl (by simp)

theorem stands_tracing {read : Except LineError (List Stage)} {texts : List String}
    (hread : read.toOption.getD [] = stages) :
    (tracing l read texts).Stands base stages (.start stages.length) := by
  cases texts with
  | nil => exact stands_starting hread
  | cons text rest => exact ⟨hread, rfl⟩

/-! ### The step -/

/-- **The step.** What has been done when a phase is reached tells what has been done behind any
answer, as long as processes are numbered in the order in which they are made. -/
theorem Stands.next {phase phase' : Phase} {r : Request} {answer : r.Answer}
    (hstands : phase.Stands base stages s) (hmoves : phase.Moves l r answer phase')
    (hindex : ∀ (i : Nat) (stage : Stage), stages[i]? = some stage → stage.index = i)
    (hnumbers : s.Numbers base r answer) : phase'.Stands base stages (s.next r answer) := by
  cases hmoves with
  | traced =>
    obtain ⟨hread, rfl⟩ := hstands
    exact stands_tracing hread
  | untraced cause =>
    obtain ⟨-, rfl⟩ := hstands
    rfl
  | wired read write =>
    obtain ⟨rfl, hcount, hleft, rfl⟩ := hstands
    refine stands_wiring hcount ?_
    dsimp only
    rw [List.length_append, List.length_singleton]
    omega
  | unwired cause =>
    obtain ⟨rfl, hcount, hleft, rfl⟩ := hstands
    exact stands_closing List.suffix_rfl rfl rfl
  | @launched w handles stage rest pid =>
    obtain ⟨hcomplete, hdrop, rfl, hs⟩ := hstands
    obtain rfl : pid = base + s.made := hnumbers
    have hlt : s.made < stages.length := by
      have hlength := congrArg List.length hdrop
      rw [List.length_drop, List.length_cons] at hlength
      omega
    rw [List.drop_eq_getElem_cons hlt] at hdrop
    obtain ⟨hhead, htail⟩ := List.cons.inj hdrop
    -- stages stand in their order, so the handle of a stage has the next place
    have hstage : stage.index = s.made :=
      hindex s.made stage (by rw [List.getElem?_eq_getElem hlt, hhead])
    rw [hstage, ← handlesFrom_succ]
    refine stands_launching (s := { s with made := s.made + 1 }) hcomplete hlt htail ?_
    rw [hs]
  | unlaunched cause =>
    obtain ⟨hcomplete, hdrop, rfl, hs⟩ := hstands
    have hopened : s.opened = s.wiring.fds := by rw [hs]
    have hwiring := congrArg Progress.wiring hs
    have hgone := congrArg Progress.gone hs
    dsimp only at hwiring hgone
    rw [← hwiring, ← hopened]
    exact stands_closing (hopened ▸ List.suffix_rfl) hgone rfl
  | closed answer =>
    obtain ⟨hopened, hsuffix, hfits, hgone⟩ := hstands
    have htail : s.opened.tail <:+ s.wiring.fds := (List.tail_suffix s.opened).trans hsuffix
    have hclosing := stands_closing (s := { s with opened := s.opened.tail }) htail hgone hfits
    have hrest : s.opened.tail = _ := congrArg List.tail hopened
    rw [List.tail_cons] at hrest
    rwa [show ({ s with opened := s.opened.tail } : Progress).opened = _ from hrest] at hclosing
  | killed answer =>
    obtain ⟨hopened, rfl, hdrop⟩ := hstands
    obtain ⟨-, hlt, hrest⟩ := of_drop_handlesFrom hdrop
    exact stands_killing (s := { s with gone := s.gone + 1 }) hopened rfl hlt hrest
  | reaped answer =>
    obtain ⟨hopened, hgone, d, hdrop⟩ := hstands
    obtain ⟨-, -, hrest⟩ := of_drop_handlesFrom hdrop
    refine stands_reaping (s := { s with gone := min (s.gone + 1) s.made }) hopened ?_ hrest
    dsimp only
    omega
  | waited answer =>
    obtain ⟨hopened, hmade, hdrop⟩ := hstands
    obtain ⟨-, hlt, hrest⟩ := of_drop_handlesFrom hdrop
    refine stands_waiting (s := { s with gone := min (s.gone + 1) s.made }) hopened hmade
      (Nat.min_le_right ..) ?_
    rw [Nat.min_eq_left hlt]
    exact hrest

end Stands

end Phase

/-- What has been done when a line is begun: nothing. -/
theorem Phase.stands_phase {r : Runner} {line : String} {base : Nat} {stages : List Stage}
    (h : (parse r.settings line).stages.toOption.getD [] = stages) :
    (r.phase line).Stands base stages (.start stages.length) :=
  stands_tracing h

end PipeShell
