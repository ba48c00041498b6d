import PipeShell.Proofs.Pipeline.Progress

/-!
# Lines that are completed

A line is completed if no pipe and no process is refused. On the way there the phases of the shell
are those of `Phase.isServing`; from any other phase on, the line is not completed any more.

* `Phase.untraced` is what is left to be shown of the trace, and `Phase.Untraces` says that the
  shell is gone only if it had to show one.
* `Phase.Tells` is what the report says at each phase if every process leaves with status zero:
  the line is a success, unless endings are lost. `Phase.Tells.next` is the step.
-/

namespace PipeShell

/-- A wait tells that a process has left with status zero, or knows of no process if endings are
lost. -/
def Request.Tells (lost : Bool) : (r : Request) → r.Answer → Prop
  | .wait _, answer => (lost = false ∧ answer = .ok (.exited 0)) ∨
      (lost = true ∧ answer = .error .echild)
  | _, _ => True

namespace Report

/-- The report on processes that have all left with status zero. If endings are lost, every wait
fails and nothing is known of any stage. -/
def told (lost : Bool) (handles : List Handle) : Report where
  stages := handles.map fun h => ⟨h.index, h.pid, if lost then .lost else .exited 0⟩
  waitErrors := if lost then handles.map fun h => ⟨h.pid, .echild⟩ else []

theorem record_told {lost : Bool} {answer : Except Errno Ending} (handles : List Handle)
    (h : Handle) (htells : (Request.wait h.pid).Tells lost answer) :
    (told lost handles).record h.index h.pid (answer.bind StageStatus.ofEnding) =
      told lost (handles ++ [h]) := by
  obtain ⟨rfl, rfl⟩ | ⟨rfl, rfl⟩ := htells <;>
    simp [told, record, Except.bind, StageStatus.ofEnding]

theorem outcome_told {lost : Bool} {handles : List Handle} (h : handles ≠ []) :
    (told lost handles).outcome = if lost then .failure else .success := by
  cases lost <;> simp [told, outcome, h, StageStatus.isSuccess]

end Report

namespace Phase

/-- Whether the line may still be completed. -/
def isServing : Phase → Bool
  | trace _ _ _ => true
  | wire _ _ _ => true
  | launch _ _ _ _ => true
  | close _ _ (.collect _) => true
  | wait _ _ _ => true
  | finished (.ok (.completed _)) => true
  | _ => false

/-- Whether all of the trace has been shown. -/
def isTraced : Phase → Bool
  | trace _ _ _ => false
  | aborted => false
  | _ => true

/-- The pieces of the trace that are still to be shown. -/
def untraced : Phase → List String
  | trace text rest _ => text :: rest
  | _ => []

/-- **What is known about a line of `count` stages** at a phase from which it may be completed, if
every process leaves with status zero. -/
def Tells (lost : Bool) (base count : Nat) (s : Progress) : Phase → Prop
  | close _ _ (.collect _) => 0 < count
  | wait report _ _ => 0 < count ∧ report = .told lost ((handlesFrom base s.made).take s.gone)
  | finished (.ok (.completed report)) => 0 < count ∧ s.made = count ∧
      report = .told lost ((handlesFrom base s.made).take s.gone)
  | _ => True

section Completion

variable {l : Launcher} {base : Nat} {stages : List Stage} {s : Progress} {lost : Bool}
  {phase phase' : Phase}

/-! ### The phases behind an answer -/

theorem untraced_eq_nil (h : phase.isTraced = true) : phase.untraced = [] := by
  cases phase with
  | trace text rest read => cases h
  | _ => rfl

theorem isTraced_closing (next : Aftermath) (fds : List Fd) :
    (closing next fds).isTraced = true := by
  cases fds with
  | cons fd rest => rfl
  | nil =>
    cases next with
    | fail error => rfl
    | stop status => rfl
    | cull handles error => cases handles <;> rfl
    | collect handles => cases handles <;> rfl

theorem isTraced_launching (w : Wiring) (handles : List Handle) (rest : List Stage) :
    (launching l w handles rest).isTraced = true :=
  launching_cases l w handles rest (fun _ _ _ => rfl) fun next _ => isTraced_closing next w.fds

theorem isTraced_wiring (w : Wiring) (left : Nat) :
    (wiring l stages w left).isTraced = true := by
  cases left with
  | zero => exact isTraced_launching w [] stages
  | succ left => rfl

theorem isTraced_starting (read : Except LineError (List Stage)) :
    (starting l read).isTraced = true := by
  match read with
  | .error e => rfl
  | .ok [] => rfl
  | .ok (stage :: rest) => exact isTraced_wiring _ _

theorem untraced_tracing (read : Except LineError (List Stage)) (texts : List String) :
    (tracing l read texts).untraced = texts := by
  cases texts with
  | cons text rest => rfl
  | nil => exact untraced_eq_nil (isTraced_starting read)

theorem tracing_ne_aborted (read : Except LineError (List Stage)) (texts : List String) :
    tracing l read texts ≠ aborted := by
  intro haborted
  cases texts with
  | cons text rest => cases haborted
  | nil =>
    have htraced := isTraced_starting (l := l) read
    rw [show starting l read = aborted from haborted] at htraced
    cases htraced

/-- Everything behind the end of a line that has failed, or asks the shell to stop, is such an
end. -/
theorem isServing_closing {next : Aftermath} {fds : List Fd}
    (h : (closing next fds).isServing = true) : ∃ handles, next = .collect handles := by
  cases next with
  | collect handles => exact ⟨handles, rfl⟩
  | fail error => cases fds <;> cases h
  | stop status => cases fds <;> cases h
  | cull handles error =>
    cases fds with
    | cons fd rest => cases h
    | nil => cases handles <;> cases h

theorem tells_waiting {report : Report} {handles : List Handle} (hpos : 0 < stages.length)
    (hmade : s.made = stages.length)
    (hreport : report = .told lost ((handlesFrom base s.made).take s.gone)) :
    (waiting report handles).Tells lost base stages.length s := by
  cases handles with
  | nil => exact ⟨hpos, hmade, hreport⟩
  | cons h rest => exact ⟨hpos, hreport⟩

theorem tells_closing {next : Aftermath} {fds : List Fd} (hgone : s.gone = 0)
    (hcollect : ∀ handles, next = .collect handles → 0 < stages.length ∧ s.made = stages.length) :
    (closing next fds).Tells lost base stages.length s := by
  cases next with
  | fail error => cases fds <;> trivial
  | stop status => cases fds <;> trivial
  | cull handles error =>
    cases fds with
    | cons fd rest => trivial
    | nil => cases handles <;> trivial
  | collect handles =>
    obtain ⟨hpos, hmade⟩ := hcollect handles rfl
    cases fds with
    | cons fd rest => exact hpos
    | nil =>
      refine tells_waiting hpos hmade ?_
      rw [hgone, List.take_zero]
      cases lost <;> rfl

theorem tells_launching {w : Wiring} {handles : List Handle} {rest : List Stage}
    (hgone : s.gone = 0)
    (hrest : rest = [] → 0 < stages.length ∧ s.made = stages.length) :
    (launching l w handles rest).Tells lost base stages.length s := by
  refine launching_cases l w handles rest (fun _ _ _ => trivial) fun next hends => ?_
  refine tells_closing hgone fun handles' hcollect => ?_
  rw [hcollect] at hends
  exact hrest hends.1

theorem tells_tracing {read : Except LineError (List Stage)} {texts : List String}
    (hgone : s.gone = 0) : (tracing l read texts).Tells lost base stages.length s := by
  cases texts with
  | cons text rest => trivial
  | nil =>
    match read with
    | .error e => trivial
    | .ok [] => trivial
    | .ok (stage :: rest) =>
      rw [tracing, starting, wiring.eq_def]
      split
      · exact tells_launching hgone (by simp)
      · trivial

/-! ### The step -/

/-- A line that may be completed could be completed before. -/
theorem Moves.isServing {r : Request} {answer : r.Answer} (h : phase.Moves l r answer phase')
    (hserving : phase'.isServing = true) : phase.isServing = true := by
  cases h with
  | traced => rfl
  | untraced cause => cases hserving
  | wired read write => rfl
  | launched pid => rfl
  | waited answer => rfl
  | unwired cause =>
    obtain ⟨handles, hcollect⟩ := isServing_closing hserving
    cases hcollect
  | unlaunched cause =>
    obtain ⟨handles, hcollect⟩ := isServing_closing hserving
    cases hcollect
  | closed answer =>
    obtain ⟨handles, rfl⟩ := isServing_closing hserving
    rfl
  | @killed h rest handles error answer =>
    cases rest with
    | cons h' rest => cases hserving
    | nil => cases handles <;> cases hserving
  | @reaped h rest error answer => cases rest <;> cases hserving

/-- While the trace is shown, the shell goes on with it or is gone. -/
theorem Moves.cases_of_trace {r : Request} {answer : r.Answer}
    (h : phase.Moves l r answer phase') : phase'.isTraced = true ∨
      ∃ text rest read, phase = trace text rest read ∧
        (phase' = tracing l read rest ∨ phase' = aborted) := by
  cases h with
  | traced => exact .inr ⟨_, _, _, rfl, .inl rfl⟩
  | untraced cause => exact .inr ⟨_, _, _, rfl, .inr rfl⟩
  | wired read write => exact .inl (isTraced_wiring _ _)
  | unwired cause => exact .inl (isTraced_closing _ _)
  | launched pid => exact .inl (isTraced_launching _ _ _)
  | unlaunched cause => exact .inl (isTraced_closing _ _)
  | closed answer => exact .inl (isTraced_closing _ _)
  | @killed h rest handles error answer =>
    cases rest with
    | cons h' rest => exact .inl rfl
    | nil => cases handles <;> exact .inl rfl
  | @reaped h rest error answer => cases rest <;> exact .inl rfl
  | @waited report h rest answer => cases rest <;> exact .inl rfl

/-- **The step.** -/
theorem Tells.next {r : Request} {answer : r.Answer} (h : phase.Tells lost base stages.length s)
    (hstands : phase.Stands base stages s) (hmoves : phase.Moves l r answer phase')
    (hserving : phase'.isServing = true) (htells : r.Tells lost answer) :
    phase'.Tells lost base stages.length (s.next r answer) := by
  cases hmoves with
  | traced =>
    obtain ⟨-, rfl⟩ := hstands
    exact tells_tracing rfl
  | untraced cause => cases hserving
  | @wired w left rest read write =>
    obtain ⟨rfl, -, hleft, rfl⟩ := hstands
    cases left with
    | succ left => trivial
    | zero =>
      -- there is one pipe fewer than there are stages, so a stage is left
      refine tells_launching rfl fun hnil => ?_
      rw [hnil] at hleft
      simp at hleft
  | launched pid =>
    obtain ⟨-, hdrop, -, hs⟩ := hstands
    refine tells_launching (congrArg Progress.gone hs) fun hnil => ?_
    have hlength := congrArg List.length hdrop
    rw [hnil, List.length_drop, List.length_singleton] at hlength
    change 0 < stages.length ∧ s.made + 1 = stages.length
    omega
  | closed answer =>
    obtain ⟨handles, rfl⟩ := isServing_closing hserving
    obtain ⟨-, -, ⟨-, hmade⟩, hgone⟩ := hstands
    exact tells_closing hgone fun _ _ => ⟨h, hmade⟩
  | @waited report handle rest answer =>
    obtain ⟨hpos, rfl⟩ := h
    obtain ⟨-, hmade, hdrop⟩ := hstands
    obtain ⟨-, hlt, -⟩ := of_drop_handlesFrom hdrop
    have hnext : s.next (.wait handle.pid) answer = { s with gone := s.gone + 1 } := by
      rw [Progress.next, Nat.min_eq_left hlt]
    rw [hnext]
    refine tells_waiting hpos hmade ?_
    have hhead : (handlesFrom base s.made)[s.gone]? = some handle := by
      rw [← List.head?_drop, hdrop]
      rfl
    refine (Report.record_told _ handle htells).trans ?_
    dsimp only
    rw [List.take_add_one, hhead]
    rfl
  | unwired cause =>
    obtain ⟨handles, hcollect⟩ := isServing_closing hserving
    cases hcollect
  | unlaunched cause =>
    obtain ⟨handles, hcollect⟩ := isServing_closing hserving
    cases hcollect
  | @killed h rest handles error answer =>
    cases rest with
    | cons h' rest => cases hserving
    | nil => cases handles <;> cases hserving
  | @reaped h rest error answer => cases rest <;> cases hserving

/-! ### What has been done -/

/-- **What is known about the trace** at a phase: what is left of it, and that the shell is gone
only if it had to show one. -/
def Untraces (texts : List String) (phase : Phase) : Prop :=
  phase.untraced <:+ texts ∧ (phase = aborted → texts ≠ [])

theorem untraces_phase (r : Runner) (line : String) :
    (r.phase line).Untraces (parse r.settings line).trace :=
  ⟨(untraced_tracing _ _).symm ▸ List.suffix_rfl, fun h => absurd h (tracing_ne_aborted _ _)⟩

theorem Untraces.next {texts : List String} {r : Request} {answer : r.Answer}
    (h : phase.Untraces texts) (hmoves : phase.Moves l r answer phase') :
    phase'.Untraces texts := by
  obtain htraced | ⟨text, rest, read, rfl, rfl | rfl⟩ := hmoves.cases_of_trace
  · refine ⟨untraced_eq_nil htraced ▸ List.nil_suffix, ?_⟩
    rintro rfl
    cases htraced
  · refine ⟨?_, fun haborted => absurd haborted (tracing_ne_aborted _ _)⟩
    rw [untraced_tracing]
    exact (List.suffix_cons text rest).trans h.1
  · exact ⟨List.nil_suffix, fun _ hnil => List.cons_ne_nil _ _ (List.suffix_nil.mp (hnil ▸ h.1))⟩

/-- The trace is shown before the first process is made. -/
theorem Stands.untraced_eq_nil (h : phase.Stands base stages s) (hmade : 0 < s.made) :
    phase.untraced = [] := by
  cases phase with
  | trace text rest read =>
    obtain ⟨-, rfl⟩ := h
    cases hmade
  | _ => rfl

/-- The shell has all ends open until all stages have been launched. -/
theorem Stands.opened_eq_fds (h : phase.Stands base stages s) (hserving : phase.isServing = true)
    (htells : phase.Tells lost base stages.length s) (hmade : 0 < s.made)
    (hlt : s.made < stages.length) : s.opened = s.wiring.fds := by
  cases phase with
  | trace text rest read =>
    obtain ⟨-, rfl⟩ := h
    cases hmade
  | wire w left rest =>
    obtain ⟨-, -, -, rfl⟩ := h
    cases hmade
  | launch w handles stage rest =>
    obtain ⟨-, -, -, hs⟩ := h
    rw [hs]
  | close fd rest next =>
    obtain ⟨-, -, hfits, -⟩ := h
    cases next with
    | collect handles => exact absurd hfits.2 (Nat.ne_of_lt hlt)
    | _ => cases hserving
  | wait report handle rest => exact absurd h.2.1 (Nat.ne_of_lt hlt)
  | finished result =>
    match result with
    | .ok (.completed report) => exact absurd htells.2.1 (Nat.ne_of_lt hlt)
    | .ok .idle => cases hserving
    | .ok (.terminate status) => cases hserving
    | .error e => cases hserving
  | kill handle rest handles error => cases hserving
  | reap handle rest error => cases hserving
  | aborted => cases hserving

end Completion

end Phase

end PipeShell
