import Mathlib.Order.Nat
import PipeShell.Proofs.Pipeline.Phase
import PipeShell.Proofs.System.Host

/-!
# Nothing remains of a line

A line opens pipe ends and makes processes, and many things may go wrong on the way: a pipe or a
process is refused, a wait fails, the line is malformed, or it asks the shell to stop. Whatever the
operating system does, when the line is over every end has been closed and every process is gone.

* `Phase.ends` and `Phase.pids` are what a phase still has to close and to collect. They shrink to
  nothing on every path.
* `Phase.Owes` says that nothing else differs from the system on which the line was begun.
* `Host.nothing_remains` is the theorem, and what it means for the next line.
-/

namespace PipeShell

/-- The processes that an aftermath still has to collect. -/
def Aftermath.pids : Aftermath → List Pid
  | fail _ => []
  | stop _ => []
  | cull handles _ => handles.map Handle.pid
  | collect handles => handles.map Handle.pid

namespace Phase

/-- The pipe ends that are still to be closed. -/
def ends : Phase → List Fd
  | wire w _ _ => w.fds
  | launch w _ _ _ => w.fds
  | close fd rest _ => fd :: rest
  | _ => []

/-- The processes that are still to be collected. -/
def pids : Phase → List Pid
  | launch _ handles _ _ => handles.map Handle.pid
  | close _ _ next => next.pids
  | kill _ _ handles _ => handles.map Handle.pid
  | reap h rest _ => (h :: rest).map Handle.pid
  | wait _ h rest => (h :: rest).map Handle.pid
  | _ => []

/-- A wiring counts the stages that have been launched and those that have not. -/
def Counts : Phase → Prop
  | wire w _ stages => w.stages = stages.length
  | launch w handles stage rest => w.stages = handles.length + (stage :: rest).length
  | _ => True

/-! ### The phases behind an answer -/

section Behind

variable (l : Launcher) (w : Wiring) (handles : List Handle) (stages : List Stage)

@[simp] theorem ends_reaping (error : LaunchError) : (reaping error handles).ends = [] := by
  cases handles <;> rfl

@[simp] theorem pids_reaping (error : LaunchError) :
    (reaping error handles).pids = handles.map Handle.pid := by
  cases handles <;> rfl

@[simp] theorem ends_killing (error : LaunchError) (rest : List Handle) :
    (killing handles error rest).ends = [] := by
  cases rest with
  | nil => exact ends_reaping handles error
  | cons h rest => rfl

@[simp] theorem pids_killing (error : LaunchError) (rest : List Handle) :
    (killing handles error rest).pids = handles.map Handle.pid := by
  cases rest with
  | nil => exact pids_reaping handles error
  | cons h rest => rfl

@[simp] theorem ends_waiting (report : Report) : (waiting report handles).ends = [] := by
  cases handles <;> rfl

@[simp] theorem pids_waiting (report : Report) :
    (waiting report handles).pids = handles.map Handle.pid := by
  cases handles <;> rfl

@[simp] theorem ends_aftermath (next : Aftermath) : next.phase.ends = [] := by
  cases next with
  | cull handles error => exact ends_killing handles error handles
  | collect handles => exact ends_waiting handles {}
  | _ => rfl

@[simp] theorem pids_aftermath (next : Aftermath) : next.phase.pids = next.pids := by
  cases next with
  | cull handles error => exact pids_killing handles error handles
  | collect handles => exact pids_waiting handles {}
  | _ => rfl

@[simp] theorem ends_closing (next : Aftermath) (fds : List Fd) :
    (closing next fds).ends = fds := by
  cases fds with
  | nil => exact ends_aftermath next
  | cons fd rest => rfl

@[simp] theorem pids_closing (next : Aftermath) (fds : List Fd) :
    (closing next fds).pids = next.pids := by
  cases fds with
  | nil => exact pids_aftermath next
  | cons fd rest => rfl

@[simp] theorem ends_launching : (launching l w handles stages).ends = w.fds :=
  launching_cases l w handles stages (fun _ _ _ => rfl) fun next _ => ends_closing next w.fds

/-- A terminator that is the whole line leaves no process behind, since it is the first stage. -/
theorem pids_launching (hcount : w.stages = handles.length + stages.length) :
    (launching l w handles stages).pids = handles.map Handle.pid := by
  refine launching_cases l w handles stages (fun _ _ _ => rfl) fun next hends => ?_
  rw [pids_closing]
  cases next with
  | fail error => exact hends.elim
  | stop status =>
    obtain ⟨hleft, halone⟩ := hends
    -- the only stage of a line is not behind another one
    have hpos := List.length_pos_iff.mpr hleft
    obtain rfl : handles = [] := List.length_eq_zero_iff.mp (by omega)
    rfl
  | cull handles' error => exact congrArg (List.map Handle.pid) hends.2
  | collect handles' => exact congrArg (List.map Handle.pid) hends.2

@[simp] theorem ends_wiring (left : Nat) : (wiring l stages w left).ends = w.fds := by
  cases left with
  | zero => exact ends_launching l w [] stages
  | succ left => rfl

theorem pids_wiring (left : Nat) (hcount : w.stages = stages.length) :
    (wiring l stages w left).pids = [] := by
  cases left with
  | zero => exact pids_launching l w [] stages (by rw [hcount, List.length_nil, Nat.zero_add])
  | succ left => rfl

@[simp] theorem ends_tracing (read : Except LineError (List Stage)) (texts : List String) :
    (tracing l read texts).ends = [] := by
  cases texts with
  | cons text rest => rfl
  | nil =>
    match read with
    | .error e => rfl
    | .ok [] => rfl
    | .ok (stage :: rest) => exact ends_wiring l _ _ _

@[simp] theorem pids_tracing (read : Except LineError (List Stage)) (texts : List String) :
    (tracing l read texts).pids = [] := by
  cases texts with
  | cons text rest => rfl
  | nil =>
    match read with
    | .error e => rfl
    | .ok [] => rfl
    | .ok (stage :: rest) => exact pids_wiring l _ _ _ rfl

theorem counts_closing (next : Aftermath) (fds : List Fd) : (closing next fds).Counts := by
  cases fds with
  | cons fd rest => trivial
  | nil =>
    cases next with
    | cull handles error =>
      cases handles <;> trivial
    | collect handles => cases handles <;> trivial
    | _ => trivial

theorem counts_launching (hcount : w.stages = handles.length + stages.length) :
    (launching l w handles stages).Counts := by
  refine launching_cases l w handles stages (fun stage rest hstages => ?_)
    fun next _ => counts_closing next w.fds
  rw [hstages] at hcount
  exact hcount

theorem counts_wiring (left : Nat) (hcount : w.stages = stages.length) :
    (wiring l stages w left).Counts := by
  cases left with
  | zero => exact counts_launching l w [] stages (by rw [hcount, List.length_nil, Nat.zero_add])
  | succ left => exact hcount

theorem counts_tracing (read : Except LineError (List Stage)) (texts : List String) :
    (tracing l read texts).Counts := by
  cases texts with
  | cons text rest => trivial
  | nil =>
    match read with
    | .error e => trivial
    | .ok [] => trivial
    | .ok (stage :: rest) => exact counts_wiring l _ _ _ rfl

end Behind

/-- Stages are counted behind every answer. -/
theorem Counts.next {l : Launcher} {phase phase' : Phase} {r : Request} {answer : r.Answer}
    (hcounts : phase.Counts) (hmoves : phase.Moves l r answer phase') : phase'.Counts := by
  cases hmoves with
  | traced => exact counts_tracing l _ _
  | untraced cause => trivial
  | wired read write => exact counts_wiring l _ _ _ hcounts
  | unwired cause => exact counts_closing _ _
  | launched pid =>
    refine counts_launching l _ _ _ (hcounts.trans ?_)
    rw [List.length_append, List.length_cons, List.length_singleton]
    omega
  | unlaunched cause => exact counts_closing _ _
  | closed answer => exact counts_closing _ _
  | @killed h rest handles error answer =>
    cases rest with
    | nil => cases handles <;> trivial
    | cons h' rest => trivial
  | @reaped h rest error answer => cases rest <;> trivial
  | @waited report h rest answer => cases rest <;> trivial

/-! ### What is owed -/

/-- **What is owed.** The system is the one on which the line was begun, except for the ends that
are still to be closed and the processes that are still to be collected. -/
structure Owes (h₀ : Host) (phase : Phase) (h : Host) : Prop where
  counts : phase.Counts
  files : h₀.files ≤ h.files
  forks : h₀.forks ≤ h.forks
  shut : ∀ fd, fd ∉ phase.ends → h.table fd = h₀.table fd
  opened : ∀ fd ∈ phase.ends, h₀.table fd = none ∧
    ∀ file, h.table fd = some file → h₀.files ≤ file
  children : ∀ pid child, h.children pid = some child →
    (∃ child₀, h₀.children pid = some child₀ ∧ child₀.number = child.number) ∨
      (pid ∈ phase.pids ∧ h₀.forks ≤ child.number)

section Owes

variable {r : Runner} {l : Launcher} {phase phase' : Phase} {h₀ h h' : Host}

theorem owes_phase (r : Runner) (line : String) (h₀ : Host) : (r.phase line).Owes h₀ h₀ where
  counts := counts_tracing _ _ _
  files := le_rfl
  forks := le_rfl
  shut _ _ := rfl
  opened fd hfd := by
    rw [Runner.phase, ends_tracing] at hfd
    cases hfd
  children _ child hchild := .inl ⟨child, hchild, rfl⟩

namespace Owes

/-- Processes that end or vanish are owed nothing. -/
theorem passes (howes : phase.Owes h₀ h) (hpasses : h.Passes h') : phase.Owes h₀ h' where
  counts := howes.counts
  files := hpasses.files ▸ howes.files
  forks := hpasses.forks ▸ howes.forks
  shut fd hfd := hpasses.table ▸ howes.shut fd hfd
  opened fd hfd := hpasses.table ▸ howes.opened fd hfd
  children pid child' hchild' := by
    obtain ⟨child, hchild, hnumber, -⟩ := hpasses.children pid child' hchild'
    rw [hnumber]
    exact howes.children pid child hchild

/-- A phase that owes the same ends and processes as another one. -/
theorem of_eq (howes : phase.Owes h₀ h) (hcounts : phase'.Counts)
    (hends : phase'.ends = phase.ends) (hpids : phase'.pids = phase.pids) :
    phase'.Owes h₀ h :=
  ⟨hcounts, howes.files, howes.forks, hends ▸ howes.shut, hends ▸ howes.opened,
    hpids ▸ howes.children⟩

/-- The ends of a new pipe are two more that are to be closed. -/
theorem piped (howes : phase.Owes h₀ h) {read write : Fd} (freeRead : h.table read = none)
    (freeWrite : h.table write = none) (hcounts : phase'.Counts)
    (hends : ∀ fd, fd ∈ phase'.ends ↔ fd ∈ phase.ends ∨ fd = read ∨ fd = write)
    (hpids : phase'.pids = phase.pids) : phase'.Owes h₀
      { h with
        table := Function.update (Function.update h.table read (some h.files)) write
          (some (h.files + 1))
        files := h.files + 2 } := by
  have hnew := howes.files
  -- a descriptor that is free now was free when the line was begun
  have hfree : ∀ fd, h.table fd = none → h₀.table fd = none := by
    intro fd hnone
    by_cases hfd : fd ∈ phase.ends
    · exact (howes.opened fd hfd).1
    · exact (howes.shut fd hfd).symm.trans hnone
  refine ⟨hcounts, hnew.trans (Nat.le_add_right ..), howes.forks, fun fd hfd => ?_,
    fun fd hfd => ⟨?_, fun file hfile => ?_⟩, hpids ▸ howes.children⟩
  · rw [hends, not_or, not_or] at hfd
    dsimp only
    rw [Function.update_of_ne hfd.2.2, Function.update_of_ne hfd.2.1]
    exact howes.shut fd hfd.1
  · rcases (hends fd).mp hfd with hold | rfl | rfl
    · exact (howes.opened fd hold).1
    · exact hfree _ freeRead
    · exact hfree _ freeWrite
  · dsimp only at hfile
    rw [Function.update_apply, Function.update_apply] at hfile
    split at hfile
    · cases hfile
      omega
    · rename_i hwrite
      split at hfile
      · cases hfile
        exact hnew
      · rename_i hread
        have hold := ((hends fd).mp hfd).resolve_right fun h => h.elim hread hwrite
        exact (howes.opened fd hold).2 file hfile

/-- A new process is one more that is to be collected. -/
theorem forked (howes : phase.Owes h₀ h) {pid : Pid} (hcounts : phase'.Counts)
    (hends : phase'.ends = phase.ends) (hpids : phase'.pids = phase.pids ++ [pid]) :
    phase'.Owes h₀
      { h with
        children := Function.update h.children pid (some ⟨h.forks, false⟩)
        forks := h.forks + 1 } := by
  refine ⟨hcounts, howes.files, howes.forks.trans (Nat.le_succ _), hends ▸ howes.shut,
    hends ▸ howes.opened, fun other child hchild => ?_⟩
  rw [hpids, List.mem_append, List.mem_singleton]
  dsimp only at hchild
  rw [Function.update_apply] at hchild
  split at hchild
  · rename_i heq
    cases hchild
    exact .inr ⟨.inr heq, howes.forks⟩
  · exact (howes.children other child hchild).imp_right fun ⟨hmem, hle⟩ => ⟨.inl hmem, hle⟩

/-- An end that has been closed is what it was before the line: free. -/
theorem closed (howes : phase.Owes h₀ h) {fd : Fd} {rest : List Fd} (hcounts : phase'.Counts)
    (hends : phase.ends = fd :: rest) (hends' : phase'.ends = rest)
    (hpids : phase'.pids = phase.pids) :
    phase'.Owes h₀ { h with table := Function.update h.table fd none } := by
  refine ⟨hcounts, howes.files, howes.forks, fun fd' hfd => ?_, fun fd' hfd => ?_,
    hpids ▸ howes.children⟩
  · dsimp only
    rw [Function.update_apply]
    split
    · rename_i heq
      exact (howes.opened fd' (hends ▸ heq ▸ List.mem_cons_self)).1.symm
    · rename_i hne
      refine howes.shut fd' fun hmem => hfd (hends' ▸ ?_)
      rw [hends] at hmem
      exact (List.mem_cons.mp hmem).resolve_left hne
  · have hmem : fd' ∈ phase.ends := hends ▸ List.mem_cons_of_mem _ (hends' ▸ hfd)
    obtain ⟨hbefore, hnew⟩ := howes.opened fd' hmem
    refine ⟨hbefore, fun file hfile => hnew file ?_⟩
    dsimp only at hfile
    rw [Function.update_apply] at hfile
    split at hfile
    · cases hfile
    · exact hfile

/-- A process that has been waited for is gone. -/
theorem collected (howes : phase.Owes h₀ h) {pid : Pid} {rest : List Pid}
    {answer : (Request.wait pid).Answer} (hanswers : h.Answers (.wait pid) answer h')
    (hsettled : isInterruption answer = false) (hcounts : phase'.Counts)
    (hends : phase'.ends = phase.ends) (hpids : phase.pids = pid :: rest)
    (hpids' : phase'.pids = rest) : phase'.Owes h₀ h' := by
  -- an ending is told once, and a wait that fails finds nobody
  have hkeeps : h'.table = h.table ∧ h'.files = h.files ∧ h'.forks = h.forks ∧
      ∀ other child, h'.children other = some child →
        other ≠ pid ∧ h.children other = some child := by
    cases hanswers with
    | waited how live ended =>
      refine ⟨rfl, rfl, rfl, fun other child hchild => ?_⟩
      dsimp only at hchild
      rcases eq_or_ne other pid with rfl | hne
      · rw [Function.update_self] at hchild
        cases hchild
      · rw [Function.update_of_ne hne] at hchild
        exact ⟨hne, hchild⟩
    | interrupted => cases hsettled
    | lost cause other gone =>
      refine ⟨rfl, rfl, rfl, fun other child hchild => ⟨?_, hchild⟩⟩
      rintro rfl
      rw [gone] at hchild
      cases hchild
    | neutral is => cases is
  obtain ⟨htable, hfiles, hforks, hchildren⟩ := hkeeps
  refine ⟨hcounts, hfiles ▸ howes.files, hforks ▸ howes.forks, fun fd hfd => ?_, fun fd hfd => ?_,
    fun other child hchild => ?_⟩
  · exact htable ▸ howes.shut fd (hends ▸ hfd)
  · exact htable ▸ howes.opened fd (hends ▸ hfd)
  · obtain ⟨hne, hold⟩ := hchildren other child hchild
    refine (howes.children other child hold).imp_right fun ⟨hmem, hle⟩ => ⟨?_, hle⟩
    rw [hpids] at hmem
    exact hpids' ▸ (List.mem_cons.mp hmem).resolve_left hne

/-- **The step.** Behind every answer of every operating system, the phase that is reached owes
what has to be closed and collected, and nothing else. -/
theorem next (howes : phase.Owes h₀ h) {request : Request} {answer : request.Answer}
    (hmoves : phase.Moves l request answer phase') (hanswers : h.Answers request answer h')
    (hsettled : request.isRetried = true → isInterruption answer = false) :
    phase'.Owes h₀ h' := by
  have hcounts := howes.counts.next hmoves
  cases hmoves with
  | traced =>
    cases hanswers with
    | neutral is => exact howes.of_eq hcounts (ends_tracing ..) (pids_tracing ..)
  | untraced cause =>
    cases hanswers with
    | neutral is => exact howes.of_eq hcounts rfl rfl
  | @wired w left stages read write =>
    cases hanswers with
    | neutral is => cases is
    | piped _ _ freeRead freeWrite ne =>
      refine howes.piped freeRead freeWrite hcounts (fun fd => ?_) ?_
      · rw [ends_wiring]
        simp [ends, Wiring.fds, PipeEnds.toList]
      · exact pids_wiring l { w with pipes := w.pipes ++ [⟨read, write⟩] } _ left howes.counts
  | unwired cause =>
    cases hanswers with
    | neutral is => cases is
    | unpiped => exact howes.of_eq hcounts (ends_closing ..) (pids_closing ..)
  | @launched w handles stage rest pid =>
    have hcount : w.stages = (handles ++ [(⟨stage.index, pid⟩ : Handle)]).length + rest.length := by
      refine howes.counts.trans ?_
      rw [List.length_append, List.length_cons, List.length_singleton]
      omega
    have hpids : (launching l w (handles ++ [⟨stage.index, pid⟩]) rest).pids =
        handles.map Handle.pid ++ [pid] := by
      rw [pids_launching l w _ rest hcount, List.map_append]
      rfl
    cases hanswers with
    | neutral is => cases is
    | forked _ free =>
      exact howes.forked hcounts (ends_launching ..) hpids
  | unlaunched cause =>
    cases hanswers with
    | neutral is => cases is
    | unforked => exact howes.of_eq hcounts (ends_closing ..) (pids_closing ..)
  | @closed fd rest next answer =>
    cases hanswers with
    | neutral is => cases is
    | closed =>
      exact howes.closed hcounts rfl (ends_closing ..) (pids_closing ..)
  | killed answer =>
    cases hanswers with
    | neutral is => cases is
    | killed => exact howes.of_eq hcounts (ends_killing ..) (pids_killing ..)
  | reaped answer =>
    exact howes.collected hanswers (hsettled rfl) hcounts (ends_reaping ..) rfl (pids_reaping ..)
  | waited answer =>
    exact howes.collected hanswers (hsettled rfl) hcounts (ends_waiting ..) rfl (pids_waiting ..)

end Owes

end Owes

end Phase

/-! ### Whole runs -/

namespace Host

/-- An interruption of a call that is asked again changes nothing. -/
theorem Answers.eq_of_interrupted {h h' : Host} {request : Request} {answer : request.Answer}
    (hanswers : h.Answers request answer h') (hretried : request.isRetried = true)
    (hinterrupted : isInterruption answer = true) : h' = h := by
  cases hanswers with
  | unpiped => rfl
  | unforked => rfl
  | interrupted => rfl
  | lost cause other gone => cases cause <;> first | exact absurd rfl other | cases hinterrupted
  | piped => cases hinterrupted
  | forked => cases hinterrupted
  | waited => cases hinterrupted
  | closed => cases hretried
  | killed => cases hretried
  | neutral => rfl

variable {r : Runner} {line : String} {phase : Phase} {h₀ h h' : Host}
  {p' : Interaction (Except PipelineError Execution)}

/-- **Inversion.** A step on a phase leaves the shell where it is, or gets an answer that settles
what the phase asks for. -/
theorem Step.cases_phase (hstep : Step (phase.toInteraction r, h) (p', h')) :
    (p' = phase.toInteraction r ∧ (h' = h ∨ h.Passes h')) ∨ ∃ request answer phase',
      phase.Moves r.launcher request answer phase' ∧ h.Answers request answer h' ∧
      (request.isRetried = true → isInterruption answer = false) ∧
      p' = phase'.toInteraction r := by
  generalize hp : phase.toInteraction r = p at hstep
  cases hstep with
  | passes hpasses => exact .inl ⟨rfl, .inr hpasses⟩
  | @once request next answer _ _ hanswers =>
    obtain ⟨result, rfl⟩ | rfl | ⟨request', next', heq, hnext⟩ := Phase.toInteraction_cases r phase
    · cases hp
    · cases hp
    · rw [heq] at hp
      split at hp
      · cases hp
      · rename_i hretried
        cases hp
        obtain ⟨phase', hmoves, hphase⟩ := hnext answer
        exact .inr ⟨request, answer, phase', hmoves, hanswers, fun h => absurd h hretried, hphase⟩
  | @persist request next answer _ _ hanswers =>
    obtain ⟨result, rfl⟩ | rfl | ⟨request', next', heq, hnext⟩ := Phase.toInteraction_cases r phase
    · cases hp
    · cases hp
    · rw [heq] at hp
      split at hp
      · rename_i hretried
        cases hp
        cases hinterrupted : isInterruption answer with
        | true =>
          -- the call is asked again, on the same system
          refine .inl ⟨?_, .inl (hanswers.eq_of_interrupted hretried hinterrupted)⟩
          rw [Interaction.resume, if_pos hinterrupted]
        | false =>
          obtain ⟨phase', hmoves, hphase⟩ := hnext answer
          refine .inr ⟨request, answer, phase', hmoves, hanswers, fun _ => hinterrupted, ?_⟩
          rw [Interaction.resume, if_neg (by simp [hinterrupted]), hphase]
      · cases hp

/-- At every moment of a line, nothing but what is owed differs from the beginning. -/
theorem exists_owes_of_reaches {p : Interaction (Except PipelineError Execution)}
    (hreaches : Reaches (r.execute line, h₀) (p, h)) :
    ∃ phase : Phase, p = phase.toInteraction r ∧ phase.Owes h₀ h := by
  generalize hstate : (p, h) = state at hreaches
  induction hreaches generalizing p h with
  | refl =>
    cases hstate
    exact ⟨r.phase line, (Phase.toInteraction_phase r line).symm, Phase.owes_phase r line h₀⟩
  | @tail before _ _ hstep ih =>
    subst hstate
    obtain ⟨p₁, h₁⟩ := before
    obtain ⟨phase, rfl, howes⟩ := ih rfl
    obtain ⟨rfl, rfl | hpasses⟩ | ⟨request, answer, phase', hmoves, hanswers, hsettled, rfl⟩ :=
      hstep.cases_phase
    · exact ⟨phase, rfl, howes⟩
    · exact ⟨phase, rfl, howes.passes hpasses⟩
    · exact ⟨phase', rfl, howes.next hmoves hanswers hsettled⟩

/-- **Nothing remains.** Whatever the operating system does, when a line is over all descriptors
are what they were, and no process that was made for the line is there any more. So no later line
ever has a descriptor for a file that was opened for this one, nor one of its processes. -/
theorem nothing_remains {result : Except PipelineError Execution} (hsound : h₀.IsSound)
    (hreaches : Reaches (r.execute line, h₀) (.done result, h)) :
    (∀ fd, h.table fd = h₀.table fd) ∧
    (∀ pid child, h.children pid = some child → child.number < h₀.forks) ∧
    ∀ (r' : Runner) (line' : String) p' h', Reaches (r'.execute line', h) (p', h') →
      (∀ fd file, h'.table fd = some file → file < h₀.files ∨ h.files ≤ file) ∧
      ∀ pid child, h'.children pid = some child →
        child.number < h₀.forks ∨ h.forks ≤ child.number := by
  obtain ⟨phase, hphase, howes⟩ := exists_owes_of_reaches hreaches
  obtain rfl := Phase.eq_finished_of_toInteraction hphase.symm
  have htable : ∀ fd, h.table fd = h₀.table fd := fun fd => howes.shut fd List.not_mem_nil
  -- the last phase has nothing left to collect
  have hchildren : ∀ pid child, h.children pid = some child → child.number < h₀.forks := by
    intro pid child hchild
    obtain ⟨child₀, hchild₀, hnumber⟩ | ⟨hmem, -⟩ := howes.children pid child hchild
    · exact hnumber ▸ hsound.forks pid child₀ hchild₀
    · cases hmem
  refine ⟨htable, hchildren, fun r' line' p' h' hreaches' => ?_⟩
  obtain ⟨phase', -, howes'⟩ := exists_owes_of_reaches hreaches'
  refine ⟨fun fd file hfile => ?_, fun pid child hchild => ?_⟩
  · -- a descriptor of the next line is an end of its own, or as old as the shell's
    by_cases hfd : fd ∈ phase'.ends
    · exact .inr ((howes'.opened fd hfd).2 file hfile)
    · rw [howes'.shut fd hfd, htable fd] at hfile
      exact .inl (hsound.files fd file hfile)
  · obtain ⟨child₀, hchild₀, hnumber⟩ | ⟨-, hle⟩ := howes'.children pid child hchild
    · exact .inl (hnumber ▸ hchildren pid child₀ hchild₀)
    · exact .inr hle

/-- An answer that settles what a phase asks for is a step. -/
theorem Step.of_moves {phase' : Phase} {request : Request} {answer : request.Answer}
    (hmoves : phase.Moves r.launcher request answer phase')
    (hanswers : h.Answers request answer h') (hsettled : isInterruption answer = false) :
    Step (phase.toInteraction r, h) (phase'.toInteraction r, h') := by
  obtain ⟨result, rfl⟩ | rfl | ⟨request', next, heq, hnext⟩ := Phase.toInteraction_cases r phase
  · cases hmoves
  · cases hmoves
  · obtain ⟨phase'', hmoves', -⟩ := hnext (.error .eintr)
    obtain rfl := hmoves.request_eq hmoves'
    obtain ⟨phase'', hmoves'', hphase⟩ := hnext answer
    obtain rfl := hmoves.phase_eq hmoves''
    rw [heq, ← hphase]
    cases hretried : request.isRetried with
    | false => exact .once hanswers
    | true =>
      have hstep : Step (.persist request next, h) (Interaction.resume request next answer, h') :=
        .persist hanswers
      rwa [Interaction.resume, if_neg (by simp [hsettled])] at hstep

/-- A system with the standard streams, on which nothing has been done. -/
def fresh : Host where
  table fd := if 0 ≤ fd ∧ fd ≤ Fd.stderr then some fd.toNat else none
  children _ := none
  files := 3
  forks := 0

/-- The system once all processes have ended. -/
def settle (h : Host) : Host where
  table := h.table
  children pid := (h.children pid).map fun child => { child with ended := true }
  files := h.files
  forks := h.forks

theorem passes_settle (h : Host) : h.Passes h.settle where
  table := rfl
  files := rfl
  forks := rfl
  children pid child' hchild' := by
    obtain ⟨child, hchild, rfl⟩ := Option.map_eq_some_iff.mp hchild'
    exact ⟨child, hchild, rfl, fun _ => rfl⟩

/-- Two stages that run and are waited for. -/
theorem nothing_remains_two_stages : ∃ report h,
    Reaches (({} : Runner).execute "a|b", fresh) (.done (.ok (.completed report)), h) ∧
    (∀ fd, h.table fd = fresh.table fd) ∧ ∀ pid, h.children pid = none := by
  have hphase : ({} : Runner).phase "a|b" =
      .wire ⟨2, []⟩ 0 [⟨0, "a", ["a"]⟩, ⟨1, "b", ["b"]⟩] := rfl
  have hreaches : ∃ report h, Reaches ((({} : Runner).phase "a|b").toInteraction {}, fresh)
      ((Phase.finished (.ok (.completed report))).toInteraction {}, h) := by
    rw [hphase]
    exact ⟨_, _, .head (.of_moves (.wired 3 4) (.piped 3 4 rfl rfl (by decide)) rfl) <|
      .head (.of_moves (.launched 10) (.forked 10 rfl) rfl) <|
      .head (.of_moves (.launched 11) (.forked 11 rfl) rfl) <|
      .head (.of_moves (.closed (.ok ())) (.closed _) rfl) <|
      .head (.of_moves (.closed (.ok ())) (.closed _) rfl) <|
      .head (.passes (passes_settle _)) <|
      .head (.of_moves (.waited (.ok (.exited 0))) (.waited (.exited 0) rfl rfl) rfl) <|
      .head (.of_moves (.waited (.ok (.exited 0))) (.waited (.exited 0) rfl rfl) rfl) .refl⟩
  obtain ⟨report, h, hreaches⟩ := hreaches
  rw [Phase.toInteraction_phase] at hreaches
  have hsound : fresh.IsSound := by
    refine ⟨fun fd file hfile => ?_, nofun⟩
    obtain ⟨⟨hnonneg, hle⟩, heq⟩ := Option.ite_none_right_eq_some.mp hfile
    obtain rfl := Option.some.inj heq
    exact (Int.toNat_lt hnonneg).mpr (Int.lt_add_one_of_le hle)
  obtain ⟨htable, hchildren, -⟩ := nothing_remains hsound hreaches
  refine ⟨report, h, hreaches, htable, fun pid => Option.eq_none_iff_forall_ne_some.mpr ?_⟩
  exact fun child hchild => Nat.not_lt_zero _ (hchildren pid child hchild)

end Host

end PipeShell
