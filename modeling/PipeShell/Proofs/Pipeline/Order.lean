import PipeShell.Proofs.Machine.Wired
import PipeShell.Proofs.Pipeline.CleanUp

/-!
# The order of the calls

A shell that waits for a process while it holds an end of a pipe may wait for ever, since the
process may be waiting for that end to be closed. So the calls that are made for a line come in a
fixed order, wherever something fails: trace, pipes, processes, closing, signals, waits.

* `Request.place` numbers the kinds of calls in this order, and `Phase.place` the phases.
* `Phase.Knows` says what a phase tells of the answers before it, and `Record` is what is kept by
  every answer (`Record.moves`).
* `Runner.calls_in_order` is the theorem, for every moment of a line.
-/

namespace PipeShell

/-! ### Places -/

/-- Where a call has its place among those for a line. -/
def Request.place : Request → Nat
  | writeAll _ _ => 0
  | pipe => 1
  | fork _ => 2
  | close _ => 3
  | kill _ _ => 4
  | wait _ => 5
  | _ => 6

namespace Phase

/-- The place of what a phase asks for. -/
def place : Phase → Nat
  | trace _ _ _ => 0
  | wire _ _ _ => 1
  | launch _ _ _ _ => 2
  | close _ _ _ => 3
  | kill _ _ _ _ => 4
  | reap _ _ _ => 5
  | wait _ _ _ => 5
  | finished _ => 5
  | aborted => 0

section Behind

variable (l : Launcher) (w : Wiring) (handles : List Handle) (stages : List Stage)

theorem place_reaping (error : LaunchError) : (reaping error handles).place = 5 := by
  cases handles <;> rfl

theorem place_waiting (report : Report) : (waiting report handles).place = 5 := by
  cases handles <;> rfl

theorem le_place_killing (error : LaunchError) (rest : List Handle) :
    4 ≤ (killing handles error rest).place := by
  cases rest with
  | nil => rw [killing, place_reaping]; decide
  | cons h rest => exact le_rfl

theorem le_place_aftermath (next : Aftermath) : 4 ≤ next.phase.place := by
  cases next with
  | fail error => exact Nat.le_succ 4
  | stop status => exact Nat.le_succ 4
  | cull handles error => exact le_place_killing handles error handles
  | collect handles => rw [Aftermath.phase, place_waiting]; decide

theorem le_place_closing (next : Aftermath) (fds : List Fd) : 3 ≤ (closing next fds).place := by
  cases fds with
  | nil => exact Nat.le_of_succ_le (le_place_aftermath next)
  | cons fd rest => exact le_rfl

theorem le_place_launching : 2 ≤ (launching l w handles stages).place :=
  launching_cases l w handles stages (fun _ _ _ => le_rfl) fun next _ =>
    Nat.le_of_succ_le (le_place_closing next w.fds)

theorem le_place_wiring (left : Nat) : 1 ≤ (wiring l stages w left).place := by
  cases left with
  | zero => exact Nat.le_of_succ_le (le_place_launching l w [] stages)
  | succ left => exact le_rfl

end Behind

/-- A phase asks for what has its place, and no answer leads back. -/
theorem Moves.place {l : Launcher} {phase phase' : Phase} {r : Request} {answer : r.Answer}
    (h : phase.Moves l r answer phase') : r.place = phase.place ∧ phase.place ≤ phase'.place := by
  cases h with
  | traced => exact ⟨rfl, Nat.zero_le _⟩
  | untraced cause => exact ⟨rfl, le_rfl⟩
  | wired read write => exact ⟨rfl, le_place_wiring _ _ _ _⟩
  | unwired cause => exact ⟨rfl, Nat.le_of_succ_le (Nat.le_of_succ_le (le_place_closing _ _))⟩
  | launched pid => exact ⟨rfl, le_place_launching _ _ _ _⟩
  | unlaunched cause => exact ⟨rfl, Nat.le_of_succ_le (le_place_closing _ _)⟩
  | closed answer => exact ⟨rfl, le_place_closing _ _⟩
  | killed answer => exact ⟨rfl, le_place_killing _ _ _⟩
  | reaped answer => exact ⟨rfl, (place_reaping _ _).ge⟩
  | waited answer => exact ⟨rfl, (place_waiting _ _).ge⟩

/-! ### What a phase tells of the answers before it -/

/-- Whether two ends have been made for every pair of neighbours among the stages. -/
def AllMade (stages : List Stage) (past : List ShellReply) : Prop :=
  (endsMade past).length = 2 * (stages.length - 1)

end Phase

/-- What an aftermath tells of the answers before it: unless a pipe has been refused, all have been
made. -/
def Aftermath.Knows (stages : List Stage) (past : List ShellReply) : Aftermath → Prop
  | fail _ => True
  | _ => Phase.AllMade stages past

namespace Phase

/-- What a phase tells of the answers before it, on a line with these stages. The stage that is
launched comes right behind those that have a process. -/
def Knows (stages : List Stage) (past : List ShellReply) : Phase → Prop
  | trace _ _ read => read.toOption.getD [] = stages ∧ endsMade past = [] ∧ forks past = []
  | wire w left rest => rest = stages ∧ w.stages = stages.length ∧
      w.pipes.length + left + 2 = stages.length ∧ w.fds = endsMade past ∧ forks past = []
  | launch w _ stage rest => w.IsComplete stages ∧ w.fds = endsMade past ∧
      stages.drop (forks past).length = stage :: rest
  | close _ _ next => next.Knows stages past
  | finished _ => True
  | aborted => True
  | _ => AllMade stages past

section Knows

variable {l : Launcher} {w : Wiring} {handles : List Handle} {stages rest : List Stage}
  {past : List ShellReply}

theorem knows_reaping (error : LaunchError) (h : AllMade stages past) :
    (reaping error handles).Knows stages past := by
  cases handles with
  | nil => trivial
  | cons handle rest => exact h

theorem knows_killing (error : LaunchError) (rest : List Handle) (h : AllMade stages past) :
    (killing handles error rest).Knows stages past := by
  cases rest with
  | nil => exact knows_reaping error h
  | cons handle rest => exact h

theorem knows_waiting (report : Report) (h : AllMade stages past) :
    (waiting report handles).Knows stages past := by
  cases handles with
  | nil => trivial
  | cons handle rest => exact h

theorem knows_closing {next : Aftermath} (h : next.Knows stages past) (fds : List Fd) :
    (closing next fds).Knows stages past := by
  cases fds with
  | cons fd rest => exact h
  | nil =>
    cases next with
    | fail error => trivial
    | stop status => trivial
    | cull handles error => exact knows_killing error handles h
    | collect handles => exact knows_waiting {} h

theorem allMade_of_isComplete (hcomplete : w.IsComplete stages) (hfds : w.fds = endsMade past) :
    AllMade stages past := by
  obtain ⟨-, hpipes⟩ := hcomplete
  have hlength := w.length_fds
  rw [AllMade, ← hfds]
  omega

theorem knows_launching (hcomplete : w.IsComplete stages) (hfds : w.fds = endsMade past)
    (hdrop : stages.drop (forks past).length = rest) :
    (launching l w handles rest).Knows stages past := by
  refine launching_cases l w handles rest (fun stage rest' hrest => ?_) fun next hends => ?_
  · exact ⟨hcomplete, hfds, hdrop.trans hrest⟩
  · refine knows_closing ?_ w.fds
    cases next with
    | fail error => trivial
    | _ => exact allMade_of_isComplete hcomplete hfds

theorem knows_wiring {left : Nat} (hcount : w.stages = stages.length)
    (hleft : w.pipes.length + left + 1 = stages.length) (hfds : w.fds = endsMade past)
    (hforks : forks past = []) : (wiring l stages w left).Knows stages past := by
  cases left with
  | zero =>
    refine knows_launching ⟨hcount, hleft⟩ hfds ?_
    rw [hforks, List.length_nil, List.drop_zero]
  | succ left => exact ⟨rfl, hcount, by omega, hfds, hforks⟩

theorem knows_tracing {read : Except LineError (List Stage)} {texts : List String}
    (hread : read.toOption.getD [] = stages) (hmade : endsMade past = [])
    (hforks : forks past = []) : (tracing l read texts).Knows stages past := by
  cases texts with
  | cons text rest => exact ⟨hread, hmade, hforks⟩
  | nil =>
    match read with
    | .error e => trivial
    | .ok [] => trivial
    | .ok (stage :: rest) =>
      obtain rfl : stage :: rest = stages := hread
      exact knows_wiring rfl (by simp) hmade.symm hforks

/-- What a phase tells depends on the pipes and the processes alone. -/
theorem Knows.congr {phase : Phase} {past' : List ShellReply} (h : phase.Knows stages past)
    (hmade : endsMade past' = endsMade past) (hforks : forks past' = forks past) :
    phase.Knows stages past' := by
  have hall : AllMade stages past → AllMade stages past' := by
    intro hall
    rwa [AllMade, hmade]
  cases phase with
  | trace text rest read => exact ⟨h.1, hmade.trans h.2.1, hforks.trans h.2.2⟩
  | wire w left rest =>
    obtain ⟨hrest, hcount, hleft, hfds, hnone⟩ := h
    exact ⟨hrest, hcount, hleft, hfds.trans hmade.symm, hforks.trans hnone⟩
  | launch w handles stage rest =>
    obtain ⟨hcomplete, hfds, hdrop⟩ := h
    exact ⟨hcomplete, hfds.trans hmade.symm, hforks ▸ hdrop⟩
  | close fd rest next =>
    cases next with
    | fail error => trivial
    | _ => exact hall h
  | finished result => trivial
  | aborted => trivial
  | _ => exact hall h

/-- **The step.** What a phase tells of the answers before it, the next one tells with the answer
behind which it comes. -/
theorem Knows.next {phase phase' : Phase} {r : Request} {answer : r.Answer}
    (h : phase.Knows stages past) (hmoves : phase.Moves l r answer phase') :
    phase'.Knows stages (past ++ [⟨r, answer⟩]) := by
  have hsame : (ShellReply.endsMade ⟨r, answer⟩ = []) → AllMade stages past →
      AllMade stages (past ++ [⟨r, answer⟩]) := by
    intro hnone hall
    rwa [AllMade, endsMade_snoc past hnone]
  cases hmoves with
  | traced =>
    obtain ⟨hread, hmade, hforks⟩ := h
    exact knows_tracing hread ((endsMade_snoc past rfl).trans hmade)
      ((forks_snoc past rfl).trans hforks)
  | untraced cause => trivial
  | @wired w left rest read write =>
    obtain ⟨rfl, hcount, hleft, hfds, hforks⟩ := h
    refine knows_wiring hcount ?_ ?_ ((forks_snoc past rfl).trans hforks)
    · dsimp only
      rw [List.length_append, List.length_singleton]
      omega
    · change (w.snoc ⟨read, write⟩).fds = _
      rw [Wiring.fds_snoc, hfds, endsMade_append]
      rfl
  | unwired cause =>
    have hrefused : Aftermath.Knows stages (past ++ [⟨.pipe, .error cause⟩])
      (.fail (.pipe cause)) := trivial
    exact knows_closing hrefused _
  | @launched w handles stage rest pid =>
    obtain ⟨hcomplete, hfds, hdrop⟩ := h
    refine knows_launching hcomplete (hfds.trans (endsMade_snoc past rfl).symm) ?_
    have hforks : (forks (past ++ [⟨.fork (l.plan w stage), .ok pid⟩])).length =
        (forks past).length + 1 := by
      rw [forks_append, List.length_append]
      rfl
    rw [hforks, ← List.tail_drop, hdrop, List.tail_cons]
  | unlaunched cause =>
    obtain ⟨hcomplete, hfds, -⟩ := h
    refine knows_closing ?_ _
    exact hsame rfl (allMade_of_isComplete hcomplete hfds)
  | @closed fd rest next answer =>
    refine knows_closing ?_ _
    cases next with
    | fail error => trivial
    | _ => exact hsame rfl h
  | killed answer => exact knows_killing _ _ (hsame rfl h)
  | reaped answer => exact knows_reaping _ (hsame rfl h)
  | waited answer => exact knows_waiting _ (hsame rfl h)

end Knows

/-- **No end is lost.** The ends that were still to be closed, and those that an answer adds, are
the one that it closes and those that are then to be closed, in this order. -/
theorem Moves.ends {l : Launcher} {phase phase' : Phase} {r : Request} {answer : r.Answer}
    (h : phase.Moves l r answer phase') :
    phase.ends ++ endsMade [⟨r, answer⟩] = endsClosed [⟨r, answer⟩] ++ phase'.ends := by
  cases h with
  | traced => exact (ends_tracing l _ _).symm
  | untraced cause => rfl
  | @wired w left stages read write =>
    rw [ends_wiring]
    exact (w.fds_snoc ⟨read, write⟩).symm
  | unwired cause =>
    rw [ends_closing]
    exact List.append_nil _
  | launched pid =>
    rw [ends_launching]
    exact List.append_nil _
  | unlaunched cause =>
    rw [ends_closing]
    exact List.append_nil _
  | closed answer =>
    rw [ends_closing]
    exact List.append_nil _
  | killed answer => exact (ends_killing _ _ _).symm
  | reaped answer => exact (ends_reaping _ _).symm
  | waited answer => exact (ends_waiting _ _).symm

end Phase

/-! ### Every moment of a line -/

/-- What is kept by every answer: the calls have come in order, the ends that have been made are
those that have been closed and those that are still to be, and the phase knows of the rest. -/
structure Record (stages : List Stage) (past : List ShellReply) (phase : Phase) : Prop where
  sorted : past.Pairwise fun e e' => e.1.place ≤ e'.1.place
  below : ∀ e ∈ past, e.1.place ≤ phase.place
  ends : endsMade past = endsClosed past ++ phase.ends
  knows : phase.Knows stages past

namespace Record

variable {stages : List Stage} {past : List ShellReply} {phase phase' : Phase} {l : Launcher}

/-- What a phase asks for comes in order. -/
theorem sorted_snoc (h : Record stages past phase) {e : ShellReply}
    (hplace : e.1.place = phase.place) :
    (past ++ [e]).Pairwise fun e e' => e.1.place ≤ e'.1.place := by
  refine List.pairwise_append.mpr ⟨h.sorted, List.pairwise_singleton _ _, fun e' he' e'' he'' => ?_⟩
  obtain rfl := List.mem_singleton.mp he''
  rw [hplace]
  exact h.below e' he'

theorem below_snoc (h : Record stages past phase) {e : ShellReply}
    (hplace : e.1.place = phase.place) (hle : phase.place ≤ phase'.place) :
    ∀ e' ∈ past ++ [e], e'.1.place ≤ phase'.place := by
  intro e' he'
  rw [List.mem_append, List.mem_singleton] at he'
  rcases he' with he' | rfl
  · exact Nat.le_trans (h.below e' he') hle
  · rw [hplace]
    exact hle

/-- **The step.** -/
theorem moves (h : Record stages past phase) {e : ShellReply}
    (hmoves : phase.Moves l e.1 e.2 phase') :
    Record stages (past ++ [e]) (if e.settles then phase' else phase) := by
  obtain ⟨hplace, hle⟩ := hmoves.place
  cases hsettles : e.settles with
  | true =>
    rw [if_pos rfl]
    refine ⟨h.sorted_snoc hplace, h.below_snoc hplace hle, ?_, h.knows.next hmoves⟩
    rw [endsMade_append, endsClosed_append, h.ends, List.append_assoc, hmoves.ends,
      List.append_assoc]
  | false =>
    obtain ⟨hmade, hclosed⟩ := endsMade_and_endClosed?_of_not_settles hsettles
    have hfork := (fork?_and_wait?_of_not_settles hsettles).1
    have hnone : endsClosed [e] = [] := by simp [endsClosed, hclosed]
    rw [if_neg Bool.false_ne_true]
    refine ⟨h.sorted_snoc hplace, h.below_snoc hplace le_rfl, ?_, ?_⟩
    · rw [endsMade_snoc past hmade, endsClosed_append, hnone, List.append_nil, h.ends]
    · exact h.knows.congr (endsMade_snoc past hmade) (forks_snoc past hfork)

end Record

namespace Runner

open Scene

variable {r : Runner} {line : String} {scene scene' : Scene} {replies : List ShellReply}
  {p : Interaction (Except PipelineError Execution)}

/-- **The run.** At every moment of a line there is a phase that tells of all answers so far. -/
theorem exists_record_of_plays (h : Plays Takes (r.execute line, scene) replies (p, scene')) :
    ∃ phase : Phase, p = phase.toInteraction r ∧
      Record (stagesOf r.settings line) replies phase := by
  have hstart : Record (stagesOf r.settings line) [] (r.phase line) :=
    ⟨.nil, nofun, (Phase.ends_tracing _ _ _).symm, Phase.knows_tracing rfl rfl rfl⟩
  rw [← Phase.toInteraction_phase] at h
  refine h.records (fun past (s : Interaction (Except PipelineError Execution) × Scene) =>
    ∃ phase : Phase, s.1 = phase.toInteraction r ∧ Record (stagesOf r.settings line) past phase)
    ?_ ⟨_, rfl, hstart⟩
  rintro past ⟨_, scene⟩ e t ⟨phase, rfl, hrecord⟩ htakes
  obtain ⟨phase', hmoves, rfl⟩ := exists_moves_of_takes htakes
  exact ⟨_, rfl, hrecord.moves hmoves⟩

/-- The phase in which a call is made, with what the line has to do with before it and behind it. -/
theorem exists_moves_of_plays {before after : List ShellReply} {e : ShellReply}
    (h : Plays Takes (r.execute line, scene) (before ++ e :: after) (p, scene')) :
    ∃ phase phase' middle q, Record (stagesOf r.settings line) before phase ∧
      phase.Moves r.launcher e.1 e.2 phase' ∧
      Plays Takes (r.execute line, scene) before (phase.toInteraction r, middle) ∧
      Plays Takes (q, middle.after e.1 e.2) after (p, scene') := by
  obtain ⟨⟨_, middle⟩, t, hbefore, htakes, hafter⟩ := h.exists_takes
  obtain ⟨phase, rfl, hrecord⟩ := exists_record_of_plays hbefore
  obtain ⟨phase', hmoves, rfl⟩ := exists_moves_of_takes htakes
  exact ⟨phase, phase', middle, _, hrecord, hmoves, hbefore, hafter⟩

/-- **What is known when a process is asked for**: it is for the stage right behind those that have
one, and all pipes of the line are there. -/
theorem of_plays_fork {before after : List ShellReply} {plan : Child}
    {answer : (Request.fork plan).Answer}
    (h : Plays Takes (r.execute line, scene) (before ++ ⟨.fork plan, answer⟩ :: after)
      (p, scene')) :
    ∃ w stage, w.IsComplete (stagesOf r.settings line) ∧ w.fds = endsMade before ∧
      (stagesOf r.settings line)[(forks before).length]? = some stage ∧
      plan = r.launcher.plan w stage := by
  obtain ⟨phase, phase', middle, q, hrecord, hmoves, -, -⟩ := exists_moves_of_plays h
  have hlaunch : ∀ {w : Wiring} {handles : List Handle} {stage : Stage} {rest : List Stage},
      (Phase.launch w handles stage rest).Knows (stagesOf r.settings line) before →
      w.IsComplete (stagesOf r.settings line) ∧ w.fds = endsMade before ∧
        (stagesOf r.settings line)[(forks before).length]? = some stage := by
    rintro w handles stage rest ⟨hcomplete, hfds, hdrop⟩
    refine ⟨hcomplete, hfds, ?_⟩
    rw [← List.head?_drop, hdrop, List.head?_cons]
  change phase.Moves r.launcher (.fork plan) answer phase' at hmoves
  cases hmoves with
  | @launched w _ stage _ pid =>
    obtain ⟨hcomplete, hfds, hstage⟩ := hlaunch hrecord.knows
    exact ⟨w, stage, hcomplete, hfds, hstage, rfl⟩
  | @unlaunched w _ stage _ cause =>
    obtain ⟨hcomplete, hfds, hstage⟩ := hlaunch hrecord.knows
    exact ⟨w, stage, hcomplete, hfds, hstage, rfl⟩

/-- **What is known when a process is waited for**: all pipes of the line have been made, and all
their ends have been closed. -/
theorem of_plays_wait {before after : List ShellReply} {pid : Pid}
    {answer : (Request.wait pid).Answer}
    (h : Plays Takes (r.execute line, scene) (before ++ ⟨.wait pid, answer⟩ :: after) (p, scene')) :
    endsClosed before = endsMade before ∧
      (endsMade before).length = 2 * ((stagesOf r.settings line).length - 1) := by
  obtain ⟨phase, phase', middle, q, hrecord, hmoves, -, -⟩ := exists_moves_of_plays h
  change phase.Moves r.launcher (.wait pid) answer phase' at hmoves
  have hwaits : phase.ends = [] ∧ Phase.AllMade (stagesOf r.settings line) before := by
    have hknows := hrecord.knows
    cases hmoves with
    | reaped answer => exact ⟨rfl, hknows⟩
    | waited answer => exact ⟨rfl, hknows⟩
  refine ⟨?_, hwaits.2⟩
  rw [hrecord.ends, hwaits.1, List.append_nil]

/-- **The calls for a line come in order**, at every moment of every line and whatever the operating
system answers: the trace, the pipes, the processes, the closing of the ends, the signals and the
waits. A process is only asked for on behalf of the stage right behind those that have one. The ends
are closed one by one in the order in which they were made, each of them once by the end of the
line; and when a process is waited for, both ends of all pipes of the line have been made and
closed. -/
theorem calls_in_order (h : Plays Takes (r.execute line, scene) replies (p, scene')) :
    (replies.Pairwise fun e e' => e.1.place ≤ e'.1.place) ∧
    endsClosed replies <+: endsMade replies ∧
    (∀ result, p = .done result → endsClosed replies = endsMade replies) ∧
    ∀ before e after, replies = before ++ e :: after →
      (∀ plan, e.1 = .fork plan → ∃ w stage, w.IsComplete (stagesOf r.settings line) ∧
        w.fds = endsMade before ∧
        (stagesOf r.settings line)[(forks before).length]? = some stage ∧
        plan = r.launcher.plan w stage) ∧
      ∀ pid, e.1 = .wait pid → endsClosed before = endsMade before ∧
        (endsMade before).length = 2 * ((stagesOf r.settings line).length - 1) := by
  obtain ⟨phase, rfl, hrecord⟩ := exists_record_of_plays h
  refine ⟨hrecord.sorted, ⟨phase.ends, hrecord.ends.symm⟩, ?_, ?_⟩
  · intro result hdone
    obtain rfl := Phase.eq_finished_of_toInteraction hdone
    rw [hrecord.ends]
    exact (List.append_nil _).symm
  · rintro before ⟨request, answer⟩ after rfl
    constructor
    · rintro plan rfl
      exact of_plays_fork h
    · rintro pid rfl
      exact of_plays_wait h

/-- The calls for two stages of which the second one is refused its process. -/
theorem calls_in_order_refused :
    (refusedReplies.Pairwise fun e e' => e.1.place ≤ e'.1.place) ∧
    endsClosed refusedReplies = [3, 4] ∧
    (∃ w stage, w.IsComplete (stagesOf {} "a | b") ∧ w.fds = [3, 4] ∧
      (stagesOf {} "a | b")[1]? = some stage ∧ readerPlan = (Runner.launcher {}).plan w stage) ∧
    endsClosed (refusedReplies.take 7) = [3, 4] := by
  obtain ⟨scene', hplays⟩ := plays_refusedReplies
  obtain ⟨hsorted, -, hdone, hmoment⟩ := calls_in_order hplays
  obtain ⟨hfork, -⟩ := hmoment (refusedReplies.take 3) _ _ rfl
  obtain ⟨-, hwait⟩ := hmoment (refusedReplies.take 7) _ _ rfl
  exact ⟨hsorted, hdone _ rfl, hfork _ rfl, (hwait _ rfl).1⟩

end Runner

end PipeShell
