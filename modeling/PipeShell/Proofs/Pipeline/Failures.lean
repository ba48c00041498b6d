import Mathlib.Data.Fintype.EquivFin
import Mathlib.Data.List.Nodup
import PipeShell.Proofs.Pipeline.Occurrences

/-!
# A stage that cannot run spoils only itself

Streams that cannot be installed, programs that are missing or cannot be started, programs that fail
or are killed: all of this may strike any stages of a line at once, while others are still being
launched. Every process of the line has its lot here, and what happens to the processes and to the
shell comes in any order.

* `Lot.Befits` says which lots the process of a stage may have.
* `Lots.exists_fares_of_plays` and `Lots.of_running` are what is known of a process at any moment,
  and of its program.
* `Lots.AreReported` says that a line is completed and reported as its lots demand, and
  `Lots.areReported_of_plays` that a line that is over is.
* `Lots.exists_take_of_plays` says that a line that is not over can go on.
* `Runner.failures_stay_alone` puts these together.
-/

namespace PipeShell

/-! ### Which lots there may be -/

/-- Whether the process of a stage may have a lot. A stream can only be refused that the stage has
in place of the shell's own, and not because of an interruption; and what becomes of a program is
something that a wait can tell. -/
def Lot.Befits (outer : Outer) (count index : Nat) : Lot → Prop
  | noStream .stdin cause _ => cause ≠ .eintr ∧ (0 < index ∨ outer.source.isSome)
  | noStream .stdout cause _ => cause ≠ .eintr ∧ (index + 1 < count ∨ outer.sink.isSome)
  | noProgram _ _ => True
  | runs how => ∃ status, StageStatus.ofEnding how = .ok status

/-- How the process of a stage ends: the terminator's at once. -/
def Stage.ending (stage : Stage) (terminator : String) (lot : Lot) : Ending :=
  if stage.isTerminator terminator then .exited 0 else lot.ending

/-- How a stage is reported. -/
def Stage.status (stage : Stage) (terminator : String) (lot : Lot) : StageStatus :=
  if stage.isTerminator terminator then .exited 0 else lot.status

section Befits

variable {w : Wiring} {outer : Outer} {stages : List Stage} {index : Nat} {lot : Lot}
  {foreign : List Fd}

/-- Every stage but the first reads from a pipe. -/
theorem Wiring.isSome_endsWithin_stdin (hcomplete : w.IsComplete stages)
    (hindex : index < stages.length) (h : 0 < index ∨ outer.source.isSome) :
    (w.endsWithin outer index).stdin.isSome := by
  obtain ⟨hstages, hpipes⟩ := hcomplete
  cases index with
  | zero =>
    rw [endsWithin_stdin_zero]
    exact h.resolve_left (Nat.lt_irrefl 0)
  | succ i =>
    obtain ⟨fd, hfd⟩ := w.exists_end?_eq_some .read (show i < w.pipes.length by omega)
    rw [endsWithin_stdin_succ hfd]
    rfl

/-- Every stage but the last writes to a pipe. -/
theorem Wiring.isSome_endsWithin_stdout (hcomplete : w.IsComplete stages)
    (hindex : index < stages.length) (h : index + 1 < stages.length ∨ outer.sink.isSome) :
    (w.endsWithin outer index).stdout.isSome := by
  obtain ⟨hstages, hpipes⟩ := hcomplete
  rcases Nat.lt_or_ge index w.pipes.length with hlt | hge
  · obtain ⟨fd, hfd⟩ := w.exists_end?_eq_some .write hlt
    rw [endsWithin_stdout hfd]
    rfl
  · rw [endsWithin_stdout_last (by omega) hge]
    exact h.resolve_left (by omega)

/-- A lot that befits a stage suits the plan of its process. -/
theorem Lot.Befits.suits (h : lot.Befits outer stages.length index)
    (hcomplete : w.IsComplete stages) (hindex : index < stages.length) :
    lot.Suits (Child.preparation (w.endsWithin outer index).stdin
      (w.endsWithin outer index).stdout foreign) where
  plain s hs := Child.isPreparing_of_mem_preparation hs
  refused stream cause heard hlot := by
    subst hlot
    cases stream with
    | stdin =>
      obtain ⟨hcause, hgiven⟩ := h
      obtain ⟨fd, hfd⟩ := Option.isSome_iff_exists.mp
        (Wiring.isSome_endsWithin_stdin hcomplete hindex hgiven)
      exact ⟨hcause, fd, by simp [Child.preparation, Child.installs, hfd]⟩
    | stdout =>
      obtain ⟨hcause, hgiven⟩ := h
      obtain ⟨fd, hfd⟩ := Option.isSome_iff_exists.mp
        (Wiring.isSome_endsWithin_stdout hcomplete hindex hgiven)
      exact ⟨hcause, fd, by simp [Child.preparation, Child.installs, hfd]⟩

end Befits

/-- Whether all processes of the stages of a line may have their lots. Nothing is asked where a
process has only to leave. -/
def Lots.Befit (lots : Lots) (r : Runner) (stages : List Stage) : Prop :=
  ∀ i stage, stages[i]? = some stage → stage.isTerminator r.settings.terminator = false →
    (lots i).Befits r.outer stages.length i

namespace Lots

variable {lots : Lots} {r : Runner} {line : String} {stages : List Stage}
  {table : DescriptorTable} {files : Nat} {occurrences : List Occurrence}
  {p : Interaction (Except PipelineError Execution)} {scene : Scene}

/-! ### What is known of a process -/

/-- A process at any moment of a line: it has gone its way from where it has been made. -/
theorem exists_stage_of_plays (hread : (parse r.settings line).stages = .ok stages)
    (h : Plays lots.Take (r.execute line, ⟨table, files, []⟩) occurrences (p, scene)) {i : Nat}
    {w : Worker} (hw : scene.workers[i]? = some w) :
    ∃ stage wiring pid events, stages[i]? = some stage ∧ stage.index = i ∧
      wiring.IsComplete stages ∧ wiring.fds = endsMade (conversation occurrences) ∧
      Plays (lots i).Takes ⟨pid, table.piped files (endsMade (conversation occurrences)),
        .preparing (r.launcher.plan wiring stage)⟩ events w := by
  obtain ⟨forked, hplays, hled⟩ := exists_forked_of_plays h
  have hi : i < forked.length := hled.length_eq ▸ (List.getElem?_eq_some_iff.mp hw).1
  obtain ⟨events, hevents⟩ := hled.each i _ w (List.getElem?_eq_getElem hi) hw
  obtain ⟨stage, wiring, hstage, hcomplete, hfds, hmade⟩ :=
    Runner.exists_stage_of_plays hplays (List.getElem?_eq_getElem hi)
  have hindex := index_of_getElem?_stagesOf _ stage hstage
  rw [stagesOf_eq hread] at hstage hcomplete
  rw [hmade] at hevents
  exact ⟨stage, wiring, _, events, hstage, hindex, hcomplete, hfds, hevents⟩

/-- What the process of a stage does that is not the terminator. -/
theorem plan_eq_preparation {stage : Stage} (wiring : Wiring)
    (hprogram : stage.isTerminator r.settings.terminator = false) :
    r.launcher.plan wiring stage = Child.preparation (wiring.endsWithin r.outer stage.index).stdin
      (wiring.endsWithin r.outer stage.index).stdout (wiring.fds ++ r.outer.toList) ++
        [.exec stage.words] := by
  rw [← Child.plan_eq_preparation]
  exact if_neg (Bool.eq_false_iff.mp hprogram)

/-- **How far a process has come** at any moment of a line. -/
theorem exists_fares_of_plays (hread : (parse r.settings line).stages = .ok stages)
    (hlots : lots.Befit r stages)
    (h : Plays lots.Take (r.execute line, ⟨table, files, []⟩) occurrences (p, scene)) {i : Nat}
    {w : Worker} (hw : scene.workers[i]? = some w) :
    ∃ stage prep, stages[i]? = some stage ∧ (lots i).Fares prep stage.words
      (stage.ending r.settings.terminator (lots i)) w.life := by
  obtain ⟨stage, wiring, pid, events, hstage, rfl, hcomplete, -, hevents⟩ :=
    exists_stage_of_plays hread h hw
  cases hterminator : stage.isTerminator r.settings.terminator with
  | true =>
    -- it has only to leave
    have hplan : r.launcher.plan wiring stage = [.exit 0] := if_pos hterminator
    have hown : stage.ending r.settings.terminator (lots stage.index) = .exited (0 % 256) :=
      if_pos hterminator
    rw [hplan] at hevents
    exact ⟨stage, [], hstage, .of_plays (.leaves hown) hevents⟩
  | false =>
    have hindex := (List.getElem?_eq_some_iff.mp hstage).1
    have hsuits : (lots stage.index).Suits
        (Child.preparation (wiring.endsWithin r.outer stage.index).stdin
          (wiring.endsWithin r.outer stage.index).stdout (wiring.fds ++ r.outer.toList)) :=
      (hlots _ stage hstage hterminator).suits hcomplete hindex
    rw [plan_eq_preparation wiring hterminator] at hevents
    have hown : stage.ending r.settings.terminator (lots stage.index) = (lots stage.index).ending :=
      if_neg (Bool.eq_false_iff.mp hterminator)
    refine ⟨stage, _, hstage, .of_plays (.prepares hsuits (List.nil_append _) ?_ hown) hevents⟩
    exact fun _ _ _ _ _ => List.not_mem_nil

/-- **The table of a program**: it depends on the pipes and on the stage, and on no lot. -/
theorem of_running (hread : (parse r.settings line).stages = .ok stages)
    (h : Plays lots.Take (r.execute line, ⟨table, files, []⟩) occurrences (p, scene)) {i : Nat}
    {w : Worker} {argv : List String} (hw : scene.workers[i]? = some w)
    (hrunning : w.life = .running argv) :
    ∃ stage wiring, stages[i]? = some stage ∧ wiring.IsComplete stages ∧
      wiring.fds = endsMade (conversation occurrences) ∧ argv = stage.words ∧
      w.table = (Child.tableAfter (table.piped files (endsMade (conversation occurrences)))
        (r.launcher.plan wiring stage)).afterExec := by
  obtain ⟨stage, wiring, pid, events, hstage, -, hcomplete, hfds, hevents⟩ :=
    exists_stage_of_plays hread h hw
  obtain ⟨past, rest, hpast, htable⟩ := Lot.started_of_plays hevents argv hrunning
  by_cases hterminator : stage.isTerminator r.launcher.terminator = true
  · rw [Launcher.plan, if_pos hterminator] at hpast
    have hmem : ChildStep.exec argv ∈ [ChildStep.exit 0] :=
      hpast ▸ List.mem_append_right _ List.mem_cons_self
    cases List.mem_singleton.mp hmem
  · rw [Launcher.plan, if_neg hterminator] at hpast
    obtain ⟨rfl, hall⟩ := Child.of_append_exec_eq_plan
      (table.piped files (endsMade (conversation occurrences))) hpast
    refine ⟨stage, wiring, hstage, hcomplete, hfds, rfl, ?_⟩
    rw [htable, hall, Launcher.plan, if_neg hterminator]

end Lots

/-! ### Lines that are over -/

theorem ShellReply.succeeds_ok {request : Request} (value : request.Value) :
    ShellReply.Succeeds ⟨request, .ok value⟩ where
  shown := by cases request <;> rfl
  granted _ _ := ⟨value, rfl⟩

/-- A call that has failed for good has not succeeded. -/
theorem ShellReply.not_succeeds {request : Request} {cause : Errno}
    (hretried : request.isRetried = true) (hcause : cause ≠ .eintr) :
    ¬ShellReply.Succeeds ⟨request, .error cause⟩ := by
  intro h
  have hsettled : isInterruption (.error cause : request.Answer) = false := by
    rw [Bool.eq_false_iff]
    exact fun hinterrupted => hcause (Except.error.inj (eq_of_isInterruption hinterrupted))
  obtain ⟨value, hvalue⟩ := h.granted hretried hsettled
  cases hvalue

/-- If all calls succeed, all stages are launched. -/
theorem Launching.exists_completed {l : Launcher} {w : Wiring} {handles : List Handle}
    {stages : List Stage} {replies : List ShellReply} {result : Except LaunchError Execution}
    (h : Launching l w handles stages replies result) (hall : ∀ e ∈ replies, e.Succeeds) :
    ∃ report, result = .ok (.completed report) := by
  induction h with
  | completed => exact ⟨_, rfl⟩
  | launched pid others ih => exact ih fun e he => hall e (List.mem_cons_of_mem _ he)
  | refused cause other =>
    exact absurd (hall _ List.mem_cons_self) (ShellReply.not_succeeds rfl other)

/-- If all calls succeed, all pipes are made and all stages are launched. -/
theorem Course.exists_completed {l : Launcher} {stages : List Stage} {replies : List ShellReply}
    {result : Except LaunchError Execution} (h : Course l stages replies result)
    (hall : ∀ e ∈ replies, e.Succeeds) : ∃ report, result = .ok (.completed report) := by
  cases h with
  | wired all launching =>
    exact launching.exists_completed fun e he => hall e (List.mem_append_right _ he)
  | unwired cause other =>
    exact absurd (hall _ (List.mem_append_right _ List.mem_cons_self))
      (ShellReply.not_succeeds rfl other)

/-- If all calls succeed, a line with stages that does not stop the shell is completed. -/
theorem Runner.exists_completed_of_plays {r : Runner} {line : String} {stages : List Stage}
    {replies : List ShellReply} {scene scene' : Scene} {result : Except PipelineError Execution}
    (hread : (parse r.settings line).stages = .ok stages) (hsome : stages ≠ [])
    (hproper : ∀ stage, stages = [stage] → stage.isTerminator r.settings.terminator = false)
    (h : Plays Scene.Takes (r.execute line, scene) replies (.done result, scene'))
    (hall : ∀ e ∈ replies, e.Succeeds) : ∃ report, result = .ok (.completed report) := by
  obtain ⟨rest, rfl, hgoes⟩ := goes_of_plays h
  have hrest : ∀ e ∈ settled rest, e.Succeeds := fun e he =>
    hall e (List.mem_append_right _ (List.mem_filter.mp he).1)
  generalize settled rest = calls at hgoes hrest
  cases hgoes with
  | malformed refused => cases refused.symm.trans hread
  | idle blank => exact absurd (Except.ok.inj (hread.symm.trans blank)) hsome
  | stop asks =>
    obtain ⟨stage, hread', hterminator, -⟩ := asks
    have hlone : stages = [stage] := Except.ok.inj (hread.symm.trans hread')
    cases hterminator.symm.trans (hproper stage hlone)
  | run read proper goes course =>
    obtain ⟨report, rfl⟩ := course.exists_completed hrest
    exact ⟨report, rfl⟩

namespace Lots

variable {lots : Lots} {r : Runner} {line : String} {stages : List Stage}
  {table : DescriptorTable} {files : Nat} {occurrences : List Occurrence}
  {p : Interaction (Except PipelineError Execution)} {scene : Scene}

/-- **Whether a line has been completed and reported as its lots demand**: there is one process for
each stage, each stage is reported with its process and with what its lot means, and no wait has
failed. -/
def AreReported (lots : Lots) (terminator : String) (stages : List Stage)
    (t : Interaction (Except PipelineError Execution) × Scene) : Prop :=
  ∃ report, t.1 = .done (.ok (.completed report)) ∧ report.waitErrors = [] ∧
    t.2.workers.length = stages.length ∧ report.stages.length = stages.length ∧
    ∀ (i : Nat) (stage : Stage) (w : Worker), stages[i]? = some stage →
      t.2.workers[i]? = some w →
        report.stages[i]? = some ⟨i, w.pid, stage.status terminator (lots i)⟩

/-- What the wait for the process of a stage has come to. -/
theorem told_eq_ending (hread : (parse r.settings line).stages = .ok stages)
    (hlots : lots.Befit r stages)
    (h : Plays lots.Take (r.execute line, ⟨table, files, []⟩) occurrences (p, scene)) {i : Nat}
    {w : Worker} {stage : Stage} {answer : Except Errno Ending} (hstage : stages[i]? = some stage)
    (hw : scene.workers[i]? = some w)
    (htold : (w.pid, answer) ∈ waits (conversation occurrences)) :
    answer = .ok (stage.ending r.settings.terminator (lots i)) := by
  obtain ⟨hmem, hsettled⟩ := mem_of_mem_waits htold
  obtain ⟨how, rfl⟩ : ∃ how, answer = .ok how := (succeeds_of_plays h _ hmem).granted rfl hsettled
  -- there is only one process with this number, and it has ended so
  obtain ⟨w', hw', hpid, hended⟩ := exists_ended_of_plays h htold
  have hnodup := nodup_pid_of_plays h List.nodup_nil
  obtain rfl : w' = w :=
    List.inj_on_of_nodup_map hnodup hw' (List.mem_of_getElem? hw) hpid
  obtain ⟨stage', prep, hstage', hfares⟩ := exists_fares_of_plays hread hlots h hw
  obtain rfl : stage = stage' := Option.some.inj (hstage.symm.trans hstage')
  rw [hended] at hfares
  cases hfares
  rfl

/-- What a wait tells that ends as a lot says. -/
theorem ofWait_ending (terminator : String) (stage : Stage) (lot : Lot) :
    StageStatus.ofWait (.ok (stage.ending terminator lot)) = stage.status terminator lot := by
  rw [Stage.ending, Stage.status]
  split
  · rfl
  · exact lot.ofWait_ending

/-- A wait can tell how a process with a lot ends. -/
theorem Befit.exists_ofEnding (hlots : lots.Befit r stages) {i : Nat} {stage : Stage}
    (hstage : stages[i]? = some stage) : ∃ status, StageStatus.ofEnding
      (stage.ending r.settings.terminator (lots i)) = .ok status := by
  cases hterminator : stage.isTerminator r.settings.terminator with
  | true =>
    rw [Stage.ending, if_pos hterminator]
    exact ⟨_, rfl⟩
  | false =>
    rw [Stage.ending, if_neg (Bool.eq_false_iff.mp hterminator)]
    have hbefits := hlots i stage hstage hterminator
    cases hlot : lots i with
    | noStream stream cause heard => cases heard <;> exact ⟨_, rfl⟩
    | noProgram cause heard => cases heard <;> exact ⟨_, rfl⟩
    | runs how =>
      rw [hlot] at hbefits
      exact hbefits

/-- **What becomes of a line that is over.** -/
theorem areReported_of_plays (hread : (parse r.settings line).stages = .ok stages)
    (hsome : stages ≠ [])
    (hproper : ∀ stage, stages = [stage] → stage.isTerminator r.settings.terminator = false)
    (hlots : lots.Befit r stages) {result : Except PipelineError Execution}
    (h : Plays lots.Take (r.execute line, ⟨table, files, []⟩) occurrences
      (.done result, scene)) :
    lots.AreReported r.settings.terminator stages (.done result, scene) := by
  obtain ⟨forked, hplays, -⟩ := exists_forked_of_plays h
  obtain ⟨report, rfl⟩ :=
    Runner.exists_completed_of_plays hread hsome hproper hplays (succeeds_of_plays h)
  obtain ⟨stages', w, pids, answers, hread', -, hpids, hanswers, hforks, hwaits, rfl⟩ :=
    Runner.of_completed hplays
  obtain rfl : stages = stages' := Except.ok.inj (hread.symm.trans hread')
  have hworkers : scene.workers.map Worker.pid = pids := by
    have hmade : scene.workers.map Worker.pid = _ := map_pid_of_plays h
    rw [hmade, hforks, List.map_snd_zip (by simp [hpids])]
  have hcount : scene.workers.length = stages.length := by
    rw [← hpids, ← hworkers, List.length_map]
  have hlength : (waits (conversation occurrences)).length = stages.length := by
    rw [hwaits, List.length_zip, hpids, hanswers, Nat.min_self]
  -- the wait for each process has told how it has ended
  have htold : ∀ (i : Nat) (stage : Stage) (w : Worker), stages[i]? = some stage →
      scene.workers[i]? = some w → (waits (conversation occurrences))[i]? =
        some (w.pid, .ok (stage.ending r.settings.terminator (lots i))) := by
    intro i stage w hstage hw
    have hi : i < answers.length := hanswers ▸ (List.getElem?_eq_some_iff.mp hstage).1
    have hpid : pids[i]? = some w.pid := by
      rw [← hworkers, List.getElem?_map, hw, Option.map_some]
    have hith : (waits (conversation occurrences))[i]? = some (w.pid, answers[i]) := by
      rw [hwaits]
      exact List.getElem?_zip_eq_some.mpr ⟨hpid, List.getElem?_eq_getElem hi⟩
    rw [hith, told_eq_ending hread hlots h hstage hw (List.mem_of_getElem? hith)]
  refine ⟨_, rfl, List.filterMap_eq_nil_iff.mpr fun t ht => ?_, hcount, ?_, ?_⟩
  · obtain ⟨i, hi⟩ := List.mem_iff_getElem?.mp ht
    have hlt : i < stages.length := hlength ▸ (List.getElem?_eq_some_iff.mp hi).1
    have hstage := List.getElem?_eq_getElem hlt
    have hith := htold i _ _ hstage (List.getElem?_eq_getElem (hcount.symm ▸ hlt))
    obtain rfl := Option.some.inj (hi.symm.trans hith)
    obtain ⟨status, hstatus⟩ := hlots.exists_ofEnding hstage
    simp only [WaitError.ofWait?, Except.bind, hstatus]
  · rw [Report.ofTold, List.length_mapIdx, hlength]
  · intro i stage w hstage hw
    rw [Report.ofTold, List.getElem?_mapIdx, htold i stage w hstage hw, Option.map_some,
      ofWait_ending]

/-! ### Lines that are not over -/

/-- There is an answer to every call that is made only once: a text can be shown, and others may
fail. -/
theorem exists_answer (workers : List Worker) {request : Request}
    (honce : request.isRetried = false) :
    ∃ answer, ShellReply.isUnshown ⟨request, answer⟩ = false ∧
      ShellReply.IsHonest workers ⟨request, answer⟩ := by
  cases request with
  | writeAll fd bytes => exact ⟨.ok (), rfl, trivial⟩
  | fork plan => cases honce
  | wait pid => cases honce
  | _ => exact ⟨.error .einval, rfl, trivial⟩

/-- What is asked again is what may be interrupted. -/
theorem isRetried_of_plays {replies : List ShellReply} {scene scene' : Scene} {request : Request}
    {next : request.Answer → Interaction (Except PipelineError Execution)}
    (h : Plays Scene.Takes (r.execute line, scene) replies (.persist request next, scene')) :
    request.isRetried = true := by
  obtain ⟨phase, hphase, -⟩ := Runner.exists_record_of_plays h
  obtain ⟨result, rfl⟩ | rfl | ⟨request', next', heq, -⟩ := phase.toInteraction_cases r
  · cases hphase
  · cases hphase
  · rw [heq] at hphase
    split at hphase
    · rename_i hretried
      cases hphase
      exact hretried
    · cases hphase

/-- A line whose calls succeed is not aborted. -/
theorem ne_aborted_of_plays
    (h : Plays lots.Take (r.execute line, ⟨table, files, []⟩) occurrences (p, scene)) :
    p ≠ .aborted := by
  obtain ⟨forked, hplays, -⟩ := exists_forked_of_plays h
  obtain ⟨hspeaks, -⟩ | ⟨-, before, e, hreplies, hunshown⟩ :=
    Scene.speaks_of_plays (r.speaks_execute line) hplays
  · rintro rfl
    cases hspeaks
  · have he : e ∈ conversation occurrences := hreplies ▸ List.mem_append_right _ (.head _)
    rw [(succeeds_of_plays h e he).shown] at hunshown
    cases hunshown

/-- **A line that is not over can go on**: if the shell waits for a process that has not ended, this
process can. -/
theorem exists_take_of_plays (hread : (parse r.settings line).stages = .ok stages)
    (hlots : lots.Befit r stages)
    (h : Plays lots.Take (r.execute line, ⟨table, files, []⟩) occurrences (p, scene))
    {request : Request} (hrequest : p.request? = some request) :
    ∃ e t, lots.Take (p, scene) e t ∧ e.isIdle = false := by
  have htakes := Scene.exists_takes hrequest scene
  have hsettles : ∀ value : request.Value, ShellReply.settles ⟨request, .ok value⟩ = true := by
    intro value
    simp [ShellReply.settles, isInterruption]
  cases hretried : request.isRetried with
  | false =>
    obtain ⟨answer, hshown, hhonest⟩ := exists_answer scene.workers hretried
    obtain ⟨t, ht⟩ := htakes answer
    have hsucceeds : ShellReply.Succeeds ⟨request, answer⟩ :=
      ⟨hshown, fun h => absurd (hretried.symm.trans h) Bool.false_ne_true⟩
    refine ⟨_, t, .told ht hsucceeds hhonest, ?_⟩
    simp [Occurrence.isIdle, ShellReply.settles, hretried]
  | true =>
    cases request with
    | pipe =>
      obtain ⟨t, ht⟩ := htakes (.ok ((0, 0) : Fd × Fd))
      exact ⟨_, t, .told ht ⟨rfl, fun _ _ => ⟨_, rfl⟩⟩ trivial, rfl⟩
    | fork plan =>
      obtain ⟨pid, hpid⟩ := Infinite.exists_notMem_finset (scene.workers.map Worker.pid).toFinset
      obtain ⟨t, ht⟩ := htakes (.ok pid)
      have hfresh : pid ∉ _ := fun h => hpid (List.mem_toFinset.mpr h)
      exact ⟨_, t, .told ht ⟨rfl, fun _ _ => ⟨_, rfl⟩⟩ hfresh, rfl⟩
    | wait pid =>
      obtain ⟨forked, hplays, -⟩ := exists_forked_of_plays h
      have hmem := Runner.mem_forks_of_wait hplays hrequest
      have hworkers : scene.workers.map Worker.pid = _ := map_pid_of_plays h
      rw [← hworkers] at hmem
      obtain ⟨w, hw, hpid⟩ := List.mem_map.mp hmem
      obtain ⟨i, hi⟩ := List.mem_iff_getElem?.mp hw
      obtain ⟨stage, prep, -, hfares⟩ := exists_fares_of_plays hread hlots h hi
      obtain hended | ⟨event, w', htake, hgoes⟩ := hfares.exists_takes
      · obtain ⟨t, ht⟩ := htakes (.ok (stage.ending r.settings.terminator (lots i)))
        exact ⟨_, t, .told ht ⟨rfl, fun _ _ => ⟨_, rfl⟩⟩ ⟨w, hw, hpid, hended⟩, rfl⟩
      · exact ⟨_, _, .befalls hi htake, hgoes⟩
    | _ => cases hretried

/-- What is idle changes nothing. -/
theorem eq_of_isIdle
    (h : Plays lots.Take (r.execute line, ⟨table, files, []⟩) occurrences (p, scene))
    {e : Occurrence} {t : Interaction (Except PipelineError Execution) × Scene}
    (htake : lots.Take (p, scene) e t) (hidle : e.isIdle = true) : t = (p, scene) := by
  cases htake with
  | befalls there takes =>
    obtain ⟨hplace, rfl⟩ := List.getElem?_eq_some_iff.mp there
    rw [takes.eq_of_isIdle hidle, List.set_getElem_self]
  | @told _ _ reply takes =>
    obtain ⟨forked, hplays, -⟩ := exists_forked_of_plays h
    obtain ⟨phase, rfl, -⟩ := Runner.exists_record_of_plays hplays
    obtain ⟨phase', -, rfl⟩ := Scene.exists_moves_of_takes takes
    have hinterrupted : reply.1.isRetried = true ∧ isInterruption reply.2 = true := by
      simpa [Occurrence.isIdle, ShellReply.settles] using hidle
    have hsettles : reply.settles = false := by
      simpa [Occurrence.isIdle] using hidle
    rw [hsettles, if_neg Bool.false_ne_true, eq_of_isInterruption hinterrupted.2,
      Scene.after_interruption scene hinterrupted.1]

section Arrives

variable {Q : Interaction (Except PipelineError Execution) × Scene → Prop}

/-- While the shell waits for an answer, its processes cannot go on for ever: if `Q` holds in the
end behind every answer, it holds in the end. -/
theorem arrives_of_told (hread : (parse r.settings line).stages = .ok stages)
    (hlots : lots.Befit r stages) {request : Request} (hrequest : p.request? = some request)
    (htold : ∀ scene occurrences reply t,
      Plays lots.Take (r.execute line, ⟨table, files, []⟩) occurrences (p, scene) →
      Scene.Takes (p, scene) reply t → (Occurrence.told reply).isIdle = false →
      Plays lots.Take (r.execute line, ⟨table, files, []⟩) (occurrences ++ [.told reply]) t →
      Arrives lots.Take Occurrence.isIdle Q t)
    (h : Plays lots.Take (r.execute line, ⟨table, files, []⟩) occurrences (p, scene)) :
    Arrives lots.Take Occurrence.isIdle Q (p, scene) := by
  -- induction on how long the processes that there are can go on
  induction hn : Worker.weights scene.workers using Nat.strong_induction_on
    generalizing scene occurrences with
  | _ n ih =>
    refine .next (exists_take_of_plays hread hlots h hrequest)
      (fun e t htake hidle => eq_of_isIdle h htake hidle) fun e t htake hidle => ?_
    have hmore := h.append (.cons htake (.nil t))
    cases htake with
    | told takes => exact htold _ _ _ _ h takes hidle hmore
    | befalls there takes =>
      have hlt := Worker.weights_set_lt there (Worker.weight_lt takes hidle)
      exact ih _ (hn ▸ hlt) hmore rfl

end Arrives

/-- **Every line comes to its end**, whatever happens. -/
theorem arrives_of_plays (hread : (parse r.settings line).stages = .ok stages)
    (hsome : stages ≠ [])
    (hproper : ∀ stage, stages = [stage] → stage.isTerminator r.settings.terminator = false)
    (hlots : lots.Befit r stages)
    (h : Plays lots.Take (r.execute line, ⟨table, files, []⟩) occurrences (p, scene)) :
    Arrives lots.Take Occurrence.isIdle (lots.AreReported r.settings.terminator stages)
      (p, scene) := by
  -- induction on what the shell has left to do
  induction p generalizing scene occurrences with
  | done result => exact .here (areReported_of_plays hread hsome hproper hlots h)
  | aborted => exact absurd rfl (ne_aborted_of_plays h)
  | once request next ih =>
    refine arrives_of_told hread hlots rfl ?_ h
    intro scene occurrences reply t _ takes _ hmore
    cases takes with
    | once answer => exact ih answer hmore
  | persist request next ih =>
    refine arrives_of_told hread hlots rfl ?_ h
    intro scene occurrences reply t hnow takes hidle hmore
    cases takes with
    | persist answer =>
      obtain ⟨forked, hplays, -⟩ := exists_forked_of_plays hnow
      have hretried := isRetried_of_plays hplays
      have hsettled : isInterruption answer = false := by
        simpa [Occurrence.isIdle, ShellReply.settles, hretried] using hidle
      have hnext : Interaction.resume request next answer = next answer :=
        if_neg (Bool.eq_false_iff.mp hsettled)
      rw [hnext] at hmore ⊢
      exact ih answer hmore

end Lots

/-! ### The theorem -/

namespace Runner

/-- **A stage that cannot run spoils only itself.** Take a line that has been read as stages, other
than the terminator alone, and any lots that its processes may have; let the trace, if there is one,
be shown, let the calls that make pipes and processes and that wait for processes succeed, at last,
and let all that happens come in any order.

The line comes to its end whatever happens, unless a call is interrupted for ever, and it is
completed: each stage has its process, and is reported with what its lot means; a process that fails
and cannot tell anybody is ended by the signal of a broken pipe. At any moment, each
process has something left to do, last of all to start the program of its stage or to leave, or runs
this program, or has ended; so none of them ever comes back from its list. And in any other run of
the line, whatever the lots of the processes are there, if the pipes have got the same descriptors
the processes are made by the same plans, and each stage whose program runs in both runs has the
same words and the same table. -/
theorem failures_stay_alone (r : Runner) (line : String) {stages : List Stage}
    (hread : (parse r.settings line).stages = .ok stages) (hsome : stages ≠ [])
    (hproper : ∀ stage, stages = [stage] → stage.isTerminator r.settings.terminator = false)
    {lots : Lots} (hlots : lots.Befit r stages) (table : DescriptorTable) (files : Nat) :
    Arrives lots.Take Occurrence.isIdle (lots.AreReported r.settings.terminator stages)
      (r.execute line, ⟨table, files, []⟩) ∧
    ∀ {occurrences p scene},
      Plays lots.Take (r.execute line, ⟨table, files, []⟩) occurrences (p, scene) →
        (∀ result, p = .done result → lots.AreReported r.settings.terminator stages (p, scene)) ∧
        scene.workers.map Worker.pid = (forks (conversation occurrences)).map Prod.snd ∧
        (∀ (i : Nat) (w : Worker), scene.workers[i]? = some w → ∃ stage, stages[i]? = some stage ∧
          ((∃ todo, w.life = .preparing (todo ++ [.exec stage.words])) ∨
            (∃ todo status, w.life = .preparing (todo ++ [.exit status])) ∨
            w.life = .running stage.words ∨ ∃ how, w.life = .ended how)) ∧
        ∀ {lots' : Lots} {occurrences' p' scene'},
          Plays lots'.Take (r.execute line, ⟨table, files, []⟩) occurrences' (p', scene') →
          endsMade (conversation occurrences') = endsMade (conversation occurrences) →
            (∀ (i : Nat) (made made' : Child × Pid),
              (forks (conversation occurrences))[i]? = some made →
              (forks (conversation occurrences'))[i]? = some made' → made'.1 = made.1) ∧
            ∀ (i : Nat) (w w' : Worker) (argv argv' : List String),
              scene.workers[i]? = some w → scene'.workers[i]? = some w' →
              w.life = .running argv → w'.life = .running argv' →
                argv' = argv ∧ w'.table = w.table := by
  refine ⟨Lots.arrives_of_plays hread hsome hproper hlots (.nil _), ?_⟩
  intro occurrences p scene h
  refine ⟨?_, Lots.map_pid_of_plays h, ?_, ?_⟩
  · rintro result rfl
    exact Lots.areReported_of_plays hread hsome hproper hlots h
  · intro i w hw
    obtain ⟨stage, prep, hstage, hfares⟩ := Lots.exists_fares_of_plays hread hlots h hw
    refine ⟨stage, hstage, ?_⟩
    exact hfares.isAway.imp_right (Or.imp_right (Or.imp_right fun hended => ⟨_, hended⟩))
  · intro lots' occurrences' p' scene' h' hends
    constructor
    · intro i made made' hmade hmade'
      obtain ⟨forked, hplays, -⟩ := Lots.exists_forked_of_plays h
      obtain ⟨forked', hplays', -⟩ := Lots.exists_forked_of_plays h'
      obtain ⟨stage, wiring, hstage, hcomplete, hfds, hplan⟩ := exists_plan_of_plays hplays hmade
      obtain ⟨stage', wiring', hstage', hcomplete', hfds', hplan'⟩ :=
        exists_plan_of_plays hplays' hmade'
      obtain rfl := Option.some.inj (hstage.symm.trans hstage')
      obtain rfl := hcomplete.eq_of_fds_eq hcomplete' (hfds.trans (hends.symm.trans hfds'.symm))
      exact hplan'.trans hplan.symm
    · intro i w w' argv argv' hw hw' hrunning hrunning'
      obtain ⟨stage, wiring, hstage, hcomplete, hfds, hargv, htable⟩ :=
        Lots.of_running hread h hw hrunning
      obtain ⟨stage', wiring', hstage', hcomplete', hfds', hargv', htable'⟩ :=
        Lots.of_running hread h' hw' hrunning'
      obtain rfl := Option.some.inj (hstage.symm.trans hstage')
      obtain rfl := hcomplete.eq_of_fds_eq hcomplete' (hfds.trans (hends.symm.trans hfds'.symm))
      rw [hends] at htable'
      exact ⟨hargv'.trans hargv.symm, htable'.trans htable.symm⟩

/-! ### A line of two stages -/

section TwoStages

/-- The program of the first stage is missing, and that of the second leaves with a status. -/
def firstMissing (heard : Bool) : Lots
  | 0 => .noProgram .enoent heard
  | _ => .runs (.exited 3)

/-- The first stage cannot have its output, and the second does as before. -/
def firstRefused : Lots
  | 0 => .noStream .stdout .ebadf true
  | _ => .runs (.exited 3)

/-- What a process says when it finds no program. -/
def missingText (program : String) : Bytes :=
  Text.encode s!"pipesh: cannot execute '{program}': {Errno.enoent.description}\n"

/-- What happens to the first process before it says that it finds no program. -/
def missing : List Worker.Event :=
  [.tries (.restorePipeSignal, .ok ()), .tries (.install 4 .stdout, .ok ()),
    .tries (.close 3, .ok ()), .tries (.close 4, .ok ()), .tries (.exec ["a"], .error .enoent)]

/-- What happens to the first process: it says that it finds no program, and leaves. -/
def missingHeard : List Worker.Event :=
  missing ++ [.tries (.complain (missingText "a"), .ok ()), .tries (.exit 127, .ok ())]

/-- What happens to the first process: it finds no program, and nobody can read this. -/
def missingUnheard : List Worker.Event :=
  missing ++ [.tries (.complain (missingText "a"), .error .epipe)]

/-- What happens to the first process: it cannot have its output, and leaves. -/
def refused : List Worker.Event :=
  [.tries (.restorePipeSignal, .ok ()), .tries (.install 4 .stdout, .error .ebadf)] ++
  ((ChildStep.install 4 .stdout).onFailure .ebadf).map fun s => .tries (s, .ok ())

/-- What happens to the second process: it starts its program. -/
def started : List Worker.Event :=
  [.tries (.restorePipeSignal, .ok ()), .tries (.install 3 .stdin, .error .eintr),
    .tries (.install 3 .stdin, .ok ()), .tries (.close 3, .ok ()), .tries (.close 4, .error .ebadf),
    .tries (.exec ["b"], .ok ())]

/-- The first process comes to say that it finds no program. -/
theorem plays_missing (heard : Bool) : Plays (firstMissing heard 0).Takes
    ⟨7, pipedTable, .preparing writerPlan⟩ missing
    ⟨7, (((pipedTable.insert 1 ⟨1, false⟩).erase 3).erase 4),
      .preparing [.complain (missingText "a"), .exit 127]⟩ :=
  .cons (.tries (.step rfl _) trivial) (.cons (.tries (.step rfl _) (.inr rfl))
    (.cons (.tries (.step rfl _) trivial) (.cons (.tries (.step rfl _) trivial)
    (.cons (.tries (.step rfl _) rfl) (.nil _)))))

theorem plays_missingHeard : Plays (firstMissing true 0).Takes
    ⟨7, pipedTable, .preparing writerPlan⟩ missingHeard ⟨7, {}, .ended (.exited 127)⟩ :=
  (plays_missing true).append (.cons (.tries (.step rfl _) (iff_of_false nofun nofun))
    (.cons (.tries (.step rfl _) trivial) (.nil _)))

theorem plays_missingUnheard : Plays (firstMissing false 0).Takes
    ⟨7, pipedTable, .preparing writerPlan⟩ missingUnheard ⟨7, {}, .ended (.killed 13)⟩ :=
  (plays_missing false).append
    (.cons (.tries (.step rfl _) (iff_of_true rfl rfl)) (.nil _))

theorem plays_refused : Plays (firstRefused 0).Takes ⟨7, pipedTable, .preparing writerPlan⟩ refused
    ⟨7, {}, .ended (.exited 1)⟩ :=
  .cons (.tries (.step rfl _) trivial) (.cons (.tries (.step rfl _) (.inr rfl))
    (.cons (.tries (.step rfl _) (iff_of_false nofun nofun))
    (.cons (.tries (.step rfl _) trivial) (.nil _))))

/-- The program of the second process, with its table. -/
def secondRunning : Worker :=
  ⟨8, (((pipedTable.insert 0 ⟨0, false⟩).erase 3).erase 4).afterExec, .running ["b"]⟩

theorem plays_started {lots : Lots} (hlots : lots 1 = .runs (.exited 3)) :
    Plays (lots 1).Takes ⟨8, pipedTable, .preparing readerPlan⟩ started secondRunning := by
  rw [hlots]
  exact .cons (.tries (.step rfl _) trivial) (.cons (.tries (.step rfl _) (.inl rfl))
    (.cons (.tries (.step rfl _) (.inr rfl)) (.cons (.tries (.step rfl _) trivial)
    (.cons (.tries (.step rfl _) trivial) (.cons (.tries (.step rfl _) rfl) (.nil _))))))

/-- What happens to two stages of which the first has come to its end before the second is made. -/
def oneAfterAnother (events : List Worker.Event) : List Occurrence :=
  [.told ⟨.pipe, .ok ((3, 4) : Fd × Fd)⟩, .told ⟨.fork writerPlan, .ok (7 : Pid)⟩] ++
    (events.map (.befalls 0) ++ (.told ⟨.fork readerPlan, .ok (8 : Pid)⟩ ::
      started.map (.befalls 1)))

/-- What happens then: the second program ends, and the shell waits for both processes. -/
def bothEnd (how : Ending) : List Occurrence :=
  [.told ⟨.close 3, .ok ()⟩, .befalls 1 (.ends (.exited 3)), .told ⟨.close 4, .ok ()⟩,
    .told ⟨.wait 7, .ok how⟩, .told ⟨.wait 8, .ok (.exited 3)⟩]

/-- Whatever has become of the first process, the second runs its program. -/
theorem exists_plays_oneAfterAnother {lots : Lots} (hlots : lots 1 = .runs (.exited 3))
    {events : List Worker.Event} {how : Ending}
    (h : Plays (lots 0).Takes ⟨7, pipedTable, .preparing writerPlan⟩ events
      ⟨7, {}, .ended how⟩) :
    ∃ p result, Plays lots.Take (Runner.execute {} "a | b", ⟨{}, 0, []⟩)
        (oneAfterAnother events)
        (p, ⟨pipedTable, 2, [⟨7, {}, .ended how⟩, secondRunning]⟩) ∧
      Plays lots.Take (p, ⟨pipedTable, 2, [⟨7, {}, .ended how⟩, secondRunning]⟩)
        (bothEnd how) (.done result, ⟨(pipedTable.erase 3).erase 4, 2,
          [⟨7, {}, .ended how⟩, ⟨8, {}, .ended (.exited 3)⟩]⟩) := by
  have hok : ∀ {request : Request} (value : request.Value),
      ShellReply.Succeeds ⟨request, .ok value⟩ := ShellReply.succeeds_ok
  have hother : (8 : Pid) ∉ [(7 : Pid)] := by decide
  rw [execute_twoStages]
  exact ⟨_, _, .append
    (.cons (.told (.persist _) (hok _) trivial) (.cons (.told (.persist _) (hok _) nofun) (.nil _)))
    (.append (Lots.plays_befalls rfl h) (.cons (.told (.persist _) (hok _) hother)
      (Lots.plays_befalls rfl (plays_started hlots)))),
    .cons (.told (.once _) (hok _) trivial) (.cons (.befalls rfl (.ends rfl hlots))
      (.cons (.told (.once _) (hok _) trivial)
      (.cons (.told (.persist _) (hok _) ⟨_, .head _, rfl, rfl⟩)
      (.cons (.told (.persist _) (hok _) ⟨_, .tail _ (.head _), rfl, rfl⟩) (.nil _)))))⟩

/-- The two stages. -/
theorem read_twoStages :
    (parse {} "a | b").stages = .ok [⟨0, "a", ["a"]⟩, ⟨1, "b", ["b"]⟩] := by decide

theorem befit_firstMissing (heard : Bool) :
    (firstMissing heard).Befit {} [⟨0, "a", ["a"]⟩, ⟨1, "b", ["b"]⟩] := by
  rintro (_ | _ | i) stage hstage -
  · trivial
  · exact ⟨_, rfl⟩
  · cases hstage

/-- Two runs in which the first stage fails in two ways: in each the line is completed with a report
on both stages, and the second program runs with one table. -/
theorem failures_stay_alone_two_stages :
    Arrives (firstMissing true).Take Occurrence.isIdle
      ((firstMissing true).AreReported "exit" [⟨0, "a", ["a"]⟩, ⟨1, "b", ["b"]⟩])
      (Runner.execute {} "a | b", ⟨{}, 0, []⟩) ∧
    (∃ occurrences report scene, Plays (firstMissing true).Take
        (Runner.execute {} "a | b", ⟨{}, 0, []⟩) occurrences
        (.done (.ok (.completed report)), scene) ∧
      report.stages[0]? = some ⟨0, 7, .exited 127⟩ ∧
      report.stages[1]? = some ⟨1, 8, .exited 3⟩) ∧
    ∃ p p' scene scene', Plays (firstMissing true).Take (Runner.execute {} "a | b", ⟨{}, 0, []⟩)
        (oneAfterAnother missingHeard) (p, scene) ∧
      Plays firstRefused.Take (Runner.execute {} "a | b", ⟨{}, 0, []⟩)
        (oneAfterAnother refused) (p', scene') ∧
      ∃ w w', scene.workers[1]? = some w ∧ scene'.workers[1]? = some w' ∧
        w.life = .running ["b"] ∧ w'.life = .running ["b"] ∧ w'.table = w.table := by
  obtain ⟨harrives, hruns⟩ := failures_stay_alone {} "a | b" read_twoStages (by simp) (by simp)
    (befit_firstMissing true) {} 0
  obtain ⟨p, result, hplays, hend⟩ := exists_plays_oneAfterAnother rfl plays_missingHeard
  obtain ⟨p', result', hplays', -⟩ := exists_plays_oneAfterAnother rfl plays_refused
  refine ⟨harrives, ?_, p, p', _, _, hplays, hplays', secondRunning, secondRunning, rfl, rfl, rfl,
    rfl, ?_⟩
  · have hall := hplays.append hend
    obtain ⟨report, hreport, -, -, -, hentries⟩ := (hruns hall).1 result rfl
    obtain rfl := Interaction.done.inj hreport
    exact ⟨_, report, _, hall, hentries 0 _ _ rfl rfl, hentries 1 _ _ rfl rfl⟩
  · obtain ⟨-, -, -, hsame⟩ := hruns hplays
    obtain ⟨-, htables⟩ := hsame hplays' rfl
    exact (htables 1 _ _ _ _ rfl rfl rfl rfl).2

/-- **No stages, or nobody to tell.** A line without stages is not completed: there is nothing to
run. And if the program of a stage is missing, and what its process says about it goes to a pipe
without readers, the stage is reported with the signal for that and not with status 127. -/
theorem not_always_completed_nor_exited :
    ((parse {} " | ").stages = .ok [] ∧ ∀ scene,
      Plays Scene.Takes (Runner.execute {} " | ", scene) [] (.done (.ok .idle), scene)) ∧
    (firstMissing false 0 = .noProgram .enoent false ∧ ∃ occurrences report scene,
      Plays (firstMissing false).Take (Runner.execute {} "a | b", ⟨{}, 0, []⟩) occurrences
        (.done (.ok (.completed report)), scene) ∧
      report.stages[0]? = some ⟨0, 7, .signaled .pipe⟩ ∧
      report.stages[1]? = some ⟨1, 8, .exited 3⟩) := by
  constructor
  · have hread : (parse {} " | ").stages = .ok [] := by decide
    have htrace : (parse {} " | ").trace = [] := by decide
    refine ⟨hread, fun scene => ?_⟩
    have hidle : Runner.execute {} " | " = .done (.ok .idle) := by
      simp only [Runner.execute, hread, htrace]
      rfl
    rw [hidle]
    exact .nil _
  · obtain ⟨p, result, hplays, hend⟩ := exists_plays_oneAfterAnother rfl plays_missingUnheard
    have hall := hplays.append hend
    obtain ⟨report, hreport, -, -, -, hentries⟩ := Lots.areReported_of_plays read_twoStages
      (by simp) (by simp) (befit_firstMissing false) hall
    obtain rfl := Interaction.done.inj hreport
    exact ⟨rfl, _, report, _, hall, hentries 0 _ _ rfl rfl, hentries 1 _ _ rfl rfl⟩

end TwoStages

end Runner

end PipeShell
