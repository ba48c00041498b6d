import PipeShell.Proofs.Pipeline.Course
import PipeShell.Proofs.Pipeline.Interruption

/-!
# A line does well if all of its stages do

A report is kept in two lists, one of stages and one of failed waits, and the outcome is folded from
both. Here the three are brought back to one thing, what the waits for the processes have told:
`Report.ofTold` is the report on that.

* `outcome_ofTold_eq_success_iff`, `failed_ofTold` and `pid_waitErrors_ofTold` say what the outcome,
  the stages that failed and the failed waits are.
* `plays_run_iff` says what `Runner.run` adds to `Runner.execute`: the messages of what became of
  the line, one after another, and what is to be done next.
* `Runner.outcome_is_conjunction` puts these together for every line that is run.
-/

namespace PipeShell

/-! ### What waits tell -/

/-- Whether the process of a stage has left with status zero, and the wait for it has told so. -/
def StageReport.DidWell (told : List (Pid × Except Errno Ending)) (stage : StageReport) : Prop :=
  told[stage.index]? = some (stage.pid, .ok (.exited 0))

instance (told : List (Pid × Except Errno Ending)) (stage : StageReport) :
    Decidable (stage.DidWell told) :=
  inferInstanceAs (Decidable (_ = _))

namespace StageStatus

/-- A stage is a success only if its process has left with status zero. -/
theorem isSuccess_ofWait_iff (answer : Except Errno Ending) :
    (ofWait answer).isSuccess = true ↔ answer = .ok (.exited 0) := by
  cases answer with
  | error cause => simp [ofWait, Except.bind, isSuccess]
  | ok how =>
    cases how with
    | exited status => simp [ofWait, Except.bind, ofEnding, isSuccess]
    | killed number =>
      cases hsignal : Signal.ofNumber? number with
      | none => simp [ofWait, Except.bind, ofEnding, hsignal, isSuccess]
      | some signal => simp [ofWait, Except.bind, ofEnding, hsignal, isSuccess]

/-- A wait has failed exactly if the stage is lost. -/
theorem pid_ofWait? (pid : Pid) (answer : Except Errno Ending) :
    (WaitError.ofWait? pid answer).map WaitError.pid =
      if ofWait answer = .lost then some pid else none := by
  rw [WaitError.ofWait?, ofWait]
  cases answer with
  | error cause => rfl
  | ok how =>
    cases how with
    | exited status => rfl
    | killed number =>
      cases hsignal : Signal.ofNumber? number with
      | none => simp [Except.bind, ofEnding, hsignal]
      | some signal => simp [Except.bind, ofEnding, hsignal]

end StageStatus

namespace Report

variable (told : List (Pid × Except Errno Ending))

/-- The stages of a report are looked through as the waits are. -/
theorem filterMap_stages_ofTold {β : Type} {f : StageReport → Option β}
    {g : Pid × Except Errno Ending → Option β}
    (h : ∀ i t, f ⟨i, t.1, .ofWait t.2⟩ = g t) :
    (ofTold told).stages.filterMap f = told.filterMap g := by
  have hstages : (ofTold told).stages =
      told.zipIdx.map fun t => ⟨t.2, t.1.1, .ofWait t.1.2⟩ := List.mapIdx_eq_zipIdx_map
  have hsame : (f ∘ fun t : (Pid × Except Errno Ending) × Nat =>
      ⟨t.2, t.1.1, .ofWait t.1.2⟩) = g ∘ Prod.fst := funext fun t => h t.2 t.1
  rw [hstages, List.filterMap_map, hsame, ← List.filterMap_map, List.zipIdx_map_fst]

theorem mem_stages_ofTold {stage : StageReport} (h : stage ∈ (ofTold told).stages) :
    ∃ t, told[stage.index]? = some t ∧ stage.pid = t.1 ∧ stage.status = .ofWait t.2 := by
  obtain ⟨i, hi, hstage⟩ := List.mem_mapIdx.mp h
  subst hstage
  exact ⟨told[i], List.getElem?_eq_getElem hi, rfl, rfl⟩

/-- A stage of a report is a success exactly if it did well. -/
theorem isSuccess_iff_didWell {stage : StageReport} (h : stage ∈ (ofTold told).stages) :
    stage.status.isSuccess = true ↔ stage.DidWell told := by
  obtain ⟨t, ht, hpid, hstatus⟩ := mem_stages_ofTold told h
  rw [hstatus, StageStatus.isSuccess_ofWait_iff, StageReport.DidWell, ht, hpid, Option.some.injEq,
    Prod.ext_iff]
  simp

/-- The waits that failed are those for the stages that are lost. -/
theorem pid_waitErrors_ofTold : (ofTold told).waitErrors.map WaitError.pid =
    ((ofTold told).stages.filter (·.status = .lost)).map StageReport.pid := by
  have hpids : ∀ (i : Nat) (t : Pid × Except Errno Ending),
      (if (⟨i, t.1, .ofWait t.2⟩ : StageReport).status = .lost then some t.1 else none) =
        (WaitError.ofWait? t.1 t.2).map WaitError.pid :=
    fun i t => (StageStatus.pid_ofWait? t.1 t.2).symm
  calc (ofTold told).waitErrors.map WaitError.pid
      = told.filterMap fun t => (WaitError.ofWait? t.1 t.2).map WaitError.pid :=
        List.map_filterMap
    _ = (ofTold told).stages.filterMap fun stage =>
        if stage.status = .lost then some stage.pid else none :=
        (filterMap_stages_ofTold told hpids).symm
    _ = ((ofTold told).stages.filter (·.status = .lost)).map StageReport.pid := by
        rw [← List.filterMap_eq_map, List.filterMap_filter]
        refine congrArg (List.filterMap · _) (funext fun stage => ?_)
        simp

/-- A line succeeds exactly if every stage did well: no wait has failed then. -/
theorem outcome_ofTold_eq_success_iff :
    (ofTold told).outcome = .success ↔ ∀ stage ∈ (ofTold told).stages, stage.DidWell told := by
  have houtcome : (ofTold told).outcome = .success ↔ (ofTold told).waitErrors.isEmpty = true ∧
      ((ofTold told).stages.all fun stage => stage.status.isSuccess) = true := by
    rw [outcome, ← Bool.and_eq_true]
    split
    · simp_all
    · simp_all
  rw [houtcome, List.all_eq_true]
  constructor
  · rintro ⟨-, hall⟩ stage hstage
    exact (isSuccess_iff_didWell told hstage).mp (hall stage hstage)
  · intro hall
    have hsuccess : ∀ stage ∈ (ofTold told).stages, stage.status.isSuccess = true :=
      fun stage hstage => (isSuccess_iff_didWell told hstage).mpr (hall stage hstage)
    -- a failed wait would belong to a stage that is lost, and that is no success
    have hnoError : (ofTold told).waitErrors.map WaitError.pid = [] := by
      rw [pid_waitErrors_ofTold, List.map_eq_nil_iff, List.filter_eq_nil_iff]
      intro stage hstage hlost
      have hstatus : stage.status = .lost := by simpa using hlost
      have hgood := hsuccess stage hstage
      rw [hstatus] at hgood
      cases hgood
    rw [List.map_eq_nil_iff] at hnoError
    exact ⟨by rw [hnoError]; rfl, hsuccess⟩

/-- The stages that failed are those that did not do well. -/
theorem failed_ofTold :
    (ofTold told).failed = (ofTold told).stages.filter fun stage => ¬stage.DidWell told := by
  refine List.filter_congr fun stage hstage => ?_
  have hiff := isSuccess_iff_didWell told hstage
  cases hsuccess : stage.status.isSuccess with
  | true => simp [hiff.mp hsuccess]
  | false => simp [mt hiff.mpr (Bool.eq_false_iff.mp hsuccess)]

/-- Every wait is one stage, at the place of the wait and with the process that it was for. -/
theorem pid_and_index_stages_ofTold : (ofTold told).stages.map StageReport.pid = told.map Prod.fst ∧
    (ofTold told).stages.map StageReport.index = List.range told.length := by
  constructor
  · rw [← List.filterMap_eq_map, ← List.filterMap_eq_map]
    exact filterMap_stages_ofTold told fun _ _ => rfl
  · refine List.ext_getElem ?_ fun i _ _ => ?_
    · rw [List.length_map, ofTold, List.length_mapIdx, List.length_range]
    · simp [ofTold]

/-- A line fails exactly if there is a stage that failed. -/
theorem outcome_ofTold_eq_failure_iff :
    (ofTold told).outcome = .failure ↔ (ofTold told).failed ≠ [] := by
  have hfailure : (ofTold told).outcome = .failure ↔ (ofTold told).outcome ≠ .success := by
    cases (ofTold told).outcome <;> simp
  rw [hfailure, Ne, outcome_ofTold_eq_success_iff, failed_ofTold, Ne, List.filter_eq_nil_iff]
  simp

end Report

/-! ### What the shell says -/

/-- What the shell says about what became of a line, message by message. -/
def messages : Except PipelineError Execution → List String
  | .ok (.completed report) => report.waitErrors.map WaitError.message
  | .ok _ => []
  | .error e => [e.message]

/-- How a failed wait is shown. -/
theorem WaitError.notice_message (e : WaitError) : Runner.notice e.message =
    s!"pipesh: waiting for process {e.pid} failed: {e.cause.message}\n" := by
  have hassoc : ∀ a b c d f g : String,
      a ++ (b ++ c ++ d ++ f) ++ g = a ++ b ++ c ++ d ++ f ++ g := by
    intro a b c d f g
    simp only [String.append_assoc]
  exact hassoc "pipesh: " "waiting for process " _ _ _ _

/-- What is to be done next when this became of a line. -/
def Control.ofResult : Except PipelineError Execution → Control
  | .ok .idle => idle
  | .ok (.terminate status) => terminate status
  | .ok (.completed report) => next report.outcome
  | .error _ => next .failure

/-- A line is run, then the messages are shown. -/
theorem run_eq (r : Runner) (line : String) : r.run line = (r.execute line).bind fun result =>
    (Interaction.complainAll ((messages result).map Runner.notice)).bind fun _ =>
      .done (Control.ofResult result) := by
  refine congrArg (Interaction.bind (r.execute line)) (funext fun result => ?_)
  match result with
  | .ok .idle => rfl
  | .ok (.terminate status) => rfl
  | .ok (.completed report) =>
    simp only [messages, List.map_map]
    rfl
  | .error e =>
    simp only [messages, List.map_cons, List.map_nil, Interaction.complainAll,
      Interaction.bind_assoc, Interaction.done_bind]
    rfl

section Messages

open Scene

variable {scene scene' : Scene}

/-- **What running a line adds to executing it**: the messages, and what is to be done next. -/
theorem plays_run_iff {r : Runner} {line : String} {replies : List ShellReply}
    {result : Except PipelineError Execution}
    (h : Plays Takes (r.execute line, scene) replies (.done result, scene'))
    (shown : List ShellReply) (control : Control) (scene'' : Scene) :
    Plays Takes (r.run line, scene) (replies ++ shown) (.done control, scene'') ↔
      shown = (messages result).map (fun message => .ofText Fd.stderr (Runner.notice message)) ∧
        control = .ofResult result ∧ scene'' = scene' := by
  rw [run_eq, plays_bind_iff h]
  constructor
  · intro hplays
    obtain ⟨texts, rest, u, middle, rfl, htexts, hrest⟩ := exists_of_plays_bind hplays
    obtain ⟨rfl, rfl⟩ := of_plays_complainAll htexts
    obtain ⟨rfl, hcontrol, hscene⟩ := of_plays_done hrest
    rw [List.append_nil, List.map_map]
    exact ⟨rfl, hcontrol, hscene⟩
  · rintro ⟨rfl, rfl, rfl⟩
    have hshown := plays_complainAll ((messages result).map Runner.notice) scene''
    rw [List.map_map] at hshown
    have hboth := (plays_bind_iff (f := fun _ => Interaction.done (Control.ofResult result))
      hshown [] _).mpr (.nil _)
    rwa [List.append_nil] at hboth

/-- A line is run by executing it. -/
theorem exists_execute_of_plays_run {r : Runner} {line : String} {replies : List ShellReply}
    {control : Control} (h : Plays Takes (r.run line, scene) replies (.done control, scene')) :
    ∃ heard shown result middle, replies = heard ++ shown ∧
      Plays Takes (r.execute line, scene) heard (.done result, middle) := by
  obtain ⟨heard, shown, result, middle, hreplies, hexecute, -⟩ := exists_of_plays_bind h
  exact ⟨heard, shown, result, middle, hreplies, hexecute⟩

end Messages

/-! ### The theorem -/

/-- **A line is a success exactly if all of its stages are.** When a line is completed, in whatever
way its processes end and the waits for them succeed or fail: each stage is reported at its place
with its process; the outcome is a success exactly if every process has left with status zero and
its wait has told so; the stages that failed are the others, in their order, and there are some
exactly if the outcome is a failure; and the failed waits are one for each lost stage, in the order
of the stages and with their processes. Running the line comes to its end exactly if one message for
each failed wait has been shown, in that order and each to its last octet, and then goes on with the
outcome. When the line cannot be executed, running it comes to its end exactly if one message has
been shown, and then goes on with a failure. And nothing is run that has not been executed so. -/
theorem Runner.outcome_is_conjunction (r : Runner) (line : String) :
    (∀ replies scene scene' report,
      Plays Scene.Takes (r.execute line, scene) replies (.done (.ok (.completed report)), scene') →
        report.stages.map StageReport.index = List.range (stagesOf r.settings line).length ∧
        report.stages.map StageReport.pid = (forks replies).map Prod.snd ∧
        (report.outcome = .success ↔ ∀ stage ∈ report.stages, stage.DidWell (waits replies)) ∧
        report.failed = report.stages.filter (fun stage => ¬stage.DidWell (waits replies)) ∧
        (report.outcome = .failure ↔ report.failed ≠ []) ∧
        report.waitErrors.map WaitError.pid =
          (report.stages.filter (·.status = .lost)).map StageReport.pid ∧
        ∀ shown control scene'',
          Plays Scene.Takes (r.run line, scene) (replies ++ shown) (.done control, scene'') ↔
            shown = report.waitErrors.map (fun e => .ofText Fd.stderr
              s!"pipesh: waiting for process {e.pid} failed: {e.cause.message}\n") ∧
            control = .next report.outcome ∧ scene'' = scene') ∧
    (∀ replies scene scene' e,
      Plays Scene.Takes (r.execute line, scene) replies (.done (.error e), scene') →
        ∀ shown control scene'',
          Plays Scene.Takes (r.run line, scene) (replies ++ shown) (.done control, scene'') ↔
            shown = [.ofText Fd.stderr s!"pipesh: {e.message}\n"] ∧
            control = .next .failure ∧ scene'' = scene') ∧
    ∀ replies scene scene' control,
      Plays Scene.Takes (r.run line, scene) replies (.done control, scene') →
        ∃ heard shown result middle, replies = heard ++ shown ∧
          Plays Scene.Takes (r.execute line, scene) heard (.done result, middle) := by
  refine ⟨?_, ?_, fun _ _ _ _ hrun => exists_execute_of_plays_run hrun⟩
  · intro replies scene scene' report hplays
    obtain ⟨stages, w, pids, answers, hread, -, hpids, hanswers, hforks, hwaits, hreport⟩ :=
      of_completed hplays
    obtain ⟨hpid, hindex⟩ := Report.pid_and_index_stages_ofTold (waits replies)
    have hrun := plays_run_iff hplays
    have hlength : (waits replies).length = stages.length := by
      rw [hwaits, List.length_zip, hpids, hanswers, Nat.min_self]
    have hprocesses : (waits replies).map Prod.fst = (forks replies).map Prod.snd := by
      rw [hwaits, hforks, List.map_fst_zip (by omega), List.map_snd_zip (by simp; omega)]
    have hshown : (messages (.ok (.completed report))).map
        (fun message => ShellReply.ofText Fd.stderr (Runner.notice message)) =
        report.waitErrors.map fun e => .ofText Fd.stderr
          s!"pipesh: waiting for process {e.pid} failed: {e.cause.message}\n" := by
      rw [messages, List.map_map]
      exact List.map_congr_left fun e _ => congrArg (ShellReply.ofText Fd.stderr) e.notice_message
    rw [hshown] at hrun
    subst hreport
    refine ⟨?_, ?_, Report.outcome_ofTold_eq_success_iff _, Report.failed_ofTold _,
      Report.outcome_ofTold_eq_failure_iff _, Report.pid_waitErrors_ofTold _, hrun⟩
    · rw [hindex, hlength, stagesOf_eq hread]
    · rw [hpid, hprocesses]
  · intro replies scene scene' e hplays
    exact plays_run_iff hplays

section TwoStages

/-- Answers to a line of two stages the waits for which come to this. -/
def twoStagesReplies (first second : Except Errno Ending) : List ShellReply :=
  [⟨.pipe, .ok (3, 4)⟩, ⟨.fork writerPlan, .ok (7 : Pid)⟩, ⟨.fork readerPlan, .ok (8 : Pid)⟩,
    ⟨.close 3, .ok ()⟩, ⟨.close 4, .ok ()⟩, ⟨.wait 7, first⟩, ⟨.wait 8, second⟩]

theorem exists_plays_twoStages {first second : Except Errno Ending}
    (hfirst : isInterruption first = false) (hsecond : isInterruption second = false) :
    ∃ scene', Plays Scene.Takes (Runner.execute {} "a | b", ⟨{}, 0, []⟩)
      (twoStagesReplies first second)
      (.done (.ok (.completed (.ofTold [(7, first), (8, second)]))), scene') := by
  have hreport : ((({} : Report).record 0 7 (first.bind StageStatus.ofEnding)).record 1 8
      (second.bind StageStatus.ofEnding)) = .ofTold [(7, first), (8, second)] := by
    have hempty : ({} : Report) = .ofWaits [] := rfl
    rw [hempty, Report.record_ofWaits [] ⟨0, 7⟩, Report.record_ofWaits _ ⟨1, 8⟩]
    rfl
  rw [execute_twoStages, ← hreport]
  exact ⟨_, .cons (.persist _) (.cons (.persist _) (.cons (.persist _) (.cons (.once _)
    (.cons (.once _) (.cons (Scene.takes_persist hfirst)
      (.cons (Scene.takes_persist hsecond) (.nil _)))))))⟩

/-- The line of two stages where the first is lost and the second is killed. -/
theorem Runner.outcome_is_conjunction_two_stages :
    let report : Report := ⟨[⟨0, 7, .lost⟩, ⟨1, 8, .signaled .kill⟩], [⟨7, .echild⟩]⟩
    let replies := twoStagesReplies (.error .echild) (.ok (.killed 9))
    ∃ scene', Plays Scene.Takes (Runner.execute {} "a | b", ⟨{}, 0, []⟩) replies
        (.done (.ok (.completed report)), scene') ∧
      report.failed = report.stages ∧ report.outcome = .failure ∧
      report.waitErrors.map WaitError.pid = [7] ∧
      Plays Scene.Takes (Runner.run {} "a | b", ⟨{}, 0, []⟩)
        (replies ++ [.ofText Fd.stderr
          s!"pipesh: waiting for process 7 failed: {Errno.echild.message}\n"])
        (.done (.next .failure), scene') := by
  intro report replies
  obtain ⟨scene', hplays⟩ : ∃ scene', Plays Scene.Takes (Runner.execute {} "a | b", ⟨{}, 0, []⟩)
      replies (.done (.ok (.completed report)), scene') := exists_plays_twoStages rfl rfl
  obtain ⟨-, -, -, hfailed, houtcome, herrors, hrun⟩ :=
    (outcome_is_conjunction {} "a | b").1 replies _ scene' report hplays
  have hall : report.failed = report.stages := by
    rw [hfailed]
    decide
  have hfailure : report.outcome = .failure := houtcome.mpr (by rw [hall]; decide)
  refine ⟨scene', hplays, hall, hfailure, herrors.trans (by decide), ?_⟩
  exact (hrun _ _ _).mpr ⟨rfl, by rw [hfailure], rfl⟩

end TwoStages

end PipeShell
