import PipeShell.Proofs.Pipeline.Script

/-!
# Interruptions are invisible

The calls by which the shell makes pipes and processes and waits for them may be interrupted, and so
may the installation of a stream in a new process. All of them are made again. Here it is shown that
this is so wherever the shell makes such a call, also while it clears up behind a launch that has
failed, and that no cause that it reports is an interruption.

* `Lasting` says of a result that it does not blame an interruption, and for each function that
  talks to the system there is a lemma that it endures (`Interaction.Endures`).
* `endures_execute` is the lemma for a whole line.
* `interruptions_invisible` is the theorem: scripts that differ in interruptions lead to the same.
-/

namespace PipeShell

/-! ### Results that blame no interruption -/

/-- Whether no wait that has failed is said to have been interrupted. -/
def Report.Lasting (report : Report) : Prop :=
  ∀ e ∈ report.waitErrors, e.cause ≠ .eintr

/-- Whether what has become of a line blames no interruption. -/
def Execution.Lasting : Execution → Prop
  | .completed report => report.Lasting
  | _ => True

/-- Whether a result blames no interruption, and `good` holds of what it holds. -/
def LaunchError.Lasting {β : Type} (good : β → Prop) : Except LaunchError β → Prop
  | .ok b => good b
  | .error e => e.cause? ≠ some .eintr

theorem ne_eintr_of_isInterruption {α : Type} {cause : Errno}
    (h : isInterruption (.error cause : Except Errno α) = false) : cause ≠ .eintr := by
  rintro rfl
  cases h

/-- A wait is blamed on what the system has answered, or on a signal without a name. -/
theorem Report.Lasting.record {report : Report} (h : report.Lasting) (index : Nat) (pid : Pid)
    {answer : Except Errno Ending} (hanswer : isInterruption answer = false) :
    (report.record index pid (answer.bind StageStatus.ofEnding)).Lasting := by
  have hcause : ∀ cause, answer.bind StageStatus.ofEnding = .error cause → cause ≠ .eintr := by
    intro cause hbind
    rcases answer with e | how
    · obtain rfl : e = cause := Except.error.inj hbind
      exact ne_eintr_of_isInterruption hanswer
    · rintro rfl
      change StageStatus.ofEnding how = _ at hbind
      rw [StageStatus.ofEnding.eq_def] at hbind
      split at hbind
      · cases hbind
      · split at hbind <;> cases hbind
  rcases hstatus : answer.bind StageStatus.ofEnding with cause | status
  · intro e he
    rcases List.mem_append.mp he with he | he
    · exact h e he
    · rw [List.mem_singleton.mp he]
      exact hcause cause hstatus
  · exact h

/-! ### What the shell asks for -/

section Endures

open Interaction

variable {α : Type}

/-- Requests that are made once and not looked at. -/
theorem endures_performAll {requests : List Request}
    (h : ∀ r ∈ requests, r.isRetried = false) : (performAll requests).Endures fun _ => True := by
  induction requests with
  | nil => exact .done trivial
  | cons r rest ih =>
    exact .once (h r List.mem_cons_self) fun _ => ih fun r' hr' => h r' (List.mem_cons_of_mem r hr')

/-- Texts that are shown. -/
theorem endures_complainAll (texts : List String) : (complainAll texts).Endures fun _ => True := by
  induction texts with
  | nil => exact .done trivial
  | cons text rest ih =>
    refine .once rfl fun answer => ?_
    cases answer with
    | ok u => exact ih
    | error cause => exact .aborted

theorem endures_release (w : Wiring) : w.release.Endures fun _ => True := by
  refine endures_performAll fun r hr => ?_
  obtain ⟨fd, -, rfl⟩ := List.mem_map.mp hr
  rfl

theorem endures_extend (w : Wiring) (count : Nat) :
    (w.extend count).Endures (LaunchError.Lasting fun _ => True) := by
  induction count generalizing w with
  | zero => exact .done trivial
  | succ count ih =>
    refine .persist fun answer hanswer => ?_
    cases answer with
    | ok ends => exact ih _
    | error cause =>
      refine (endures_release w).bind fun _ _ => .done ?_
      exact fun hcause => ne_eintr_of_isInterruption hanswer (Option.some.inj hcause)

theorem endures_launch (l : Launcher) (w : Wiring) (stage : Stage) :
    (l.launch w stage).Endures (LaunchError.Lasting fun _ => True) := by
  rw [Launcher.launch]
  by_cases hempty : stage.words.isEmpty = true
  · rw [if_pos hempty]
    have hnone : (LaunchError.emptyStage stage.index).cause? ≠ some .eintr := by
      simp [LaunchError.cause?]
    exact .done hnone
  · rw [if_neg hempty]
    by_cases hlone : (stage.isTerminator l.terminator && w.stages == 1) = true
    · rw [if_pos hlone]
      exact .done trivial
    · rw [if_neg hlone]
      refine .persist fun answer hanswer => ?_
      cases answer with
      | ok pid => exact .done trivial
      | error cause =>
        refine .done fun hcause => ?_
        exact ne_eintr_of_isInterruption hanswer (Option.some.inj hcause)

theorem endures_collectAll (handles : List Handle) :
    (collectAll handles).Endures fun _ => True := by
  induction handles with
  | nil => exact .done trivial
  | cons h rest ih => exact .persist fun _ _ => ih

/-- Clearing up endures as well. -/
theorem endures_cull (handles : List Handle) : (cull handles).Endures fun _ => True := by
  have hkill : ∀ r ∈ handles.map fun h => Request.kill h.pid .kill, r.isRetried = false := by
    intro r hr
    obtain ⟨h, -, rfl⟩ := List.mem_map.mp hr
    rfl
  exact (endures_performAll hkill).bind fun _ _ => endures_collectAll handles

theorem endures_waitAll {report : Report} (h : report.Lasting) (handles : List Handle) :
    (waitAll report handles).Endures Report.Lasting := by
  induction handles generalizing report with
  | nil => exact .done h
  | cons handle rest ih => exact .persist fun _ hanswer => ih (h.record _ _ hanswer)

theorem endures_launchAll (l : Launcher) (w : Wiring) (handles : List Handle)
    (stages : List Stage) :
    (launchAll l w handles stages).Endures (LaunchError.Lasting Execution.Lasting) := by
  induction stages generalizing handles with
  | nil =>
    refine (endures_release w).bind fun _ _ => ?_
    have hnone : ({} : Report).Lasting := fun e he => absurd he List.not_mem_nil
    exact (endures_waitAll hnone handles).bind fun _ hreport => .done hreport
  | cons stage rest ih =>
    refine (endures_launch l w stage).bind fun launched hlaunched => ?_
    cases launched with
    | ok launched =>
      cases launched with
      | started h => exact ih (handles ++ [h])
      | terminate status => exact (endures_release w).bind fun _ _ => .done trivial
    | error e =>
      refine (endures_release w).bind fun _ _ => ?_
      exact (endures_cull handles).bind fun _ _ => .done hlaunched

theorem endures_start (r : Runner) (stages : List Stage) :
    (r.start stages).Endures (LaunchError.Lasting Execution.Lasting) := by
  rw [Runner.start]
  by_cases hempty : stages.isEmpty = true
  · rw [if_pos hempty]
    exact .done trivial
  · rw [if_neg hempty]
    refine (endures_extend _ _).bind fun wired hwired => ?_
    cases wired with
    | ok w => exact endures_launchAll r.launcher w [] stages
    | error e => exact .done hwired

/-- **A line endures**: whatever may be interrupted on its way is asked again, and what becomes of
it blames no interruption. -/
theorem endures_execute (r : Runner) (line : String) :
    (r.execute line).Endures fun result =>
      (∀ e, result = .error e → e.cause? ≠ some .eintr) ∧
        ∀ report, result = .ok (.completed report) → report.Lasting := by
  rw [Runner.execute]
  refine (endures_complainAll _).bind fun _ _ => ?_
  cases (parse r.settings line).stages with
  | error fault =>
    refine .done ⟨fun e he => ?_, fun report hreport => (by cases hreport)⟩
    rw [← Except.error.inj he]
    simp [PipelineError.cause?]
  | ok stages =>
    refine (endures_start r stages).bind fun result hresult => .done ?_
    cases result with
    | ok execution =>
      refine ⟨fun e he => (by cases he), fun report hreport => ?_⟩
      rw [Except.ok.inj hreport] at hresult
      exact hresult
    | error error =>
      refine ⟨fun e he => ?_, fun report hreport => (by cases hreport)⟩
      rw [← Except.error.inj he]
      exact hresult

end Endures

/-- **Interruptions are invisible.** Scripts that differ in interruptions, before answers to what is
asked again, lead a line to the same: the same result, the same descriptors of the shell, the same
processes, each with the same descriptors and as far in its plan or at its program. And no cause
that a result blames is an interruption. -/
theorem interruptions_invisible (r : Runner) (line : String) (table : DescriptorTable) (files : Nat)
    (script : Script) :
    (∀ script', script.Interrupted script' → ∀ p scene,
      script.Leads (r.execute line) table files p scene ↔
        script'.Leads (r.execute line) table files p scene) ∧
    ∀ result scene, script.Leads (r.execute line) table files (.done result) scene →
      (∀ e, result = .error e → e.cause? ≠ some .eintr) ∧
        ∀ report, result = .ok (.completed report) → ∀ e ∈ report.waitErrors, e.cause ≠ .eintr := by
  have hline := endures_execute r line
  constructor
  · intro script' h p scene
    exact script.leads_iff_of_interrupted h hline table files p scene
  · intro result scene hleads
    exact Script.holds_of_leads hline hleads

/-! ### A line of two stages -/

section TwoStages

/-- What the process of a stage that writes to descriptor 4 does. -/
def writerPlan : Child :=
  [.restorePipeSignal, .install 4 .stdout, .close 3, .close 4, .exec ["a"]]

/-- What the process of a stage that reads from descriptor 3 does. -/
def readerPlan : Child :=
  [.restorePipeSignal, .install 3 .stdin, .close 3, .close 4, .exec ["b"]]

/-- Answers to a line of two stages, and to the first process up to the installation of its stream.
-/
def Script.twoStages : Script where
  shell := [⟨.pipe, .ok (3, 4)⟩, ⟨.fork writerPlan, .ok (7 : Pid)⟩,
    ⟨.fork readerPlan, .ok (8 : Pid)⟩, ⟨.close 3, .ok ()⟩, ⟨.close 4, .ok ()⟩,
    ⟨.wait 7, .ok (.exited 0)⟩, ⟨.wait 8, .ok (.exited 1)⟩]
  workers
    | 0 => [(.restorePipeSignal, .ok ()), (.install 4 .stdout, .ok ())]
    | _ => []

/-- The same with an interruption of every kind. -/
def Script.twoStagesInterrupted : Script where
  shell := [⟨.pipe, .error .eintr⟩, ⟨.pipe, .ok (3, 4)⟩, ⟨.fork writerPlan, .ok (7 : Pid)⟩,
    ⟨.fork readerPlan, .error .eintr⟩, ⟨.fork readerPlan, .ok (8 : Pid)⟩, ⟨.close 3, .ok ()⟩,
    ⟨.close 4, .ok ()⟩, ⟨.wait 7, .error .eintr⟩, ⟨.wait 7, .ok (.exited 0)⟩,
    ⟨.wait 8, .ok (.exited 1)⟩]
  workers
    | 0 => [(.restorePipeSignal, .ok ()), (.install 4 .stdout, .error .eintr),
        (.install 4 .stdout, .ok ())]
    | _ => []

theorem interrupted_twoStages : Script.twoStages.Interrupted .twoStagesInterrupted where
  shell := .insert ⟨rfl, rfl⟩ (.keep _ (.keep _ (.insert ⟨rfl, rfl⟩ (.keep _ (.keep _ (.keep _
    (.insert ⟨rfl, rfl⟩ (.keep _ (.keep _ .nil)))))))))
  workers
    | 0 => .keep _ (.insert ⟨rfl, rfl⟩ (.keep _ .nil))
    | _ + 1 => .nil

/-- The descriptors of the shell once it has its pipe. -/
def pipedTable : DescriptorTable :=
  (({} : DescriptorTable).put 3 ⟨0, true⟩).put 4 ⟨1, true⟩

/-- The shell at the end of the line, and its processes as far as the script tells. -/
def twoStagesScene : Scene where
  table := (pipedTable.erase 3).erase 4
  files := 2
  workers := [⟨7, pipedTable.insert 1 ⟨1, false⟩, .preparing (writerPlan.drop 2)⟩,
    ⟨8, pipedTable, .preparing readerPlan⟩]

/-- The line of two stages, read. -/
theorem execute_twoStages : Runner.execute {} "a | b" =
    (Runner.start {} [⟨0, "a", ["a"]⟩, ⟨1, "b", ["b"]⟩]).bind fun result =>
      .done (result.mapError .launch) := by
  have hstages : (parse {} "a | b").stages = .ok [⟨0, "a", ["a"]⟩, ⟨1, "b", ["b"]⟩] := by decide
  have htrace : (parse {} "a | b").trace = [] := by decide
  simp only [Runner.execute, hstages, htrace]
  rfl

theorem leads_twoStages : Script.twoStages.Leads (Runner.execute {} "a | b") {} 0
    (.done (.ok (.completed ⟨[⟨0, 7, .exited 0⟩, ⟨1, 8, .exited 1⟩], []⟩))) twoStagesScene := by
  rw [execute_twoStages]
  refine ⟨_, .cons (.persist _) (.cons (.persist _) (.cons (.persist _) (.cons (.once _)
    (.cons (.once _) (.cons (.persist _) (.cons (.persist _) (.nil _))))))), rfl, rfl, rfl, ?_⟩
  intro i w w' hw hw'
  rcases i with _ | _ | i
  · cases hw
    cases hw'
    exact .cons (.step rfl _) (.cons (.step rfl _) (.nil _))
  · cases hw
    cases hw'
    exact .nil _
  · cases hw

end TwoStages

/-- A line of two stages that is interrupted in every way ends as if it had not been. -/
theorem interruptions_invisible_two_stages :
    Script.twoStagesInterrupted.Leads (Runner.execute {} "a | b") {} 0
      (.done (.ok (.completed ⟨[⟨0, 7, .exited 0⟩, ⟨1, 8, .exited 1⟩], []⟩))) twoStagesScene :=
  ((interruptions_invisible {} "a | b" {} 0 .twoStages).1 _ interrupted_twoStages _ _).mp
    leads_twoStages

end PipeShell
