import PipeShell.Proofs.Pipeline.Aborted
import PipeShell.Proofs.Pipeline.Conjunction

/-!
# Lines that stop the shell

Whether a line stops the shell is decided in two places. `checkStatus` looks at the number of stages
and at the status that is asked for; `Launcher.launch` looks at the wiring, and would take any
status that it cannot read for none. They never differ: a lone terminator that is launched has been
checked (`isStop_of_parse`).

* `Runner.Goes.eq_terminate_iff` and `Course.result_cases` say which results the ways of a line
  have.
* `Worker.leaves_of_takes` is the step of a process that has only to leave, and
  `Worker.leaves_of_plays` its whole life.
* `Runner.stops_iff_lone_terminator` is the theorem: only a lone terminator stops the shell, with
  the status that it asks for; a terminator among other stages is a process like theirs that leaves.
-/

namespace PipeShell

/-- A stage is the terminator exactly if its first word is. -/
theorem Stage.isTerminator_iff_head? {stage : Stage} {terminator : String}
    (hwords : stage.words ≠ []) :
    stage.isTerminator terminator = true ↔ stage.words.head? = some terminator := by
  obtain ⟨first, others, hfirst⟩ := List.exists_cons_of_ne_nil hwords
  rw [isTerminator, program, hfirst, List.headD_cons, List.head?_cons, beq_iff_eq,
    Option.some.injEq]

/-! ### Results -/

/-- A line that stops the shell has one status. -/
theorem IsStop.status_eq {settings : Settings} {line : String} {status status' : Option Int}
    (h : IsStop settings line status) (h' : IsStop settings line status') : status = status' := by
  obtain ⟨stage, hread, -, hstatus⟩ := h
  obtain ⟨stage', hread', -, hstatus'⟩ := h'
  obtain rfl : stage = stage' := List.singleton_inj.mp (Except.ok.inj (hread.symm.trans hread'))
  exact Except.ok.inj (hstatus.symm.trans hstatus')

/-- What comes of launching: a report, or something that has been refused. -/
theorem Launching.result_cases {l : Launcher} {w : Wiring} {handles : List Handle}
    {stages : List Stage} {replies : List ShellReply} {result : Except LaunchError Execution}
    (h : Launching l w handles stages replies result) :
    (∃ report, result = .ok (.completed report)) ∨ ∃ i cause, result = .error (.fork i cause) := by
  induction h with
  | completed shut all settled => exact .inl ⟨_, rfl⟩
  | launched pid others ih => exact ih
  | @refused handles stage rest closes kills answers cause other shut ended all settled =>
    exact .inr ⟨stage.index, cause, rfl⟩

theorem Course.result_cases {l : Launcher} {stages : List Stage} {replies : List ShellReply}
    {result : Except LaunchError Execution} (h : Course l stages replies result) :
    (∃ report, result = .ok (.completed report)) ∨ (∃ cause, result = .error (.pipe cause)) ∨
      ∃ i cause, result = .error (.fork i cause) := by
  cases h with
  | wired all launching => exact launching.result_cases.imp_right .inr
  | unwired cause other few shut => exact .inr (.inl ⟨cause, rfl⟩)

namespace Runner

variable {r : Runner} {line : String} {replies : List ShellReply}
  {result : Except PipelineError Execution}

/-- Only a lone terminator stops the shell. -/
theorem Goes.eq_terminate_iff (h : r.Goes line replies result) (status : Option Int) :
    result = .ok (.terminate status) ↔ IsStop r.settings line status := by
  constructor
  · intro hresult
    cases h with
    | malformed => cases hresult
    | idle => cases hresult
    | stop asks =>
      cases hresult
      exact asks
    | run read proper goes course =>
      obtain ⟨report, rfl⟩ | ⟨cause, rfl⟩ | ⟨i, cause, rfl⟩ := course.result_cases
      all_goals cases hresult
  · intro hstop
    cases h with
    | malformed refused =>
      obtain ⟨stage, hread, -⟩ := hstop
      cases refused.symm.trans hread
    | idle blank =>
      obtain ⟨stage, hread, -⟩ := hstop
      cases blank.symm.trans hread
    | stop asks => rw [asks.status_eq hstop]
    | run read proper goes course => exact absurd hstop (goes status)

/-- No stage without words is ever launched. -/
theorem Goes.ne_emptyStage (h : r.Goes line replies result) (index : Nat) :
    result ≠ .error (.launch (.emptyStage index)) := by
  intro hresult
  cases h with
  | malformed => cases hresult
  | idle => cases hresult
  | stop => cases hresult
  | run read proper goes course =>
    obtain ⟨report, rfl⟩ | ⟨cause, rfl⟩ | ⟨i, cause, rfl⟩ := course.result_cases
    all_goals cases hresult

/-- Processes are made for the stages of a line in their order, each by its plan. -/
theorem Goes.forks_prefix {stages : List Stage} (h : r.Goes line replies result)
    (hread : (parse r.settings line).stages = .ok stages) :
    ∃ w : Wiring, w.stages = stages.length ∧
      (forks replies).map Prod.fst <+: stages.map (r.launcher.plan w) := by
  cases h with
  | malformed => exact ⟨⟨stages.length, []⟩, rfl, List.nil_prefix⟩
  | idle => exact ⟨⟨stages.length, []⟩, rfl, List.nil_prefix⟩
  | stop => exact ⟨⟨stages.length, []⟩, rfl, List.nil_prefix⟩
  | @run stages' _ _ read proper goes course =>
    obtain rfl : stages' = stages := Except.ok.inj (read.symm.trans hread)
    exact course.forks_prefix

end Runner

/-! ### Processes that leave -/

namespace Worker

/-- Whether a process has nothing to do but to leave with status zero, or has done so. -/
def Leaves (w : Worker) : Prop :=
  w.life = .preparing [.exit 0] ∨ w.life = .ended (.exited 0)

/-- What such a process does next is to leave. -/
theorem leaves_of_takes {w w' : Worker} {e : WorkerReply} (h : w.Leaves) (htakes : Takes w e w') :
    w'.Leaves := by
  cases htakes with
  | @step step rest life answer =>
    rcases h with hexit | hended
    · obtain ⟨rfl, rfl⟩ := List.cons.inj (Life.preparing.inj (life.symm.trans hexit))
      exact .inr (congrArg Worker.life (w.after_exit 0 [] answer))
    · cases life.symm.trans hended

/-- It runs no program at any time. -/
theorem leaves_of_plays {w w' : Worker} {replies : List WorkerReply} (h : w.Leaves)
    (hplays : Plays Takes w replies w') : w'.Leaves :=
  hplays.keeps Leaves (fun hs htakes => leaves_of_takes hs htakes) h

end Worker

/-! ### The theorem -/

namespace Runner

open Scene

variable {r : Runner} {line : String} {stages : List Stage} {scene scene' : Scene}
  {replies : List ShellReply}

/-- At any moment, the processes that have been made are those of the first stages. -/
theorem forks_prefix {p : Interaction (Except PipelineError Execution)}
    (hread : (parse r.settings line).stages = .ok stages)
    (h : Plays Takes (r.execute line, scene) replies (p, scene')) :
    ∃ w : Wiring, w.stages = stages.length ∧
      (forks replies).map Prod.fst <+: stages.map (r.launcher.plan w) := by
  by_cases hp : p = .aborted
  · subst hp
    rw [forks_of_aborted h]
    exact ⟨⟨stages.length, []⟩, rfl, List.nil_prefix⟩
  · -- the line may come to its end from here, and then goes one of its ways
    obtain ⟨more, result, last, hmore⟩ := exists_plays_done_of_ne_aborted h hp
    obtain ⟨rest, hall, hgoes⟩ := goes_of_plays (h.append hmore)
    obtain ⟨w, hstages, hprefix⟩ := hgoes.forks_prefix hread
    rw [← (forks_and_waits_shown _ rest).1, ← hall, forks_append, List.map_append] at hprefix
    exact ⟨w, hstages, (List.prefix_append _ _).trans hprefix⟩

/-- A line that stops the shell asks for nothing but that its trace be shown. -/
theorem replies_of_isStop {status : Option Int} {result : Except PipelineError Execution}
    (hstop : IsStop r.settings line status)
    (h : Plays Takes (r.execute line, scene) replies (.done result, scene')) :
    replies = (parse r.settings line).shown := by
  rw [execute_of_isStop hstop] at h
  obtain ⟨shown, rest, _, middle, rfl, hshown, hrest⟩ := exists_of_plays_bind h
  obtain ⟨rfl, -⟩ := of_plays_done hrest
  rw [List.append_nil]
  exact (of_plays_complainAll hshown).1

/-- What the terminator does as one of several stages. -/
theorem plan_of_isTerminator {stage : Stage} (w : Wiring)
    (h : stage.isTerminator r.settings.terminator = true) : r.launcher.plan w stage = [.exit 0] :=
  if_pos h

/-- The process of a stage that is the terminator leaves, and does nothing before. -/
theorem leaves_of_leads {script : Script} {table : DescriptorTable} {files i : Nat}
    {p : Interaction (Except PipelineError Execution)} {stage : Stage} {worker : Worker}
    (hread : (parse r.settings line).stages = .ok stages) (hi : stages[i]? = some stage)
    (hterminator : stage.isTerminator r.settings.terminator = true)
    (h : script.Leads (r.execute line) table files p scene)
    (hworker : scene.workers[i]? = some worker) :
    worker.Leaves := by
  obtain ⟨forked, hplays, -, -, hlength, hworkers⟩ := h
  obtain ⟨w, -, others, hprefix⟩ := forks_prefix hread hplays
  have hsome : i < forked.workers.length := by
    rw [← hlength]
    exact (List.getElem?_eq_some_iff.mp hworker).1
  have hlives : forked.workers.map Worker.life =
      ((forks script.shell).map Prod.fst).map Life.preparing := by
    have hmade := congrArg (List.map Prod.fst) (workers_of_plays hplays)
    simpa [Function.comp_def] using hmade
  have hcount : i < ((forks script.shell).map Prod.fst).length := by
    have hlengths := congrArg List.length hlives
    rw [List.length_map, List.length_map] at hlengths
    omega
  -- the process has been made with the plan of its stage
  have hplan : ((forks script.shell).map Prod.fst)[i]? = some [.exit 0] := by
    rw [← List.getElem?_append_left hcount, hprefix, List.getElem?_map, hi, Option.map_some,
      plan_of_isTerminator w hterminator]
  have hlife : forked.workers[i].life = .preparing [.exit 0] := by
    have hith := congrArg (·[i]?) hlives
    simp only [List.getElem?_map, List.getElem?_eq_getElem hsome, Option.map_some] at hith
    rw [← List.getElem?_map, hplan] at hith
    exact Option.some.inj hith
  exact Worker.leaves_of_plays (.inl hlife)
    (hworkers i _ worker (List.getElem?_eq_getElem hsome) hworker)

/-- **Only a lone terminator stops the shell.** A line ends with a request to stop exactly if it has
been read as one stage whose first word is the terminator; the status is the one that this stage
asks for, and all that the shell has asked for is that its trace be shown. A stage without words is
never launched. Such a line does end so. And where the terminator is one of several stages, whatever
its other words are, the line does not stop the shell: the processes are made stage by stage, each
by the plan of its stage, and if the line is completed, for all of them; and the process of that
stage leaves with status zero, at any moment having run no program. -/
theorem stops_iff_lone_terminator (r : Runner) (line : String) :
    (∀ replies result scene scene',
      Plays Takes (r.execute line, scene) replies (.done result, scene') →
        (∀ status, result = .ok (.terminate status) ↔
          ∃ stage, (parse r.settings line).stages = .ok [stage] ∧
            stage.words.head? = some r.settings.terminator ∧ stage.exitStatus = .ok status) ∧
        (∀ status, result = .ok (.terminate status) →
          ∀ e ∈ replies, ∃ bytes, e.1 = .writeAll Fd.stderr bytes) ∧
        ∀ index, result ≠ .error (.launch (.emptyStage index))) ∧
    (∀ stage, (parse r.settings line).stages = .ok [stage] →
      stage.words.head? = some r.settings.terminator →
        ∃ status, stage.exitStatus = .ok status ∧
          r.execute line = (Interaction.complainAll (parse r.settings line).trace).bind fun _ =>
            .done (.ok (.terminate status))) ∧
    ∀ (stages : List Stage) (i : Nat) (stage : Stage),
      (parse r.settings line).stages = .ok stages → 2 ≤ stages.length →
      stages[i]? = some stage → stage.words.head? = some r.settings.terminator →
        (∀ replies result scene scene',
          Plays Takes (r.execute line, scene) replies (.done result, scene') →
            (∀ status, result ≠ .ok (.terminate status)) ∧
            (∃ w : Wiring, w.stages = stages.length ∧ r.launcher.plan w stage = [.exit 0] ∧
              (forks replies).map Prod.fst <+: stages.map (r.launcher.plan w)) ∧
            ∀ report, result = .ok (.completed report) →
              (forks replies).length = stages.length) ∧
        ∀ (script : Script) (table : DescriptorTable) (files : Nat) p scene (worker : Worker),
          script.Leads (r.execute line) table files p scene →
            scene.workers[i]? = some worker →
              worker.life = .preparing [.exit 0] ∨ worker.life = .ended (.exited 0) := by
  have hstop_iff : ∀ status, IsStop r.settings line status ↔
      ∃ stage, (parse r.settings line).stages = .ok [stage] ∧
        stage.words.head? = some r.settings.terminator ∧ stage.exitStatus = .ok status := by
    intro status
    refine exists_congr fun stage => and_congr_right fun hread => and_congr_left fun _ => ?_
    exact Stage.isTerminator_iff_head? (words_ne_nil_of_parse hread stage List.mem_cons_self)
  refine ⟨?_, ?_, ?_⟩
  · intro replies result scene scene' hplays
    obtain ⟨rest, hreplies, hgoes⟩ := goes_of_plays hplays
    refine ⟨fun status => (hgoes.eq_terminate_iff status).trans (hstop_iff status), ?_,
      hgoes.ne_emptyStage⟩
    intro status hresult e he
    rw [replies_of_isStop ((hgoes.eq_terminate_iff status).mp hresult) hplays] at he
    obtain ⟨text, -, rfl⟩ := List.mem_map.mp he
    exact ⟨_, rfl⟩
  · intro stage hread hhead
    have hterminator := (Stage.isTerminator_iff_head?
      (words_ne_nil_of_parse hread stage List.mem_cons_self)).mpr hhead
    obtain ⟨status, hstop⟩ := isStop_of_parse hread hterminator
    obtain ⟨stage', hread', -, hstatus⟩ := (hstop_iff status).mp hstop
    obtain rfl : stage = stage' := List.singleton_inj.mp (Except.ok.inj (hread.symm.trans hread'))
    exact ⟨status, hstatus, execute_of_isStop hstop⟩
  · intro stages i stage hread hseveral hi hhead
    have hterminator := (Stage.isTerminator_iff_head?
      (words_ne_nil_of_parse hread stage (List.mem_of_getElem? hi))).mpr hhead
    constructor
    · intro replies result scene scene' hplays
      obtain ⟨rest, hreplies, hgoes⟩ := goes_of_plays hplays
      obtain ⟨w, hstages, hprefix⟩ := forks_prefix hread hplays
      refine ⟨?_, ⟨w, hstages, plan_of_isTerminator w hterminator, hprefix⟩, ?_⟩
      · intro status hresult
        obtain ⟨lone, hlone, -⟩ := (hgoes.eq_terminate_iff status).mp hresult
        obtain rfl : stages = [lone] := Except.ok.inj (hread.symm.trans hlone)
        exact absurd hseveral (by simp)
      · rintro report rfl
        obtain ⟨stages', w', pids, answers, hread', -, hpids, -, hforks, -⟩ := of_completed hplays
        obtain rfl : stages = stages' := Except.ok.inj (hread.symm.trans hread')
        rw [hforks, List.length_zip, List.length_map, hpids, Nat.min_self]
    · intro script table files p scene worker hleads hworker
      exact leaves_of_leads hread hi hterminator hleads hworker

end Runner

section TwoLines

/-- Answers to a line of two stages of which the first is the terminator, and to its process. -/
def Script.terminatorFirst : Script where
  shell := [⟨.pipe, .ok (3, 4)⟩, ⟨.fork [.exit 0], .ok (7 : Pid)⟩,
    ⟨.fork readerPlan, .ok (8 : Pid)⟩, ⟨.close 3, .ok ()⟩, ⟨.close 4, .ok ()⟩,
    ⟨.wait 7, .ok (.exited 0)⟩, ⟨.wait 8, .ok (.exited 1)⟩]
  workers
    | 0 => [(.exit 0, .ok ())]
    | _ => []

/-- The shell behind that line, and its processes. -/
def terminatorFirstScene : Scene where
  table := (pipedTable.erase 3).erase 4
  files := 2
  workers := [⟨7, {}, .ended (.exited 0)⟩, ⟨8, pipedTable, .preparing readerPlan⟩]

theorem parse_terminatorFirst : (parse {} "exit x | b").stages =
    .ok [⟨0, "exit x", ["exit", "x"]⟩, ⟨1, "b", ["b"]⟩] := by
  decide

theorem leads_terminatorFirst : Script.terminatorFirst.Leads (Runner.execute {} "exit x | b") {} 0
    (.done (.ok (.completed ⟨[⟨0, 7, .exited 0⟩, ⟨1, 8, .exited 1⟩], []⟩)))
    terminatorFirstScene := by
  have htrace : (parse {} "exit x | b").trace = [] := by decide
  have hexecute : Runner.execute {} "exit x | b" =
      (Runner.start {} [⟨0, "exit x", ["exit", "x"]⟩, ⟨1, "b", ["b"]⟩]).bind fun result =>
        .done (result.mapError .launch) := by
    simp only [Runner.execute, parse_terminatorFirst, htrace]
    rfl
  rw [hexecute]
  refine ⟨_, .cons (.persist _) (.cons (.persist _) (.cons (.persist _) (.cons (.once _)
    (.cons (.once _) (.cons (.persist _) (.cons (.persist _) (.nil _))))))), rfl, rfl, rfl, ?_⟩
  intro i w w' hw hw'
  rcases i with _ | _ | i
  · cases hw
    cases hw'
    exact .cons (.step rfl _) (.nil _)
  · cases hw
    cases hw'
    exact .nil _
  · cases hw

/-- A line that stops the shell with a status, and one of two stages that does not stop it though
the terminator is one of them, with a word that is no status. -/
theorem Runner.stops_iff_lone_terminator_two_lines :
    Runner.execute {} "exit 5" = .done (.ok (.terminate (some 5))) ∧
    ∃ script scene worker, Script.Leads script (Runner.execute {} "exit x | b") {} 0
        (.done (.ok (.completed ⟨[⟨0, 7, .exited 0⟩, ⟨1, 8, .exited 1⟩], []⟩))) scene ∧
      (forks script.shell).length = 2 ∧ scene.workers[0]? = some worker ∧
      (worker.life = .preparing [.exit 0] ∨ worker.life = .ended (.exited 0)) := by
  have hlone : (parse {} "exit 5").stages = .ok [⟨0, "exit 5", ["exit", "5"]⟩] := by decide
  have htrace : (parse {} "exit 5").trace = [] := by decide
  constructor
  · obtain ⟨status, hstatus, hexecute⟩ :=
      (Runner.stops_iff_lone_terminator {} "exit 5").2.1 _ hlone (by decide)
    obtain rfl : status = some 5 := by
      have hfive : Stage.exitStatus ⟨0, "exit 5", ["exit", "5"]⟩ = .ok (some 5) := by decide
      exact Except.ok.inj (hstatus.symm.trans hfive)
    rw [hexecute, htrace]
    rfl
  · obtain ⟨hline, hworker⟩ := (Runner.stops_iff_lone_terminator {} "exit x | b").2.2 _ 0 _
      parse_terminatorFirst (by decide) rfl (by decide)
    obtain ⟨forked, hplays, -⟩ := leads_terminatorFirst
    exact ⟨_, _, _, leads_terminatorFirst, (hline _ _ _ _ hplays).2.2 _ rfl, rfl,
      hworker _ _ _ _ _ _ leads_terminatorFirst rfl⟩

end TwoLines

end PipeShell
