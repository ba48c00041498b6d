import PipeShell.Proofs.Command.Stages
import PipeShell.Proofs.Pipeline.Conversation
import PipeShell.Proofs.Pipeline.Progress

/-!
# The course of a line

A line goes one of a few ways, whatever the operating system answers. It is malformed, it is blank,
it asks the shell to stop, or its stages are launched; then a pipe may be refused, or a process, or
all stages run and are waited for. Here each of these ways is written down with all that the shell
asks for on it and what it hears, in order.

* `Launching` is the part behind the pipes, stage by stage, `Course` the whole way of the stages,
  and `Runner.Goes` the way of a line. Interruptions of calls that are made again are left out.
* `Runner.goes_of_plays` is the inversion: every conversation that a line can have is one of these.
* `Runner.of_completed` is what it says of a line that is completed: which processes have been made,
  what the waits for them have come to, and what the report holds.
-/

namespace PipeShell

/-! ### Reports -/

/-- How a stage has ended if the wait for its process has come to this. -/
def StageStatus.ofWait (answer : Except Errno Ending) : StageStatus :=
  match answer.bind ofEnding with
  | .ok status => status
  | .error _ => lost

/-- What is wrong with a wait that has come to this, if anything is. -/
def WaitError.ofWait? (pid : Pid) (answer : Except Errno Ending) : Option WaitError :=
  match answer.bind StageStatus.ofEnding with
  | .ok _ => none
  | .error cause => some ⟨pid, cause⟩

/-- The report on a line of which the waits have told this, process by process. -/
def Report.ofTold (told : List (Pid × Except Errno Ending)) : Report where
  stages := told.mapIdx fun i t => ⟨i, t.1, .ofWait t.2⟩
  waitErrors := told.filterMap fun t => WaitError.ofWait? t.1 t.2

/-- The report on processes that stand for stages, with what the waits for them have come to. -/
def Report.ofWaits (told : List (Handle × Except Errno Ending)) : Report where
  stages := told.map fun t => ⟨t.1.index, t.1.pid, .ofWait t.2⟩
  waitErrors := told.filterMap fun t => WaitError.ofWait? t.1.pid t.2

/-- One wait more is one record more. -/
theorem Report.record_ofWaits (told : List (Handle × Except Errno Ending)) (h : Handle)
    (answer : Except Errno Ending) :
    (ofWaits told).record h.index h.pid (answer.bind StageStatus.ofEnding) =
      ofWaits (told ++ [(h, answer)]) := by
  rw [record.eq_def, ofWaits, ofWaits, List.map_append, List.filterMap_append]
  cases hstatus : answer.bind StageStatus.ofEnding with
  | ok status => simp [StageStatus.ofWait, WaitError.ofWait?, hstatus]
  | error cause => simp [StageStatus.ofWait, WaitError.ofWait?, hstatus]

/-! ### The ways of the stages -/

/-- The processes of stages. -/
def handlesOf (stages : List Stage) (pids : List Pid) : List Handle :=
  List.zipWith (fun stage pid => ⟨stage.index, pid⟩) stages pids

/-- The answer by which a pipe is made. -/
def PipeEnds.reply (p : PipeEnds) : ShellReply :=
  ⟨.pipe, .ok (p.read, p.write)⟩

/-- The answers to the waits for processes. -/
def waitReplies (handles : List Handle) (answers : List (Except Errno Ending)) :
    List ShellReply :=
  List.zipWith (fun h answer => ⟨.wait h.pid, answer⟩) handles answers

/-- **How stages are launched** behind processes that run already, and what comes of it. -/
inductive Launching (l : Launcher) (w : Wiring) :
    List Handle → List Stage → List ShellReply → Except LaunchError Execution → Prop where
  /-- All stages run: the shell closes its pipe ends and waits. -/
  | completed {handles closes answers} (shut : closes.map Sigma.fst = w.fds.map .close)
    (all : answers.length = handles.length) (settled : ∀ a ∈ answers, isInterruption a = false) :
    Launching l w handles [] (closes ++ waitReplies handles answers)
      (.ok (.completed (.ofWaits (handles.zip answers))))
  /-- The next stage runs. -/
  | launched {handles stage rest replies result} (pid : Pid)
    (others : Launching l w (handles ++ [⟨stage.index, pid⟩]) rest replies result) :
    Launching l w handles (stage :: rest) (⟨.fork (l.plan w stage), .ok pid⟩ :: replies) result
  /-- The process of the next stage is refused: the shell closes its pipe ends, ends the processes
  that run and waits for them. -/
  | refused {handles stage rest closes kills answers} (cause : Errno) (other : cause ≠ .eintr)
    (shut : closes.map Sigma.fst = w.fds.map .close)
    (ended : kills.map Sigma.fst = handles.map fun h => .kill h.pid .kill)
    (all : answers.length = handles.length) (settled : ∀ a ∈ answers, isInterruption a = false) :
    Launching l w handles (stage :: rest)
      (⟨.fork (l.plan w stage), .error cause⟩ :: (closes ++ kills ++ waitReplies handles answers))
      (.error (.fork stage.index cause))

/-- **The ways of the stages of a line.** -/
inductive Course (l : Launcher) (stages : List Stage) :
    List ShellReply → Except LaunchError Execution → Prop where
  /-- All pipes are made, and the stages are launched. -/
  | wired {pipes : List PipeEnds} {replies result} (all : pipes.length + 1 = stages.length)
    (launching : Launching l ⟨stages.length, pipes⟩ [] stages replies result) :
    Course l stages (pipes.map PipeEnds.reply ++ replies) result
  /-- A pipe is refused, and the shell closes those that it has made. -/
  | unwired {pipes : List PipeEnds} {closes : List ShellReply} (cause : Errno)
    (other : cause ≠ .eintr) (few : pipes.length + 1 < stages.length)
    (shut : closes.map Sigma.fst = (Wiring.mk stages.length pipes).fds.map .close) :
    Course l stages (pipes.map PipeEnds.reply ++ ⟨.pipe, .error cause⟩ :: closes)
      (.error (.pipe cause))

/-- Whether a line is the terminator alone and asks for this status. -/
def IsStop (settings : Settings) (line : String) (status : Option Int) : Prop :=
  ∃ stage, (parse settings line).stages = .ok [stage] ∧
    stage.isTerminator settings.terminator = true ∧ stage.exitStatus = .ok status

/-- **The ways of a line**, behind the trace. -/
inductive Runner.Goes (r : Runner) (line : String) :
    List ShellReply → Except PipelineError Execution → Prop where
  /-- The line is malformed. -/
  | malformed {e} (refused : (parse r.settings line).stages = .error e) :
    Goes r line [] (.error (.line e))
  /-- The line is blank. -/
  | idle (blank : (parse r.settings line).stages = .ok []) : Goes r line [] (.ok .idle)
  /-- The line asks the shell to stop. -/
  | stop {status} (asks : IsStop r.settings line status) : Goes r line [] (.ok (.terminate status))
  /-- The stages are launched. -/
  | run {stages replies result} (read : (parse r.settings line).stages = .ok stages)
    (proper : stages ≠ []) (goes : ∀ status, ¬IsStop r.settings line status)
    (course : Course r.launcher stages replies result) :
    Goes r line replies (result.mapError .launch)

/-! ### Inversion -/

/-- A row of requests that are made once. -/
theorem settled_of_map_fst {α : Type} {replies : List ShellReply} {list : List α}
    {request : α → Request} (h : replies.map Sigma.fst = list.map request)
    (honce : ∀ a, (request a).isRetried = false) :
    settled replies = replies ∧ forks replies = [] ∧ waits replies = [] := by
  have hall : ∀ e ∈ replies, e.1.isRetried = false := by
    intro e he
    have hmem : e.1 ∈ list.map request := h ▸ List.mem_map_of_mem he
    obtain ⟨a, -, ha⟩ := List.mem_map.mp hmem
    rw [← ha]
    exact honce a
  exact ⟨settled_eq_self hall, forks_eq_nil hall, waits_eq_nil hall⟩

section Inversion

open Scene

variable {l : Launcher} {w : Wiring} {scene scene' : Scene} {replies : List ShellReply}

theorem of_plays_release {u : Unit}
    (h : Plays Takes (w.release, scene) replies (.done u, scene')) :
    replies.map Sigma.fst = w.fds.map .close ∧ settled replies = replies := by
  have hrequests : replies.map Sigma.fst = w.fds.map .close := of_plays_performAll h
  exact ⟨hrequests, (settled_of_map_fst hrequests fun _ => rfl).1⟩

/-- A wait is settled at last. -/
theorem of_plays_wait {α : Type} {pid : Pid} {next : Except Errno Ending → Interaction α} {a : α}
    (h : Plays Takes (.persist (.wait pid) next, scene) replies (.done a, scene')) :
    ∃ (answer : Except Errno Ending) (rest : List ShellReply), isInterruption answer = false ∧
      settled replies = ⟨.wait pid, answer⟩ :: settled rest ∧
      Plays Takes (next answer, scene.after (.wait pid) answer) rest (.done a, scene') :=
  of_plays_persist rfl h

/-- Every process is waited for, and the report records what the waits come to. -/
theorem of_plays_waitAll {told : List (Handle × Except Errno Ending)} {handles : List Handle}
    {report : Report}
    (h : Plays Takes (waitAll (.ofWaits told) handles, scene) replies (.done report, scene')) :
    ∃ answers : List (Except Errno Ending), answers.length = handles.length ∧
      (∀ a ∈ answers, isInterruption a = false) ∧ settled replies = waitReplies handles answers ∧
      report = .ofWaits (told ++ handles.zip answers) := by
  -- induction on the processes still to be waited for; the report holds what has been told so far
  induction handles generalizing told scene replies with
  | nil =>
    obtain ⟨rfl, rfl, -⟩ := of_plays_done h
    exact ⟨[], rfl, nofun, rfl, by rw [List.zip_nil_left, List.append_nil]⟩
  | cons handle rest ih =>
    obtain ⟨answer, replies', hsettled, hreplies, hnext⟩ := of_plays_wait h
    have hrecorded : Plays Takes (waitAll (.ofWaits (told ++ [(handle, answer)])) rest,
        scene.after (.wait handle.pid) answer) replies' (.done report, scene') := by
      rw [← Report.record_ofWaits]
      exact hnext
    obtain ⟨answers, hlength, hall, hrest, hreport⟩ := ih hrecorded
    refine ⟨answer :: answers, congrArg (· + 1) hlength,
      List.forall_mem_cons.mpr ⟨hsettled, hall⟩, ?_, ?_⟩
    · rw [hreplies, hrest]
      rfl
    · rw [hreport, List.append_assoc]
      rfl

/-- Every process is waited for, whatever the waits come to. -/
theorem of_plays_collectAll {handles : List Handle} {u : Unit}
    (h : Plays Takes (collectAll handles, scene) replies (.done u, scene')) :
    ∃ answers : List (Except Errno Ending), answers.length = handles.length ∧
      (∀ a ∈ answers, isInterruption a = false) ∧
      settled replies = waitReplies handles answers := by
  induction handles generalizing scene replies with
  | nil =>
    obtain ⟨rfl, -⟩ := of_plays_done h
    exact ⟨[], rfl, nofun, rfl⟩
  | cons handle rest ih =>
    obtain ⟨answer, replies', hsettled, hreplies, hnext⟩ := of_plays_wait h
    obtain ⟨answers, hlength, hall, hrest⟩ := ih hnext
    refine ⟨answer :: answers, congrArg (· + 1) hlength,
      List.forall_mem_cons.mpr ⟨hsettled, hall⟩, ?_⟩
    rw [hreplies, hrest]
    rfl

/-- All processes are ended before the first is waited for. -/
theorem of_plays_cull {handles : List Handle} {u : Unit}
    (h : Plays Takes (cull handles, scene) replies (.done u, scene')) :
    ∃ kills answers, settled replies = kills ++ waitReplies handles answers ∧
      (kills.map Sigma.fst = handles.map fun h => .kill h.pid .kill) ∧
      answers.length = handles.length ∧ ∀ a ∈ answers, isInterruption a = false := by
  obtain ⟨kills, rest, _, middle, rfl, hkills, hrest⟩ := exists_of_plays_bind h
  have hrequests := of_plays_performAll hkills
  obtain ⟨answers, hlength, hall, hwaits⟩ := of_plays_collectAll hrest
  refine ⟨kills, answers, ?_, hrequests, hlength, hall⟩
  rw [settled_append, (settled_of_map_fst hrequests fun _ => rfl).1, hwaits]

/-- What launching a stage comes to that has words and is not the terminator alone. -/
theorem launch_eq {stage : Stage} (hwords : stage.words ≠ [])
    (hproper : ¬(stage.isTerminator l.terminator = true ∧ w.stages = 1)) :
    l.launch w stage = .persist (.fork (l.plan w stage)) fun
      | .ok pid => .done (.ok (.started ⟨stage.index, pid⟩))
      | .error cause => .done (.error (.fork stage.index cause)) := by
  have hsome : stage.words.isEmpty = false := by simpa using hwords
  have hlone : (stage.isTerminator l.terminator && w.stages == 1) = false := by
    rw [Bool.eq_false_iff, Ne, Bool.and_eq_true, beq_iff_eq]
    exact hproper
  rw [Launcher.launch, hsome, hlone]
  rfl

/-- Stages are launched in one of these ways, if none of them is a lone terminator. -/
theorem launching_of_plays {handles : List Handle} {stages : List Stage}
    {result : Except LaunchError Execution} (hwords : ∀ stage ∈ stages, stage.words ≠ [])
    (hproper : ∀ stage ∈ stages, ¬(stage.isTerminator l.terminator = true ∧ w.stages = 1))
    (h : Plays Takes (launchAll l w handles stages, scene) replies (.done result, scene')) :
    Launching l w handles stages (settled replies) result := by
  -- induction on the stages still to be launched, behind any processes that run already
  induction stages generalizing handles scene replies with
  | nil =>
    obtain ⟨closes, rest, _, middle, rfl, hcloses, hrest⟩ := exists_of_plays_bind h
    obtain ⟨waited, last, report, middle', rfl, hwaited, hlast⟩ := exists_of_plays_bind hrest
    obtain ⟨rfl, rfl, -⟩ := of_plays_done hlast
    obtain ⟨hshut, hclosed⟩ := of_plays_release hcloses
    have hfirst : (Report.ofWaits [] : Report) = {} := rfl
    rw [← hfirst] at hwaited
    obtain ⟨answers, hlength, hall, hsettled, rfl⟩ := of_plays_waitAll hwaited
    rw [List.append_nil, settled_append, hclosed, hsettled]
    exact .completed hshut hlength hall
  | cons stage rest ih =>
    have hlaunch := launch_eq (l := l) (hwords stage List.mem_cons_self)
      (hproper stage List.mem_cons_self)
    rw [launchAll, hlaunch] at h
    obtain ⟨answer, others, hanswer, hsettled, hnext⟩ := of_plays_persist rfl h
    rw [hsettled]
    cases answer with
    | ok pid =>
      exact .launched pid (ih (fun s hs => hwords s (List.mem_cons_of_mem stage hs))
        (fun s hs => hproper s (List.mem_cons_of_mem stage hs)) hnext)
    | error cause =>
      have hcause : cause ≠ .eintr := by
        rintro rfl
        cases hanswer
      have hfail : Plays Takes (w.release.bind fun _ => (cull handles).bind fun _ =>
          .done (.error (.fork stage.index cause)), scene.after (.fork (l.plan w stage))
            (.error cause)) others (.done result, scene') := hnext
      obtain ⟨closes, behind, _, middle, rfl, hcloses, hbehind⟩ := exists_of_plays_bind hfail
      obtain ⟨culled, last, _, middle', rfl, hculled, hlast⟩ := exists_of_plays_bind hbehind
      obtain ⟨rfl, rfl, -⟩ := of_plays_done hlast
      obtain ⟨hshut, hclosed⟩ := of_plays_release hcloses
      obtain ⟨kills, answers, hculls, hkills, hlength, hall⟩ := of_plays_cull hculled
      rw [List.append_nil, settled_append, hclosed, hculls, ← List.append_assoc]
      exact .refused cause hcause hshut hkills hlength hall

/-- The pipes are made one after another, until one is refused or there are enough. -/
theorem of_plays_extend {count : Nat} {result : Except LaunchError Wiring}
    (h : Plays Takes (w.extend count, scene) replies (.done result, scene')) :
    (∃ pipes : List PipeEnds, pipes.length = count ∧ settled replies = pipes.map PipeEnds.reply ∧
      result = .ok { w with pipes := w.pipes ++ pipes }) ∨
    ∃ (pipes : List PipeEnds) (cause : Errno) (closes : List ShellReply), pipes.length < count ∧
      cause ≠ .eintr ∧
      settled replies = pipes.map PipeEnds.reply ++ ⟨.pipe, .error cause⟩ :: closes ∧
      closes.map Sigma.fst = { w with pipes := w.pipes ++ pipes }.fds.map .close ∧
      result = .error (.pipe cause) := by
  -- induction on how many pipes are still to be made, behind those of the wiring
  induction count generalizing w scene replies with
  | zero =>
    obtain ⟨rfl, rfl, -⟩ := of_plays_done h
    exact .inl ⟨[], rfl, rfl, by rw [List.append_nil]⟩
  | succ count ih =>
    obtain ⟨answer, others, hanswer, hsettled, hnext⟩ := of_plays_persist rfl h
    cases answer with
    | ok ends =>
      obtain ⟨read, write⟩ := ends
      have hmore : ∀ pipes : List PipeEnds,
          w.pipes ++ [⟨read, write⟩] ++ pipes = w.pipes ++ (⟨read, write⟩ :: pipes) :=
        fun pipes => List.append_assoc ..
      obtain ⟨pipes, hlength, hpipes, hresult⟩ | ⟨pipes, cause, closes, hlength, hcause, hpipes,
        hshut, hresult⟩ := ih hnext
      · refine .inl ⟨⟨read, write⟩ :: pipes, congrArg (· + 1) hlength, ?_, ?_⟩
        · rw [hsettled, hpipes]
          rfl
        · rw [hresult, hmore]
      · refine .inr ⟨⟨read, write⟩ :: pipes, cause, closes, Nat.succ_lt_succ hlength, hcause, ?_,
          ?_, hresult⟩
        · rw [hsettled, hpipes]
          rfl
        · rw [hshut, hmore]
    | error cause =>
      have hcause : cause ≠ .eintr := by
        rintro rfl
        cases hanswer
      obtain ⟨closes, last, _, middle, rfl, hcloses, hlast⟩ := exists_of_plays_bind hnext
      obtain ⟨rfl, rfl, -⟩ := of_plays_done hlast
      obtain ⟨hshut, hclosed⟩ := of_plays_release hcloses
      refine .inr ⟨[], cause, closes, Nat.zero_lt_succ count, hcause, ?_, ?_, rfl⟩
      · rw [hsettled, List.append_nil, hclosed]
        rfl
      · rw [hshut, List.append_nil]

/-- What a line does whose only stage is the terminator. -/
theorem start_terminator {r : Runner} {stage : Stage} {status : Option Int}
    (hwords : stage.words ≠ []) (hterminator : stage.isTerminator r.settings.terminator = true)
    (hstatus : stage.exitStatus = .ok status) :
    r.start [stage] = .done (.ok (.terminate status)) := by
  have hsome : stage.words.isEmpty = false := by simpa using hwords
  have hlone : (stage.isTerminator r.launcher.terminator && (1 : Nat) == 1) = true := by
    rw [Runner.launcher, hterminator]
    rfl
  have hlaunch : r.launcher.launch ⟨1, []⟩ stage = .done (.ok (.terminate status)) := by
    rw [Launcher.launch, hsome, hlone, hstatus]
    rfl
  have hstart : r.start [stage] = launchAll r.launcher ⟨1, []⟩ [] [stage] := rfl
  rw [hstart, launchAll, hlaunch]
  rfl

/-- The stages of a line go one of their ways. -/
theorem course_of_plays {r : Runner} {stages : List Stage} {result : Except LaunchError Execution}
    (hsome : stages ≠ []) (hwords : ∀ stage ∈ stages, stage.words ≠ [])
    (hproper : ∀ stage ∈ stages,
      ¬(stage.isTerminator r.settings.terminator = true ∧ stages.length = 1))
    (h : Plays Takes (r.start stages, scene) replies (.done result, scene')) :
    Course r.launcher stages (settled replies) result := by
  have hlength : 0 < stages.length := List.length_pos_iff.mpr hsome
  rw [Runner.start, if_neg (by simpa using hsome)] at h
  obtain ⟨before, after, made, middle, rfl, hbefore, hafter⟩ := exists_of_plays_bind h
  rw [settled_append]
  obtain ⟨pipes, hpipes, hsettled, rfl⟩ | ⟨pipes, cause, closes, hfew, hcause, hsettled, hshut,
    rfl⟩ := of_plays_extend hbefore
  · have hall : pipes.length + 1 = stages.length := by omega
    rw [hsettled]
    exact .wired hall (launching_of_plays hwords hproper hafter)
  · have hfew' : pipes.length + 1 < stages.length := by omega
    obtain ⟨rfl, rfl, -⟩ := of_plays_done hafter
    rw [hsettled, settled, List.filter_nil, List.append_nil]
    exact .unwired cause hcause hfew' hshut

end Inversion

theorem stagesOf_eq {settings : Settings} {line : String} {stages : List Stage}
    (hread : (parse settings line).stages = .ok stages) : stagesOf settings line = stages := by
  rw [stagesOf, hread]
  rfl

/-- Stages that have been read have a word each. -/
theorem words_ne_nil_of_parse {settings : Settings} {line : String} {stages : List Stage}
    (hread : (parse settings line).stages = .ok stages) : ∀ stage ∈ stages, stage.words ≠ [] := by
  intro stage hstage
  obtain ⟨i, hi⟩ := List.getElem?_of_mem hstage
  rw [← stagesOf_eq hread] at hi
  exact (of_getElem?_stagesOf hi).2

/-- A lone terminator is accepted only with a valid status. -/
theorem exists_exitStatus_of_checkStatus {settings : Settings} {stages : List Stage} {stage : Stage}
    (hcheck : checkStatus settings stages = .ok [stage])
    (hterminator : stage.isTerminator settings.terminator = true) :
    ∃ status, stage.exitStatus = .ok status := by
  match stages, hcheck with
  | [], hcheck => cases hcheck
  | [first], hcheck =>
    rw [checkStatus] at hcheck
    by_cases hfirst : first.isTerminator settings.terminator = true
    · rw [if_pos hfirst] at hcheck
      cases hstatus : first.exitStatus with
      | error e => simp [hstatus, Except.map] at hcheck
      | ok status =>
        obtain rfl : first = stage := by simpa [hstatus, Except.map] using hcheck
        exact ⟨status, hstatus⟩
    · rw [if_neg hfirst] at hcheck
      obtain rfl : first = stage := by simpa using hcheck
      exact absurd hterminator hfirst
  | _ :: _ :: _, hcheck => cases hcheck

theorem isStop_of_parse {settings : Settings} {line : String} {stage : Stage}
    (hread : (parse settings line).stages = .ok [stage])
    (hterminator : stage.isTerminator settings.terminator = true) :
    ∃ status, IsStop settings line status := by
  have hcheck : ∃ stages, checkStatus settings stages = .ok [stage] := by
    rw [parse] at hread
    cases hstages : readStages settings line with
    | error e =>
      rw [hstages] at hread
      cases hread
    | ok stages =>
      rw [hstages] at hread
      exact ⟨stages, hread⟩
  obtain ⟨stages, hcheck⟩ := hcheck
  obtain ⟨status, hstatus⟩ := exists_exitStatus_of_checkStatus hcheck hterminator
  exact ⟨status, stage, hread, hterminator, hstatus⟩

/-- The answers to the trace, if all of it is shown. -/
def Parsed.shown (parsed : Parsed) : List ShellReply :=
  parsed.trace.map (.ofText Fd.stderr)

/-- The trace makes no process and waits for none. -/
theorem settled_shown (parsed : Parsed) : settled parsed.shown = parsed.shown ∧
    forks parsed.shown = [] ∧ waits parsed.shown = [] :=
  settled_of_map_fst (List.map_map ..) fun _ => rfl

namespace Runner

open Scene

variable {r : Runner} {line : String} {scene scene' : Scene} {replies : List ShellReply}

/-- What a line that stops the shell does: it shows the trace. -/
theorem execute_of_isStop {status : Option Int} (h : IsStop r.settings line status) :
    r.execute line = (Interaction.complainAll (parse r.settings line).trace).bind fun _ =>
      .done (.ok (.terminate status)) := by
  obtain ⟨stage, hread, hterminator, hstatus⟩ := h
  have hwords : stage.words ≠ [] := words_ne_nil_of_parse hread stage List.mem_cons_self
  have hstart := start_terminator hwords hterminator hstatus
  rw [execute, hread]
  simp only [Interaction.bind_eq, Interaction.pure_eq, hstart]
  rfl

/-- **Every line goes one of its ways**, whatever the operating system answers. The trace comes
first. -/
theorem goes_of_plays {result : Except PipelineError Execution}
    (h : Plays Takes (r.execute line, scene) replies (.done result, scene')) :
    ∃ rest, replies = (parse r.settings line).shown ++ rest ∧
      r.Goes line (settled rest) result := by
  obtain ⟨shown, rest, _, middle, rfl, hshown, hrest⟩ := exists_of_plays_bind h
  obtain ⟨rfl, -⟩ := of_plays_complainAll hshown
  refine ⟨rest, rfl, ?_⟩
  -- what has been read decides, and where it is one stage, whether it is the terminator
  cases hread : (parse r.settings line).stages with
  | error e =>
    simp only [hread] at hrest
    obtain ⟨rfl, rfl, -⟩ := of_plays_done hrest
    exact .malformed hread
  | ok stages =>
    simp only [hread] at hrest
    obtain ⟨started, last, outcome, middle', rfl, hstarted, hlast⟩ := exists_of_plays_bind hrest
    obtain ⟨rfl, rfl, -⟩ := of_plays_done hlast
    rw [List.append_nil]
    by_cases hsome : stages = []
    · subst hsome
      obtain ⟨rfl, rfl, -⟩ := of_plays_done hstarted
      exact .idle hread
    by_cases hstop : ∃ status, IsStop r.settings line status
    · obtain ⟨status, hstop⟩ := hstop
      obtain ⟨stage, hread', hterminator, hstatus⟩ := hstop
      obtain rfl : stages = [stage] := Except.ok.inj (hread.symm.trans hread')
      have hwords : stage.words ≠ [] := words_ne_nil_of_parse hread stage List.mem_cons_self
      rw [start_terminator hwords hterminator hstatus] at hstarted
      obtain ⟨rfl, rfl, -⟩ := of_plays_done hstarted
      exact .stop ⟨stage, hread, hterminator, hstatus⟩
    · have hproper : ∀ stage ∈ stages,
          ¬(stage.isTerminator r.settings.terminator = true ∧ stages.length = 1) := by
        rintro stage hstage ⟨hterminator, hone⟩
        obtain ⟨first, rfl⟩ := List.length_eq_one_iff.mp hone
        obtain rfl : stage = first := List.mem_singleton.mp hstage
        exact hstop (isStop_of_parse hread hterminator)
      exact .run hread hsome (not_exists.mp hstop)
        (course_of_plays hsome (words_ne_nil_of_parse hread) hproper hstarted)

end Runner

/-! ### What a way tells -/

/-- The waits for processes that have been settled make no process. -/
theorem waits_waitReplies {handles : List Handle} {answers : List (Except Errno Ending)}
    (hsettled : ∀ a ∈ answers, isInterruption a = false) :
    waits (waitReplies handles answers) = (handles.map Handle.pid).zip answers ∧
      forks (waitReplies handles answers) = [] := by
  induction handles generalizing answers with
  | nil => exact ⟨rfl, rfl⟩
  | cons h rest ih =>
    cases answers with
    | nil => exact ⟨rfl, rfl⟩
    | cons answer answers =>
      obtain ⟨hwaits, hforks⟩ := ih fun a ha => hsettled a (List.mem_cons_of_mem answer ha)
      have hanswer : ShellReply.wait? ⟨.wait h.pid, answer⟩ = some (h.pid, answer) :=
        if_neg (Bool.eq_false_iff.mp (hsettled answer List.mem_cons_self))
      refine ⟨?_, hforks⟩
      calc waits (waitReplies (h :: rest) (answer :: answers))
          = (h.pid, answer) :: waits (waitReplies rest answers) := List.filterMap_cons_some hanswer
        _ = ((h :: rest).map Handle.pid).zip (answer :: answers) := by rw [hwaits]; rfl

theorem forks_and_waits_pipes (pipes : List PipeEnds) :
    forks (pipes.map PipeEnds.reply) = [] ∧ waits (pipes.map PipeEnds.reply) = [] := by
  constructor
  · rw [forks, List.filterMap_map]
    exact List.filterMap_eq_nil_iff.mpr fun _ _ => rfl
  · rw [waits, List.filterMap_map]
    exact List.filterMap_eq_nil_iff.mpr fun _ _ => rfl

namespace Launching

variable {l : Launcher} {w : Wiring} {handles : List Handle} {stages : List Stage}
  {replies : List ShellReply} {result : Except LaunchError Execution}

/-- Stages are launched in their order, each by its plan. -/
theorem forks_prefix (h : Launching l w handles stages replies result) :
    (forks replies).map Prod.fst <+: stages.map (l.plan w) := by
  induction h with
  | completed shut all settled =>
    rw [forks_append, (settled_of_map_fst shut fun _ => rfl).2.1, (waits_waitReplies settled).2]
    exact List.nil_prefix
  | launched pid others ih => exact List.cons_prefix_cons.mpr ⟨rfl, ih⟩
  | @refused handles stage rest closes kills answers cause other shut ended all settled =>
    have hrefused : ∀ others : List ShellReply,
        forks (⟨.fork (l.plan w stage), .error cause⟩ :: others) = forks others := fun _ => rfl
    rw [hrefused, forks_append, forks_append, (settled_of_map_fst shut fun _ => rfl).2.1,
      (settled_of_map_fst ended fun _ => rfl).2.1, (waits_waitReplies settled).2]
    exact List.nil_prefix

/-- If all stages have been launched, each has its process, and each process has been waited for. -/
theorem of_completed {report : Report}
    (h : Launching l w handles stages replies (.ok (.completed report))) :
    ∃ (pids : List Pid) (answers : List (Except Errno Ending)), pids.length = stages.length ∧
      answers.length = handles.length + stages.length ∧
      (∀ a ∈ answers, isInterruption a = false) ∧
      forks replies = (stages.map (l.plan w)).zip pids ∧
      waits replies = (handles.map Handle.pid ++ pids).zip answers ∧
      report = .ofWaits ((handles ++ handlesOf stages pids).zip answers) := by
  -- induction on the way; the processes that run already are waited for before those to come
  generalize hresult : (Except.ok (Execution.completed report) : Except LaunchError Execution) =
    result at h
  induction h with
  | @completed handles closes answers shut all settled =>
    obtain rfl : report = .ofWaits (handles.zip answers) :=
      Execution.completed.inj (Except.ok.inj hresult)
    refine ⟨[], answers, rfl, all, settled, ?_, ?_, ?_⟩
    · rw [forks_append, (settled_of_map_fst shut fun _ => rfl).2.1, (waits_waitReplies settled).2]
      rfl
    · rw [waits_append, (settled_of_map_fst shut fun _ => rfl).2.2, (waits_waitReplies settled).1,
        List.append_nil]
      rfl
    · rw [handlesOf, List.zipWith_nil_left, List.append_nil]
  | @launched handles stage rest replies result pid others ih =>
    obtain ⟨pids, answers, hpids, hanswers, hsettled, hforks, hwaits, hreport⟩ := ih hresult
    refine ⟨pid :: pids, answers, congrArg (· + 1) hpids, ?_, hsettled, ?_, ?_, ?_⟩
    · rw [hanswers, List.length_append, List.length_cons, List.length_cons, List.length_nil]
      omega
    · calc forks (⟨.fork (l.plan w stage), .ok pid⟩ :: replies)
          = (l.plan w stage, pid) :: forks replies := rfl
        _ = ((stage :: rest).map (l.plan w)).zip (pid :: pids) := by rw [hforks]; rfl
    · calc waits (⟨.fork (l.plan w stage), .ok pid⟩ :: replies)
          = waits replies := rfl
        _ = (handles.map Handle.pid ++ pid :: pids).zip answers := by
          rw [hwaits, List.map_append, List.append_assoc]
          rfl
    · rw [hreport, List.append_assoc]
      rfl
  | refused => cases hresult

end Launching

namespace Course

variable {l : Launcher} {stages : List Stage} {replies : List ShellReply}
  {result : Except LaunchError Execution}

/-- Processes are made for the stages in their order, each by its plan. -/
theorem forks_prefix (h : Course l stages replies result) :
    ∃ w : Wiring, w.stages = stages.length ∧
      (forks replies).map Prod.fst <+: stages.map (l.plan w) := by
  cases h with
  | @wired pipes launches result all launching =>
    refine ⟨⟨stages.length, pipes⟩, rfl, ?_⟩
    rw [forks_append, (forks_and_waits_pipes pipes).1]
    exact launching.forks_prefix
  | @unwired pipes closes cause other few shut =>
    have hrefused : forks (⟨.pipe, .error cause⟩ :: closes) = forks closes := rfl
    refine ⟨⟨stages.length, pipes⟩, rfl, ?_⟩
    rw [forks_append, (forks_and_waits_pipes pipes).1, hrefused,
      (settled_of_map_fst shut fun _ => rfl).2.1]
    exact List.nil_prefix

theorem of_completed {report : Report} (h : Course l stages replies (.ok (.completed report))) :
    ∃ (w : Wiring) (pids : List Pid) (answers : List (Except Errno Ending)), w.IsComplete stages ∧
      pids.length = stages.length ∧ answers.length = stages.length ∧
      forks replies = (stages.map (l.plan w)).zip pids ∧ waits replies = pids.zip answers ∧
      report = .ofWaits ((handlesOf stages pids).zip answers) := by
  generalize hresult : (Except.ok (Execution.completed report) : Except LaunchError Execution) =
    result at h
  cases h with
  | unwired => cases hresult
  | @wired pipes launches result all launching =>
    subst hresult
    obtain ⟨pids, answers, hpids, hanswers, -, hforks, hwaits, hreport⟩ := launching.of_completed
    obtain ⟨hnoForks, hnoWaits⟩ := forks_and_waits_pipes pipes
    refine ⟨⟨stages.length, pipes⟩, pids, answers, ⟨rfl, all⟩, hpids, ?_, ?_, ?_, hreport⟩
    · rw [hanswers, List.length_nil, Nat.zero_add]
    · rw [forks_append, hnoForks, hforks, List.nil_append]
    · rw [waits_append, hnoWaits, hwaits]
      rfl

end Course

theorem map_pid_handlesOf {stages : List Stage} {pids : List Pid}
    (h : pids.length = stages.length) : (handlesOf stages pids).map Handle.pid = pids := by
  induction stages generalizing pids with
  | nil =>
    obtain rfl : pids = [] := List.length_eq_zero_iff.mp h
    rfl
  | cons stage rest ih =>
    cases pids with
    | nil => cases h
    | cons pid pids => exact congrArg (pid :: ·) (ih (Nat.succ.inj h))

/-- A report on the stages of a line tells of stage `i` at place `i`. -/
theorem Report.ofWaits_handlesOf {stages : List Stage} {pids : List Pid}
    {answers : List (Except Errno Ending)} (hpids : pids.length = stages.length)
    (hindex : ∀ (i : Nat) (stage : Stage), stages[i]? = some stage → stage.index = i) :
    ofWaits ((handlesOf stages pids).zip answers) = ofTold (pids.zip answers) := by
  have hstages : ((handlesOf stages pids).zip answers).map
      (fun t => (⟨t.1.index, t.1.pid, .ofWait t.2⟩ : StageReport)) =
        (pids.zip answers).mapIdx fun i t => ⟨i, t.1, .ofWait t.2⟩ := by
    refine List.ext_getElem? fun i => ?_
    simp only [List.getElem?_map, List.getElem?_mapIdx, List.zip, List.getElem?_zipWith, handlesOf]
    cases hstage : stages[i]? with
    | none =>
      have hpid : pids[i]? = none := by
        rw [List.getElem?_eq_none_iff] at hstage ⊢
        omega
      rw [hpid]
      rfl
    | some stage =>
      cases pids[i]? with
      | none => rfl
      | some pid =>
        cases answers[i]? with
        | none => rfl
        | some answer =>
          have hstage' := hindex i stage hstage
          simp [hstage']
  have herrors : ((handlesOf stages pids).zip answers).filterMap
      (fun t => WaitError.ofWait? t.1.pid t.2) =
        (pids.zip answers).filterMap fun t => WaitError.ofWait? t.1 t.2 := by
    conv_rhs => rw [← map_pid_handlesOf hpids, List.zip_map_left, List.filterMap_map]
    rfl
  rw [ofWaits, ofTold, hstages, herrors]

namespace Runner

open Scene

variable {r : Runner} {line : String} {scene scene' : Scene} {replies : List ShellReply}

theorem forks_and_waits_shown (parsed : Parsed) (rest : List ShellReply) :
    forks (parsed.shown ++ rest) = forks (settled rest) ∧
      waits (parsed.shown ++ rest) = waits (settled rest) := by
  obtain ⟨-, hforks, hwaits⟩ := settled_shown parsed
  constructor
  · rw [forks_append, hforks, forks_settled, List.nil_append]
  · rw [waits_append, hwaits, waits_settled, List.nil_append]

/-- A line that is completed has had its stages launched. -/
theorem Goes.of_completed {report : Report} (h : r.Goes line replies (.ok (.completed report))) :
    ∃ stages, (parse r.settings line).stages = .ok stages ∧
      Course r.launcher stages replies (.ok (.completed report)) := by
  generalize hresult : (Except.ok (Execution.completed report) : Except PipelineError Execution) =
    result at h
  cases h with
  | malformed => cases hresult
  | idle => cases hresult
  | stop => cases hresult
  | @run stages replies outcome hread hsome hproper hcourse =>
    cases outcome with
    | error e => cases hresult
    | ok execution =>
      obtain rfl : Execution.completed report = execution := Except.ok.inj hresult
      exact ⟨stages, hread, hcourse⟩

/-- **What is known of a completed line**: each stage has had its process, made by its plan, and
each process has been waited for; the report says what the waits have come to. -/
theorem of_completed {report : Report}
    (h : Plays Takes (r.execute line, scene) replies (.done (.ok (.completed report)), scene')) :
    ∃ (stages : List Stage) (w : Wiring) (pids : List Pid) (answers : List (Except Errno Ending)),
      (parse r.settings line).stages = .ok stages ∧ w.IsComplete stages ∧
      pids.length = stages.length ∧ answers.length = stages.length ∧
      forks replies = (stages.map (r.launcher.plan w)).zip pids ∧
      waits replies = pids.zip answers ∧ report = .ofTold (waits replies) := by
  obtain ⟨rest, rfl, hgoes⟩ := goes_of_plays h
  obtain ⟨hforks, hwaits⟩ := forks_and_waits_shown (parse r.settings line) rest
  obtain ⟨stages, hread, hcourse⟩ := hgoes.of_completed
  obtain ⟨w, pids, answers, hcomplete, hpids, hanswers, hmade, htold, hreport⟩ :=
    hcourse.of_completed
  have hindex : ∀ (i : Nat) (stage : Stage), stages[i]? = some stage → stage.index = i := by
    intro i stage hi
    rw [← stagesOf_eq hread] at hi
    exact (of_getElem?_stagesOf hi).1
  rw [Report.ofWaits_handlesOf hpids hindex] at hreport
  rw [hforks, hwaits, htold, hreport]
  exact ⟨stages, w, pids, answers, hread, hcomplete, hpids, hanswers, hmade, rfl, rfl⟩

end Runner

end PipeShell
