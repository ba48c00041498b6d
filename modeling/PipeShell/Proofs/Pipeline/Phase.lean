import PipeShell.Pipeline.Run

/-!
# The shell as an automaton

`Runner.execute` is written as one computation. Statements about all orders of steps, and about
all answers of the system, need to know where that computation stands, so it is presented here
once more as an automaton: a `Phase` is a point at which the shell has asked for something, and
`Phase.Moves` says which phase an answer leads to.

* `Phase.toInteraction` is what the shell still does from a phase on, and
  `toInteraction_phase` says that the first phase of a line is the whole of `Runner.execute`.
* `Phase.toInteraction_cases` is the inversion: a phase is over or aborted, or it asks for one
  thing, and every answer moves it to the phase that `Phase.Moves` names. Calls that may be
  interrupted are exactly those that are asked again.

The functions `wiring`, `launching`, `closing`, … are the phases behind the last answer; they skip
what there is nothing left to do for.
-/

namespace PipeShell

/-- What is left to do once the shell's pipe ends have been closed. -/
inductive Aftermath where
  /-- The line has failed, and no process has been made. -/
  | fail (error : LaunchError)
  /-- The line asks the shell to stop. -/
  | stop (status : Option Int)
  /-- The line has failed, and processes have to be ended. -/
  | cull (handles : List Handle) (error : LaunchError)
  /-- All stages run. -/
  | collect (handles : List Handle)

/-- Where the shell stands in running a line. Every phase but the last two asks for something. -/
inductive Phase where
  /-- A piece of the trace is shown; `rest` is still to be shown. -/
  | trace (text : String) (rest : List String) (stages : Except LineError (List Stage))
  /-- A pipe is made, and `left` more are needed. -/
  | wire (w : Wiring) (left : Nat) (stages : List Stage)
  /-- A stage is launched; `rest` comes behind it. -/
  | launch (w : Wiring) (handles : List Handle) (stage : Stage) (rest : List Stage)
  /-- A pipe end is closed; `rest` is still open. -/
  | close (fd : Fd) (rest : List Fd) (next : Aftermath)
  /-- A process is ended. -/
  | kill (handle : Handle) (rest handles : List Handle) (error : LaunchError)
  /-- A process that has been ended is waited for. -/
  | reap (handle : Handle) (rest : List Handle) (error : LaunchError)
  /-- The process of a stage is waited for. -/
  | wait (report : Report) (handle : Handle) (rest : List Handle)
  /-- The line is over. -/
  | finished (result : Except PipelineError Execution)
  /-- The trace could not be shown, and the shell is gone. -/
  | aborted

/-- Whether a call is asked again while it is interrupted. -/
def Request.isRetried : Request → Bool
  | pipe => true
  | fork _ => true
  | wait _ => true
  | _ => false

namespace Phase

/-! ### The phases behind an answer -/

/-- Processes are waited for after they have been ended. -/
def reaping (error : LaunchError) : List Handle → Phase
  | [] => finished (.error (.launch error))
  | h :: rest => reap h rest error

/-- Processes are ended. -/
def killing (handles : List Handle) (error : LaunchError) : List Handle → Phase
  | [] => reaping error handles
  | h :: rest => kill h rest handles error

/-- The processes of the stages are waited for. -/
def waiting (report : Report) : List Handle → Phase
  | [] => finished (.ok (.completed report))
  | h :: rest => wait report h rest

end Phase

/-- The phase behind the closing of the last pipe end. -/
def Aftermath.phase : Aftermath → Phase
  | fail error => .finished (.error (.launch error))
  | stop status => .finished (.ok (.terminate status))
  | cull handles error => .killing handles error handles
  | collect handles => .waiting {} handles

namespace Phase

/-- Pipe ends are closed. -/
def closing (next : Aftermath) : List Fd → Phase
  | [] => next.phase
  | fd :: rest => close fd rest next

/-- Stages are launched. -/
def launching (l : Launcher) (w : Wiring) (handles : List Handle) : List Stage → Phase
  | [] => closing (.collect handles) w.fds
  | stage :: rest =>
    if stage.words.isEmpty then closing (.cull handles (.emptyStage stage.index)) w.fds
    else if stage.isTerminator l.terminator && w.stages == 1 then
      closing (.stop stage.exitStatus.toOption.join) w.fds
    else launch w handles stage rest

/-- Pipes are made. -/
def wiring (l : Launcher) (stages : List Stage) (w : Wiring) : Nat → Phase
  | 0 => launching l w [] stages
  | left + 1 => wire w left stages

/-- A line that has been read is run. -/
def starting (l : Launcher) : Except LineError (List Stage) → Phase
  | .error e => finished (.error (.line e))
  | .ok [] => finished (.ok .idle)
  | .ok (stage :: rest) => wiring l (stage :: rest) ⟨(stage :: rest).length, []⟩ rest.length

/-- The trace is shown. -/
def tracing (l : Launcher) (stages : Except LineError (List Stage)) : List String → Phase
  | [] => starting l stages
  | text :: rest => trace text rest stages

end Phase

/-- Whether an aftermath ends the launching of a line, with processes for `handles` and without
the stages that are left. -/
def Aftermath.Ends (w : Wiring) (handles : List Handle) (stages : List Stage) : Aftermath → Prop
  | fail _ => False
  | stop _ => stages ≠ [] ∧ w.stages = 1
  | cull handles' _ => stages ≠ [] ∧ handles' = handles
  | collect handles' => stages = [] ∧ handles' = handles

/-- **Inversion.** Either the next stage is launched, or the shell closes its pipe ends. -/
@[elab_as_elim]
theorem Phase.launching_cases {motive : Phase → Prop} (l : Launcher) (w : Wiring)
    (handles : List Handle) (stages : List Stage)
    (launch : ∀ stage rest, stages = stage :: rest → motive (.launch w handles stage rest))
    (close : ∀ next : Aftermath, next.Ends w handles stages → motive (.closing next w.fds)) :
    motive (.launching l w handles stages) := by
  cases stages with
  | nil => exact close _ ⟨rfl, rfl⟩
  | cons stage rest =>
    rw [launching]
    split
    · exact close _ ⟨List.cons_ne_nil _ _, rfl⟩
    · split
      · rename_i hlone
        rw [Bool.and_eq_true, beq_iff_eq] at hlone
        exact close _ ⟨List.cons_ne_nil _ _, hlone.2⟩
      · exact launch stage rest rfl

/-- The first phase of a line. -/
def Runner.phase (r : Runner) (line : String) : Phase :=
  .tracing r.launcher (parse r.settings line).stages (parse r.settings line).trace

namespace Phase

/-! ### How answers move the phases -/

/-- Which phase the answer to what a phase asks for leads to. -/
inductive Moves (l : Launcher) : Phase → (r : Request) → r.Answer → Phase → Prop where
  | traced {text rest stages} :
    Moves l (trace text rest stages) (.writeAll Fd.stderr (Text.encode text)) (.ok ())
      (tracing l stages rest)
  | untraced {text rest stages} (cause : Errno) :
    Moves l (trace text rest stages) (.writeAll Fd.stderr (Text.encode text)) (.error cause) aborted
  | wired {w left stages} (read write : Fd) :
    Moves l (wire w left stages) .pipe (.ok (read, write))
      (wiring l stages { w with pipes := w.pipes ++ [⟨read, write⟩] } left)
  | unwired {w left stages} (cause : Errno) :
    Moves l (wire w left stages) .pipe (.error cause) (closing (.fail (.pipe cause)) w.fds)
  | launched {w handles stage rest} (pid : Pid) :
    Moves l (launch w handles stage rest) (.fork (l.plan w stage)) (.ok pid)
      (launching l w (handles ++ [⟨stage.index, pid⟩]) rest)
  | unlaunched {w handles stage rest} (cause : Errno) :
    Moves l (launch w handles stage rest) (.fork (l.plan w stage)) (.error cause)
      (closing (.cull handles (.fork stage.index cause)) w.fds)
  | closed {fd rest next} (answer) :
    Moves l (close fd rest next) (.close fd) answer (closing next rest)
  | killed {h rest handles error} (answer) :
    Moves l (kill h rest handles error) (.kill h.pid .kill) answer (killing handles error rest)
  | reaped {h rest error} (answer) :
    Moves l (reap h rest error) (.wait h.pid) answer (reaping error rest)
  | waited {report h rest} (answer) :
    Moves l (wait report h rest) (.wait h.pid) answer
      (waiting (report.record h.index h.pid (answer.bind StageStatus.ofEnding)) rest)

/-- A phase asks for one thing only. -/
theorem Moves.request_eq {l : Launcher} {phase phase₁ phase₂ : Phase} {r r' : Request}
    {answer : r.Answer} {answer' : r'.Answer} (h : phase.Moves l r answer phase₁)
    (h' : phase.Moves l r' answer' phase₂) : r = r' := by
  cases h <;> cases h' <;> rfl

/-- An answer leads to one phase only. -/
theorem Moves.phase_eq {l : Launcher} {phase phase₁ phase₂ : Phase} {r : Request}
    {answer : r.Answer} (h : phase.Moves l r answer phase₁)
    (h' : phase.Moves l r answer phase₂) : phase₁ = phase₂ := by
  cases h <;> cases h' <;> rfl

/-! ### The automaton is the program -/

/-- What the shell does with the result of running the stages. -/
def conclude (result : Except LaunchError Execution) :
    Interaction (Except PipelineError Execution) :=
  .done (result.mapError .launch)

end Phase

/-- What is left of a line once the shell's pipe ends have been closed. -/
def Aftermath.toInteraction : Aftermath → Interaction (Except LaunchError Execution)
  | fail error => .done (.error error)
  | stop status => .done (.ok (.terminate status))
  | cull handles error => (PipeShell.cull handles).bind fun _ => .done (.error error)
  | collect handles => (waitAll {} handles).bind fun report => .done (.ok (.completed report))

namespace Phase

/-- What the shell does with a line that has been read. -/
def runStages (r : Runner) : Except LineError (List Stage) →
    Interaction (Except PipelineError Execution)
  | .error e => .done (.error (.line e))
  | .ok stages => (r.start stages).bind conclude

/-- What the shell still does from a phase on. -/
def toInteraction (r : Runner) : Phase → Interaction (Except PipelineError Execution)
  | trace text rest stages =>
    (Interaction.complainAll (text :: rest)).bind fun _ => runStages r stages
  | wire w left stages =>
    ((w.extend (left + 1)).bind fun
      | .ok w => launchAll r.launcher w [] stages
      | .error e => .done (.error e)).bind conclude
  | launch w handles stage rest => .persist (.fork (r.launcher.plan w stage)) fun
    | .ok pid => (launchAll r.launcher w (handles ++ [⟨stage.index, pid⟩]) rest).bind conclude
    | .error cause => (w.release.bind fun _ => (PipeShell.cull handles).bind fun _ =>
        .done (.error (.fork stage.index cause))).bind conclude
  | close fd rest next =>
    ((Interaction.performAll ((fd :: rest).map .close)).bind fun _ => next.toInteraction).bind
      conclude
  | kill h rest handles error =>
    ((Interaction.performAll ((h :: rest).map fun h => .kill h.pid .kill)).bind fun _ =>
      (collectAll handles).bind fun _ => .done (.error error)).bind conclude
  | reap h rest error => ((collectAll (h :: rest)).bind fun _ => .done (.error error)).bind conclude
  | wait report h rest =>
    ((waitAll report (h :: rest)).bind fun report => .done (.ok (.completed report))).bind conclude
  | finished result => .done result
  | aborted => .aborted

section ToInteraction

variable (r : Runner)

theorem toInteraction_reaping (error : LaunchError) (handles : List Handle) :
    (reaping error handles).toInteraction r =
      ((collectAll handles).bind fun _ => .done (.error error)).bind conclude := by
  cases handles <;> rfl

theorem toInteraction_killing (handles : List Handle) (error : LaunchError)
    (rest : List Handle) :
    (killing handles error rest).toInteraction r =
      ((Interaction.performAll (rest.map fun h => .kill h.pid .kill)).bind fun _ =>
        (collectAll handles).bind fun _ => .done (.error error)).bind conclude := by
  cases rest with
  | nil => exact toInteraction_reaping r error handles
  | cons h rest => rfl

theorem toInteraction_waiting (report : Report) (handles : List Handle) :
    (waiting report handles).toInteraction r =
      ((waitAll report handles).bind fun report => .done (.ok (.completed report))).bind
        conclude := by
  cases handles <;> rfl

theorem toInteraction_aftermath (next : Aftermath) :
    next.phase.toInteraction r = next.toInteraction.bind conclude := by
  cases next with
  | fail error => rfl
  | stop status => rfl
  | cull handles error =>
    rw [Aftermath.phase, toInteraction_killing]
    simp only [Aftermath.toInteraction, PipeShell.cull, Interaction.bind_eq,
      Interaction.bind_assoc]
  | collect handles => exact toInteraction_waiting r {} handles

theorem toInteraction_closing (next : Aftermath) (fds : List Fd) :
    (closing next fds).toInteraction r =
      ((Interaction.performAll (fds.map .close)).bind fun _ => next.toInteraction).bind
        conclude := by
  cases fds with
  | nil => exact toInteraction_aftermath r next
  | cons fd rest => rfl

theorem toInteraction_launching (w : Wiring) (handles : List Handle) (stages : List Stage) :
    (launching r.launcher w handles stages).toInteraction r =
      (launchAll r.launcher w handles stages).bind conclude := by
  cases stages with
  | nil => exact toInteraction_closing r _ _
  | cons stage rest =>
    -- the guards of a launch come in the same order on both sides
    by_cases hempty : stage.words.isEmpty
    · rw [launching, if_pos hempty, toInteraction_closing, launchAll]
      simp only [Launcher.launch, hempty, if_true, Interaction.bind_eq, Interaction.done_bind]
      rfl
    · by_cases hlone : stage.isTerminator r.launcher.terminator && w.stages == 1
      · rw [launching, if_neg hempty, if_pos hlone, toInteraction_closing, launchAll]
        simp only [Launcher.launch, hempty, hlone, if_true, Interaction.bind_eq]
        rfl
      · rw [launching, if_neg hempty, if_neg hlone, launchAll]
        simp only [Launcher.launch, hempty, hlone, Interaction.bind_eq, toInteraction]
        congr 1
        funext answer
        cases answer <;> rfl

theorem toInteraction_wiring (stages : List Stage) (w : Wiring) (left : Nat) :
    (wiring r.launcher stages w left).toInteraction r =
      ((w.extend left).bind fun
        | .ok w => launchAll r.launcher w [] stages
        | .error e => .done (.error e)).bind conclude := by
  cases left with
  | zero => exact toInteraction_launching r w [] stages
  | succ left => rfl

theorem toInteraction_starting (stages : Except LineError (List Stage)) :
    (starting r.launcher stages).toInteraction r = runStages r stages := by
  match stages with
  | .error e => rfl
  | .ok [] => rfl
  | .ok (stage :: rest) =>
    exact toInteraction_wiring r _ _ _

theorem toInteraction_tracing (stages : Except LineError (List Stage)) (texts : List String) :
    (tracing r.launcher stages texts).toInteraction r =
      (Interaction.complainAll texts).bind fun _ => runStages r stages := by
  cases texts with
  | nil => exact toInteraction_starting r stages
  | cons text rest => rfl

/-- **The automaton is the program.** What the shell does from the first phase of a line on is
all that it does for the line. -/
theorem toInteraction_phase (line : String) :
    (r.phase line).toInteraction r = r.execute line := by
  rw [Runner.phase, toInteraction_tracing, Runner.execute]
  simp only [Interaction.bind_eq]
  congr 1

/-- **Inversion.** A phase is over or aborted, or it asks for one thing, and every answer leads to a
phase that it moves to. A call is asked again exactly if it may be interrupted. -/
theorem toInteraction_cases (phase : Phase) :
    (∃ result, phase = finished result) ∨ phase = aborted ∨ ∃ request next,
      phase.toInteraction r = (if request.isRetried then .persist request next
        else .once request next) ∧
      ∀ answer, ∃ phase', phase.Moves r.launcher request answer phase' ∧
        next answer = phase'.toInteraction r := by
  cases phase with
  | trace text rest stages =>
    refine .inr (.inr ⟨.writeAll Fd.stderr (Text.encode text), _, rfl, fun answer => ?_⟩)
    match answer with
    | .ok () => exact ⟨_, .traced, (toInteraction_tracing r stages rest).symm⟩
    | .error cause => exact ⟨_, .untraced cause, rfl⟩
  | wire w left stages =>
    refine .inr (.inr ⟨.pipe, _, rfl, fun answer => ?_⟩)
    match answer with
    | .ok (read, write) => exact ⟨_, .wired read write, (toInteraction_wiring r _ _ _).symm⟩
    | .error cause =>
      refine ⟨_, .unwired cause, ?_⟩
      rw [toInteraction_closing]
      simp only [Interaction.bind_eq, Interaction.pure_eq, Interaction.bind_assoc,
        Interaction.done_bind]
      rfl
  | launch w handles stage rest =>
    refine .inr (.inr ⟨.fork (r.launcher.plan w stage), _, rfl, fun answer => ?_⟩)
    match answer with
    | .ok pid => exact ⟨_, .launched pid, (toInteraction_launching r _ _ _).symm⟩
    | .error cause =>
      exact ⟨_, .unlaunched cause,
        (toInteraction_closing r (.cull handles (.fork stage.index cause)) w.fds).symm⟩
  | close fd rest next =>
    exact .inr (.inr ⟨.close fd, _, rfl, fun answer =>
      ⟨_, .closed answer, (toInteraction_closing r next rest).symm⟩⟩)
  | kill h rest handles error =>
    exact .inr (.inr ⟨.kill h.pid .kill, _, rfl, fun answer =>
      ⟨_, .killed answer, (toInteraction_killing r handles error rest).symm⟩⟩)
  | reap h rest error =>
    exact .inr (.inr ⟨.wait h.pid, _, rfl, fun answer =>
      ⟨_, .reaped answer, (toInteraction_reaping r error rest).symm⟩⟩)
  | wait report h rest =>
    exact .inr (.inr ⟨.wait h.pid, _, rfl, fun answer =>
      ⟨_, .waited answer, (toInteraction_waiting r _ rest).symm⟩⟩)
  | finished result => exact .inl ⟨result, rfl⟩
  | aborted => exact .inr (.inl rfl)

end ToInteraction

/-- Only the last phase is one in which the shell has nothing left to do. -/
theorem eq_finished_of_toInteraction {r : Runner} {phase : Phase}
    {result : Except PipelineError Execution} (h : phase.toInteraction r = .done result) :
    phase = finished result := by
  obtain ⟨result', rfl⟩ | rfl | ⟨request, next, heq, -⟩ := phase.toInteraction_cases r
  · exact congrArg finished (Interaction.done.inj h)
  · cases h
  · rw [heq] at h
    split at h <;> cases h

end Phase

end PipeShell
