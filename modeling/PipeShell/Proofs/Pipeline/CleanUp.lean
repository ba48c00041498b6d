import PipeShell.Proofs.Pipeline.Aborted
import PipeShell.Proofs.Pipeline.Course
import PipeShell.Proofs.Pipeline.Interruption
import PipeShell.Proofs.Pipeline.Remains

/-!
# Launches that fail

When the process of a stage is refused, the stages before it run already, each in a state that the
shell does not know: one may have ended, one may wait at a pipe, one may not have come to its
program. The shell clears up in a fixed order. It closes all of its pipe ends, so that nobody waits
for it; it ends every process that it has made; and only then it waits, for each of them.

* `ClearsUp` is this order, for any processes; `Launching.exists_parts` finds it in every launch.
* `Runner.Refuses` is the whole conversation about a line of which a process is refused. On every
  other way of a line, `Runner.Goes.quiet_or_refuses`, no process is refused or ended.
* `Runner.Goes.waits_eq` says of every line that each process is waited for once, whatever happens.
* `Runner.failed_launch_cleans_up` is the theorem, with what holds at every moment of a line.
-/

namespace PipeShell

/-! ### The parts of a launch -/

/-- The answers by which processes are made for stages. -/
def forkReplies (l : Launcher) (w : Wiring) (stages : List Stage) (pids : List Pid) :
    List ShellReply :=
  List.zipWith (fun stage pid => ⟨.fork (l.plan w stage), .ok pid⟩) stages pids

/-- Whether answers settle one wait for each of the processes, in this order. -/
structure Collects (pids : List Pid) (replies : List ShellReply) : Prop where
  requests : replies.map Sigma.fst = pids.map .wait
  settled : ∀ e ∈ replies, isInterruption e.2 = false

/-- **Clearing up, in order**: all pipe ends of the shell are closed, every process is ended, and
every process is waited for. -/
def ClearsUp (w : Wiring) (pids : List Pid) (replies : List ShellReply) : Prop :=
  ∃ closes kills told : List ShellReply, replies = closes ++ (kills ++ told) ∧
    closes.map Sigma.fst = w.fds.map .close ∧
    kills.map Sigma.fst = pids.map (fun pid => .kill pid .kill) ∧ Collects pids told

theorem collects_waitReplies {handles : List Handle} {answers : List (Except Errno Ending)}
    (all : answers.length = handles.length) (settled : ∀ a ∈ answers, isInterruption a = false) :
    Collects (handles.map Handle.pid) (waitReplies handles answers) := by
  induction handles generalizing answers with
  | nil => exact ⟨rfl, List.forall_mem_nil _⟩
  | cons h rest ih =>
    cases answers with
    | nil => cases all
    | cons answer answers =>
      obtain ⟨hfirst, hothers⟩ := List.forall_mem_cons.mp settled
      obtain ⟨hrequests, hsettled⟩ := ih (Nat.succ.inj all) hothers
      exact ⟨congrArg (Request.wait h.pid :: ·) hrequests,
        List.forall_mem_cons.mpr ⟨hfirst, hsettled⟩⟩

/-- How a launch ends behind the processes that have been made, with these stages left. -/
inductive LaunchEnds (l : Launcher) (w : Wiring) (pids : List Pid) :
    List Stage → List ShellReply → Except LaunchError Execution → Prop where
  /-- All stages run. -/
  | completed {closes told report} (shut : closes.map Sigma.fst = w.fds.map .close)
    (collected : Collects pids told) :
    LaunchEnds l w pids [] (closes ++ told) (.ok (.completed report))
  /-- The process of the next stage is refused. -/
  | refused {stage left tail cause} (other : cause ≠ .eintr) (clears : ClearsUp w pids tail) :
    LaunchEnds l w pids (stage :: left) (⟨.fork (l.plan w stage), .error cause⟩ :: tail)
      (.error (.fork stage.index cause))

theorem Launching.exists_parts {l : Launcher} {w : Wiring} {handles : List Handle}
    {stages : List Stage} {replies : List ShellReply} {result : Except LaunchError Execution}
    (h : Launching l w handles stages replies result) :
    ∃ launched left pids rest, stages = launched ++ left ∧ pids.length = launched.length ∧
      replies = forkReplies l w launched pids ++ rest ∧
      LaunchEnds l w (handles.map Handle.pid ++ pids) left rest result := by
  induction h with
  | @completed handles closes answers shut all settled =>
    refine ⟨[], [], [], _, rfl, rfl, rfl, .completed shut ?_⟩
    rw [List.append_nil]
    exact collects_waitReplies all settled
  | @launched handles stage rest replies result pid others ih =>
    obtain ⟨launched, left, pids, rest, rfl, hpids, rfl, hends⟩ := ih
    refine ⟨stage :: launched, left, pid :: pids, rest, rfl, congrArg (· + 1) hpids, rfl, ?_⟩
    rwa [List.map_append, List.append_assoc] at hends
  | @refused handles stage rest closes kills answers cause other shut ended all settled =>
    refine ⟨[], stage :: rest, [], _, rfl, rfl, rfl, .refused other ?_⟩
    rw [List.append_nil]
    refine ⟨closes, kills, _, List.append_assoc .., shut, ?_, collects_waitReplies all settled⟩
    rw [ended, List.map_map]
    rfl

/-! ### What the parts tell of processes -/

/-- The processes that have been made and those that have been waited for. -/
theorem forks_and_waits_forkReplies (l : Launcher) (w : Wiring) {stages : List Stage}
    {pids : List Pid} (h : pids.length = stages.length) :
    (forks (forkReplies l w stages pids)).map Prod.snd = pids ∧
      waits (forkReplies l w stages pids) = [] := by
  induction stages generalizing pids with
  | nil =>
    obtain rfl : pids = [] := List.length_eq_zero_iff.mp h
    exact ⟨rfl, rfl⟩
  | cons stage rest ih =>
    cases pids with
    | nil => cases h
    | cons pid pids =>
      obtain ⟨hforks, hwaits⟩ := ih (Nat.succ.inj h)
      exact ⟨congrArg (pid :: ·) hforks, hwaits⟩

theorem Collects.forks_and_waits {pids : List Pid} {replies : List ShellReply}
    (h : Collects pids replies) :
    forks replies = [] ∧ (waits replies).map Prod.fst = pids := by
  obtain ⟨hrequests, hsettled⟩ := h
  induction replies generalizing pids with
  | nil =>
    obtain rfl : pids = [] := List.map_eq_nil_iff.mp hrequests.symm
    exact ⟨rfl, rfl⟩
  | cons e rest ih =>
    cases pids with
    | nil => cases hrequests
    | cons pid pids =>
      obtain ⟨hfirst, hothers⟩ := List.forall_mem_cons.mp hsettled
      obtain ⟨hrequest, hrest⟩ := List.cons.inj hrequests
      obtain ⟨request, answer⟩ := e
      obtain rfl : request = .wait pid := hrequest
      obtain ⟨hforks, hwaits⟩ := ih hrest hothers
      have hone : ShellReply.wait? ⟨.wait pid, answer⟩ = some (pid, answer) :=
        if_neg (Bool.eq_false_iff.mp hfirst)
      have hcons : waits (⟨.wait pid, answer⟩ :: rest) = (pid, answer) :: waits rest :=
        List.filterMap_cons_some hone
      exact ⟨hforks, (congrArg (List.map Prod.fst) hcons).trans (congrArg (pid :: ·) hwaits)⟩

/-- Clearing up makes no process and waits for each. -/
theorem ClearsUp.forks_and_waits {w : Wiring} {pids : List Pid} {replies : List ShellReply}
    (h : ClearsUp w pids replies) : forks replies = [] ∧ (waits replies).map Prod.fst = pids := by
  obtain ⟨closes, kills, told, rfl, shut, ended, collected⟩ := h
  obtain ⟨-, hcloses, hcloses'⟩ := settled_of_map_fst shut fun _ => rfl
  obtain ⟨-, hkills, hkills'⟩ := settled_of_map_fst ended fun _ => rfl
  obtain ⟨htold, htold'⟩ := collected.forks_and_waits
  simp [hcloses, hcloses', hkills, hkills', htold, htold']

namespace LaunchEnds

variable {l : Launcher} {w : Wiring} {pids : List Pid} {left : List Stage}
  {replies : List ShellReply} {result : Except LaunchError Execution}

/-- However a launch ends, each process is waited for once, and no further one is made. -/
theorem forks_and_waits (h : LaunchEnds l w pids left replies result) :
    forks replies = [] ∧ (waits replies).map Prod.fst = pids := by
  cases h with
  | @completed closes told report shut collected =>
    obtain ⟨-, hcloses, hcloses'⟩ := settled_of_map_fst shut fun _ => rfl
    obtain ⟨htold, htold'⟩ := collected.forks_and_waits
    simp [hcloses, hcloses', htold, htold']
  | @refused stage left tail cause other clears =>
    obtain ⟨hforks, hwaits⟩ := clears.forks_and_waits
    exact ⟨hforks, hwaits⟩

end LaunchEnds

/-- **Each process is waited for once**, in the order in which they have been made, whatever becomes
of the line. -/
theorem Runner.Goes.waits_eq {r : Runner} {line : String} {replies : List ShellReply}
    {result : Except PipelineError Execution} (h : r.Goes line replies result) :
    (waits replies).map Prod.fst = (forks replies).map Prod.snd := by
  cases h with
  | malformed => rfl
  | idle => rfl
  | stop => rfl
  | @run stages _ _ read proper goes course =>
    cases course with
    | @unwired pipes closes cause other few shut =>
      obtain ⟨-, hcloses, hcloses'⟩ := settled_of_map_fst shut fun _ => rfl
      obtain ⟨hforks, hwaits⟩ := forks_and_waits_pipes pipes
      have hrefused : forks (⟨.pipe, .error cause⟩ :: closes) = [] ∧
          waits (⟨.pipe, .error cause⟩ :: closes) = [] := ⟨hcloses, hcloses'⟩
      simp [hforks, hwaits, hrefused]
    | @wired pipes replies result all launching =>
      obtain ⟨launched, left, pids, rest, -, hpids, rfl, hends⟩ := launching.exists_parts
      obtain ⟨hforks, hwaits⟩ := forks_and_waits_pipes pipes
      obtain ⟨hmade, hmade'⟩ := forks_and_waits_forkReplies r.launcher ⟨stages.length, pipes⟩ hpids
      obtain ⟨hrest, hrest'⟩ := hends.forks_and_waits
      simp [hforks, hwaits, hmade, hmade', hrest, hrest']

/-! ### Whole conversations -/

/-- **A line of which a process is refused**, call by call: the trace is shown, all pipes are made,
the processes of the stages before are made, one is refused for a cause other than an interruption,
and the shell clears up. Interruptions are left out. -/
inductive Runner.Refuses (r : Runner) (line : String) (w : Wiring) (launched : List Stage)
    (stage : Stage) (left : List Stage) (pids : List Pid) (cause : Errno) :
    List ShellReply → Except PipelineError Execution → Prop where
  | intro {tail} (read : (parse r.settings line).stages = .ok (launched ++ stage :: left))
    (complete : w.IsComplete (launched ++ stage :: left)) (made : pids.length = launched.length)
    (other : cause ≠ .eintr) (clears : ClearsUp w pids tail) :
    Refuses r line w launched stage left pids cause
      (w.pipes.map PipeEnds.reply ++ (forkReplies r.launcher w launched pids ++
        ⟨.fork (r.launcher.plan w stage), .error cause⟩ :: tail))
      (.error (.launch (.fork launched.length cause)))

/-- Whether an answer tells of neither a process that is refused nor one that is ended. -/
def ShellReply.isQuiet : ShellReply → Bool
  | ⟨.fork _, .error _⟩ => false
  | ⟨.kill _ _, _⟩ => false
  | _ => true

theorem isQuiet_of_map_fst {α : Type} {replies : List ShellReply} {list : List α}
    {request : α → Request} (h : replies.map Sigma.fst = list.map request)
    (hquiet : ∀ a answer, ShellReply.isQuiet ⟨request a, answer⟩ = true) :
    ∀ e ∈ replies, e.isQuiet = true := by
  intro e he
  have hmem : e.1 ∈ list.map request := h ▸ List.mem_map_of_mem he
  obtain ⟨a, -, ha⟩ := List.mem_map.mp hmem
  obtain ⟨request', answer⟩ := e
  obtain rfl : request a = request' := ha
  exact hquiet a answer

theorem isQuiet_shown (parsed : Parsed) : ∀ e ∈ parsed.shown, e.isQuiet = true :=
  List.forall_mem_map.mpr fun _ _ => rfl

theorem isQuiet_forkReplies (l : Launcher) (w : Wiring) (stages : List Stage) (pids : List Pid) :
    ∀ e ∈ forkReplies l w stages pids, e.isQuiet = true := by
  induction stages generalizing pids with
  | nil => exact List.forall_mem_nil _
  | cons stage rest ih =>
    cases pids with
    | nil => exact List.forall_mem_nil _
    | cons pid pids => exact List.forall_mem_cons.mpr ⟨rfl, ih pids⟩

theorem isQuiet_pipes (pipes : List PipeEnds) :
    ∀ e ∈ pipes.map PipeEnds.reply, e.isQuiet = true := by
  intro e he
  obtain ⟨p, -, rfl⟩ := List.mem_map.mp he
  rfl

/-- **There is no other way**: a line is quiet, or one of its processes is refused. -/
theorem Runner.Goes.quiet_or_refuses {r : Runner} {line : String} {replies : List ShellReply}
    {result : Except PipelineError Execution} (h : r.Goes line replies result) :
    (∀ e ∈ replies, e.isQuiet = true) ∨ ∃ w launched stage left pids cause,
      r.Refuses line w launched stage left pids cause replies result := by
  cases h with
  | malformed => exact .inl (List.forall_mem_nil _)
  | idle => exact .inl (List.forall_mem_nil _)
  | stop => exact .inl (List.forall_mem_nil _)
  | @run stages replies outcome read proper goes course =>
    cases course with
    | @unwired pipes closes cause other few shut =>
      refine .inl (List.forall_mem_append.mpr ⟨isQuiet_pipes pipes, ?_⟩)
      exact List.forall_mem_cons.mpr ⟨rfl, isQuiet_of_map_fst shut fun _ _ => rfl⟩
    | @wired pipes replies result all launching =>
      obtain ⟨launched, left, pids, rest, rfl, hpids, rfl, hends⟩ := launching.exists_parts
      rw [List.map_nil, List.nil_append] at hends
      cases hends with
      | completed shut collected =>
        refine .inl (List.forall_mem_append.mpr ⟨isQuiet_pipes pipes,
          List.forall_mem_append.mpr ⟨isQuiet_forkReplies _ _ _ _,
            List.forall_mem_append.mpr ⟨isQuiet_of_map_fst shut fun _ _ => rfl,
              isQuiet_of_map_fst collected.requests fun _ _ => rfl⟩⟩⟩)
      | @refused stage left tail cause other clears =>
        have hindex : stage.index = launched.length := by
          have hplace : (stagesOf r.settings line)[launched.length]? = some stage := by
            rw [stagesOf_eq read, List.getElem?_append_right le_rfl, Nat.sub_self]
            rfl
          exact (of_getElem?_stagesOf hplace).1
        rw [hindex]
        exact .inr ⟨⟨(launched ++ stage :: left).length, pipes⟩, launched, stage, left, pids, cause,
          .intro read ⟨rfl, all⟩ hpids other clears⟩

/-! ### Every moment of a line -/

theorem exists_of_not_mem_right {α : Type} {before after front back : List α} {a : α}
    (h : before ++ a :: after = front ++ back) (hback : a ∉ back) :
    ∃ more, front = before ++ a :: more := by
  obtain ⟨rest, rfl, hrest⟩ | ⟨rest, rfl, rfl⟩ := List.append_eq_append_iff.mp h
  · cases rest with
    | nil => exact absurd (List.nil_append back ▸ hrest ▸ List.mem_cons_self) hback
    | cons b rest =>
      obtain rfl : a = b := (List.cons.inj hrest).1
      exact ⟨rest, rfl⟩
  · exact absurd (List.mem_append_right rest List.mem_cons_self) hback

theorem exists_of_not_mem_left {α : Type} {before after front back : List α} {a : α}
    (h : before ++ a :: after = front ++ back) (hfront : a ∉ front) :
    ∃ some, before = front ++ some ∧ back = some ++ a :: after := by
  obtain ⟨rest, rfl, hrest⟩ | ⟨rest, rfl, hrest⟩ := List.append_eq_append_iff.mp h
  · cases rest with
    | nil => exact ⟨[], by simp, hrest.symm⟩
    | cons b rest =>
      obtain rfl : a = b := (List.cons.inj hrest).1
      exact absurd (List.mem_append_right before List.mem_cons_self) hfront
  · exact ⟨rest, rfl, hrest⟩

namespace Runner

open Scene

variable {r : Runner} {line : String} {scene scene' : Scene} {replies : List ShellReply}
  {p : Interaction (Except PipelineError Execution)}

/-- All that a line may still hear, from any moment on, together with what it has heard, unless it
has been aborted. -/
theorem goes_of_moment (h : Plays Takes (r.execute line, scene) replies (p, scene')) :
    p = .aborted ∨ ∃ more result last rest, Plays Takes (p, scene') more (.done result, last) ∧
      settled (replies ++ more) = (parse r.settings line).shown ++ rest ∧
      r.Goes line rest result := by
  refine or_iff_not_imp_left.mpr fun hp => ?_
  obtain ⟨more, result, last, hmore⟩ := exists_plays_done_of_ne_aborted h hp
  obtain ⟨rest, hall, hgoes⟩ := goes_of_plays (h.append hmore)
  refine ⟨more, result, last, settled rest, hmore, ?_, hgoes⟩
  rw [hall, settled_append, (settled_shown _).1]

/-- What comes before the first process is ended: nobody is ended, one process is refused, those
that have been made are the ones to be ended, and none is waited for. Behind the last one, all are
waited for. -/
theorem Refuses.exists_front {w : Wiring} {launched left : List Stage} {stage : Stage}
    {pids : List Pid} {cause : Errno} {result : Except PipelineError Execution}
    (h : r.Refuses line w launched stage left pids cause replies result) :
    ∃ front kills told, replies = front ++ (kills ++ told) ∧
      (∀ e ∈ front, e.isQuiet = true ∨ ∃ plan, e = ⟨.fork plan, .error cause⟩) ∧
      (forks front).map Prod.snd = pids ∧ waits front = [] ∧
      (∃ plan, ⟨.fork plan, .error cause⟩ ∈ front) ∧
      kills.map Sigma.fst = pids.map (fun pid => .kill pid .kill) ∧ Collects pids told := by
  obtain @⟨_, read, complete, made, other, ⟨closes, kills, told, rfl, shut, ended, collected⟩⟩ := h
  obtain ⟨hpipeForks, hpipeWaits⟩ := forks_and_waits_pipes w.pipes
  obtain ⟨hmade, hmade'⟩ := forks_and_waits_forkReplies r.launcher w made
  obtain ⟨-, hcloses, hcloses'⟩ := settled_of_map_fst shut fun _ => rfl
  have hrefused : forks (⟨.fork (r.launcher.plan w stage), .error cause⟩ :: closes) = [] ∧
      waits (⟨.fork (r.launcher.plan w stage), .error cause⟩ :: closes) = [] := ⟨hcloses, hcloses'⟩
  refine ⟨w.pipes.map PipeEnds.reply ++ (forkReplies r.launcher w launched pids ++
    ⟨.fork (r.launcher.plan w stage), .error cause⟩ :: closes), kills, told, ?_, ?_, ?_, ?_, ?_,
    ended, collected⟩
  · simp only [List.append_assoc, List.cons_append]
  · refine List.forall_mem_append.mpr ⟨fun e he => .inl (isQuiet_pipes _ e he),
      List.forall_mem_append.mpr ⟨fun e he => .inl (isQuiet_forkReplies _ _ _ _ e he),
        List.forall_mem_cons.mpr ⟨.inr ⟨_, rfl⟩, fun e he => .inl ?_⟩⟩⟩
    exact isQuiet_of_map_fst shut (fun _ _ => rfl) e he
  · simp [hpipeForks, hmade, hrefused]
  · simp [hpipeWaits, hmade', hrefused]
  · exact ⟨_, List.mem_append_right _ (List.mem_append_right _ List.mem_cons_self)⟩

/-- **What is known when a process is ended**: a process has been refused, the one that is ended has
been made for the line, and none has been waited for. -/
theorem of_plays_kill {before after : List ShellReply} {pid : Pid} {signal : Signal}
    {answer : (Request.kill pid signal).Answer}
    (h : Plays Takes (r.execute line, scene) (before ++ ⟨.kill pid signal, answer⟩ :: after)
      (p, scene')) :
    signal = .kill ∧ pid ∈ (forks before).map Prod.snd ∧ waits before = [] ∧
      ∃ plan cause, cause ≠ .eintr ∧ ⟨.fork plan, .error cause⟩ ∈ before := by
  obtain rfl | ⟨more, result, last, rest, -, hall, hgoes⟩ := goes_of_moment h
  · obtain ⟨text, heq⟩ := request_of_aborted h (List.mem_append_right _ List.mem_cons_self)
    cases heq
  have hnot : ∀ {list : List ShellReply}, (∀ e ∈ list, e.isQuiet = true) →
      ⟨.kill pid signal, answer⟩ ∉ list := by
    intro list hquiet hmem
    cases hquiet _ hmem
  have hkept : settled (⟨.kill pid signal, answer⟩ :: (after ++ more)) =
      ⟨.kill pid signal, answer⟩ :: settled (after ++ more) := rfl
  rw [List.append_assoc, List.cons_append, settled_append, hkept] at hall
  -- it is not a part of the trace
  obtain ⟨some, hbefore, hrest⟩ := exists_of_not_mem_left hall
    (hnot (isQuiet_shown _))
  obtain ⟨-, hshownForks, hshownWaits⟩ := settled_shown (parse r.settings line)
  obtain hquiet | ⟨w, launched, stage, left, pids, cause, hrefuses⟩ := hgoes.quiet_or_refuses
  · exact absurd (hrest ▸ List.mem_append_right _ List.mem_cons_self) (hnot hquiet)
  have hother : cause ≠ .eintr := by
    obtain @⟨_, -, -, -, other, -⟩ := hrefuses
    exact other
  obtain ⟨front, kills, told, rfl, hfront, hforks, hwaits, ⟨plan, hplan⟩, ended, collected⟩ :=
    hrefuses.exists_front
  have htold := isQuiet_of_map_fst collected.requests fun _ _ => rfl
  rw [← List.append_assoc] at hrest
  obtain ⟨others, hkills⟩ := exists_of_not_mem_right hrest.symm (hnot htold)
  obtain ⟨ended', rfl, rfl⟩ := exists_of_not_mem_left hkills.symm fun hmem => by
    obtain hquiet | ⟨_, heq⟩ := hfront _ hmem
    · cases hquiet
    · cases heq
  obtain ⟨-, hkillForks, hkillWaits⟩ := settled_of_map_fst ended fun _ => rfl
  rw [forks_append, List.append_eq_nil_iff] at hkillForks
  rw [waits_append, List.append_eq_nil_iff] at hkillWaits
  have hmem : Request.kill pid signal ∈ pids.map fun pid => .kill pid .kill := by
    rw [← ended, List.map_append]
    exact List.mem_append_right _ List.mem_cons_self
  obtain ⟨pid', hpid, hkill⟩ := List.mem_map.mp hmem
  cases hkill
  refine ⟨rfl, ?_, ?_, plan, cause, hother, ?_⟩
  · rw [← forks_settled, hbefore]
    simpa [hshownForks, hkillForks.1, hforks] using hpid
  · rw [← waits_settled, hbefore]
    simp [hshownWaits, hkillWaits.1, hwaits]
  · have hsettled : ⟨.fork plan, .error cause⟩ ∈ settled before := by
      rw [hbefore]
      exact List.mem_append_right _ (List.mem_append_left _ hplan)
    exact (List.mem_filter.mp hsettled).1

/-- A conversation in which a process is refused is the one of such a line. -/
theorem refuses_of_plays {result : Except PipelineError Execution} {plan : Child} {cause : Errno}
    (h : Plays Takes (r.execute line, scene) replies (.done result, scene'))
    (hother : cause ≠ .eintr) (hrefused : ⟨.fork plan, .error cause⟩ ∈ replies) :
    ∃ rest w launched stage left, settled replies = (parse r.settings line).shown ++ rest ∧
      r.Refuses line w launched stage left ((forks replies).map Prod.snd) cause rest result := by
  obtain ⟨rest, rfl, hgoes⟩ := goes_of_plays h
  have hsettles : ShellReply.settles ⟨.fork plan, .error cause⟩ = true := by
    have hcause : isInterruption (.error cause : (Request.fork plan).Answer) = false :=
      Bool.eq_false_iff.mpr fun h => hother (Except.error.inj (eq_of_isInterruption h))
    simp [ShellReply.settles, hcause]
  have hloud : ∀ {list : List ShellReply}, (∀ e ∈ list, e.isQuiet = true) →
      ⟨.fork plan, .error cause⟩ ∉ list := by
    intro list hquiet hmem
    cases hquiet _ hmem
  have hmem : ⟨.fork plan, .error cause⟩ ∈ settled rest := by
    refine List.mem_filter.mpr ⟨(List.mem_append.mp hrefused).resolve_left ?_, hsettles⟩
    exact hloud (isQuiet_shown _)
  obtain hquiet | ⟨w, launched, stage, left, pids, cause', hrefuses⟩ := hgoes.quiet_or_refuses
  · exact absurd hmem (hloud hquiet)
  obtain ⟨front, kills, told, hparts, hfront, hforks, -, -, ended, collected⟩ :=
    hrefuses.exists_front
  have hpids : (forks ((parse r.settings line).shown ++ rest)).map Prod.snd = pids := by
    obtain ⟨-, hkillForks, -⟩ := settled_of_map_fst ended fun _ => rfl
    obtain ⟨htoldForks, -⟩ := collected.forks_and_waits
    rw [(forks_and_waits_shown _ rest).1, hparts]
    simp [hkillForks, htoldForks, hforks]
  -- only one process is refused
  have hcause : cause' = cause := by
    rw [hparts] at hmem
    obtain hmem | hmem := List.mem_append.mp hmem
    · obtain hquiet | ⟨plan', heq⟩ := hfront _ hmem
      · cases hquiet
      · cases heq
        rfl
    · obtain hmem | hmem := List.mem_append.mp hmem
      · have hkill : Request.fork plan ∈ pids.map fun pid => .kill pid .kill :=
          ended ▸ List.mem_map_of_mem hmem
        obtain ⟨pid, -, heq⟩ := List.mem_map.mp hkill
        cases heq
      · exact absurd hmem (hloud (isQuiet_of_map_fst collected.requests fun _ _ => rfl))
  subst hcause
  refine ⟨settled rest, w, launched, stage, left, ?_, hpids ▸ hrefuses⟩
  rw [settled_append, (settled_shown _).1]

/-- No process of a line is left when the line is over, neither running nor ended. -/
theorem children_of_reaches {h₀ h : Host} {result : Except PipelineError Execution}
    (hsound : h₀.IsSound) (hreaches : Host.Reaches (r.execute line, h₀) (.done result, h)) :
    ∀ pid child, h.children pid = some child → child.number < h₀.forks := by
  obtain ⟨phase, hphase, howes⟩ := Host.exists_owes_of_reaches hreaches
  obtain rfl := Phase.eq_finished_of_toInteraction hphase.symm
  intro pid child hchild
  obtain ⟨child₀, hchild₀, hnumber⟩ | ⟨hmem, -⟩ := howes.children pid child hchild
  · exact hnumber ▸ hsound.forks pid child₀ hchild₀
  · cases hmem

/-- **A launch that fails is cleared up.** Suppose that the process of some stage is refused, for a
cause other than an interruption. Then the line fails with that stage and that cause, and apart from
interruptions the calls are, in this order: those that show the trace, make all pipes and make the
processes of the stages before; the one that is refused; one that closes each pipe end of the shell;
one that ends each of the processes; and one wait for each of them that is settled. At any moment of
any line, a process is ended only behind such a refusal, and it is one that has been made for the
line while none of them has been waited for yet. Every line, whatever happens on it, can come to its
end from any moment on, unless the shell has been aborted while nothing but the trace had been asked
for; it waits once for each process that it has made, in their order; and when it is over, the
operating system has none of them any more, neither running nor ended. -/
theorem failed_launch_cleans_up (r : Runner) (line : String) :
    (∀ scene replies p scene', Plays Takes (r.execute line, scene) replies (p, scene') →
      ((∃ more result last, Plays Takes (p, scene') more (.done result, last)) ∨
        (p = .aborted ∧ ∀ e ∈ replies, ∃ text, e.1 = .writeAll Fd.stderr (Text.encode text))) ∧
      ∀ before pid signal answer after, replies = before ++ ⟨.kill pid signal, answer⟩ :: after →
        signal = .kill ∧ pid ∈ (forks before).map Prod.snd ∧ waits before = [] ∧
          ∃ plan cause, cause ≠ .eintr ∧ ⟨.fork plan, .error cause⟩ ∈ before) ∧
    (∀ scene replies result scene',
      Plays Takes (r.execute line, scene) replies (.done result, scene') →
        (waits replies).map Prod.fst = (forks replies).map Prod.snd ∧
        ∀ plan cause, cause ≠ .eintr → ⟨.fork plan, .error cause⟩ ∈ replies →
          ∃ rest w launched stage left, settled replies = (parse r.settings line).shown ++ rest ∧
            r.Refuses line w launched stage left ((forks replies).map Prod.snd) cause rest
              result) ∧
    ∀ h₀ h result, h₀.IsSound → Host.Reaches (r.execute line, h₀) (.done result, h) →
      ∀ pid child, h.children pid = some child → child.number < h₀.forks := by
  refine ⟨fun scene replies p scene' h => ⟨?_, ?_⟩, ?_, ?_⟩
  · obtain rfl | ⟨more, result, last, rest, hmore, -⟩ := goes_of_moment h
    · exact .inr ⟨rfl, fun e => request_of_aborted h⟩
    · exact .inl ⟨more, result, last, hmore⟩
  · rintro before pid signal answer after rfl
    exact of_plays_kill h
  · intro scene replies result scene' h
    refine ⟨?_, fun plan cause hother hrefused => refuses_of_plays h hother hrefused⟩
    obtain ⟨rest, rfl, hgoes⟩ := goes_of_plays h
    obtain ⟨hforks, hwaits⟩ := forks_and_waits_shown (parse r.settings line) rest
    rw [hforks, hwaits, hgoes.waits_eq]
  · intro h₀ h result hsound hreaches
    exact children_of_reaches hsound hreaches

/-- A conversation about two stages of which the second one is refused its process. The first one
has ended by the time it is to be ended. -/
def refusedReplies : List ShellReply :=
  [⟨.pipe, .ok (3, 4)⟩, ⟨.fork writerPlan, .ok (7 : Pid)⟩, ⟨.fork readerPlan, .error .eintr⟩,
    ⟨.fork readerPlan, .error .eagain⟩, ⟨.close 3, .ok ()⟩, ⟨.close 4, .ok ()⟩,
    ⟨.kill 7 .kill, .error .esrch⟩, ⟨.wait 7, .error .eintr⟩, ⟨.wait 7, .ok (.exited 0)⟩]

theorem plays_refusedReplies :
    ∃ scene', Plays Takes (Runner.execute {} "a | b", ⟨{}, 0, []⟩) refusedReplies
      (.done (.error (.launch (.fork 1 .eagain))), scene') := by
  rw [execute_twoStages]
  exact ⟨_, .cons (.persist _) (.cons (.persist _) (.cons (.persist _) (.cons (.persist _)
    (.cons (.once _) (.cons (.once _) (.cons (.once _) (.cons (.persist _) (.cons (.persist _)
    (.nil _)))))))))⟩

/-- The first of two stages is ended and waited for when the second one is refused its process. -/
theorem failed_launch_cleans_up_two_stages :
    (waits refusedReplies).map Prod.fst = [7] ∧
    ∃ rest w launched stage left,
      settled refusedReplies = (parse {} "a | b").shown ++ rest ∧
      Runner.Refuses {} "a | b" w launched stage left [7] .eagain rest
        (.error (.launch (.fork 1 .eagain))) := by
  obtain ⟨scene', hplays⟩ := plays_refusedReplies
  obtain ⟨hwaits, hrefuses⟩ := (failed_launch_cleans_up {} "a | b").2.1 _ _ _ _ hplays
  exact ⟨hwaits, hrefuses readerPlan .eagain nofun (by simp [refusedReplies])⟩

end Runner

end PipeShell
