import Mathlib.Data.List.Nodup
import PipeShell.Proofs.Pipeline.Conjunction

/-!
# Who ends first does not matter

The processes of a line end when they like: before later stages are launched, while the shell waits
for others, in any order. Here what happens while a line runs is written down with these endings
between the answers that the shell gets, and the processes are followed with the shell.

* `Fate.Takes` says what one happening does. A process ends once; and when a wait tells how a
  process has ended, it has ended so.
* `map_pid_of_plays`, `mem_of_plays` and `plays_heard` are what a whole run keeps: which processes
  there are, how those have ended of which a wait has told, and the conversation of the shell.
* `exists_told_of_plays` says what the waits have told by the end, process by process, and
  `Runner.report_independent_of_order` what follows: the report depends on what has become of each
  process, and on nothing else.
-/

namespace PipeShell

/-- A process of a line, with how it has ended, if it has. -/
structure Fate where
  /-- Its number. -/
  pid : Pid
  /-- How it has ended. -/
  ending : Option Ending

/-- What happens while a line runs. -/
inductive Happening where
  /-- The shell gets an answer. -/
  | answer (reply : ShellReply)
  /-- The process that was made behind `place` others ends. -/
  | ends (place : Nat) (how : Ending)

/-- The answers that the shell gets. -/
def heard (happenings : List Happening) : List ShellReply :=
  happenings.filterMap fun
    | .answer reply => some reply
    | .ends _ _ => none

/-- Whether an answer is true: a wait tells that a process has ended in some way only if it has. -/
def ShellReply.IsTrue (fates : List Fate) : ShellReply → Prop
  | ⟨.wait pid, .ok how⟩ => ⟨pid, some how⟩ ∈ fates
  | _ => True

/-- A wait that has told how a process has ended has told the truth. -/
theorem ShellReply.IsTrue.mem {fates : List Fate} {reply : ShellReply} {pid : Pid} {how : Ending}
    (h : reply.IsTrue fates) (hmem : (pid, .ok how) ∈ waits [reply]) :
    ⟨pid, some how⟩ ∈ fates := by
  obtain rfl := List.mem_singleton.mp (mem_of_mem_waits hmem).1
  exact h

/-- **What one happening does** to a computation of the shell, what it has to do with, and the
processes that it has made. -/
inductive Fate.Takes {α : Type} : (Interaction α × Scene) × List Fate → Happening →
    (Interaction α × Scene) × List Fate → Prop where
  | answer {s t : Interaction α × Scene} {fates : List Fate} {reply : ShellReply}
    (takes : Scene.Takes s reply t) (honest : reply.IsTrue fates) :
    Takes (s, fates) (.answer reply) (t, fates ++ (forks [reply]).map fun made => ⟨made.2, none⟩)
  | ends {s : Interaction α × Scene} {fates : List Fate} {place : Nat} {pid : Pid} (how : Ending)
    (alive : fates[place]? = some ⟨pid, none⟩) :
    Takes (s, fates) (.ends place how) (s, fates.set place ⟨pid, some how⟩)

/-- What has become known of a process: that the wait for it has failed, or else how it has ended.
-/
def Fate.known (replies : List ShellReply) (fate : Fate) : Option (Except Errno Ending) :=
  match (waits replies).lookup fate.pid with
  | some (.error cause) => some (.error cause)
  | _ => fate.ending.map .ok

/-- What has finally become of a process for its report: it is lost if the wait for it has failed.
-/
def Fate.status (replies : List ShellReply) (fate : Fate) : Option StageStatus :=
  (fate.known replies).map .ofWait

namespace Fate

variable {α : Type} {s t : (Interaction α × Scene) × List Fate} {happenings : List Happening}

/-! ### What a run keeps -/

/-- The shell hears nothing of the processes but by answers. -/
theorem plays_heard (h : Plays Takes s happenings t) :
    Plays Scene.Takes s.1 (heard happenings) t.1 := by
  induction h with
  | nil s => exact .nil s.1
  | cons first others ih =>
    cases first with
    | answer takes honest => exact .cons takes ih
    | ends how alive => exact ih

/-- A process that ends stays where it is. -/
theorem map_pid_set {fates : List Fate} {place : Nat} {pid : Pid} (how : Ending)
    (alive : fates[place]? = some ⟨pid, none⟩) :
    (fates.set place ⟨pid, some how⟩).map Fate.pid = fates.map Fate.pid := by
  have hplace : place < (fates.map Fate.pid).length := by
    rw [List.length_map]
    exact (List.getElem?_eq_some_iff.mp alive).1
  have hpid : (fates.map Fate.pid)[place]? = some pid := by
    rw [List.getElem?_map, alive, Option.map_some]
  rw [List.map_set]
  refine List.ext_getElem? fun i => ?_
  by_cases hi : place = i
  · subst hi
    rw [List.getElem?_set_self hplace, hpid]
  · rw [List.getElem?_set_ne hi]

/-- The processes are those that have been made, in that order. -/
theorem map_pid_of_plays (h : Plays Takes s happenings t) :
    t.2.map Fate.pid = s.2.map Fate.pid ++ (forks (heard happenings)).map Prod.snd := by
  induction h with
  | nil s => exact (List.append_nil _).symm
  | @cons s t u e rest first others ih =>
    cases first with
    | @answer s t fates reply takes honest =>
      have hheard : heard (.answer reply :: rest) = [reply] ++ heard rest := rfl
      rw [ih, hheard, forks_append, List.map_append, List.map_append, List.map_map,
        List.append_assoc]
      rfl
    | ends how alive =>
      rw [ih, map_pid_set how alive]
      rfl

/-- A process that has ended has ended for good. -/
theorem mem_of_takes {e : Happening} {pid : Pid} {how : Ending}
    (hmem : (⟨pid, some how⟩ : Fate) ∈ s.2) (h : Takes s e t) : ⟨pid, some how⟩ ∈ t.2 := by
  cases h with
  | answer takes honest => exact List.mem_append_left _ hmem
  | @ends _ fates place other how' alive =>
    obtain ⟨i, hi⟩ := List.mem_iff_getElem?.mp hmem
    -- it is not the one that ends now
    have hother : place ≠ i := by
      rintro rfl
      cases alive.symm.trans hi
    refine List.mem_iff_getElem?.mpr ⟨i, ?_⟩
    rw [List.getElem?_set_ne hother]
    exact hi

/-- What a wait has told of a process is how it has ended. -/
theorem mem_of_plays {pid : Pid} {how : Ending} (h : Plays Takes s happenings t)
    (htold : (pid, .ok how) ∈ waits (heard happenings)) : ⟨pid, some how⟩ ∈ t.2 := by
  induction h with
  | nil s => cases htold
  | @cons s t u e rest first others ih =>
    cases first with
    | @answer s t fates reply takes honest =>
      have hheard : heard (.answer reply :: rest) = [reply] ++ heard rest := rfl
      rw [hheard, waits_append, List.mem_append] at htold
      rcases htold with hfirst | hrest
      · -- it has been told just now, and so it is true
        exact others.keeps (fun s => (⟨pid, some how⟩ : Fate) ∈ s.2) mem_of_takes
          (List.mem_append_left _ (honest.mem hfirst))
      · exact ih hrest
    | ends how' alive => exact ih htold

end Fate

/-- Among processes with different numbers, each is found with what belongs to it. -/
theorem lookup_zip {α : Type} {pids : List Pid} {list : List α} (hdistinct : pids.Nodup) {i : Nat}
    {pid : Pid} {a : α} (hpid : pids[i]? = some pid) (ha : list[i]? = some a) :
    (pids.zip list).lookup pid = some a := by
  induction pids generalizing list i with
  | nil => cases hpid
  | cons first rest ih =>
    obtain ⟨hfirst, hrest⟩ := List.nodup_cons.mp hdistinct
    cases list with
    | nil => cases ha
    | cons b others =>
      rw [List.zip_cons_cons, List.lookup_cons]
      cases i with
      | zero =>
        obtain rfl : first = pid := Option.some.inj hpid
        obtain rfl : b = a := Option.some.inj ha
        simp
      | succ i =>
        have hmem : pid ∈ rest := List.mem_of_getElem? hpid
        have hne : (pid == first) = false := by
          rw [beq_eq_false_iff_ne]
          rintro rfl
          exact hfirst hmem
        rw [hne]
        exact ih hrest hpid ha

/-! ### What is told by the end -/

section Told

open Fate

variable {r : Runner} {line : String} {scene scene' : Scene} {happenings : List Happening}
  {fates : List Fate} {report : Report}

/-- Where a wait has told something of a process, that is what is known of it. -/
theorem Fate.known_eq {fate : Fate} {answer : Except Errno Ending}
    (hlookup : (waits (heard happenings)).lookup fate.pid = some answer)
    (hended : ∀ how, answer = .ok how → fate.ending = some how) :
    fate.known (heard happenings) = some answer := by
  rw [known, hlookup]
  cases answer with
  | error cause => rfl
  | ok how =>
    rw [hended how rfl]
    rfl

/-- By the end of a line, each process has been waited for, and the wait has told what is known of
it. -/
theorem exists_told_of_plays
    (h : Plays Takes ((r.execute line, scene), []) happenings
      ((.done (.ok (.completed report)), scene'), fates))
    (hdistinct : (fates.map pid).Nodup) :
    (∃ w : Wiring, forks (heard happenings) =
      ((stagesOf r.settings line).map (r.launcher.plan w)).zip (fates.map pid)) ∧
    ∃ told : List (Pid × Except Errno Ending), report = .ofTold told ∧
      told.length = (stagesOf r.settings line).length ∧ fates.map pid = told.map Prod.fst ∧
      fates.map (known (heard happenings)) = told.map fun t => some t.2 := by
  obtain ⟨stages, w, pids, answers, hread, -, hpids, hanswers, hforks, hwaits, hreport⟩ :=
    Runner.of_completed (plays_heard h)
  have hprocesses : fates.map pid = pids := by
    have hmade := map_pid_of_plays h
    rw [hforks, List.map_snd_zip (by simp [hpids])] at hmade
    exact hmade
  have hlength : (pids.zip answers).length = stages.length := by
    rw [List.length_zip, hpids, hanswers, Nat.min_self]
  have hfates : fates.length = answers.length := by
    rw [hanswers, ← hpids, ← hprocesses, List.length_map]
  -- what is known of the process of each stage is what the wait for it has come to
  have hknown : fates.map (known (heard happenings)) = answers.map some := by
    refine List.ext_getElem (by simpa using hfates) fun i hi hi' => ?_
    rw [List.length_map] at hi hi'
    have hpid : pids[i]? = some fates[i].pid := by
      rw [← hprocesses, List.getElem?_map, List.getElem?_eq_getElem hi, Option.map_some]
    have hanswer : answers[i]? = some answers[i] := List.getElem?_eq_getElem hi'
    have hlookup : (waits (heard happenings)).lookup fates[i].pid = some answers[i] := by
      rw [hwaits]
      exact lookup_zip (hprocesses ▸ hdistinct) hpid hanswer
    rw [List.getElem_map, List.getElem_map]
    refine known_eq hlookup fun how hhow => ?_
    -- a process with this number has ended so, and there is only one with it
    have htold : (fates[i].pid, .ok how) ∈ waits (heard happenings) := by
      rw [hwaits, ← hhow]
      exact List.mem_of_getElem? (List.getElem?_zip_eq_some.mpr ⟨hpid, hanswer⟩)
    have hmem : (⟨fates[i].pid, some how⟩ : Fate) ∈ fates := mem_of_plays h htold
    exact congrArg ending
      (List.inj_on_of_nodup_map hdistinct (List.getElem_mem hi) hmem rfl)
  rw [stagesOf_eq hread]
  refine ⟨⟨w, by rw [hforks, hprocesses]⟩, pids.zip answers, by rw [hreport, hwaits], hlength,
    ?_, ?_⟩
  · rw [List.map_fst_zip (by omega), hprocesses]
  · rw [hknown]
    conv_lhs => rw [← List.map_snd_zip (by omega : answers.length ≤ pids.length), List.map_map]
    rfl

/-- What has become of the processes is read off what is known of them. -/
theorem map_status_of_map_known {told : List (Pid × Except Errno Ending)}
    (hknown : fates.map (known (heard happenings)) = told.map fun t => some t.2) :
    fates.map (status (heard happenings)) =
      (told.map fun t => StageStatus.ofWait t.2).map some := by
  have hmapped := congrArg (List.map (Option.map StageStatus.ofWait)) hknown
  rw [List.map_map, List.map_map] at hmapped
  rw [List.map_map]
  exact hmapped

end Told

namespace Report

variable {told told' : List (Pid × Except Errno Ending)}

/-- Two reports are on the same if they are on the same processes and tell the same of each. -/
theorem map_told_congr {β : Type} (f : Except Errno Ending → β)
    (hpids : told.map Prod.fst = told'.map Prod.fst)
    (hsame : (told.map fun t => f t.2) = told'.map fun t => f t.2) :
    (told.map fun t => (t.1, f t.2)) = told'.map fun t => (t.1, f t.2) := by
  rw [← List.zip_map', ← List.zip_map']
  exact congrArg₂ List.zip hpids hsame

theorem stages_ofTold_congr (hpids : told.map Prod.fst = told'.map Prod.fst)
    (hstatus : (told.map fun t => StageStatus.ofWait t.2) = told'.map fun t => .ofWait t.2) :
    (ofTold told).stages = (ofTold told').stages := by
  have hpairs := map_told_congr StageStatus.ofWait hpids hstatus
  refine List.ext_getElem? fun i => ?_
  have hith := congrArg (·[i]?.map fun p => (⟨i, p.1, p.2⟩ : StageReport)) hpairs
  simpa [ofTold, Function.comp_def] using hith

theorem told_ext (hpids : told.map Prod.fst = told'.map Prod.fst)
    (hanswers : (told.map fun t => some t.2) = told'.map fun t => some t.2) : told = told' := by
  have hpairs := map_told_congr some hpids hanswers
  refine List.map_injective_iff.mpr ?_ hpairs
  intro t t' ht
  simpa [Prod.ext_iff] using ht

end Report

/-! ### The theorem -/

/-- **A report does not depend on who ends first.** However the processes of a completed line end,
between whatever answers, if no two of them have one number: there is one for each stage, made in
the order of the stages and each by the plan of its stage; entry `i` of the report is that of stage
`i`, with the process made for it and with what has become of that process. In another run of the
line with the same processes, whatever the order, the stages are reported alike if the same has
become of each; and if the same is known of each, down to why a wait has failed, the reports are
equal. -/
theorem Runner.report_independent_of_order (r : Runner) (line : String) {scene scene' : Scene}
    {happenings : List Happening} {fates : List Fate} {report : Report}
    (h : Plays Fate.Takes ((r.execute line, scene), []) happenings
      ((.done (.ok (.completed report)), scene'), fates))
    (hdistinct : (fates.map Fate.pid).Nodup) :
    fates.length = (stagesOf r.settings line).length ∧
    report.stages.length = (stagesOf r.settings line).length ∧
    (∃ w : Wiring, forks (heard happenings) =
      ((stagesOf r.settings line).map (r.launcher.plan w)).zip (fates.map Fate.pid)) ∧
    (∀ (i : Nat) (fate : Fate), fates[i]? = some fate →
      ∃ status, fate.status (heard happenings) = some status ∧
        report.stages[i]? = some ⟨i, fate.pid, status⟩) ∧
    ∀ {scene₂ scene₂' : Scene} {happenings₂ : List Happening} {fates₂ : List Fate}
      {report₂ : Report},
      Plays Fate.Takes ((r.execute line, scene₂), []) happenings₂
        ((.done (.ok (.completed report₂)), scene₂'), fates₂) →
      fates₂.map Fate.pid = fates.map Fate.pid →
        (fates₂.map (Fate.status (heard happenings₂)) = fates.map (Fate.status (heard happenings)) →
          report₂.stages = report.stages) ∧
        (fates₂.map (Fate.known (heard happenings₂)) = fates.map (Fate.known (heard happenings)) →
          report₂ = report) := by
  obtain ⟨hforks, told, rfl, hlength, hpids, hknown⟩ := exists_told_of_plays h hdistinct
  have hstatus := map_status_of_map_known hknown
  have hstages : (Report.ofTold told).stages.length = told.length := List.length_mapIdx
  have hfates : fates.length = told.length := by
    simpa using congrArg List.length hpids
  refine ⟨hfates.trans hlength, hstages.trans hlength, hforks, ?_, ?_⟩
  · intro i fate hfate
    have hi : i < told.length := by
      rw [← hfates]
      exact (List.getElem?_eq_some_iff.mp hfate).1
    have hpid : fate.pid = told[i].1 := by
      have hith := congrArg (·[i]?) hpids
      simpa [hfate, hi] using hith
    have hbecome : fate.status (heard happenings) = some (.ofWait told[i].2) := by
      have hith := congrArg (·[i]?) hstatus
      simpa [hfate, hi] using hith
    refine ⟨_, hbecome, ?_⟩
    rw [hpid]
    simp [Report.ofTold, hi]
  · intro scene₂ scene₂' happenings₂ fates₂ report₂ h₂ hpids₂
    -- both reports are on what the waits have told, and that is known by the processes alone
    obtain ⟨-, told₂, rfl, -, hpids₂', hknown₂⟩ := exists_told_of_plays h₂ (hpids₂ ▸ hdistinct)
    have hsame : told₂.map Prod.fst = told.map Prod.fst := by rw [← hpids₂', hpids₂, hpids]
    constructor
    · intro hall
      rw [hstatus, map_status_of_map_known hknown₂] at hall
      exact Report.stages_ofTold_congr hsame
        (List.map_injective_iff.mpr (fun _ _ => Option.some.inj) hall)
    · intro hall
      rw [hknown, hknown₂] at hall
      rw [Report.told_ext hsame hall]

section TwoStages

/-- A line of two stages of which the first has ended before the second is launched. -/
def firstEndsFirst : List Happening :=
  [.answer ⟨.pipe, .ok (3, 4)⟩, .answer ⟨.fork writerPlan, .ok (7 : Pid)⟩, .ends 0 (.exited 0),
    .answer ⟨.fork readerPlan, .ok (8 : Pid)⟩, .answer ⟨.close 3, .ok ()⟩,
    .answer ⟨.close 4, .ok ()⟩, .answer ⟨.wait 7, .ok (.exited 0)⟩, .ends 1 (.killed 9),
    .answer ⟨.wait 8, .ok (.killed 9)⟩]

/-- The same line, where the second has ended before the first. -/
def secondEndsFirst : List Happening :=
  [.answer ⟨.pipe, .ok (3, 4)⟩, .answer ⟨.fork writerPlan, .ok (7 : Pid)⟩,
    .answer ⟨.fork readerPlan, .ok (8 : Pid)⟩, .ends 1 (.killed 9), .answer ⟨.close 3, .ok ()⟩,
    .answer ⟨.close 4, .ok ()⟩, .ends 0 (.exited 0), .answer ⟨.wait 7, .ok (.exited 0)⟩,
    .answer ⟨.wait 8, .ok (.killed 9)⟩]

/-- What has become of the two processes. -/
def twoFates : List Fate :=
  [⟨7, some (.exited 0)⟩, ⟨8, some (.killed 9)⟩]

theorem exists_plays_firstEndsFirst : ∃ scene', Plays Fate.Takes
    ((Runner.execute {} "a | b", ⟨{}, 0, []⟩), []) firstEndsFirst
    ((.done (.ok (.completed ⟨[⟨0, 7, .exited 0⟩, ⟨1, 8, .signaled .kill⟩], []⟩)), scene'),
      twoFates) := by
  rw [execute_twoStages]
  exact ⟨_, .cons (.answer (.persist _) trivial) (.cons (.answer (.persist _) trivial)
    (.cons (.ends _ rfl) (.cons (.answer (.persist _) trivial) (.cons (.answer (.once _) trivial)
    (.cons (.answer (.once _) trivial) (.cons (.answer (.persist _) (.head _))
    (.cons (.ends _ rfl) (.cons (.answer (.persist _) (.tail _ (.head _))) (.nil _)))))))))⟩

theorem exists_plays_secondEndsFirst : ∃ scene', Plays Fate.Takes
    ((Runner.execute {} "a | b", ⟨{}, 0, []⟩), []) secondEndsFirst
    ((.done (.ok (.completed ⟨[⟨0, 7, .exited 0⟩, ⟨1, 8, .signaled .kill⟩], []⟩)), scene'),
      twoFates) := by
  rw [execute_twoStages]
  exact ⟨_, .cons (.answer (.persist _) trivial) (.cons (.answer (.persist _) trivial)
    (.cons (.answer (.persist _) trivial) (.cons (.ends _ rfl) (.cons (.answer (.once _) trivial)
    (.cons (.answer (.once _) trivial) (.cons (.ends _ rfl) (.cons (.answer (.persist _) (.head _))
    (.cons (.answer (.persist _) (.tail _ (.head _))) (.nil _)))))))))⟩

/-- Who ends first shows in what happens, but not in the report. -/
theorem Runner.report_independent_of_order_two_stages :
    (twoFates.map Fate.pid).Nodup ∧ ∃ scene₁ report₁ scene₂ report₂,
      Plays Fate.Takes ((Runner.execute {} "a | b", ⟨{}, 0, []⟩), []) firstEndsFirst
        ((.done (.ok (.completed report₁)), scene₁), twoFates) ∧
      Plays Fate.Takes ((Runner.execute {} "a | b", ⟨{}, 0, []⟩), []) secondEndsFirst
        ((.done (.ok (.completed report₂)), scene₂), twoFates) ∧
      (∃ status, Fate.status (heard firstEndsFirst) ⟨8, some (.killed 9)⟩ = some status ∧
        report₁.stages[1]? = some ⟨1, 8, status⟩) ∧
      report₂ = report₁ := by
  have hdistinct : (twoFates.map Fate.pid).Nodup := by decide
  obtain ⟨scene₁, hfirst⟩ := exists_plays_firstEndsFirst
  obtain ⟨scene₂, hsecond⟩ := exists_plays_secondEndsFirst
  obtain ⟨-, -, -, hentries, hruns⟩ :=
    Runner.report_independent_of_order {} "a | b" hfirst hdistinct
  have hknown : twoFates.map (Fate.known (heard secondEndsFirst)) =
      twoFates.map (Fate.known (heard firstEndsFirst)) := by decide
  exact ⟨hdistinct, scene₁, _, scene₂, _, hfirst, hsecond, hentries 1 _ rfl,
    (hruns hsecond rfl).2 hknown⟩

end TwoStages

end PipeShell
