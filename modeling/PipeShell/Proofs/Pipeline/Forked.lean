import PipeShell.Proofs.Pipeline.Order
import PipeShell.Proofs.Pipeline.Stopping

/-!
# What the processes of a line are made with

All pipes of a line are made before its first process, and none of their ends is closed by the shell
before its last one. So every process starts with the same table, and its plan depends on the pipes
and on its stage alone: nothing that happens to other processes has a part in it.

* `DescriptorTable.piped` is the table behind the pipes, and `Scene.table_of_plays` says when the
  shell has it.
* `Runner.exists_stage_of_plays` is what is known of a process as it has been made: its stage, its
  table and its plan.
* `Runner.mem_forks_of_wait` says that the shell waits only for processes that it has made.
-/

namespace PipeShell

/-- A table behind the making of pipes with these ends, where `files` files have been opened. -/
def DescriptorTable.piped (table : DescriptorTable) (files : Nat) : List Fd → DescriptorTable
  | read :: write :: rest =>
    piped ((table.put read ⟨files, true⟩).put write ⟨files + 1, true⟩) (files + 2) rest
  | _ => table

/-- The ends of a wiring name its pipes. -/
theorem Wiring.eq_of_fds_eq {w w' : Wiring} (hstages : w.stages = w'.stages)
    (hfds : w.fds = w'.fds) : w = w' := by
  obtain ⟨stages, pipes⟩ := w
  obtain ⟨stages', pipes'⟩ := w'
  obtain rfl : stages = stages' := hstages
  congr 1
  induction pipes generalizing pipes' with
  | nil =>
    cases pipes' with
    | nil => rfl
    | cons p' rest' => cases hfds
  | cons p rest ih =>
    cases pipes' with
    | nil => cases hfds
    | cons p' rest' =>
      have hends : p.read :: p.write :: (Wiring.mk stages rest).fds =
          p'.read :: p'.write :: (Wiring.mk stages rest').fds := hfds
      obtain ⟨hread, hmore⟩ := List.cons.inj hends
      obtain ⟨hwrite, hrest⟩ := List.cons.inj hmore
      rw [ih rest' hrest]
      congr 1
      cases p
      cases p'
      exact congrArg₂ PipeEnds.mk hread hwrite

/-- All pipes of a line are known from their ends. -/
theorem Wiring.IsComplete.eq_of_fds_eq {w w' : Wiring} {stages : List Stage}
    (h : w.IsComplete stages) (h' : w'.IsComplete stages) (hfds : w.fds = w'.fds) : w = w' :=
  Wiring.eq_of_fds_eq (h.1.trans h'.1.symm) hfds

namespace Scene

variable {α : Type} {s t : Interaction α × Scene} {replies : List ShellReply}

/-- What a computation asks for may be answered in any way. -/
theorem exists_takes {p : Interaction α} {request : Request} (hrequest : p.request? = some request)
    (scene : Scene) (answer : request.Answer) : ∃ t, Takes (p, scene) ⟨request, answer⟩ t := by
  cases p with
  | done result => cases hrequest
  | aborted => cases hrequest
  | once request' next =>
    obtain rfl := Option.some.inj hrequest
    exact ⟨_, .once answer⟩
  | persist request' next =>
    obtain rfl := Option.some.inj hrequest
    exact ⟨_, .persist answer⟩

theorem Takes.scene_eq {e : ShellReply} (h : Takes s e t) : t.2 = s.2.after e.1 e.2 := by
  cases h <;> rfl

/-- As long as nothing has been closed, the table is that behind the pipes. -/
theorem table_of_plays (h : Plays Takes s replies t) (hclosed : endsClosed replies = []) :
    t.2.table = s.2.table.piped s.2.files (endsMade replies) := by
  induction h with
  | nil => rfl
  | @cons s t u e rest first others ih =>
    have hscene := first.scene_eq
    obtain ⟨request, answer⟩ := e
    cases request with
    | pipe =>
      rw [ih hclosed, hscene]
      cases answer with
      | ok ends => rfl
      | error cause => rfl
    | close fd => cases hclosed
    | fork plan =>
      rw [ih hclosed, hscene]
      cases answer with
      | ok pid => rfl
      | error cause => rfl
    | _ =>
      rw [ih hclosed, hscene]
      rfl

/-- Whether a conversation that begins with `start` has made a process behind `i` others, as it is:
with a copy of the table of that time. -/
def MakesAt (start : Interaction α × Scene) (replies : List ShellReply) (i : Nat) (w : Worker) :
    Prop :=
  ∃ before plan after q middle, replies = before ++ ⟨.fork plan, .ok w.pid⟩ :: after ∧
    (forks before).length = i ∧ Plays Takes start before (q, middle) ∧
    w = ⟨w.pid, middle.table, .preparing plan⟩

/-- Every process has been made once. -/
theorem makesAt_of_plays {p₀ : Interaction α} {table : DescriptorTable} {files : Nat}
    (h : Plays Takes (p₀, ⟨table, files, []⟩) replies t) :
    t.2.workers.length = (forks replies).length ∧
      ∀ i w, t.2.workers[i]? = some w → MakesAt (p₀, ⟨table, files, []⟩) replies i w := by
  have hall := h.records (fun past t => Plays Takes (p₀, ⟨table, files, []⟩) past t ∧
    t.2.workers.length = (forks past).length ∧
    ∀ i w, t.2.workers[i]? = some w → MakesAt (p₀, ⟨table, files, []⟩) past i w)
    ?_ ⟨.nil _, rfl, nofun⟩
  · exact hall.2
  rintro past ⟨q, middle⟩ e t' ⟨hpast, hlength, hold⟩ htakes
  have hworkers : t'.2.workers = middle.workers ++
      (forks [e]).map fun made => ⟨made.2, middle.table, .preparing made.1⟩ := by
    rw [htakes.scene_eq]
    exact after_workers middle e
  refine ⟨hpast.append (.cons htakes (.nil _)), ?_, fun i w hw => ?_⟩
  · rw [hworkers, List.length_append, List.length_map, hlength, forks_append, List.length_append]
  rw [hworkers] at hw
  rcases Nat.lt_or_ge i middle.workers.length with hlt | hge
  · -- it has been made before
    rw [List.getElem?_append_left hlt] at hw
    obtain ⟨before, plan, after, q', middle', rfl, hcount, hbefore, hmade⟩ := hold i w hw
    exact ⟨before, plan, after ++ [e], q', middle', by simp, hcount, hbefore, hmade⟩
  · -- it has been made just now
    rw [List.getElem?_append_right hge, List.getElem?_map] at hw
    obtain ⟨made, hmade, rfl⟩ := Option.map_eq_some_iff.mp hw
    obtain rfl := eq_of_mem_forks (List.mem_of_getElem? hmade)
    have hlast : i - middle.workers.length < 1 := (List.getElem?_eq_some_iff.mp hmade).1
    have hcount : (forks past).length = i :=
      hlength.symm.trans (hge.antisymm (Nat.sub_eq_zero_iff_le.mp (Nat.lt_one_iff.mp hlast)))
    exact ⟨past, made.1, [], q, middle, rfl, hcount, hpast, rfl⟩

end Scene

/-! ### The processes of a line -/

namespace Runner

open Scene

variable {r : Runner} {line : String} {replies : List ShellReply} {table : DescriptorTable}
  {files : Nat} {p : Interaction (Except PipelineError Execution)} {scene scene' : Scene}

/-- Until the last process has been made, nothing is closed. -/
theorem endsClosed_eq_nil_of_plays_fork {before after : List ShellReply} {plan : Child} {pid : Pid}
    (h : Plays Takes (r.execute line, scene) (before ++ ⟨.fork plan, .ok pid⟩ :: after)
      (p, scene')) : endsClosed before = [] := by
  obtain ⟨phase, phase', middle, q, hrecord, hmoves, -, -⟩ := exists_moves_of_plays h
  change phase.Moves r.launcher (.fork plan) (.ok pid) phase' at hmoves
  have hends := hrecord.ends
  have hknows := hrecord.knows
  cases hmoves with
  | @launched w handles stage rest =>
    -- what has been made is still to be closed
    rw [← hknows.2.1] at hends
    exact List.append_left_eq_self.mp hends.symm

/-- What comes behind a call has no place before it. -/
theorem place_le_of_plays {before after : List ShellReply} {e e' : ShellReply}
    (h : Plays Takes (r.execute line, scene) (before ++ e :: after) (p, scene'))
    (he' : e' ∈ after) :
    e.1.place ≤ e'.1.place := by
  obtain ⟨phase, -, hrecord⟩ := exists_record_of_plays h
  obtain ⟨-, hbehind, -⟩ := List.pairwise_append.mp hrecord.sorted
  exact (List.pairwise_cons.mp hbehind).1 e' he'

/-- No pipe is made behind a process. -/
theorem endsMade_of_plays_fork {before after : List ShellReply} {plan : Child} {pid : Pid}
    (h : Plays Takes (r.execute line, scene) (before ++ ⟨.fork plan, .ok pid⟩ :: after)
      (p, scene')) : endsMade (before ++ ⟨.fork plan, .ok pid⟩ :: after) = endsMade before := by
  have hnone : endsMade after = [] := by
    refine List.flatMap_eq_nil_iff.mpr fun e he => ?_
    have hle : 2 ≤ e.1.place := place_le_of_plays h he
    obtain ⟨request, answer⟩ := e
    cases request with
    | pipe => exact absurd hle (Nat.not_succ_le_self 1)
    | _ => rfl
  have hmiddle : endsMade (⟨.fork plan, .ok pid⟩ :: after) = endsMade after := rfl
  rw [endsMade_append, hmiddle, hnone, List.append_nil]

/-- **What is known of a process as it has been made**: it is that of its stage, its plan depends on
this and on the pipes, and its table is that behind the pipes. -/
theorem exists_stage_of_plays
    (h : Plays Takes (r.execute line, ⟨table, files, []⟩) replies (p, scene)) {i : Nat} {w : Worker}
    (hw : scene.workers[i]? = some w) :
    ∃ stage wiring, (stagesOf r.settings line)[i]? = some stage ∧
      wiring.IsComplete (stagesOf r.settings line) ∧ wiring.fds = endsMade replies ∧
      w = ⟨w.pid, table.piped files (endsMade replies),
        .preparing (r.launcher.plan wiring stage)⟩ := by
  obtain ⟨before, plan, after, q, middle, rfl, hcount, hbefore, hmade⟩ :=
    (makesAt_of_plays h).2 i w hw
  obtain ⟨wiring, stage, hcomplete, hfds, hstage, rfl⟩ := of_plays_fork h
  have hends := endsMade_of_plays_fork h
  have htable := table_of_plays hbefore (endsClosed_eq_nil_of_plays_fork h)
  rw [hcount] at hstage
  rw [hends]
  refine ⟨stage, wiring, hstage, hcomplete, hfds, hmade.trans ?_⟩
  exact congrArg (fun table => Worker.mk w.pid table _) htable

/-- The plan of a process that has been made. -/
theorem exists_plan_of_plays
    (h : Plays Takes (r.execute line, ⟨table, files, []⟩) replies (p, scene)) {i : Nat}
    {made : Child × Pid} (hmade : (forks replies)[i]? = some made) :
    ∃ stage wiring, (stagesOf r.settings line)[i]? = some stage ∧
      wiring.IsComplete (stagesOf r.settings line) ∧ wiring.fds = endsMade replies ∧
      made.1 = r.launcher.plan wiring stage := by
  have hworkers : (scene.workers.map fun w => (w.life, w.pid))[i]? =
      some (.preparing made.1, made.2) := by
    rw [show scene.workers.map _ = _ from workers_of_plays h, List.map_nil, List.nil_append,
      List.getElem?_map, hmade, Option.map_some]
  rw [List.getElem?_map] at hworkers
  obtain ⟨w, hw, hlife⟩ := Option.map_eq_some_iff.mp hworkers
  obtain ⟨stage, wiring, hstage, hcomplete, hfds, hmade'⟩ := exists_stage_of_plays h hw
  rw [hmade'] at hlife
  exact ⟨stage, wiring, hstage, hcomplete, hfds,
    (Life.preparing.inj (congrArg Prod.fst hlife)).symm⟩

/-- **Only processes that have been made are waited for.** -/
theorem mem_forks_of_wait (h : Plays Takes (r.execute line, scene) replies (p, scene')) {pid : Pid}
    (hrequest : p.request? = some (.wait pid)) : pid ∈ (forks replies).map Prod.snd := by
  -- the line may come to its end behind this wait, and then each process has been waited for
  obtain ⟨t, htakes⟩ := exists_takes hrequest scene' (.error .einval)
  have hbehind := h.append (.cons htakes (.nil t))
  have hp : t.1 ≠ .aborted := by
    obtain ⟨p', scene''⟩ := t
    rintro rfl
    obtain ⟨text, heq⟩ :=
      request_of_aborted hbehind (List.mem_append_right _ List.mem_cons_self)
    cases heq
  obtain ⟨more, result, last, hmore⟩ := exists_plays_done_of_ne_aborted hbehind hp
  have hall := h.append (.cons htakes hmore)
  obtain ⟨rest, hreplies, hgoes⟩ := goes_of_plays hall
  have hwaits := hgoes.waits_eq
  obtain ⟨hforks, hwaits'⟩ := forks_and_waits_shown (parse r.settings line) rest
  rw [← hforks, ← hwaits', ← hreplies] at hwaits
  have hwait : pid ∈ (waits (replies ++ ⟨.wait pid, .error .einval⟩ :: more)).map Prod.fst := by
    rw [waits_append, List.map_append]
    exact List.mem_append_right _ List.mem_cons_self
  -- no process is made behind a wait
  have hnone : forks (⟨.wait pid, .error .einval⟩ :: more) = [] := by
    have hbehind : forks more = [] := by
      refine List.filterMap_eq_nil_iff.mpr fun e he => ?_
      have hle : 5 ≤ e.1.place := place_le_of_plays hall he
      obtain ⟨request, answer⟩ := e
      cases request with
      | fork plan => exact absurd hle (by simp [Request.place])
      | _ => rfl
    exact hbehind
  rw [hwaits, forks_append, hnone, List.append_nil] at hwait
  exact hwait

end Runner

end PipeShell
