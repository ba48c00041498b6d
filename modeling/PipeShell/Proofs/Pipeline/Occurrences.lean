import PipeShell.Proofs.Pipeline.Forked
import PipeShell.Proofs.Pipeline.Lots

/-!
# The shell and its processes together

The processes of a line go their ways while the shell launches others, closes its ends and waits.
Here all that happens is put in one list, in any order, and the shell and its processes are followed
through it. The calls that make pipes and processes and that wait for processes succeed, if need be
after interruptions, and what they tell is true.

* `Lots.Take` says what one occurrence does, where every process has its lot.
* `Lots.exists_forked_of_plays` takes a run apart again: what the shell hears is a conversation of
  its own, and every process goes its way from where that conversation has made it.
* `Lots.nodup_pid_of_plays` and `Lots.exists_ended_of_plays` are what a whole run keeps: no two
  processes have one number, and those of which a wait has told have ended so.
* `Arrives` says of a state that something holds in the end, whatever happens.
-/

namespace PipeShell

/-- What happens while a line runs. -/
inductive Occurrence where
  /-- The shell gets an answer. -/
  | told (reply : ShellReply)
  /-- Something happens to the process that was made behind `place` others. -/
  | befalls (place : Nat) (event : Worker.Event)

/-- Whether something is only tried, and to be tried again. -/
def Occurrence.isIdle : Occurrence → Bool
  | told reply => !reply.settles
  | befalls _ event => event.isIdle

/-- The answers that the shell gets. -/
def conversation (occurrences : List Occurrence) : List ShellReply :=
  occurrences.filterMap fun
    | .told reply => some reply
    | .befalls _ _ => none

/-- Whether a line can go on behind an answer: a text has been shown, and a call on which the line
depends has succeeded or is to be made again. -/
structure ShellReply.Succeeds (e : ShellReply) : Prop where
  shown : e.isUnshown = false
  granted : e.1.isRetried = true → isInterruption e.2 = false → ∃ value, e.2 = .ok value

/-- Whether an answer is true: a new process has a number that no other has, and a wait tells how a
process has ended. -/
def ShellReply.IsHonest (workers : List Worker) : ShellReply → Prop
  | ⟨.fork _, .ok pid⟩ => pid ∉ workers.map Worker.pid
  | ⟨.wait pid, .ok how⟩ => ∃ w ∈ workers, w.pid = pid ∧ w.life = .ended how
  | _ => True

/-- What falls to each process of a line, by how many have been made before it. -/
abbrev Lots : Type := Nat → Lot

namespace Lots

variable {α : Type}

/-- **What one occurrence does** to a computation of the shell and to its processes. -/
inductive Take (lots : Lots) :
    Interaction α × Scene → Occurrence → Interaction α × Scene → Prop where
  | told {s t : Interaction α × Scene} {reply : ShellReply} (takes : Scene.Takes s reply t)
    (succeeds : reply.Succeeds) (honest : reply.IsHonest s.2.workers) :
    Take lots s (.told reply) t
  | befalls {p : Interaction α} {scene : Scene} {place : Nat} {w w' : Worker}
    {event : Worker.Event} (there : scene.workers[place]? = some w)
    (takes : (lots place).Takes w event w') :
    Take lots (p, scene) (.befalls place event)
      (p, { scene with workers := scene.workers.set place w' })

variable {lots : Lots} {s t : Interaction α × Scene} {occurrences : List Occurrence}

/-! ### Taking a run apart -/

/-- What an answer changes does not depend on how far the processes have come. -/
theorem after_with_workers (scene : Scene) (e : ShellReply) (forked : List Worker) :
    Scene.after { scene with workers := forked } e.1 e.2 =
      { scene.after e.1 e.2 with
        workers := forked ++
          (forks [e]).map fun made => ⟨made.2, scene.table, .preparing made.1⟩ } := by
  have hworkers := Scene.after_workers { scene with workers := forked } e
  have hothers : (Scene.after { scene with workers := forked } e.1 e.2).table =
      (scene.after e.1 e.2).table ∧
      (Scene.after { scene with workers := forked } e.1 e.2).files =
        (scene.after e.1 e.2).files := by
    obtain ⟨request, answer⟩ := e
    cases request with
    | pipe => cases answer <;> exact ⟨rfl, rfl⟩
    | fork plan => cases answer <;> exact ⟨rfl, rfl⟩
    | _ => exact ⟨rfl, rfl⟩
  obtain ⟨htable, hfiles⟩ := hothers
  generalize Scene.after { scene with workers := forked } e.1 e.2 = behind
    at htable hfiles hworkers ⊢
  obtain ⟨table, files, workers⟩ := behind
  obtain rfl := htable
  obtain rfl := hfiles
  obtain rfl := hworkers
  rfl

/-- What the shell does with an answer does not depend on that either. -/
theorem takes_of_takes {e : ShellReply} (h : Scene.Takes s e t) (forked : List Worker) :
    ∃ made, t.2.workers = s.2.workers ++ made ∧
      Scene.Takes (s.1, { s.2 with workers := forked }) e
        (t.1, { t.2 with workers := forked ++ made }) := by
  refine ⟨(forks [e]).map fun made => ⟨made.2, s.2.table, .preparing made.1⟩, ?_, ?_⟩
  · rw [h.scene_eq]
    exact Scene.after_workers s.2 e
  · rw [h.scene_eq, ← after_with_workers]
    cases h with
    | once answer => exact .once answer
    | persist answer => exact .persist answer

/-- Whether each process has gone its way from where it has been made. -/
structure Led (lots : Lots) (forked workers : List Worker) : Prop where
  length_eq : forked.length = workers.length
  each : ∀ i w w', forked[i]? = some w → workers[i]? = some w' →
    ∃ events, Plays (lots i).Takes w events w'

theorem Led.append {forked workers : List Worker} (h : Led lots forked workers)
    (made : List Worker) : Led lots (forked ++ made) (workers ++ made) where
  length_eq := by rw [List.length_append, List.length_append, h.length_eq]
  each i w w' hw hw' := by
    rcases Nat.lt_or_ge i forked.length with hlt | hge
    · rw [List.getElem?_append_left hlt] at hw
      rw [List.getElem?_append_left (h.length_eq ▸ hlt)] at hw'
      exact h.each i w w' hw hw'
    · -- it has been made just now
      rw [List.getElem?_append_right hge] at hw
      rw [List.getElem?_append_right (h.length_eq ▸ hge), ← h.length_eq, hw] at hw'
      obtain rfl := Option.some.inj hw'
      exact ⟨[], .nil w⟩

theorem Led.set {forked workers : List Worker} (h : Led lots forked workers) {place : Nat}
    {w w' : Worker} {event : Worker.Event} (there : workers[place]? = some w)
    (takes : (lots place).Takes w event w') : Led lots forked (workers.set place w') where
  length_eq := by rw [List.length_set, h.length_eq]
  each i u u' hu hu' := by
    by_cases hi : place = i
    · subst hi
      rw [List.getElem?_set_self (List.getElem?_eq_some_iff.mp there).1] at hu'
      obtain rfl := Option.some.inj hu'
      obtain ⟨events, hplays⟩ := h.each place u w hu there
      exact ⟨events ++ [event], hplays.append (.cons takes (.nil _))⟩
    · rw [List.getElem?_set_ne hi] at hu'
      exact h.each i u u' hu hu'

/-- **A run taken apart.** -/
theorem exists_forked_of_plays {p₀ : Interaction α} {table : DescriptorTable} {files : Nat}
    (h : Plays lots.Take (p₀, ⟨table, files, []⟩) occurrences t) :
    ∃ forked, Plays Scene.Takes (p₀, ⟨table, files, []⟩) (conversation occurrences)
      (t.1, { t.2 with workers := forked }) ∧ Led lots forked t.2.workers := by
  have hstart : ∃ forked, Plays Scene.Takes (p₀, Scene.mk table files []) (conversation [])
      (p₀, ⟨table, files, forked⟩) ∧ Led lots forked [] := ⟨[], .nil _, rfl, nofun⟩
  refine h.records (fun past t => ∃ forked,
    Plays Scene.Takes (p₀, ⟨table, files, []⟩) (conversation past)
      (t.1, { t.2 with workers := forked }) ∧ Led lots forked t.2.workers) ?_ hstart
  rintro past s e t ⟨forked, hplays, hled⟩ htake
  cases htake with
  | @told _ t reply takes =>
    obtain ⟨made, hworkers, htakes⟩ := takes_of_takes takes forked
    refine ⟨forked ++ made, ?_, hworkers ▸ hled.append made⟩
    rw [conversation, List.filterMap_append]
    exact hplays.append (.cons htakes (.nil _))
  | befalls there takes =>
    refine ⟨forked, ?_, hled.set there takes⟩
    rw [conversation, List.filterMap_append]
    exact (List.append_nil (conversation past)).symm ▸ hplays

/-- What may happen to one process may happen to it while nothing else does. -/
theorem plays_befalls {p : Interaction α} {scene : Scene} {place : Nat} {w w' : Worker}
    {events : List Worker.Event} (there : scene.workers[place]? = some w)
    (h : Plays (lots place).Takes w events w') :
    Plays lots.Take (p, scene) (events.map (.befalls place))
      (p, { scene with workers := scene.workers.set place w' }) := by
  induction h generalizing scene with
  | nil w =>
    obtain ⟨hplace, rfl⟩ := List.getElem?_eq_some_iff.mp there
    rw [List.set_getElem_self]
    exact .nil _
  | cons first others ih =>
    have hplace := (List.getElem?_eq_some_iff.mp there).1
    have hrest := @ih { scene with workers := scene.workers.set place _ }
      (List.getElem?_set_self hplace)
    dsimp only at hrest
    rw [List.set_set] at hrest
    exact .cons (.befalls there first) hrest

/-- The processes are those that have been made. -/
theorem map_pid_of_plays {p₀ : Interaction α} {table : DescriptorTable} {files : Nat}
    (h : Plays lots.Take (p₀, ⟨table, files, []⟩) occurrences t) :
    t.2.workers.map Worker.pid = (forks (conversation occurrences)).map Prod.snd := by
  obtain ⟨forked, hplays, hled⟩ := exists_forked_of_plays h
  have hforked : forked.map Worker.pid = (forks (conversation occurrences)).map Prod.snd := by
    have hmade := congrArg (List.map Prod.snd) (Scene.workers_of_plays hplays)
    simpa [Function.comp_def] using hmade
  rw [← hforked]
  refine List.ext_getElem (by simp [hled.length_eq]) fun i hi hi' => ?_
  rw [List.length_map] at hi hi'
  obtain ⟨events, hevents⟩ := hled.each i _ _ (List.getElem?_eq_getElem hi')
    (List.getElem?_eq_getElem hi)
  rw [List.getElem_map, List.getElem_map]
  exact hevents.keeps (fun w => w.pid = forked[i].pid)
    (fun hpid htakes => htakes.pid_eq.trans hpid) rfl

/-! ### What a run keeps -/

/-- All calls on which the line depends have succeeded. -/
theorem succeeds_of_plays (h : Plays lots.Take s occurrences t) :
    ∀ e ∈ conversation occurrences, e.Succeeds := by
  induction h with
  | nil => exact List.forall_mem_nil _
  | cons first others ih =>
    cases first with
    | told takes succeeds honest => exact List.forall_mem_cons.mpr ⟨succeeds, ih⟩
    | befalls there takes => exact ih

/-- Something that happens to a process leaves the numbers as they are. -/
theorem map_pid_set {workers : List Worker} {place : Nat} {w w' : Worker} {event : Worker.Event}
    (there : workers[place]? = some w) (takes : (lots place).Takes w event w') :
    (workers.set place w').map Worker.pid = workers.map Worker.pid := by
  obtain ⟨hplace, rfl⟩ := List.getElem?_eq_some_iff.mp there
  rw [List.map_set, takes.pid_eq, ← List.getElem_map Worker.pid]
  · exact List.set_getElem_self _
  · rwa [List.length_map]

/-- **No two processes have one number.** -/
theorem nodup_pid_of_plays (h : Plays lots.Take s occurrences t)
    (hs : (s.2.workers.map Worker.pid).Nodup) : (t.2.workers.map Worker.pid).Nodup := by
  refine h.keeps (fun t => (t.2.workers.map Worker.pid).Nodup) ?_ hs
  rintro ⟨p, scene⟩ e t hnodup htake
  cases htake with
  | befalls there takes =>
    rw [map_pid_set there takes]
    exact hnodup
  | @told _ t reply takes succeeds honest =>
    rw [takes.scene_eq, Scene.after_workers, List.map_append, List.map_map]
    rcases hforks : forks [reply] with _ | ⟨made, others⟩
    · simpa using hnodup
    · have hmem : made ∈ forks [reply] := hforks ▸ List.mem_cons_self
      obtain rfl := eq_of_mem_forks hmem
      obtain rfl : others = [] := (List.cons.inj hforks).2.symm
      refine List.nodup_append.mpr ⟨hnodup, List.pairwise_singleton _ _, ?_⟩
      rintro pid hpid _ hlast rfl
      obtain rfl := List.mem_singleton.mp hlast
      exact honest hpid

/-- A process that has ended has ended for good. -/
theorem exists_ended_of_take {e : Occurrence} {pid : Pid} {how : Ending}
    (h : ∃ w ∈ s.2.workers, w.pid = pid ∧ w.life = .ended how) (htake : lots.Take s e t) :
    ∃ w ∈ t.2.workers, w.pid = pid ∧ w.life = .ended how := by
  obtain ⟨w, hmem, hpid, hended⟩ := h
  cases htake with
  | @told _ _ reply takes =>
    refine ⟨w, ?_, hpid, hended⟩
    rw [takes.scene_eq, Scene.after_workers]
    exact List.mem_append_left _ hmem
  | @befalls p scene place u u' event there takes =>
    obtain ⟨i, hi⟩ := List.mem_iff_getElem?.mp hmem
    -- nothing more happens to it
    have hother : place ≠ i := by
      rintro rfl
      obtain rfl := Option.some.inj (there.symm.trans hi)
      exact takes.ne_ended how hended
    exact ⟨w, List.mem_iff_getElem?.mpr ⟨i, (List.getElem?_set_ne hother).trans hi⟩, hpid, hended⟩

/-- **What a wait has told of a process is how it has ended.** -/
theorem exists_ended_of_plays (h : Plays lots.Take s occurrences t) {pid : Pid} {how : Ending}
    (htold : (pid, .ok how) ∈ waits (conversation occurrences)) :
    ∃ w ∈ t.2.workers, w.pid = pid ∧ w.life = .ended how := by
  induction h with
  | nil => cases htold
  | @cons s t u e rest first others ih =>
    cases first with
    | befalls there takes => exact ih htold
    | @told _ _ reply takes succeeds honest =>
      have hconversation : conversation (.told reply :: rest) = [reply] ++ conversation rest := rfl
      rw [hconversation, waits_append, List.mem_append] at htold
      rcases htold with hfirst | hrest
      · -- it has been told just now, and so it is true
        obtain rfl := List.mem_singleton.mp (mem_of_mem_waits hfirst).1
        have hnow : lots.Take _ (.told ⟨.wait pid, .ok how⟩) _ := .told takes succeeds honest
        exact others.keeps (fun t => ∃ w ∈ t.2.workers, w.pid = pid ∧ w.life = .ended how)
          exists_ended_of_take (exists_ended_of_take honest hnow)
      · exact ih hrest

end Lots

/-! ### What holds in the end -/

/-- **Whether something holds in the end**, whatever happens: either it holds, or something can
happen that is not idle, and behind each such thing it holds in the end. What is idle changes
nothing. -/
inductive Arrives {σ ε : Type} (takes : σ → ε → σ → Prop) (idle : ε → Bool) (Q : σ → Prop) :
    σ → Prop where
  | here {s : σ} (holds : Q s) : Arrives takes idle Q s
  | next {s : σ} (can : ∃ e t, takes s e t ∧ idle e = false)
    (waits : ∀ e t, takes s e t → idle e = true → t = s)
    (all : ∀ e t, takes s e t → idle e = false → Arrives takes idle Q t) : Arrives takes idle Q s

end PipeShell
