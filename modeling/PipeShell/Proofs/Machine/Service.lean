import PipeShell.Proofs.Machine.Holders
import PipeShell.Proofs.Machine.PlainMoment
import PipeShell.Proofs.Machine.Traffic

/-!
# Processes that compute

Where the processes of a line stand if the program of stage `i` computes a function `f i`, seen
together with what has passed through the stages.

* `Life.Serves` says how far one process has come, `Machine.Attends` how far all have.
* A process that has not finished holds the ends of its pipes, so nobody is told too early that
  there is nothing left (`Attends.inactive_of_not_held`), and nobody writes in vain
  (`Attends.isHeld_of_running`).
* `Attends.prepare`, `Attends.read`, `Attends.write` and `Attends.leave` are the steps of a
  process, `Attends.fork` and `Attends.collect` those of the shell.
-/

namespace PipeShell

variable {σ : Type}

/-- **How far a process has come** that follows `plan` and computes `f`, with what it has read and
written and whether it has been told that there is nothing left. It leaves an ending behind unless
endings are lost. -/
inductive Life.Serves (rep : Repertoire σ) (f : Bytes → Bytes) (plan : Child) (lost : Bool)
    (waited : Prop) (taken given : Bytes) (drained : Bool) : Life σ → Prop where
  | preparing {past s rest} (plan_eq : past ++ s :: rest = plan) (taken_eq : taken = [])
    (given_eq : given = []) (drained_eq : drained = false) :
    Serves rep f plan lost waited taken given drained (.preparing (s :: rest))
  | running {start program} (computes : rep.Computes f start)
    (runs : rep.Runs start program taken given drained) :
    Serves rep f plan lost waited taken given drained (.running program)
  | ended (drained_eq : drained = true) (given_eq : given = f taken) (kept : lost = false) :
    Serves rep f plan lost waited taken given drained (.ended (.exited 0))
  | collected (drained_eq : drained = true) (given_eq : given = f taken)
    (gone : waited ∨ lost = true) : Serves rep f plan lost waited taken given drained .collected

namespace Life.Serves

variable {rep : Repertoire σ} {f : Bytes → Bytes} {plan : Child} {lost drained : Bool}
  {waited waited' : Prop} {taken given : Bytes} {life : Life σ}

theorem mono (h : life.Serves rep f plan lost waited taken given drained)
    (hwaited : waited → waited') : life.Serves rep f plan lost waited' taken given drained := by
  cases h with
  | preparing plan_eq taken_eq given_eq drained_eq =>
    exact .preparing plan_eq taken_eq given_eq drained_eq
  | running computes runs => exact .running computes runs
  | ended drained_eq given_eq kept => exact .ended drained_eq given_eq kept
  | collected drained_eq given_eq gone =>
    exact .collected drained_eq given_eq (gone.imp_left hwaited)

/-- A process that is over has read everything and written the value of its function. -/
theorem of_inactive (h : life.Serves rep f plan lost waited taken given drained)
    (hlife : life.isActive = false) : drained = true ∧ given = f taken := by
  cases h with
  | preparing plan_eq taken_eq given_eq drained_eq => cases hlife
  | running computes runs => cases hlife
  | ended drained_eq given_eq kept => exact ⟨drained_eq, given_eq⟩
  | collected drained_eq given_eq gone => exact ⟨drained_eq, given_eq⟩

end Life.Serves

/-- Nothing on the plan of a stage that is no terminator is about a failure. -/
theorem Launcher.isParting_eq_false {l : Launcher} {w : Wiring} {stage : Stage} {s : ChildStep}
    (hproper : stage.isTerminator l.terminator = false) (h : s ∈ l.plan w stage) :
    s.isParting = false := by
  rw [plan_eq hproper] at h
  cases s with
  | complain message => simp [Child.plan] at h
  | exit status => simp [Child.plan] at h
  | _ => rfl

/-- A process that stands on its plan has done what comes before. -/
theorem Process.Follows.table_eq {l : Launcher} {w : Wiring} {stage : Stage}
    {R : DescriptorTable → DescriptorTable → Prop} {table : DescriptorTable} {c : Process σ}
    {past : Child} {s : ChildStep} {rest : Child} (h : c.Follows l w stage R table)
    (hproper : stage.isTerminator l.terminator = false) (hlife : c.life = .preparing (s :: rest))
    (hplan : past ++ s :: rest = l.plan w stage) : c.table = Child.tableAfter table past := by
  cases h with
  | preparing life plan table_eq =>
    obtain ⟨rfl, rfl⟩ := List.cons.inj (Life.preparing.inj (life.symm.trans hlife))
    rw [table_eq, List.append_cancel_right (plan.trans hplan.symm)]
  | parting life parts plan table_eq =>
    obtain rfl := Life.preparing.inj (life.symm.trans hlife)
    rw [List.all_cons, Bool.and_eq_true] at parts
    have hmem : s ∈ l.plan w stage := hplan ▸ List.mem_append_right _ List.mem_cons_self
    rw [Launcher.isParting_eq_false hproper hmem] at parts
    cases parts.1
  | running life proper table_rel => rw [hlife] at life; cases life
  | ended life table_eq => rw [hlife] at life; cases life

namespace Machine

/-- **How far the processes of a line have come**, with what has passed through its stages. A stage
that has been told that there is nothing left stands behind one that is over. -/
structure Attends (rep : Repertoire σ) (f : Nat → Bytes → Bytes) (m₀ : Machine σ) (l : Launcher)
    (stages : List Stage) (s : Progress) (t : Traffic) (m : Machine σ) : Prop where
  stage : ∀ i < s.made, ∀ (stage : Stage) (c : Process σ), stages[i]? = some stage →
    m.children[m₀.children.size + i]? = some c →
    c.life.Serves rep (f i) (l.plan s.wiring stage) m₀.discardsEnded (i < s.gone) (t.taken i)
      (t.given i) (t.drained i)
  later : ∀ i, s.made ≤ i → t.taken i = [] ∧ t.given i = [] ∧ t.drained i = false
  alone : ∀ i, t.drained (i + 1) = true → ∀ c : Process σ,
    m.children[m₀.children.size + i]? = some c → c.life.isActive = false

section Attends

variable {rep : Repertoire σ} {f : Nat → Bytes → Bytes} {m₀ m m' : Machine σ} {l : Launcher}
  {stages : List Stage} {s : Progress} {t : Traffic} {source sink : Nat} {c : Process σ} {i : Nat}

/-! ### The streams of a program -/

section Streams

variable (h : Layout m₀ l stages Eq s m) (hready : m₀.IsReady l.outer)
  (hindex : ∀ (i : Nat) (stage : Stage), stages[i]? = some stage → stage.index = i)
  (hproper : ∀ stage ∈ stages, stage.isTerminator l.terminator = false)

include h hready hindex

/-- A program reads the file in front of its stage. -/
theorem Layout.stdin_of_running (houter : m₀.HasOuter l.outer source sink) {program : σ}
    (hc : m.children[m₀.children.size + i]? = some c) (hlife : c.life = .running program) :
    ∃ e, c.table.get? Fd.stdin = some e ∧ e.file = m₀.front source i := by
  obtain ⟨hi, -, stage, table, hstage, htable, hfollows⟩ := h.process hc
  obtain ⟨hcount, hlength⟩ := h.full (Nat.zero_lt_of_lt hi)
  obtain ⟨proper, htable_eq⟩ := hfollows.of_running hlife
  have hlt := (List.getElem?_eq_some_iff.mp hstage).1
  rw [← htable_eq]
  cases i with
  | zero =>
    obtain ⟨fd, e, hsource, he, hfile⟩ := houter.source_eq
    exact ⟨_, startTable_stdin_source hready h.wired htable proper (hindex 0 stage hstage)
      hsource he, hfile⟩
  | succ i =>
    exact ⟨_, startTable_stdin_pipe hready h.wired htable proper (by omega)
      (hindex (i + 1) stage hstage), rfl⟩

/-- A program writes the file behind its stage. -/
theorem Layout.stdout_of_running (houter : m₀.HasOuter l.outer source sink) {program : σ}
    (hc : m.children[m₀.children.size + i]? = some c) (hlife : c.life = .running program) :
    ∃ e, c.table.get? Fd.stdout = some e ∧ e.file = m₀.back sink stages.length i := by
  obtain ⟨hi, -, stage, table, hstage, htable, hfollows⟩ := h.process hc
  obtain ⟨hcount, hlength⟩ := h.full (Nat.zero_lt_of_lt hi)
  obtain ⟨proper, htable_eq⟩ := hfollows.of_running hlife
  have hlt := (List.getElem?_eq_some_iff.mp hstage).1
  have hposition := hindex i stage hstage
  rw [← htable_eq, back]
  split
  · refine ⟨_, startTable_stdout_pipe hready h.wired htable proper (by omega), ?_⟩
    rw [hposition]
  · obtain ⟨fd, e, hsink, he, hfile⟩ := houter.sink_eq
    exact ⟨_, startTable_stdout_sink hready h.wired htable proper (by omega) (by omega) hsink he,
      hfile⟩

include hproper

/-- **A process that has not finished holds its ends**: the end behind its stage for writing, and
the end in front of it for reading. -/
theorem Attends.isHeld (hattends : Attends rep f m₀ l stages s t m)
    (hc : m.children[m₀.children.size + i]? = some c) (hactive : c.life.isActive = true) :
    (i + 1 < stages.length → m.isHeld (m₀.pipes.size + i) .write = true) ∧
      ∀ j, i = j + 1 → m.isHeld (m₀.pipes.size + j) .read = true := by
  obtain ⟨hi, -, stage, table, hstage, htable, hfollows⟩ := h.process hc
  obtain ⟨hcount, hlength⟩ := h.full (Nat.zero_lt_of_lt hi)
  have hlt := (List.getElem?_eq_some_iff.mp hstage).1
  have hposition := hindex i stage hstage
  have hheld : ∀ j side, j < s.wiring.pipes.length →
      (∃ fd e, c.table.get? fd = some e ∧ e.file = m₀.endFile j side) →
      m.isHeld (m₀.pipes.size + j) side = true := by
    rintro j side hj ⟨fd, e, he, hfile⟩
    exact isHeld_iff.mpr (.inr ⟨_, c, fd, hc, e, he, hfile ▸ h.wired.ends j hj side⟩)
  have hstage' := hproper stage (List.mem_of_getElem? hstage)
  have hserves := hattends.stage i hi stage c hstage hc
  generalize hlife : c.life = life at hserves
  cases hserves with
  | preparing plan_eq taken_eq given_eq drained_eq =>
    have htable_eq := hfollows.table_eq hstage' hlife plan_eq
    refine ⟨fun hinner => hheld i .write (by omega) ?_, fun j hj => hheld j .read (by omega) ?_⟩
    · rw [htable_eq, ← hposition]
      exact exists_get?_write hready h.wired htable hstage' plan_eq (by omega)
    · rw [htable_eq]
      exact exists_get?_read hready h.wired htable hstage' plan_eq (by omega)
        (hposition.trans hj)
  | running computes runs =>
    -- plain programs keep their tables, so they have the standard streams they started with
    have hkeeps : Layout m₀ l stages KeepsStreams s m :=
      h.mono fun t t' heq fd e _ he _ => heq ▸ he
    obtain ⟨hout, hin⟩ := hkeeps.refers_of_running hready hindex hc hlife
    exact ⟨fun hinner => isHeld_iff.mpr (.inr ⟨_, c, _, hc, hout hinner⟩),
      fun j hj => isHeld_iff.mpr (.inr ⟨_, c, _, hc, hin j hj⟩)⟩
  | ended drained_eq given_eq kept => rw [hlife] at hactive; cases hactive
  | collected drained_eq given_eq gone => rw [hlife] at hactive; cases hactive

/-- **Nobody is told too early that there is nothing left**: if nobody holds the end for writing,
the stage before is over. -/
theorem Attends.inactive_of_not_held (hattends : Attends rep f m₀ l stages s t m) {j : Nat}
    (hinner : j + 1 < stages.length)
    (hheld : m.isHeld (m₀.pipes.size + j) .write = false)
    (hc : m.children[m₀.children.size + j]? = some c) : c.life.isActive = false := by
  refine Bool.eq_false_iff.mpr fun hactive => ?_
  rw [(hattends.isHeld h hready hindex hproper hc hactive).1 hinner] at hheld
  cases hheld

/-- **Nobody writes in vain**: as long as a stage runs, somebody holds the end of the pipe behind
it for reading. The next stage has not been told that there is nothing left, so it is not over;
and if it has not been launched, the shell still has the end. -/
theorem Attends.isHeld_of_running (hattends : Attends rep f m₀ l stages s t m)
    (hopened : s.made < stages.length → s.opened = s.wiring.fds)
    (hinner : i + 1 < stages.length) (hc : m.children[m₀.children.size + i]? = some c)
    (hactive : c.life.isActive = true) : m.isHeld (m₀.pipes.size + i) .read = true := by
  have hi := (h.process hc).1
  obtain ⟨hcount, hlength⟩ := h.full (Nat.zero_lt_of_lt hi)
  rcases Nat.lt_or_ge (i + 1) s.made with hmade | hmade
  · obtain ⟨stage, d, hstage, hd, -⟩ := h.stage (i + 1) hmade
    refine (hattends.isHeld h hready hindex hproper hd ?_).2 i rfl
    refine Bool.not_eq_false _ ▸ fun hinactive => ?_
    obtain ⟨hdrained, -⟩ := (hattends.stage (i + 1) hmade stage d hstage hd).of_inactive hinactive
    rw [hattends.alone i hdrained c hc] at hactive
    cases hactive
  · -- the next stage has not been launched, so the shell still holds its end
    obtain ⟨fd, hend⟩ := s.wiring.exists_end?_eq_some .read (i := i) (by omega)
    have hmem : fd ∈ s.wiring.fds := Wiring.mem_fds_iff.mpr ⟨i, .read, hend⟩
    have hopen := h.holds.inside i .read fd hend (hopened (by omega) ▸ hmem)
    exact isHeld_iff.mpr (.inl ⟨fd, _, hopen, h.wired.ends i (by omega) .read⟩)

end Streams

/-! ### Steps of a process -/

namespace Attends

/-- One stage goes on, and nothing passes through another one. -/
theorem update (h : Attends rep f m₀ l stages s t m) {t' : Traffic} {c' : Process σ}
    (hi : i < s.made) (hc : m.children[m₀.children.size + i]? = some c)
    (hactive : c.life.isActive = true) (hself : m'.children[m₀.children.size + i]? = some c')
    (hothers : ∀ j < s.made, j ≠ i →
      m'.children[m₀.children.size + j]? = m.children[m₀.children.size + j]?)
    (htraffic : ∀ j ≠ i, t'.taken j = t.taken j ∧ t'.given j = t.given j ∧
      t'.drained j = t.drained j)
    (hserves : ∀ stage, stages[i]? = some stage → c'.life.Serves rep (f i)
      (l.plan s.wiring stage) m₀.discardsEnded (i < s.gone) (t'.taken i) (t'.given i)
      (t'.drained i))
    (hdrained : t'.drained i = true → ∀ j, i = j + 1 → ∀ d : Process σ,
      m.children[m₀.children.size + j]? = some d → d.life.isActive = false) :
    Attends rep f m₀ l stages s t' m' := by
  refine ⟨fun j hj stage d hstage hd => ?_, fun j hj => ?_, fun j hended d hd => ?_⟩
  · rcases eq_or_ne j i with rfl | hne
    · obtain rfl : c' = d := Option.some.inj (hself.symm.trans hd)
      exact hserves stage hstage
    · obtain ⟨htaken, hgiven, hended⟩ := htraffic j hne
      rw [htaken, hgiven, hended]
      exact h.stage j hj stage d hstage ((hothers j hj hne).symm.trans hd)
  · obtain ⟨htaken, hgiven, hended⟩ := htraffic j (by omega)
    rw [htaken, hgiven, hended]
    exact h.later j hj
  · -- either this stage has just been told that there is nothing left, or a stage behind it was
    -- told before
    rcases eq_or_ne i (j + 1) with hsucc | hne
    · have hsame := hothers j (by omega) (by omega)
      exact hdrained (by rw [hsucc]; exact hended) j hsucc d (hsame.symm.trans hd)
    · rw [(htraffic (j + 1) hne.symm).2.2] at hended
      have hmade : j + 1 < s.made := by
        refine Nat.not_le.mp fun hle => ?_
        rw [(h.later (j + 1) hle).2.2] at hended
        cases hended
      rcases eq_or_ne j i with rfl | hne'
      · rw [h.alone j hended c hc] at hactive
        cases hactive
      · exact h.alone j hended d ((hothers j (by omega) hne').symm.trans hd)

/-- The process of a stage goes on, on a machine on which other things have changed. -/
theorem setChild (h : Attends rep f m₀ l stages s t m) {t' : Traffic} {c' : Process σ}
    (hi : i < s.made) (hc : m.children[m₀.children.size + i]? = some c)
    (hactive : c.life.isActive = true) (hchildren : m'.children = m.children)
    (htraffic : ∀ j ≠ i, t'.taken j = t.taken j ∧ t'.given j = t.given j ∧
      t'.drained j = t.drained j)
    (hserves : ∀ stage, stages[i]? = some stage → c'.life.Serves rep (f i)
      (l.plan s.wiring stage) m₀.discardsEnded (i < s.gone) (t'.taken i) (t'.given i)
      (t'.drained i))
    (hdrained : t'.drained i = true → ∀ j, i = j + 1 → ∀ d : Process σ,
      m.children[m₀.children.size + j]? = some d → d.life.isActive = false) :
    Attends rep f m₀ l stages s t' (m'.setChild (m₀.children.size + i) c') := by
  refine h.update hi hc hactive (getElem?_setChild_self (hchildren ▸ hc)) (fun j hj hne => ?_)
    htraffic hserves hdrained
  rw [getElem?_setChild_of_ne fun heq => hne (Nat.add_left_cancel heq).symm, hchildren]

/-- **A stage prepares** until it starts its program. Nothing on its plan fails. -/
theorem prepare (h : Attends rep f m₀ l stages s t m) (hlayout : Layout m₀ l stages Eq s m)
    (hready : m₀.IsReady l.outer)
    (hproper : ∀ stage ∈ stages, stage.isTerminator l.terminator = false)
    (hloads : ∀ stage, stages[i]? = some stage → ∃ program,
      rep.load m.tree m.environment (stage.words.map Text.encode) = .ok program ∧
        rep.Computes (f i) program) {c' : Process σ}
    (hc : m.children[m₀.children.size + i]? = some c) {todo : Child}
    (hlife : c.life = .preparing todo) (hsteps : c.Steps rep m c') :
    Attends rep f m₀ l stages s t (m.setChild (m₀.children.size + i) c') := by
  have hactive : c.life.isActive = true := by
    rw [hlife]
    rfl
  obtain ⟨hi, -, stage', table, hstage', htable, hfollows⟩ := hlayout.process hc
  refine h.setChild hi hc hactive rfl (fun j _ => ⟨rfl, rfl, rfl⟩) (fun stage hstage => ?_)
    fun hdrained j hj d hd => h.alone j (hj ▸ hdrained) d hd
  obtain rfl : stage' = stage := Option.some.inj (hstage'.symm.trans hstage)
  have hstage' := hproper stage' (List.mem_of_getElem? hstage)
  have hserves := h.stage i hi stage' c hstage hc
  rw [hlife] at hserves
  cases hserves with
  | @preparing past s' rest plan_eq taken_eq given_eq drained_eq =>
    have hmem : s' ∈ l.plan s.wiring stage' :=
      plan_eq ▸ List.mem_append_right _ List.mem_cons_self
    cases hsteps with
    | follow life life' opens goesOn table' =>
      obtain ⟨rfl, rfl⟩ := List.cons.inj (Life.preparing.inj (hlife.symm.trans life))
      rw [life']
      cases rest with
      | nil => exact absurd plan_eq (Launcher.append_ne_plan goesOn)
      | cons s'' rest =>
        exact .preparing ((List.append_cons past s' _).symm.trans plan_eq) taken_eq given_eq
          drained_eq
    | part cause life life' fails table' =>
      obtain ⟨rfl, rfl⟩ := List.cons.inj (Life.preparing.inj (hlife.symm.trans life))
      obtain ⟨fd, stream, rfl, hclosed⟩ | ⟨argv, rfl, hfails⟩ := fails
      · -- what a plan installs is open, and what it starts can be loaded
        have hopen := isSome_of_install hready hlayout.wired htable hstage' plan_eq
        rw [← hfollows.table_eq hstage' hlife plan_eq, hclosed] at hopen
        cases hopen
      · obtain ⟨-, rfl, -⟩ := Launcher.of_append_exec_eq_plan plan_eq
        obtain ⟨program, hloaded, -⟩ := hloads stage' hstage
        rw [hloaded] at hfails
        cases hfails
    | complain life life' table' =>
      obtain ⟨rfl, rfl⟩ := List.cons.inj (Life.preparing.inj (hlife.symm.trans life))
      exact absurd hmem (Launcher.complain_notMem_plan _)
    | exec life loads life' table' =>
      obtain ⟨rfl, rfl⟩ := List.cons.inj (Life.preparing.inj (hlife.symm.trans life))
      obtain ⟨-, rfl, -⟩ := Launcher.of_append_exec_eq_plan plan_eq
      obtain ⟨program, hloaded, hcomputes⟩ := hloads stage' hstage
      obtain rfl := Except.ok.inj (hloaded.symm.trans loads)
      rw [life', taken_eq, given_eq, drained_eq]
      exact .running hcomputes .start
    | run life life' table' => rw [hlife] at life; cases life

/-- How far a stage has come that runs its program. -/
theorem runs_of_running (h : Attends rep f m₀ l stages s t m)
    (hlayout : Layout m₀ l stages Eq s m) {program : σ}
    (hc : m.children[m₀.children.size + i]? = some c) (hlife : c.life = .running program) :
    ∃ start, rep.Computes (f i) start ∧
      rep.Runs start program (t.taken i) (t.given i) (t.drained i) := by
  obtain ⟨hi, -, stage, -, hstage, -⟩ := hlayout.process hc
  have hserves := h.stage i hi stage c hstage hc
  rw [hlife] at hserves
  cases hserves with
  | running computes runs => exact ⟨_, computes, runs⟩

/-- **A stage reads.** -/
theorem read (h : Attends rep f m₀ l stages s t m) (hlayout : Layout m₀ l stages Eq s m)
    {program : σ} {size : Nat} {data : Bytes}
    (hc : m.children[m₀.children.size + i]? = some c) (hlife : c.life = .running program)
    (hact : rep.act program = .read Fd.stdin size) (hchildren : m'.children = m.children)
    (hfits : data.length ≤ size) (hnothing : t.drained i = true → data = [])
    (halone : data = [] → 0 < size → ∀ j, i = j + 1 → ∀ d : Process σ,
      m.children[m₀.children.size + j]? = some d → d.life.isActive = false) :
    Attends rep f m₀ l stages s (t.read i data (data.isEmpty && decide (0 < size)))
      (m'.setChild (m₀.children.size + i)
        { c with life := .running (rep.resume program (.data data)) }) := by
  have hactive : c.life.isActive = true := by
    rw [hlife]
    rfl
  have hi := (hlayout.process hc).1
  refine h.setChild hi hc hactive hchildren (fun j hne => ⟨Traffic.taken_read_of_ne _ _ _ hne, rfl,
    Traffic.drained_read_of_ne _ _ _ hne⟩) (fun stage hstage => ?_) fun hdrained j hj d hd => ?_
  · obtain ⟨start, hcomputes, hruns⟩ := h.runs_of_running hlayout hc hlife
    rw [Traffic.taken_read_self, Traffic.drained_read_self]
    exact .running hcomputes (.read data hruns hact hfits hnothing)
  · rw [Traffic.drained_read_self, Bool.or_eq_true, Bool.and_eq_true, List.isEmpty_iff,
      decide_eq_true_eq] at hdrained
    obtain hdrained | ⟨hnil, hpos⟩ := hdrained
    · exact h.alone j (hj ▸ hdrained) d hd
    · exact halone hnil hpos j hj d hd

/-- **A stage writes.** -/
theorem write (h : Attends rep f m₀ l stages s t m) (hlayout : Layout m₀ l stages Eq s m)
    {program : σ} {count : Nat} {bytes : Bytes}
    (hc : m.children[m₀.children.size + i]? = some c) (hlife : c.life = .running program)
    (hact : rep.act program = .write Fd.stdout bytes) (hchildren : m'.children = m.children)
    (hfits : count ≤ bytes.length) (hprogress : bytes ≠ [] → 0 < count) :
    Attends rep f m₀ l stages s (t.write i (bytes.take count))
      (m'.setChild (m₀.children.size + i)
        { c with life := .running (rep.resume program (.written count)) }) := by
  have hactive : c.life.isActive = true := by
    rw [hlife]
    rfl
  have hi := (hlayout.process hc).1
  refine h.setChild hi hc hactive hchildren (fun j hne => ⟨rfl, Traffic.given_write_of_ne _ _ hne,
    rfl⟩) (fun stage hstage => ?_) fun hdrained j hj d hd => h.alone j (hj ▸ hdrained) d hd
  obtain ⟨start, hcomputes, hruns⟩ := h.runs_of_running hlayout hc hlife
  rw [Traffic.given_write_self]
  exact .running hcomputes (.write count hruns hact hfits hprogress)

/-- **A stage leaves**, having read everything and written the value of its function. -/
theorem leave (h : Attends rep f m₀ l stages s t m) (hlayout : Layout m₀ l stages Eq s m)
    {program : σ} {status : Nat}
    (hc : m.children[m₀.children.size + i]? = some c) (hlife : c.life = .running program)
    (hact : rep.act program = .exit status) :
    Attends rep f m₀ l stages s t
      (m.finish (m₀.children.size + i) (.exited (status % 256))) := by
  have hactive : c.life.isActive = true := by
    rw [hlife]
    rfl
  obtain ⟨start, hcomputes, hruns⟩ := h.runs_of_running hlayout hc hlife
  -- this is where the program is assumed to compute its function
  obtain ⟨hdrained, hgiven, hstatus⟩ := hcomputes _ _ _ _ _ hruns hact
  obtain ⟨hi, hshell, -⟩ := hlayout.process hc
  obtain ⟨children, heq, hself, hothers⟩ := finish_of_shell (.exited (status % 256)) hc hshell
  rw [heq]
  rw [hstatus] at hself
  change ({ m with children } : Machine σ).children[m₀.children.size + i]? = _ at hself
  refine h.update hi hc hactive hself (fun j hj hne => ?_)
    (fun j _ => ⟨rfl, rfl, rfl⟩) (fun stage hstage => ?_)
    fun hdrained j hj d hd => h.alone j (hj ▸ hdrained) d hd
  · obtain ⟨-, d, -, hd, hshell', -⟩ := hlayout.stage j hj
    rw [hd]
    exact hothers _ d (fun heq => hne (Nat.add_left_cancel heq)) hd hshell'
  · have hleaves : m.leavesEnding c = !m₀.discardsEnded := by
      rw [leavesEnding, hshell, hlayout.wired.discardsEnded]
    rw [withEnding, hleaves]
    cases hlost : m₀.discardsEnded with
    | true => exact .collected hdrained hgiven (.inr rfl)
    | false => exact .ended hdrained hgiven rfl

/-! ### Steps of the shell -/

/-- **A stage is launched.** -/
theorem fork (h : Attends rep f m₀ l stages s t m) (hlayout : Layout m₀ l stages Eq s m)
    {stage : Stage} {pid : Pid} (hstage : stages[s.made]? = some stage)
    (hfork : m.makeChild (l.plan s.wiring stage) = (.ok pid, m')) :
    Attends rep f m₀ l stages { s with made := s.made + 1 } t m' := by
  obtain ⟨-, c, rfl, hlife, -⟩ := makeChild_eq_ok hfork
  have hsize := hlayout.size
  have hpush : ∀ j < s.made, (m.children.push c)[m₀.children.size + j]? =
      m.children[m₀.children.size + j]? := by
    intro j hj
    have hlt : m₀.children.size + j < m.children.size := by omega
    rw [Array.getElem?_push_lt hlt, Array.getElem?_eq_getElem hlt]
  refine ⟨fun i hi stage' d hstage' hd => ?_, fun i hi => h.later i (Nat.le_of_succ_le hi),
    fun i hdrained d hd => ?_⟩
  · rcases Nat.lt_succ_iff_lt_or_eq.mp hi with hlt | rfl
    · exact h.stage i hlt stage' d hstage' ((hpush i hlt).symm.trans hd)
    · obtain rfl : stage = stage' := Option.some.inj (hstage.symm.trans hstage')
      dsimp only at hd
      rw [← hsize, Array.getElem?_push_size] at hd
      cases hd
      obtain ⟨htaken, hgiven, hdrained⟩ := h.later s.made le_rfl
      obtain ⟨s', rest, hplan⟩ := l.exists_plan_eq_cons s.wiring stage
      have hbegun : [] ++ s' :: rest = s' :: rest := List.nil_append _
      rw [hlife, hplan]
      exact .preparing hbegun htaken hgiven hdrained
  · have hmade : i + 1 < s.made := by
      refine Nat.not_le.mp fun hle => ?_
      rw [(h.later (i + 1) hle).2.2] at hdrained
      cases hdrained
    exact h.alone i hdrained d ((hpush i (by omega)).symm.trans hd)

/-- **A stage is waited for.** The wait tells that it has left with status zero, unless endings
are lost and it knows of no process. -/
theorem collect (h : Attends rep f m₀ l stages s t m) (hlayout : Layout m₀ l stages Eq s m)
    (hgone : s.gone < s.made) {answer : Except Errno Ending}
    (hcollect : m.collect (m₀.children.size + s.gone) = some (answer, m')) :
    Attends rep f m₀ l stages { s with gone := s.gone + 1 } t m' ∧
      (m₀.discardsEnded = false ∧ answer = .ok (.exited 0) ∨
        m₀.discardsEnded = true ∧ answer = .error .echild) := by
  obtain ⟨stage, c, hstage, hc, -⟩ := hlayout.stage s.gone hgone
  have hserves := h.stage s.gone hgone stage c hstage hc
  obtain ⟨rfl, rfl, hcollected⟩ | ⟨c', how, hc', hended, rfl, rfl⟩ := collect_eq_some hcollect
  · rw [hcollected c hc] at hserves
    cases hserves with
    | collected drained_eq given_eq gone =>
      refine ⟨⟨fun i hi stage' d hstage' hd => ?_, h.later, h.alone⟩,
        .inr ⟨gone.resolve_left (Nat.lt_irrefl _), rfl⟩⟩
      exact (h.stage i hi stage' d hstage' hd).mono Nat.lt_succ_of_lt
  · obtain rfl : c = c' := Option.some.inj (hc.symm.trans hc')
    rw [hended] at hserves
    cases hserves with
    | ended drained_eq given_eq kept =>
      refine ⟨⟨fun i hi stage' d hstage' hd => ?_, h.later, fun i hdrained d hd => ?_⟩,
        .inl ⟨kept, rfl⟩⟩
      · rcases eq_or_ne i s.gone with rfl | hne
        · rw [getElem?_setChild_self hc] at hd
          cases hd
          exact .collected drained_eq given_eq (.inl (Nat.lt_succ_self _))
        · rw [getElem?_setChild_of_ne fun heq => hne (Nat.add_left_cancel heq).symm] at hd
          exact (h.stage i hi stage' d hstage' hd).mono Nat.lt_succ_of_lt
      · rcases eq_or_ne i s.gone with rfl | hne
        · rw [getElem?_setChild_self hc] at hd
          cases hd
          rfl
        · rw [getElem?_setChild_of_ne fun heq => hne (Nat.add_left_cancel heq).symm] at hd
          exact h.alone i hdrained d hd

end Attends

end Attends

end Machine

end PipeShell
