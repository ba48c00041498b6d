import PipeShell.Proofs.Command.Stages
import PipeShell.Proofs.Machine.Plan
import PipeShell.Proofs.Machine.Wired
import PipeShell.Proofs.Pipeline.Progress

/-!
# Machines on which a line runs

What is true of a machine at every moment of a line, in one invariant.

* `Process.Follows` says where the process of a stage may stand: in its plan, in what it does when
  something on the plan has failed, in its program, or at its end. What a program may do to its
  table is left open, as a relation `R` between the table that it has started with and the one that
  it has.
* `Machine.Layout` is the invariant. It relates a machine to what has been done for the line:
  the pipes stand where they belong, the shell holds the ends that it has open and nothing else
  that is new, there is one process for each stage that has been launched, and no other process
  lives.
* `Layout.drift`, `Layout.childStep` and `Layout.next` keep it: while others step, when a process
  steps, and when the shell gets an answer.
-/

namespace PipeShell

variable {σ : Type}

/-! ### Plans -/

namespace Launcher

variable {l : Launcher} {w : Wiring} {stage : Stage} {past : Child} {rest : Child}

/-- The plan of a stage that is no terminator. -/
theorem plan_eq (hproper : stage.isTerminator l.terminator = false) :
    l.plan w stage = Child.plan (w.endsWithin l.outer stage.index).stdin
      (w.endsWithin l.outer stage.index).stdout (w.fds ++ l.outer.toList) stage.words := by
  rw [plan, if_neg (by simp [hproper])]

/-- The table with which the program of a stage starts, if its process was made with `table`. -/
def startTable (l : Launcher) (w : Wiring) (stage : Stage) (table : DescriptorTable) :
    DescriptorTable :=
  (Child.tableAfter table (l.plan w stage)).afterExec

/-- A plan complains of nothing. -/
theorem complain_notMem_plan (message : Bytes) : ChildStep.complain message ∉ l.plan w stage := by
  rw [plan]
  split <;> simp [Child.plan]

/-- The error stream stays what it is however far the plan of a stage has been followed. -/
theorem get?_tableAfter_stderr {table : DescriptorTable} (h : past ++ rest = l.plan w stage) :
    (Child.tableAfter table past).get? Fd.stderr = table.get? Fd.stderr := by
  rw [plan] at h
  split at h
  · rcases List.append_eq_singleton_iff.mp h with ⟨rfl, -⟩ | ⟨rfl, -⟩ <;> rfl
  · exact Child.get?_tableAfter_stderr h

/-- The program is started by the last thing on a plan. -/
theorem of_append_exec_eq_plan {argv : List String}
    (h : past ++ .exec argv :: rest = l.plan w stage) :
    stage.isTerminator l.terminator = false ∧ argv = stage.words ∧ rest = [] := by
  cases hterm : stage.isTerminator l.terminator with
  | true =>
    rw [plan, if_pos hterm] at h
    have hmem : ChildStep.exec argv ∈ [ChildStep.exit 0] := h ▸ by simp
    cases List.mem_singleton.mp hmem
  | false =>
    rw [plan_eq hterm, Child.plan] at h
    -- only the last thing on a plan starts a program
    rcases List.eq_nil_or_concat rest with rfl | ⟨init, last, rfl⟩
    · obtain ⟨-, hlast⟩ := List.append_inj' h rfl
      cases hlast
      exact ⟨rfl, rfl, rfl⟩
    · rw [List.concat_eq_append, ← List.cons_append, ← List.append_assoc] at h
      obtain ⟨hinit, -⟩ := List.append_inj' h rfl
      have hmem : ChildStep.exec argv ∈ past ++ .exec argv :: init := by simp
      rw [hinit] at hmem
      simp at hmem

/-- The last thing on a plan starts a program or leaves. -/
theorem append_ne_plan {s : ChildStep}
    (h : ∀ argv status, s ≠ .exec argv ∧ s ≠ .exit status) : past ++ [s] ≠ l.plan w stage := by
  intro heq
  have hlast := congrArg List.getLast? heq
  rw [List.getLast?_concat, plan] at hlast
  split at hlast
  · exact (h [] 0).2 (Option.some.inj hlast)
  · rw [Child.plan, List.getLast?_concat] at hlast
    exact (h stage.words 0).1 (Option.some.inj hlast)

/-- A plan is never empty. -/
theorem exists_plan_eq_cons (l : Launcher) (w : Wiring) (stage : Stage) :
    ∃ s rest, l.plan w stage = s :: rest := by
  rw [plan]
  split
  · exact ⟨_, _, rfl⟩
  · exact ⟨_, _, rfl⟩

end Launcher

/-! ### Stages -/

/-- **Where the process of a stage may stand**, if it was made with the table `table`. -/
inductive Process.Follows (l : Launcher) (w : Wiring) (stage : Stage)
    (R : DescriptorTable → DescriptorTable → Prop) (table : DescriptorTable) (c : Process σ) :
    Prop where
  | preparing {past s rest} (life : c.life = .preparing (s :: rest))
    (plan : past ++ s :: rest = l.plan w stage)
    (table_eq : c.table = Child.tableAfter table past)
  | parting {past todo left} (life : c.life = .preparing todo)
    (parts : todo.all ChildStep.isParting = true) (plan : past ++ left = l.plan w stage)
    (table_eq : c.table = Child.tableAfter table past)
  | running {program} (life : c.life = .running program)
    (proper : stage.isTerminator l.terminator = false)
    (table_rel : R (l.startTable w stage table) c.table)
  | ended (life : c.life.isActive = false) (table_eq : c.table = {})

namespace Process.Follows

variable {l : Launcher} {w : Wiring} {stage : Stage}
  {R : DescriptorTable → DescriptorTable → Prop} {table : DescriptorTable} {c c' : Process σ}

theorem mono {R' : DescriptorTable → DescriptorTable → Prop} (h : c.Follows l w stage R table)
    (hR : ∀ t t', R t t' → R' t t') : c.Follows l w stage R' table := by
  cases h with
  | preparing life plan table_eq => exact .preparing life plan table_eq
  | parting life parts plan table_eq => exact .parting life parts plan table_eq
  | running life proper table_rel => exact .running life proper (hR _ _ table_rel)
  | ended life table_eq => exact .ended life table_eq

/-- A program has been started with the table that the plan leads to. -/
theorem of_running (h : c.Follows l w stage R table) {program : σ}
    (hlife : c.life = .running program) :
    stage.isTerminator l.terminator = false ∧ R (l.startTable w stage table) c.table := by
  cases h with
  | preparing life plan table_eq => rw [hlife] at life; cases life
  | parting life parts plan table_eq => rw [hlife] at life; cases life
  | running life proper table_rel => exact ⟨proper, table_rel⟩
  | ended life table_eq => rw [hlife] at life; cases life

/-- Nothing is left of the table of a process that is over. -/
theorem of_inactive (h : c.Follows l w stage R table) (hlife : c.life.isActive = false) :
    c.table = {} := by
  cases h with
  | preparing life plan table_eq => rw [life] at hlife; cases hlife
  | parting life parts plan table_eq => rw [life] at hlife; cases hlife
  | running life proper table_rel => rw [life] at hlife; cases hlife
  | ended life table_eq => exact table_eq

/-- Whatever happens aside. -/
theorem aside (h : c.Follows l w stage R table) (haside : c.Aside c') :
    c'.Follows l w stage R table := by
  obtain ⟨htable, hlife⟩ | ⟨-, ⟨how, hlife⟩, hlife', htable⟩ | ⟨-, hlife', htable⟩ := haside.fate
  · cases h with
    | preparing life plan table_eq =>
      exact .preparing (hlife.trans life) plan (htable.trans table_eq)
    | parting life parts plan table_eq =>
      exact .parting (hlife.trans life) parts plan (htable.trans table_eq)
    | running life proper table_rel =>
      exact .running (hlife.trans life) proper (htable ▸ table_rel)
    | ended life table_eq => exact .ended (hlife ▸ life) (htable.trans table_eq)
  · exact .ended (by rw [hlife']; rfl) (htable.trans (h.of_inactive (by rw [hlife]; rfl)))
  · exact .ended hlife' htable

/-- Whatever the process does itself. -/
theorem step {rep : Repertoire σ} {m : Machine σ} (h : c.Follows l w stage R table)
    (hrefl : ∀ t, R t t)
    (hstays : ∀ program t t', c.life = .running program → R t c.table →
      m.Retains (rep.act program) c.table t' → R t t')
    (hstep : c.Steps rep m c') : c'.Follows l w stage R table := by
  cases h with
  | preparing life plan table_eq =>
    rename_i past s rest
    cases hstep with
    | follow life₁ life' opens goesOn table' =>
      obtain ⟨rfl, rfl⟩ := List.cons.inj (Life.preparing.inj (life.symm.trans life₁))
      cases rest with
      -- a plan does not run out before a program has been started
      | nil => exact absurd plan (Launcher.append_ne_plan goesOn)
      | cons s' rest =>
        refine .preparing life' ((List.append_cons past s _).symm.trans plan) ?_
        rw [table', table_eq, Child.tableAfter_append, Child.tableAfter_cons,
          Child.tableAfter_nil]
    | part cause life₁ life' fails table' =>
      exact .parting life' (ChildStep.isParting_onFailure _ _) plan (table'.trans table_eq)
    | complain life₁ life' table' =>
      obtain ⟨rfl, rfl⟩ := List.cons.inj (Life.preparing.inj (life.symm.trans life₁))
      exact absurd (plan ▸ List.mem_append_right _ List.mem_cons_self)
        (Launcher.complain_notMem_plan _)
    | exec life₁ loads life' table' =>
      obtain ⟨rfl, rfl⟩ := List.cons.inj (Life.preparing.inj (life.symm.trans life₁))
      obtain ⟨proper, rfl, rfl⟩ := Launcher.of_append_exec_eq_plan plan
      refine .running life' proper ?_
      -- starting the program comes last and leaves the table as it is
      have hlast : Child.tableAfter table (l.plan w stage) = Child.tableAfter table past := by
        rw [← plan, Child.tableAfter_append]
        rfl
      rw [Launcher.startTable, hlast, table', table_eq]
      exact hrefl _
    | run life₁ life' table' => rw [life] at life₁; cases life₁
  | parting life parts plan table_eq =>
    cases hstep with
    | follow life₁ life' opens goesOn table' =>
      obtain rfl := Life.preparing.inj (life.symm.trans life₁)
      rw [List.all_cons, Bool.and_eq_true] at parts
      refine .parting life' parts.2 plan ?_
      rename_i s rest
      cases s with
      | complain message => exact table'.trans table_eq
      | exit status => exact table'.trans table_eq
      | _ => cases parts.1
    | part cause life₁ life' fails table' =>
      exact .parting life' (ChildStep.isParting_onFailure _ _) plan (table'.trans table_eq)
    | complain life₁ life' table' =>
      obtain rfl := Life.preparing.inj (life.symm.trans life₁)
      exact .parting life' parts plan (table'.trans table_eq)
    | exec life₁ loads life' table' =>
      obtain rfl := Life.preparing.inj (life.symm.trans life₁)
      cases parts
    | run life₁ life' table' => rw [life] at life₁; cases life₁
  | running life proper table_rel =>
    cases hstep with
    | run life₁ life' table' =>
      exact .running life' proper (hstays _ _ _ life₁ table_rel table')
    | follow life₁ => rw [life] at life₁; cases life₁
    | part cause life₁ => rw [life] at life₁; cases life₁
    | complain life₁ => rw [life] at life₁; cases life₁
    | exec life₁ => rw [life] at life₁; cases life₁
  | ended life table_eq =>
    cases hstep with
    | follow life₁ => rw [life₁] at life; cases life
    | part cause life₁ => rw [life₁] at life; cases life
    | complain life₁ => rw [life₁] at life; cases life
    | exec life₁ => rw [life₁] at life; cases life
    | run life₁ => rw [life₁] at life; cases life

end Process.Follows

/-! ### The machine of a line -/

namespace Machine

/-- **The machine of a line.** What is true at every moment, given what has been done for the
line; `m₀` is the machine on which the line was begun. -/
structure Layout (m₀ : Machine σ) (l : Launcher) (stages : List Stage)
    (R : DescriptorTable → DescriptorTable → Prop) (s : Progress) (m : Machine σ) : Prop where
  wired : Wired m₀ s.wiring m
  holds : Holds m₀ s.wiring s.opened m.table
  bare : s.made = 0 → Bare m₀ s.wiring m
  full : 0 < s.made → s.wiring.IsComplete stages
  size : m.children.size = m₀.children.size + s.made
  others : ∀ (pid : Pid) (c : Process σ), pid < m₀.children.size → m.children[pid]? = some c →
    c.life.isActive = false ∧ ∀ fd e, c.table.get? fd = some e → e.file < m₀.files.size
  stage : ∀ i < s.made, ∃ stage c, stages[i]? = some stage ∧
    m.children[m₀.children.size + i]? = some c ∧ c.maker = .shell ∧
    ∃ table, Holds m₀ s.wiring s.wiring.fds table ∧ c.Follows l s.wiring stage R table
  gone : ∀ i < s.gone, ∀ c : Process σ, m.children[m₀.children.size + i]? = some c →
    c.life.isActive = false

/-- What programs are assumed to do while `count` pipes of a line stand: they make no further
descriptor for something that a descriptor refers to, and what they do to their tables is within
`R`. -/
structure Tame (rep : Repertoire σ) (m₀ : Machine σ) (count : Nat)
    (R : DescriptorTable → DescriptorTable → Prop) (m : Machine σ) : Prop where
  copies : ∀ (pid : Pid) (c : Process σ) (program : σ), m.children[pid]? = some c →
    c.life = .running program → isCopying rep m c program = false
  stays : ∀ (pid : Pid) (c : Process σ) (program : σ) (table table' : DescriptorTable),
    m.children[pid]? = some c → c.life = .running program →
    m₀.files.size + 2 * count ≤ m.files.size → R table c.table →
    m.Retains (rep.act program) c.table table' → R table table'

section Layout

variable {m₀ m m' : Machine σ} {l : Launcher} {stages : List Stage}
  {R : DescriptorTable → DescriptorTable → Prop} {s : Progress} {rep : Repertoire σ}
  {outer : Outer}

theorem layout_start (h : m₀.IsReady outer) (count : Nat) :
    Layout m₀ l stages R (.start count) m₀ where
  wired := wired_start m₀ count
  holds := holds_start m₀ _
  bare _ := bare_start h count
  full h := absurd h (Nat.lt_irrefl 0)
  size := rfl
  others pid c _ hc := h.others pid c hc
  stage i hi := absurd hi (Nat.not_lt_zero i)
  gone i hi := absurd hi (Nat.not_lt_zero i)

namespace Layout

theorem mono {R' : DescriptorTable → DescriptorTable → Prop} (h : Layout m₀ l stages R s m)
    (hR : ∀ t t', R t t' → R' t t') : Layout m₀ l stages R' s m :=
  { h with
    stage := fun i hi => by
      obtain ⟨stage, c, hstage, hc, hmaker, table, htable, hfollows⟩ := h.stage i hi
      exact ⟨stage, c, hstage, hc, hmaker, table, htable, hfollows.mono hR⟩ }

/-- A process of the line has been made for a stage, with a table that holds all ends. -/
theorem process (h : Layout m₀ l stages R s m) {i : Nat} {c : Process σ}
    (hc : m.children[m₀.children.size + i]? = some c) : i < s.made ∧ c.maker = .shell ∧
    ∃ stage table, stages[i]? = some stage ∧ Holds m₀ s.wiring s.wiring.fds table ∧
      c.Follows l s.wiring stage R table := by
  have hlt := (Array.getElem?_eq_some_iff.mp hc).1
  rw [h.size] at hlt
  have hi : i < s.made := Nat.lt_of_add_lt_add_left hlt
  obtain ⟨stage, d, hstage, hd, hmaker, table, htable, hfollows⟩ := h.stage i hi
  obtain rfl : d = c := Option.some.inj (hd.symm.trans hc)
  exact ⟨hi, hmaker, stage, table, hstage, htable, hfollows⟩

/-- A process that lives is the one of a stage. -/
theorem exists_of_isActive (h : Layout m₀ l stages R s m) {pid : Pid} {c : Process σ}
    (hc : m.children[pid]? = some c) (hactive : c.life.isActive = true) :
    ∃ i, i < s.made ∧ pid = m₀.children.size + i := by
  have hlt := (Array.getElem?_eq_some_iff.mp hc).1
  rcases Nat.lt_or_ge pid m₀.children.size with hold | hnew
  · rw [(h.others pid c hold hc).1] at hactive
    cases hactive
  · rw [h.size] at hlt
    exact ⟨pid - m₀.children.size, by omega, (Nat.add_sub_of_le hnew).symm⟩

/-- **The layout stays while others step.** -/
theorem drift (h : Layout m₀ l stages R s m) (hdrift : m.Drift m')
    (hbare : s.made = 0 → m'.files.size = m.files.size ∧ m'.pipes.size = m.pipes.size) :
    Layout m₀ l stages R s m' where
  wired := h.wired.drift hdrift
  holds := hdrift.table ▸ h.holds
  bare hmade := (h.bare hmade).drift hdrift (hbare hmade).1 (hbare hmade).2
  full := h.full
  size := hdrift.children_size.trans h.size
  others pid c' hpid hc' := by
    obtain ⟨c, hc, haside⟩ := hdrift.exists_aside hc'
    obtain ⟨hinactive, hentries⟩ := h.others pid c hpid hc
    obtain ⟨hinactive', htable⟩ := haside.of_inactive hinactive
    exact ⟨hinactive', htable ▸ hentries⟩
  stage i hi := by
    obtain ⟨stage, c, hstage, hc, hmaker, table, htable, hfollows⟩ := h.stage i hi
    obtain ⟨c', hc', haside⟩ := hdrift.aside _ c hc
    exact ⟨stage, c', hstage, hc', haside.maker hmaker, table, htable, hfollows.aside haside⟩
  gone i hi c' hc' := by
    obtain ⟨c, hc, haside⟩ := hdrift.exists_aside hc'
    exact (haside.of_inactive (h.gone i hi c hc)).1

/-- The layout stays when the process of a stage changes as its plan or its program says. -/
theorem setChild (h : Layout m₀ l stages R s m) {i : Nat} {stage : Stage} {c c' : Process σ}
    {table : DescriptorTable} (hi : i < s.made) (hstage : stages[i]? = some stage)
    (hc : m.children[m₀.children.size + i]? = some c) (hmaker : c'.maker = .shell)
    (hactive : c'.life.isActive = true → c.life.isActive = true)
    (htable : Holds m₀ s.wiring s.wiring.fds table)
    (hfollows : c'.Follows l s.wiring stage R table) :
    Layout m₀ l stages R s (m.setChild (m₀.children.size + i) c') where
  wired := { h.wired with }
  holds := h.holds
  bare hmade := absurd hi (hmade ▸ Nat.not_lt_zero i)
  full := h.full
  size := (Array.size_setIfInBounds ..).trans h.size
  others pid d hpid hd := by
    rw [getElem?_setChild_of_ne fun heq => (Nat.le_add_right ..).not_gt (heq ▸ hpid)] at hd
    exact h.others pid d hpid hd
  stage j hj := by
    rcases eq_or_ne i j with rfl | hne
    · exact ⟨stage, c', hstage, getElem?_setChild_self hc, hmaker, table, htable, hfollows⟩
    · rw [getElem?_setChild_of_ne fun heq => hne (Nat.add_left_cancel heq)]
      exact h.stage j hj
  gone j hj d hd := by
    rcases eq_or_ne i j with rfl | hne
    · rw [getElem?_setChild_self hc] at hd
      cases hd
      -- a process that is over stays so, whatever it is changed to
      have hinactive := h.gone i hj c hc
      rw [← Bool.not_eq_true] at hinactive ⊢
      exact mt hactive hinactive
    · rw [getElem?_setChild_of_ne fun heq => hne (Nat.add_left_cancel heq)] at hd
      exact h.gone j hj d hd

/-- **The layout stays when a process steps.** -/
theorem childStep (h : Layout m₀ l stages R s m) (hrefl : ∀ t, R t t)
    (htame : Tame rep m₀ (stages.length - 1) R m) {pid : Pid}
    (hstep : m.childStep rep pid = some m') : Layout m₀ l stages R s m' := by
  obtain ⟨c, hc, hactive, hadvances⟩ := childStep_spec hstep fun c program hc hlife =>
    htame.copies pid c program hc hlife
  obtain ⟨i, hi, rfl⟩ := h.exists_of_isActive hc hactive
  have hmade : s.made ≠ 0 := by omega
  cases hadvances with
  | drift hdrift => exact h.drift hdrift fun hzero => absurd hzero hmade
  | @change m₁ c' before own step maker after =>
    obtain ⟨-, hmaker, stage, table, hstage, htable, hfollows⟩ := h.process hc
    have hcomplete := h.full (by omega)
    -- whatever is opened from now on comes behind the pipes
    have hsize : m₀.files.size + 2 * (stages.length - 1) ≤ m.files.size := by
      have hle := h.wired.files_le
      have hpipes := hcomplete.2
      rwa [show stages.length - 1 = s.wiring.pipes.length by omega]
    have hfollows' := hfollows.step hrefl (fun program t t' hlife hR hretains =>
      htame.stays _ c program t t' hc hlife hsize hR hretains) step
    have h₁ := (h.drift before fun hzero => absurd hzero hmade).setChild hi hstage own
      (maker.trans hmaker) (fun _ => hactive) htable hfollows'
    exact h₁.drift after fun hzero => absurd hzero hmade

/-! ### The shell -/

/-- The layout stays while the shell writes. -/
theorem transfer (h : Layout m₀ l stages R s m) (htransfer : m.Transfer m') :
    Layout m₀ l stages R s m' :=
  h.drift htransfer.drift fun _ => ⟨htransfer.files_size, htransfer.pipes_size⟩

/-- One more process is known to be over. -/
theorem goneSucc (h : Layout m₀ l stages R s m)
    (hgone : ∀ c : Process σ, m.children[m₀.children.size + s.gone]? = some c →
      c.life.isActive = false) : Layout m₀ l stages R { s with gone := s.gone + 1 } m :=
  { h with
    gone := fun i hi => by
      rcases Nat.lt_succ_iff_lt_or_eq.mp hi with hlt | rfl
      · exact h.gone i hlt
      · exact hgone }

/-- A process of the line that is waited for is over, and the wait changes nothing else. -/
theorem collect (h : Layout m₀ l stages R s m) {i : Nat} {answer} (hi : i < s.made)
    (hcollect : m.collect (m₀.children.size + i) = some (answer, m')) :
    Layout m₀ l stages R s m' ∧ ∀ c : Process σ, m'.children[m₀.children.size + i]? = some c →
      c.life.isActive = false := by
  obtain ⟨stage, c, hstage, hc, hmaker, table, htable, hfollows⟩ := h.stage i hi
  obtain ⟨-, rfl, hcollected⟩ | ⟨c', how, hc', hlife, -, rfl⟩ := collect_eq_some hcollect
  · refine ⟨h, fun d hd => ?_⟩
    rw [hcollected d hd]
    rfl
  · obtain rfl : c = c' := Option.some.inj (hc.symm.trans hc')
    have htable_eq := hfollows.of_inactive (by rw [hlife]; rfl)
    refine ⟨h.setChild hi hstage hc hmaker (by simp [Life.isActive]) htable (.ended rfl htable_eq),
      fun d hd => ?_⟩
    rw [getElem?_setChild_self hc] at hd
    cases hd
    rfl

/-- A new process of the shell follows its plan with a copy of the shell's table. -/
theorem fork (h : Layout m₀ l stages R s m) {stage : Stage} {pid : Pid}
    (hcomplete : s.wiring.IsComplete stages) (hopened : s.opened = s.wiring.fds)
    (hgone : s.gone = 0) (hstage : stages[s.made]? = some stage)
    (hfork : m.makeChild (l.plan s.wiring stage) = (.ok pid, m')) :
    Layout m₀ l stages R { s with made := s.made + 1 } m' ∧
      pid = m₀.children.size + s.made := by
  obtain ⟨rfl, c, rfl, hlife, htable, hmaker, -⟩ := makeChild_eq_ok hfork
  have hsize := h.size
  refine ⟨⟨{ h.wired with }, h.holds, fun hnone => absurd hnone (Nat.succ_ne_zero _),
    fun _ => hcomplete, ?_, fun pid d hpid hd => ?_, fun i hi => ?_, fun i hi => ?_⟩, hsize⟩
  · rw [Array.size_push, hsize]
    rfl
  · have hne : pid ≠ m.children.size := (hpid.trans_le (hsize ▸ Nat.le_add_right _ _)).ne
    rw [Array.getElem?_push, if_neg hne] at hd
    exact h.others pid d hpid hd
  · rcases Nat.lt_succ_iff_lt_or_eq.mp hi with hlt | rfl
    · obtain ⟨stage', d, hstage', hd, hrest⟩ := h.stage i hlt
      refine ⟨stage', d, hstage', ?_, hrest⟩
      rw [Array.getElem?_push, if_neg (by omega)]
      exact hd
    · -- the new process is at the beginning of its plan
      obtain ⟨s', rest, hplan⟩ := l.exists_plan_eq_cons s.wiring stage
      have hbegun : [] ++ s' :: rest = l.plan s.wiring stage := hplan.symm
      refine ⟨stage, c, hstage, ?_, hmaker, m.table, hopened ▸ h.holds,
        .preparing (hlife.trans (congrArg Life.preparing hplan)) hbegun htable⟩
      rw [← hsize]
      exact Array.getElem?_push_size
  · dsimp only at hi
    omega

/-- **The layout stays when the shell gets an answer.** -/
theorem next (h : Layout m₀ l stages R s m) (hready : m₀.IsReady outer)
    {phase phase' : Phase} {r : Request} {answer : r.Answer}
    (hstands : phase.Stands m₀.children.size stages s) (hmoves : phase.Moves l r answer phase')
    (hanswer : m.answer r = some (answer, m')) :
    Layout m₀ l stages R (s.next r answer) m' ∧ s.Numbers m₀.children.size r answer := by
  cases hmoves with
  | traced => exact ⟨h.transfer (shows_of_answer hanswer).transfer, trivial⟩
  | untraced cause => exact ⟨h.transfer (shows_of_answer hanswer).transfer, trivial⟩
  | wired read write =>
    obtain ⟨rfl, hcount, hleft, rfl⟩ := hstands
    have hpipe := Option.some.inj hanswer
    have hbare := h.bare rfl
    have hshell := h.holds
    refine ⟨⟨h.wired.extend hready hbare hshell hpipe, hshell.extend hbare hpipe,
      fun _ => hbare.extend hpipe, fun hmade => absurd hmade (Nat.lt_irrefl 0), ?_, ?_,
      fun i hi => absurd hi (Nat.not_lt_zero i), fun i hi => absurd hi (Nat.not_lt_zero i)⟩,
      trivial⟩
    · obtain ⟨table, rfl, -⟩ := makePipe_eq_ok hpipe
      exact h.size
    · obtain ⟨table, rfl, -⟩ := makePipe_eq_ok hpipe
      exact h.others
  | unwired cause =>
    obtain ⟨-, rfl⟩ := makePipe_eq_error (Option.some.inj hanswer)
    exact ⟨h, trivial⟩
  | @launched w handles stage rest pid =>
    obtain ⟨hcomplete, hdrop, rfl, hs⟩ := hstands
    have hwiring : s.wiring = w := congrArg Progress.wiring hs
    subst hwiring
    have hstage : stages[s.made]? = some stage := by
      rw [← List.head?_drop, hdrop]
      rfl
    obtain ⟨hlayout, hpid⟩ := h.fork hcomplete (congrArg Progress.opened hs)
      (congrArg Progress.gone hs) hstage (Option.some.inj hanswer)
    exact ⟨hlayout, hpid⟩
  | unlaunched cause =>
    obtain ⟨-, rfl⟩ := makeChild_eq_error (Option.some.inj hanswer)
    exact ⟨h, trivial⟩
  | @closed fd rest next answer =>
    obtain ⟨hopened, hsuffix, -, -⟩ := hstands
    -- the end that is closed comes first among those that are open
    have hmem : fd ∈ s.wiring.fds := hsuffix.subset (hopened ▸ List.mem_cons_self)
    obtain ⟨i, side, hend⟩ := Wiring.mem_fds_iff.mp hmem
    have hopen := h.holds.inside i side fd hend (hopened ▸ List.mem_cons_self)
    obtain ⟨table, rfl, herase⟩ := answer_close_eq_some hanswer
    obtain rfl := herase (by rw [hopen]; rfl)
    have hclosed := (hopened ▸ h.holds).close (h.wired.fresh fd hmem)
      (hopened ▸ h.wired.nodup.sublist hsuffix.sublist)
    refine ⟨⟨{ h.wired with }, ?_, fun hmade => { h.bare hmade with }, h.full, h.size, h.others,
      h.stage, h.gone⟩, trivial⟩
    change Holds m₀ s.wiring s.opened.tail _
    rw [hopened]
    exact hclosed
  | @killed handle rest handles error answer =>
    obtain ⟨hopened, rfl, hdrop⟩ := hstands
    obtain ⟨rfl, hlt, -⟩ := of_drop_handlesFrom hdrop
    -- everybody else is left aside by the signal
    have hkill := Prod.ext_iff.mp (Option.some.inj hanswer)
    have hdrift := drift_signalChild m (m₀.children.size + s.gone) Signal.kill.number
    rw [show (m.signalChild _ _).2 = m' from hkill.2] at hdrift
    refine ⟨(h.drift hdrift fun hmade => absurd hlt (by omega)).goneSucc fun c hc => ?_, trivial⟩
    rw [← show (m.signalChild _ _).2 = m' from hkill.2] at hc
    exact inactive_of_kill hc
  | reaped answer =>
    obtain ⟨hopened, hgone, d, hdrop⟩ := hstands
    obtain ⟨rfl, hlt, -⟩ := of_drop_handlesFrom hdrop
    obtain ⟨hlayout, -⟩ := h.collect hlt hanswer
    refine ⟨?_, trivial⟩
    change Layout m₀ l stages R { s with gone := min (s.gone + 1) s.made } m'
    -- all processes have been ended before, so no further one is known to be over
    rwa [show min (s.gone + 1) s.made = s.gone by omega]
  | waited answer =>
    obtain ⟨hopened, hmade, hdrop⟩ := hstands
    obtain ⟨rfl, hlt, -⟩ := of_drop_handlesFrom hdrop
    obtain ⟨hlayout, hover⟩ := h.collect hlt hanswer
    refine ⟨?_, trivial⟩
    change Layout m₀ l stages R { s with gone := min (s.gone + 1) s.made } m'
    rw [Nat.min_eq_left hlt]
    exact hlayout.goneSucc hover

end Layout

end Layout

end Machine

end PipeShell
