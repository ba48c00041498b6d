import PipeShell.Proofs.Machine.ProcessStep

/-!
# Steps of plain programs

Programs that only read their standard input, write to their standard output and leave. What a
process with such a program does in one step can be said exactly, with what becomes of the open
files, and so can when it has to wait.

* `Process.IsCalm` says that nothing has been asked of a process by a signal.
* `Process.Acts` is one step, `Machine.plainStep_spec` the inversion.
* `Process.Blocks` are the three ways to wait, `Machine.blocks_of_childStep_eq_none` says that
  there are no others.
-/

namespace PipeShell

variable {σ : Type}

/-- Nothing has been asked of a process by a signal. -/
structure Process.IsCalm (c : Process σ) : Prop where
  stopped : c.stopped = false
  interrupts : c.interrupts = false
  collects : c.collects = []

/-- Whether programs only read their input, write to their output, and leave. -/
def Repertoire.IsPlain (rep : Repertoire σ) : Prop :=
  ∀ program, (rep.act program).isPlain = true

theorem Repertoire.IsPlain.act_cases {rep : Repertoire σ} (h : rep.IsPlain) (program : σ) :
    (∃ size, rep.act program = .read Fd.stdin size) ∨
      (∃ bytes, rep.act program = .write Fd.stdout bytes) ∨
      ∃ status, rep.act program = .exit status := by
  have hplain := h program
  cases hact : rep.act program <;> rw [hact] at hplain <;>
    simp only [Act.isPlain, beq_iff_eq] at hplain
  case read fd size => exact .inl ⟨size, by rw [hplain]⟩
  case write fd bytes => exact .inr (.inl ⟨bytes, by rw [hplain]⟩)
  case exit status => exact .inr (.inr ⟨status, rfl⟩)
  all_goals cases hplain

/-- A plain program copies no descriptor. -/
theorem Repertoire.IsPlain.isCopying_eq_false {rep : Repertoire σ} (h : rep.IsPlain)
    (m : Machine σ) (c : Process σ) (program : σ) :
    Machine.isCopying rep m c program = false := by
  rw [Machine.isCopying]
  obtain ⟨size, hact⟩ | ⟨bytes, hact⟩ | ⟨status, hact⟩ := h.act_cases program <;> rw [hact]

/-- What a program gets for a read. -/
def Reply.ofRead : Except Errno Bytes → Reply
  | .ok bytes => .data bytes
  | .error cause => .failed cause

/-- What a process does in one step, if its program is plain. -/
inductive Process.Acts (rep : Repertoire σ) (m : Machine σ) (pid : Pid) (c : Process σ)
    (m' : Machine σ) : Prop where
  | follows {c'} (step : c.Steps rep m c') (maker : c'.maker = c.maker)
    (calm : c.IsCalm → c'.IsCalm) (active : c'.life.isActive = true)
    (prepares : ∃ todo, c.life = .preparing todo) (eq : m' = m.setChild pid c')
  | complains {message rest todo count after}
    (life : c.life = .preparing (.complain message :: rest))
    (write : m.writeTo c.table Fd.stderr message = .written count after)
    (todo_eq : todo = rest ∨ ∃ left, todo = .complain left :: rest)
    (eq : m' = after.setChild pid { c with life := .preparing todo })
  | reads {program size answer after} (life : c.life = .running program)
    (act : rep.act program = .read Fd.stdin size)
    (read : m.readFrom c.table Fd.stdin size = some (answer, after))
    (eq : m' = after.setChild pid
      { c with life := .running (rep.resume program (.ofRead answer)) })
  | writes {program bytes count after} (life : c.life = .running program)
    (act : rep.act program = .write Fd.stdout bytes)
    (write : m.writeTo c.table Fd.stdout bytes = .written count after)
    (eq : m' = after.setChild pid
      { c with life := .running (rep.resume program (.written count)) })
  | fails {program bytes cause} (life : c.life = .running program)
    (act : rep.act program = .write Fd.stdout bytes)
    (write : m.writeTo c.table Fd.stdout bytes = .broken ∨
      m.writeTo c.table Fd.stdout bytes = .failed cause)
    (eq : m' = m.setChild pid { c with life := .running (rep.resume program (.failed cause)) })
  | breaks {program bytes} (life : c.life = .running program)
    (act : rep.act program = .write Fd.stdout bytes)
    (write : m.writeTo c.table Fd.stdout bytes = .broken)
    (eq : m' = m.finish pid (.killed Signal.pipe.number))
  | exits {program status} (life : c.life = .running program)
    (act : rep.act program = .exit status) (eq : m' = m.finish pid (.exited (status % 256)))
  | leaves {todo how} (life : c.life = .preparing todo)
    (parts : todo = [] ∨ ∃ s rest, todo = s :: rest ∧ s.isParting = true)
    (eq : m' = m.finish pid how)

/-- The ways in which a process has to wait, if its program is plain. -/
inductive Process.Blocks (rep : Repertoire σ) (m : Machine σ) (c : Process σ) : Prop where
  | complains {message rest} (life : c.life = .preparing (.complain message :: rest))
    (waits : m.writeTo c.table Fd.stderr message = .waits)
  | reads {program size} (life : c.life = .running program)
    (act : rep.act program = .read Fd.stdin size)
    (waits : m.readFrom c.table Fd.stdin size = none)
  | writes {program bytes} (life : c.life = .running program)
    (act : rep.act program = .write Fd.stdout bytes)
    (waits : m.writeTo c.table Fd.stdout bytes = .waits)

namespace Machine

variable {rep : Repertoire σ} {m m' : Machine σ} {pid : Pid} {c : Process σ}

/-! ### One step -/

private theorem acts_of_prepareStep {todo : Child} (hlife : c.life = .preparing todo)
    (h : m.prepareStep rep pid c todo = some m') : c.Acts rep m pid m' := by
  cases prepareStep_cases hlife h with
  | follows eq step same active =>
    obtain ⟨hmaker, hstopped, hinterrupts, hcollects⟩ := same
    refine .follows step hmaker (fun hcalm => ?_) active ⟨todo, hlife⟩ eq
    exact ⟨hstopped.trans hcalm.stopped, hinterrupts.trans hcalm.interrupts,
      hcollects.trans hcalm.collects⟩
  | complains todo_eq write left_eq step eq =>
    exact .complains (hlife.trans (congrArg Life.preparing todo_eq)) write left_eq eq
  | leaves parts eq => exact .leaves hlife parts eq

private theorem acts_of_programStep (hplain : rep.IsPlain) (hcalm : c.IsCalm) {program : σ}
    (hlife : c.life = .running program) (h : m.programStep rep pid c program = some m') :
    c.Acts rep m pid m' := by
  rw [programStep.eq_def] at h
  obtain ⟨size, hact⟩ | ⟨bytes, hact⟩ | ⟨status, hact⟩ := hplain.act_cases program
  · simp only [hact] at h
    obtain ⟨⟨answer, after⟩, hread, heq⟩ := Option.map_eq_some_iff.mp h
    refine .reads hlife hact hread ?_
    cases answer <;> exact heq.symm
  · -- nobody has asked for the signal to be collected
    have hcollects : c.collects.contains Signal.pipe.number = false := by
      rw [hcalm.collects]
      rfl
    simp only [hact, hcollects, Bool.false_eq_true, if_false] at h
    split at h
    · rename_i count after hwrite
      cases h
      exact .writes hlife hact hwrite rfl
    · rename_i hwrite
      split at h
      · cases h
        exact .fails hlife hact (.inl hwrite) rfl
      · cases h
        exact .breaks hlife hact hwrite rfl
    · cases h
    · rename_i cause hwrite
      cases h
      exact .fails hlife hact (.inr hwrite) rfl
  · simp only [hact] at h
    cases h
    exact .exits hlife hact rfl

/-- **Inversion** of a step, for plain programs. -/
theorem plainStep_spec (hplain : rep.IsPlain) (hc : m.children[pid]? = some c)
    (hcalm : c.IsCalm) (h : m.childStep rep pid = some m') : c.Acts rep m pid m' := by
  rw [childStep.eq_def] at h
  simp only [hc, hcalm.stopped, Bool.false_eq_true, if_false] at h
  cases hlife : c.life with
  | preparing todo =>
    simp only [hlife] at h
    exact acts_of_prepareStep hlife h
  | running program =>
    simp only [hlife] at h
    rcases Option.or_eq_some_iff.mp h with hstep | ⟨-, hstep⟩
    · exact acts_of_programStep hplain hcalm hlife hstep
    · rw [interrupt, hcalm.interrupts] at hstep
      cases hstep
  | ended how =>
    simp only [hlife] at h
    cases h
  | collected =>
    simp only [hlife] at h
    cases h

/-- **Who waits**, if programs are plain, reads or writes. -/
theorem blocks_of_childStep_eq_none (hplain : rep.IsPlain) (hc : m.children[pid]? = some c)
    (hactive : c.life.isActive = true) (hstopped : c.stopped = false)
    (h : m.childStep rep pid = none) : c.Blocks rep m := by
  rw [childStep.eq_def] at h
  simp only [hc, hstopped, Bool.false_eq_true, if_false] at h
  cases hlife : c.life with
  | preparing todo =>
    simp only [hlife] at h
    cases todo with
    | nil => cases h
    | cons s rest =>
      rw [prepareStep.eq_def] at h
      dsimp only at h
      -- all steps of a plan but complaining are taken at once
      cases s with
      | complain message =>
        dsimp only at h
        split at h
        · split at h <;> cases h
        · cases h
        · rename_i hwaits
          exact .complains hlife hwaits
        · cases h
      | install fd stream =>
        dsimp only at h
        split at h
        · cases h
        · split at h <;> cases h
      | exec argv =>
        dsimp only at h
        split at h <;> cases h
      | _ => cases h
  | running program =>
    simp only [hlife] at h
    obtain ⟨h, -⟩ := Option.or_eq_none_iff.mp h
    rw [programStep.eq_def] at h
    obtain ⟨size, hact⟩ | ⟨bytes, hact⟩ | ⟨status, hact⟩ := hplain.act_cases program
    · simp only [hact, Option.map_eq_none_iff] at h
      exact .reads hlife hact h
    · simp only [hact] at h
      split at h
      · cases h
      · split at h
        · cases h
        · split at h <;> cases h
      · rename_i hwaits
        exact .writes hlife hact hwaits
      · cases h
    · simp only [hact] at h
      cases h
  | ended how => rw [hlife] at hactive; cases hactive
  | collected => rw [hlife] at hactive; cases hactive

/-! ### The end of a process of the shell -/

/-- The end of a process that the shell has made leaves all others of the shell alone. -/
theorem finish_of_shell (how : Ending) (hc : m.children[pid]? = some c)
    (hmaker : c.maker = .shell) : ∃ children : Array (Process σ),
    m.finish pid how = { m with children } ∧ children[pid]? = some (m.withEnding c how) ∧
      ∀ (other : Pid) (d : Process σ), other ≠ pid → m.children[other]? = some d →
        d.maker = .shell → children[other]? = some d := by
  have hself : (m.setChild pid (m.withEnding c how)).children[pid]? = some (m.withEnding c how) :=
    getElem?_setChild_self hc
  have hothers : ∀ other, other ≠ pid →
      (m.setChild pid (m.withEnding c how)).children[other]? = m.children[other]? :=
    fun other hne => getElem?_setChild_of_ne (Ne.symm hne)
  have hfinish := finish_eq how hc
  rw [hmaker] at hfinish
  dsimp only [notice] at hfinish
  split at hfinish
  · -- processes of the shell are nobody's orphans
    have horphan : ∀ d : Process σ, d.maker = .shell → orphan pid d = d := fun d hd => by
      rw [orphan, hd, if_neg (by simp)]
    refine ⟨_, hfinish, ?_, fun other d hne hd hshell => ?_⟩
    · rw [Array.getElem?_map, hself, Option.map_some, horphan (m.withEnding c how) hmaker]
    · rw [Array.getElem?_map, hothers other hne, hd, Option.map_some, horphan d hshell]
  · exact ⟨_, hfinish, hself, fun other d hne hd _ => (hothers other hne).trans hd⟩

end Machine

end PipeShell
