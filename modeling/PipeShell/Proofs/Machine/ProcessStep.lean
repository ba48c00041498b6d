import PipeShell.Proofs.Machine.Drift

/-!
# Steps of a process

What one step of a process does, said once: everything else drifts, and the process itself either
ends or changes as `Process.Steps` says. It follows its list, drops the rest of the list because
something on it has failed, starts its program, or lets its program go on.

* `Child.tableAfter` is what a list does to the descriptors.
* `Machine.isCopying` tells the acts by which a program makes a further descriptor for something
  that a descriptor refers to already; `Machine.Retains` is what all other acts do to a table.
* `Machine.childStep_spec` is the inversion of a step.
-/

namespace PipeShell

variable {σ : Type}

/-- What a thing on the list of a new process does to its descriptors. -/
def ChildStep.apply (table : DescriptorTable) : ChildStep → DescriptorTable
  | install fd stream =>
    match table.get? fd with
    | none => table
    | some entry =>
      if fd = stream.fd then table
      else table.insert stream.fd { entry with closeOnExec := false }
  | close fd => table.erase fd
  | _ => table

/-- What a list of things does to the descriptors of a new process. -/
def Child.tableAfter (table : DescriptorTable) (steps : Child) : DescriptorTable :=
  steps.foldl ChildStep.apply table

/-- Whether a thing belongs to what a process does when something has failed. -/
def ChildStep.isParting : ChildStep → Bool
  | complain _ => true
  | exit _ => true
  | _ => false

theorem ChildStep.isParting_onFailure (cause : Errno) (s : ChildStep) :
    (s.onFailure cause).all ChildStep.isParting = true := by
  cases s <;> rfl

namespace Machine

/-- Whether a program is about to make a further descriptor, in its process or in a new one, for
something that a descriptor refers to already. -/
def isCopying (rep : Repertoire σ) (m : Machine σ) (c : Process σ) (program : σ) : Bool :=
  match rep.act program with
  | .duplicate _ _ => true
  | .save _ _ => true
  | .fork => true
  | .openFile path _ =>
    match (m.treeOf c).node path with
    | .ok (.descriptor _) => true
    | _ => false
  | _ => false

/-- What an act that copies no descriptor does to the table of its process. -/
structure Retains (m : Machine σ) (act : Act) (table table' : DescriptorTable) : Prop where
  descends : ∀ fd e, table'.get? fd = some e → table.get? fd = some e ∨ m.files.size ≤ e.file
  keeps : ∀ fd e, table.get? fd = some e → e.closeOnExec = false → act ≠ .close fd →
    table'.get? fd = some e
  plain : act.isPlain = true → table' = table

namespace Retains

variable {m : Machine σ} {act : Act} {table : DescriptorTable}

theorem refl : m.Retains act table table :=
  ⟨fun _ _ h => .inl h, fun _ _ h _ _ => h, fun _ => rfl⟩

/-- A new descriptor for a new open file. -/
theorem insert {number : Nat} {e : Entry} (hact : act.isPlain = false)
    (hfree : table.get? number = none) (hnew : m.files.size ≤ e.file) :
    m.Retains act table (table.insert number e) := by
  refine ⟨fun fd e' h => ?_, fun fd e' h _ _ => ?_, fun h => absurd h (by simp [hact])⟩
  · rw [DescriptorTable.get?_insert] at h
    split at h
    · cases h
      exact .inr hnew
    · exact .inl h
  · rw [DescriptorTable.get?_insert, if_neg, h]
    rintro rfl
    rw [hfree] at h
    cases h

theorem erase {fd : Fd} : m.Retains (.close fd) table (table.erase fd) := by
  refine ⟨fun fd' e h => ?_, fun fd' e h _ hact => ?_, fun h => by cases h⟩
  · rw [DescriptorTable.get?_erase] at h
    split at h
    · cases h
    · exact .inl h
  · rw [DescriptorTable.get?_erase, if_neg, h]
    rintro rfl
    exact hact rfl

theorem afterExec {argv environment : List Bytes} :
    m.Retains (.exec argv environment) table table.afterExec := by
  refine ⟨fun fd e h => ?_, fun fd e h hclose _ => ?_, fun h => by cases h⟩
  · rw [DescriptorTable.get?_afterExec, Option.filter_eq_some_iff] at h
    exact .inl h.1
  · rw [DescriptorTable.get?_afterExec, h]
    simp [hclose]

theorem trans {table' table'' : DescriptorTable} (h : m.Retains act table table')
    (h' : m.Retains act table' table'') : m.Retains act table table'' where
  descends fd e he := (h'.descends fd e he).elim (h.descends fd e) .inr
  keeps fd e he hclose hact := h'.keeps fd e (h.keeps fd e he hclose hact) hclose hact
  plain hact := (h'.plain hact).trans (h.plain hact)

end Retains

end Machine

/-- How a step changes the process that makes it, if the process goes on. -/
inductive Process.Steps (rep : Repertoire σ) (m : Machine σ) (c c' : Process σ) : Prop where
  | follow {s rest} (life : c.life = .preparing (s :: rest)) (life' : c'.life = .preparing rest)
    (opens : ∀ fd stream, s = .install fd stream → (c.table.get? fd).isSome)
    (goesOn : ∀ argv status, s ≠ .exec argv ∧ s ≠ .exit status)
    (table' : c'.table = s.apply c.table)
  | part {s rest} (cause : Errno) (life : c.life = .preparing (s :: rest))
    (life' : c'.life = .preparing (s.onFailure cause))
    (fails : (∃ fd stream, s = .install fd stream ∧ c.table.get? fd = none) ∨
      ∃ argv, s = .exec argv ∧
        rep.load m.tree m.environment (argv.map Text.encode) = .error cause)
    (table' : c'.table = c.table)
  | complain {message left rest} (life : c.life = .preparing (.complain message :: rest))
    (life' : c'.life = .preparing (.complain left :: rest)) (table' : c'.table = c.table)
  | exec {argv rest program} (life : c.life = .preparing (.exec argv :: rest))
    (loads : rep.load m.tree m.environment (argv.map Text.encode) = .ok program)
    (life' : c'.life = .running program) (table' : c'.table = c.table.afterExec)
  | run {program program'} (life : c.life = .running program) (life' : c'.life = .running program')
    (table' : m.Retains (rep.act program) c.table c'.table)

/-- What a process does in one step that follows its list: it changes itself, it complains, or it
leaves. -/
inductive Process.Prepares (rep : Repertoire σ) (m : Machine σ) (pid : Pid) (c : Process σ)
    (todo : Child) (m' : Machine σ) : Prop where
  | follows {c'} (eq : m' = m.setChild pid c') (step : c.Steps rep m c')
    (same : c'.maker = c.maker ∧ c'.stopped = c.stopped ∧ c'.interrupts = c.interrupts ∧
      c'.collects = c.collects)
    (active : c'.life.isActive = true)
  | complains {message rest todo' count after} (todo_eq : todo = .complain message :: rest)
    (write : m.writeTo c.table Fd.stderr message = .written count after)
    (left_eq : todo' = rest ∨ ∃ left, todo' = .complain left :: rest)
    (step : c.Steps rep m { c with life := .preparing todo' })
    (eq : m' = after.setChild pid { c with life := .preparing todo' })
  | leaves {how} (parts : todo = [] ∨ ∃ s rest, todo = s :: rest ∧ s.isParting = true)
    (eq : m' = m.finish pid how)

namespace Machine

variable {rep : Repertoire σ} {m m' : Machine σ} {pid : Pid} {c : Process σ}

/-- What a step of a process does: all drifts, or all but the process, which changes itself. -/
inductive Advances (rep : Repertoire σ) (m : Machine σ) (pid : Pid) (c : Process σ)
    (m' : Machine σ) : Prop where
  | drift (h : m.Drift m')
  | change {m₁ c'} (before : m.Drift m₁) (own : m₁.children[pid]? = some c)
    (step : c.Steps rep m c') (maker : c'.maker = c.maker)
    (after : (m₁.setChild pid c').Drift m')

theorem Advances.of_setChild {m₁ : Machine σ} {c' : Process σ} (before : m.Drift m₁)
    (own : m₁.children[pid]? = some c) (step : c.Steps rep m c') (maker : c'.maker = c.maker) :
    Advances rep m pid c (m₁.setChild pid c') :=
  .change before own step maker (.refl _)

/-- **Inversion.** One thing on the list of a new process. -/
theorem prepareStep_cases {todo : Child} (hlife : c.life = .preparing todo)
    (h : m.prepareStep rep pid c todo = some m') : c.Prepares rep m pid todo m' := by
  cases todo with
  | nil =>
    cases h
    exact .leaves (.inl rfl) rfl
  | cons s rest =>
    rw [prepareStep.eq_def] at h
    dsimp only at h
    cases s with
    | restorePipeSignal =>
      cases h
      exact .follows rfl (.follow hlife rfl (by simp) (by simp) rfl) ⟨rfl, rfl, rfl, rfl⟩ rfl
    | install fd stream =>
      dsimp only at h
      cases hget : c.table.get? fd with
      | none =>
        simp only [hget] at h
        cases h
        exact .follows rfl (.part .ebadf hlife rfl (.inl ⟨fd, stream, rfl, hget⟩) rfl)
          ⟨rfl, rfl, rfl, rfl⟩ rfl
      | some entry =>
        simp only [hget] at h
        have hopen : ∀ fd' stream', ChildStep.install fd stream = .install fd' stream' →
            (c.table.get? fd').isSome := by
          rintro fd' stream' heq
          cases heq
          simp [hget]
        split at h
        · rename_i heq
          cases h
          refine .follows rfl (.follow hlife rfl hopen (by simp) ?_) ⟨rfl, rfl, rfl, rfl⟩ rfl
          rw [ChildStep.apply, hget]
          exact (if_pos heq).symm
        · rename_i hne
          cases h
          refine .follows rfl (.follow hlife rfl hopen (by simp) ?_) ⟨rfl, rfl, rfl, rfl⟩ rfl
          rw [ChildStep.apply, hget]
          exact (if_neg hne).symm
    | close fd =>
      cases h
      exact .follows rfl (.follow hlife rfl (by simp) (by simp) rfl) ⟨rfl, rfl, rfl, rfl⟩ rfl
    | exec argv =>
      dsimp only at h
      split at h
      · rename_i program hload
        cases h
        exact .follows rfl (.exec hlife hload rfl rfl) ⟨rfl, rfl, rfl, rfl⟩ rfl
      · rename_i cause hload
        cases h
        exact .follows rfl (.part cause hlife rfl (.inr ⟨argv, rfl, hload⟩) rfl)
          ⟨rfl, rfl, rfl, rfl⟩ rfl
    | complain message =>
      have hskip : c.Steps rep m { c with life := .preparing rest } :=
        .follow hlife rfl (by simp) (by simp) rfl
      -- a message that cannot be shown is passed over, or ends the process
      have hunheard : ∀ answer, c.Prepares rep m pid (.complain message :: rest)
          (m.become pid c ((ChildStep.complain message).answered
            (c.ignored.contains Signal.pipe.number) rest answer)) := by
        intro answer
        rcases ChildStep.answered_complain message answer with hon | ⟨-, -, hends⟩
        · rw [hon]
          exact .follows rfl hskip ⟨rfl, rfl, rfl, rfl⟩ rfl
        · rw [hends]
          exact .leaves (.inr ⟨_, _, rfl, rfl⟩) rfl
      dsimp only at h
      split at h
      · rename_i count after hwrite
        split at h
        · cases h
          exact .complains rfl hwrite (.inl rfl) hskip rfl
        · cases h
          exact .complains rfl hwrite (.inr ⟨_, rfl⟩) (.complain hlife rfl rfl) rfl
      · cases h
        exact hunheard _
      · cases h
      · cases h
        exact hunheard _
    | exit status =>
      cases h
      exact .leaves (.inr ⟨_, _, rfl, rfl⟩) rfl

theorem prepareStep_spec {todo : Child} (hc : m.children[pid]? = some c)
    (hlife : c.life = .preparing todo) (h : m.prepareStep rep pid c todo = some m') :
    Advances rep m pid c m' := by
  have hactive : c.life.isActive = true := by rw [hlife]; rfl
  cases prepareStep_cases hlife h with
  | follows eq step same active =>
    subst eq
    exact .of_setChild (.refl m) hc step same.1
  | complains todo_eq write left_eq step eq =>
    subst eq
    obtain ⟨hdrift, hsame, -⟩ := transfer_writeTo write
    exact .of_setChild hdrift (hsame ▸ hc) step rfl
  | leaves parts eq =>
    subst eq
    exact .drift (drift_finish _ hc hactive)

/-- No pipe end is opened by its path. -/
theorem ne_pipeEnd_of_openPath {tree tree' : FileTree} {path : String} {access : Access}
    {file : OpenFile} (h : openPath tree path access = .ok (file, tree')) (pipe : Nat)
    (side : Side) : file ≠ .pipeEnd pipe side := by
  rintro rfl
  rw [openPath] at h
  split at h
  · split at h <;> cases h
  · cases h
  · cases h
  · split at h <;> cases h
  · split at h <;> cases h
  · split at h
    · cases h
    · -- a file that is not there is made, and is empty
      cases hplace : tree.place path with
      | error cause =>
        rw [hplace] at h
        cases h
      | ok place =>
        rw [hplace] at h
        change (tree.add place false [] >>= _) = _ at h
        cases hadd : tree.add place false [] with
        | error cause =>
          rw [hadd] at h
          cases h
        | ok tree'' =>
          rw [hadd] at h
          cases h
  · cases h

theorem endingFor_eq_some {how : Ending} (h : c.endingFor pid = some how) :
    c.life = .ended how ∧ c.maker = .process pid := by
  rw [Process.endingFor] at h
  split at h
  · rename_i how' hlife
    split at h
    · rename_i hmaker
      cases h
      exact ⟨hlife, hmaker⟩
    · cases h
  · cases h

/-- Who has been waited for is a process that is over and that the waiting one has made. -/
theorem endedChild?_eq_some {number : Option Nat} {other : Pid} {how : Ending}
    (h : m.endedChild? pid number = some (other, how)) :
    ∃ d, m.children[other]? = some d ∧ d.life = .ended how ∧ d.maker = .process pid := by
  have key : ∀ number', (m.children[number']?.bind (Process.endingFor pid)).map
      (fun how => (number', how)) = some (other, how) →
      ∃ d, m.children[other]? = some d ∧ d.life = .ended how ∧ d.maker = .process pid := by
    intro number' h
    obtain ⟨how', hbind, heq⟩ := Option.map_eq_some_iff.mp h
    cases heq
    obtain ⟨d, hd, hending⟩ := Option.bind_eq_some_iff.mp hbind
    exact ⟨d, hd, endingFor_eq_some hending⟩
  rw [endedChild?.eq_def] at h
  split at h
  · split at h
    · exact key _ h
    · cases h
  · obtain ⟨number', -, h⟩ := List.exists_of_findSome?_eq_some h
    exact key _ h

/-- One act of a program that copies no descriptor. -/
theorem programStep_spec {program : σ} (hc : m.children[pid]? = some c)
    (hlife : c.life = .running program) (hcopy : isCopying rep m c program = false)
    (h : m.programStep rep pid c program = some m') : Advances rep m pid c m' := by
  have hactive : c.life.isActive = true := by rw [hlife]; rfl
  rw [programStep.eq_def] at h
  rw [isCopying] at hcopy
  cases hact : rep.act program with
  | read fd size =>
    simp only [hact] at h
    obtain ⟨⟨answer, m₁⟩, hread, heq⟩ := Option.map_eq_some_iff.mp h
    obtain ⟨hdrift, hsame, -⟩ := transfer_readFrom hread
    cases answer with
    | ok bytes =>
      cases heq
      exact .of_setChild hdrift (hsame ▸ hc) (.run hlife rfl .refl) rfl
    | error cause =>
      cases heq
      exact .of_setChild hdrift (hsame ▸ hc) (.run hlife rfl .refl) rfl
  | write fd bytes =>
    simp only [hact] at h
    split at h
    · rename_i count after hwrite
      cases h
      obtain ⟨hdrift, hsame, -⟩ := transfer_writeTo hwrite
      exact .of_setChild hdrift (hsame ▸ hc) (.run hlife rfl .refl) rfl
    · split at h
      · cases h
        exact .of_setChild (.refl m) hc (.run hlife rfl .refl) rfl
      · split at h
        · cases h
          exact .of_setChild (.refl m) hc (.run hlife rfl .refl) rfl
        · cases h
          exact .drift (drift_finish _ hc hactive)
    · cases h
    · cases h
      exact .of_setChild (.refl m) hc (.run hlife rfl .refl) rfl
  | giveBack fd count =>
    simp only [hact] at h
    split at h
    · rename_i number content offset hfile
      cases h
      have hnumber := files_of_file? hfile
      exact .of_setChild (drift_setFile (by simp [hnumber]) rfl) hc
        (.run hlife rfl .refl) rfl
    · rename_i number stored access offset hfile
      cases h
      have hnumber := files_of_file? hfile
      exact .of_setChild (drift_setFile (by simp [hnumber]) rfl) hc
        (.run hlife rfl .refl) rfl
    · cases h
      exact .of_setChild (.refl m) hc (.run hlife rfl .refl) rfl
  | openFile path access =>
    simp only [hact] at h hcopy
    split at h
    · -- a path that names a descriptor is a copy of it
      rename_i fd hnode
      rw [hnode] at hcopy
      cases hcopy
    · split at h
      · rename_i file tree hopen
        cases h
        have hdrift := (Drift.of_tree (m := m)
            { tree with workingDirectory := m.tree.workingDirectory } m.terminal).trans
          (drift_addFile (ne_pipeEnd_of_openPath hopen))
        refine .of_setChild hdrift hc (.run hlife rfl ?_) rfl
        exact .insert (by rw [hact]; rfl) (DescriptorTable.get?_lowestFree _) le_rfl
      · cases h
        exact .of_setChild (.refl m) hc (.run hlife rfl .refl) rfl
  | close fd =>
    simp only [hact] at h
    split at h
    · cases h
      exact .of_setChild (.refl m) hc (.run hlife rfl .refl) rfl
    · cases h
      exact .of_setChild (.refl m) hc (.run hlife rfl (hact ▸ .erase)) rfl
  | duplicate fd target => simp [hact] at hcopy
  | save fd least => simp [hact] at hcopy
  | fork => simp [hact] at hcopy
  | pipe =>
    simp only [hact] at h
    cases h
    have hplain : (rep.act program).isPlain = false := by rw [hact]; rfl
    -- both numbers refer to files that are new
    have hread : m.Retains (rep.act program) c.table
        (c.table.insert c.table.lowestFree ⟨m.files.size, false⟩) :=
      .insert hplain (DescriptorTable.get?_lowestFree _) le_rfl
    exact .of_setChild (drift_makeEnds m) hc (.run hlife rfl (hread.trans
      (.insert hplain (DescriptorTable.get?_lowestFree _) (Nat.le_succ _)))) rfl
  | exec argv environment =>
    simp only [hact] at h
    split at h
    · cases h
      exact .of_setChild (.refl m) hc (.run hlife rfl (hact ▸ .afterExec)) rfl
    · cases h
      exact .of_setChild (.refl m) hc (.run hlife rfl .refl) rfl
  | wait number limit =>
    simp only [hact] at h
    split at h
    · rename_i other how hended
      obtain ⟨d, hd, hdlife, hdmaker⟩ := endedChild?_eq_some hended
      simp only [hd] at h
      cases h
      -- a process that is over is another one, so losing its ending happens aside
      have hne : other ≠ pid := by
        rintro rfl
        rw [hc] at hd
        cases hd
        rw [hlife] at hdlife
        cases hdlife
      have haside : d.Aside { d with life := .collected } :=
        ⟨id, .inr (.inl ⟨by rw [hdmaker]; simp, ⟨how, hdlife⟩, rfl, rfl⟩)⟩
      exact .of_setChild (drift_setChild hd haside)
        ((getElem?_setChild_of_ne hne).trans hc) (.run hlife rfl .refl) rfl
    · split at h
      · split at h
        · cases h
          exact .drift (drift_setChild hc ⟨id, .inl ⟨rfl, rfl⟩⟩)
        · split at h
          · cases h
            exact .of_setChild (.refl m) hc (.run hlife rfl .refl) rfl
          · cases h
        · cases h
      · cases h
        exact .of_setChild (.refl m) hc (.run hlife rfl .refl) rfl
  | signal target number =>
    simp only [hact] at h
    split at h
    · cases h
      exact .of_setChild (drift_signalShell m number)
        ((children_signalShell m number).symm ▸ hc) (.run hlife rfl .refl) rfl
    · split at h
      · rename_i other hother
        split at h
        · rename_i m'' hsignal
          cases h
          -- the process goes on first, since the signal may be for itself
          have hdrift := drift_signalChild
            (m.setChild pid { c with life := .running (rep.resume program .done) }) other number
          rw [hsignal] at hdrift
          have hsteps : c.Steps rep m { c with life := .running (rep.resume program .done) } :=
            .run hlife rfl .refl
          exact .change (.refl m) hc hsteps rfl hdrift
        · cases h
          exact .of_setChild (.refl m) hc (.run hlife rfl .refl) rfl
      · cases h
        exact .of_setChild (.refl m) hc (.run hlife rfl .refl) rfl
  | list path =>
    simp only [hact] at h
    split at h <;> cases h <;> exact .of_setChild (.refl m) hc (.run hlife rfl .refl) rfl
  | examine path =>
    simp only [hact] at h
    split at h
    · cases h
      exact .of_setChild (.refl m) hc (.run hlife rfl .refl) rfl
    · split at h <;> cases h <;> exact .of_setChild (.refl m) hc (.run hlife rfl .refl) rfl
    · cases h
      exact .of_setChild (.refl m) hc (.run hlife rfl .refl) rfl
  | inspect fd =>
    simp only [hact] at h
    split at h <;> cases h <;> exact .of_setChild (.refl m) hc (.run hlife rfl .refl) rfl
  | enter path =>
    simp only [hact] at h
    split at h <;> cases h <;> exact .of_setChild (.refl m) hc (.run hlife rfl .refl) rfl
  | change path change =>
    simp only [hact] at h
    split at h
    · cases h
      exact .of_setChild (.of_tree _ m.terminal) hc (.run hlife rfl .refl) rfl
    · cases h
      exact .of_setChild (.refl m) hc (.run hlife rfl .refl) rfl
  | sleep duration =>
    simp only [hact] at h
    split at h
    · cases h
      exact .drift (drift_setChild hc ⟨id, .inl ⟨rfl, rfl⟩⟩)
    · split at h
      · cases h
        exact .of_setChild (.refl m) hc (.run hlife rfl .refl) rfl
      · cases h
  | exit status =>
    simp only [hact] at h
    cases h
    exact .drift (drift_finish _ hc hactive)
  | react _ _ | takeSignal | identify | isTerminal _ | whereabouts | pause =>
    simp only [hact] at h
    cases h
    exact .of_setChild (.refl m) hc (.run hlife rfl .refl) rfl

/-- **Inversion.** A process that makes a step has not ended. Everything but the process drifts,
and the process ends, waits, or changes as its list or its program says. -/
theorem childStep_spec (h : m.childStep rep pid = some m')
    (hcopy : ∀ c program, m.children[pid]? = some c → c.life = .running program →
      isCopying rep m c program = false) :
    ∃ c, m.children[pid]? = some c ∧ c.life.isActive = true ∧ Advances rep m pid c m' := by
  rw [childStep.eq_def] at h
  cases hc : m.children[pid]? with
  | none =>
    rw [hc] at h
    cases h
  | some c =>
    simp only [hc] at h
    split at h
    · cases h
    · cases hlife : c.life with
      | preparing todo =>
        simp only [hlife] at h
        exact ⟨c, rfl, by rw [hlife]; rfl, prepareStep_spec hc hlife h⟩
      | running program =>
        simp only [hlife] at h
        refine ⟨c, rfl, by rw [hlife]; rfl, ?_⟩
        -- a program that has to wait may be interrupted instead
        rcases Option.or_eq_some_iff.mp h with hstep | ⟨-, hstep⟩
        · exact programStep_spec hc hlife (hcopy c program hc hlife) hstep
        · rw [interrupt] at hstep
          split at hstep
          · cases hstep
            exact .of_setChild (.refl m) hc (.run hlife rfl .refl) rfl
          · cases hstep
      | ended how =>
        simp only [hlife] at h
        cases h
      | collected =>
        simp only [hlife] at h
        cases h

end Machine

end PipeShell
