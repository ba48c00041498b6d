import PipeShell.Proofs.Machine.Drift

/-!
# The shell's calls

What is known of a machine once it has answered a call that the shell makes for a line: one lemma
for each outcome, with the new machine in full. What the calls mean for a line is proved from these
and not from the definitions of the calls.
-/

namespace PipeShell

variable {σ : Type}

namespace Machine

variable {m m' : Machine σ}

/-! ### Pipes -/

/-- What a new pipe of the shell is: two descriptors that were free, two open files behind all
others, and a pipe behind all others. -/
theorem makePipe_eq_ok {read write : Fd} (h : m.makePipe = (.ok (read, write), m')) :
    ∃ table : DescriptorTable, m' = { m with
        table
        files := m.withEnds
        pipes := m.pipes.push { capacity := m.pipeCapacity } } ∧
      (0 ≤ read ∧ m.table.get? read = none) ∧ (0 ≤ write ∧ m.table.get? write = none) ∧
      read ≠ write ∧
      ∀ fd, table.get? fd = if fd = write then some ⟨m.files.size + 1, true⟩
        else if fd = read then some ⟨m.files.size, true⟩ else m.table.get? fd := by
  rw [makePipe.eq_def] at h
  dsimp only at h
  split at h
  · obtain ⟨hends, rfl⟩ := Prod.mk.inj h
    obtain ⟨rfl, rfl⟩ := Prod.mk.inj (Except.ok.inj hends)
    have hread := m.table.get?_lowestFree
    -- the second number is free while the first one is taken, so it is another one
    have hwrite := (m.table.insert m.table.lowestFree ⟨m.files.size, true⟩).get?_lowestFree
    rw [DescriptorTable.get?_insert] at hwrite
    split at hwrite
    · cases hwrite
    · rename_i hne
      refine ⟨_, rfl, ⟨Int.natCast_nonneg _, hread⟩, ⟨Int.natCast_nonneg _, hwrite⟩,
        fun heq => hne heq.symm, fun fd => ?_⟩
      rw [DescriptorTable.get?_insert, DescriptorTable.get?_insert]
  · cases h

/-- There is no half of a pipe. -/
theorem makePipe_eq_error {cause : Errno} (h : m.makePipe = (.error cause, m')) :
    cause = .emfile ∧ m' = m := by
  rw [makePipe.eq_def] at h
  dsimp only at h
  split at h
  · cases h
  · cases h
    exact ⟨rfl, rfl⟩

/-! ### Processes -/

/-- A process that the shell makes comes behind all others, with the shell's own table. -/
theorem makeChild_eq_ok {plan : Child} {pid : Pid} (h : m.makeChild plan = (.ok pid, m')) :
    pid = m.children.size ∧ ∃ c : Process σ, m' = { m with children := m.children.push c } ∧
      c.life = .preparing plan ∧ c.table = m.table ∧ c.maker = .shell ∧ c.stopped = false ∧
      c.interrupts = false ∧ c.collects = [] := by
  rw [makeChild.eq_def] at h
  split at h
  · cases h
  · obtain ⟨hpid, rfl⟩ := Prod.mk.inj h
    exact ⟨(Except.ok.inj hpid).symm, _, rfl, rfl, rfl, rfl, rfl, rfl, rfl⟩

theorem makeChild_eq_error {plan : Child} {cause : Errno}
    (h : m.makeChild plan = (.error cause, m')) : cause = .eagain ∧ m' = m := by
  rw [makeChild.eq_def] at h
  split at h
  · cases h
    exact ⟨rfl, rfl⟩
  · cases h

/-- A process that the shell has waited for has left its ending to it, or there is none to leave:
it has been waited for before, or endings are lost. -/
theorem collect_eq_some {pid : Pid} {answer : Except Errno Ending}
    (h : m.collect pid = some (answer, m')) :
    (answer = .error .echild ∧ m' = m ∧
        ∀ c : Process σ, m.children[pid]? = some c → c.life = .collected) ∨
      ∃ (c : Process σ) (how : Ending), m.children[pid]? = some c ∧ c.life = .ended how ∧
        answer = .ok how ∧ m' = m.setChild pid { c with life := .collected } := by
  rw [collect.eq_def] at h
  split at h
  · rename_i hnone
    cases h
    refine .inl ⟨rfl, rfl, fun c hc => ?_⟩
    rw [hnone] at hc
    cases hc
  · rename_i c hc
    split at h
    · rename_i hlife
      cases h
      refine .inl ⟨rfl, rfl, fun c' hc' => ?_⟩
      obtain rfl : c = c' := Option.some.inj (hc.symm.trans hc')
      exact hlife
    · rename_i how hlife
      cases h
      exact .inr ⟨c, how, hc, hlife, rfl, rfl⟩
    · cases h

/-! ### Descriptors -/

/-- Closing changes nothing but the table. -/
theorem answer_close_eq_some {fd : Fd} {answer : (Request.close fd).Answer}
    (h : m.answer (.close fd) = some (answer, m')) : ∃ table, m' = { m with table } ∧
      ((m.table.get? fd).isSome → table = m.table.erase fd) := by
  rw [Machine.answer] at h
  split at h
  · rename_i hnone
    cases h
    refine ⟨m.table, rfl, fun hopen => ?_⟩
    rw [hnone] at hopen
    cases hopen
  · cases h
    exact ⟨_, rfl, fun _ => rfl⟩

end Machine

end PipeShell
