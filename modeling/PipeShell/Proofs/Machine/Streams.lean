import PipeShell.Proofs.Machine.Layout

/-!
# The streams of a stage

With which table the program of a stage starts, for a process that was made while the shell held
all ends of all pipes. Standard input is the pipe before the stage and standard output the pipe
behind it; at the two ends of the chain they are the outer streams. No other end is open.
-/

namespace PipeShell

variable {σ : Type}

namespace Wiring

variable {w : Wiring} {outer : Outer} {i : Nat} {fd : Fd}

/-! ### What a stage is given -/

theorem endsWithin_stdin_zero : (w.endsWithin outer 0).stdin = outer.source := by
  simp [endsWithin, ends]

theorem endsWithin_stdin_succ (h : w.end? i .read = some fd) :
    (w.endsWithin outer (i + 1)).stdin = some fd := by
  have hends : (w.ends (i + 1)).stdin = some fd := h
  rw [endsWithin, hends]
  rfl

theorem endsWithin_stdout (h : w.end? i .write = some fd) :
    (w.endsWithin outer i).stdout = some fd := by
  have hends : (w.ends i).stdout = some fd := h
  rw [endsWithin, hends]
  rfl

theorem endsWithin_stdout_last (hlast : i + 1 = w.stages) (hlength : w.pipes.length ≤ i) :
    (w.endsWithin outer i).stdout = outer.sink := by
  have hends : (w.ends i).stdout = none := by
    rw [show (w.ends i).stdout = w.pipes[i]?.map PipeEnds.write from rfl,
      List.getElem?_eq_none hlength]
    rfl
  rw [endsWithin, hends, if_pos hlast]
  rfl

/-- A stage is given nothing but ends and outer streams. -/
theorem mem_of_endsWithin_stdin (h : (w.endsWithin outer i).stdin = some fd) :
    fd ∈ w.fds ++ outer.toList := by
  rcases Option.or_eq_some_iff.mp h with hend | ⟨-, houter⟩
  · cases i with
    | zero => cases hend
    | succ i => exact List.mem_append_left _ (mem_fds_iff.mpr ⟨i, .read, hend⟩)
  · split at houter
    · exact List.mem_append_right _ (by simp [Outer.toList, houter])
    · cases houter

theorem mem_of_endsWithin_stdout (h : (w.endsWithin outer i).stdout = some fd) :
    fd ∈ w.fds ++ outer.toList := by
  rcases Option.or_eq_some_iff.mp h with hend | ⟨-, houter⟩
  · exact List.mem_append_left _ (mem_fds_iff.mpr ⟨i, .write, hend⟩)
  · split at houter
    · exact List.mem_append_right _ (by simp [Outer.toList, houter])
    · cases houter

end Wiring

namespace Machine

section Streams

variable {m₀ m : Machine σ} {l : Launcher} {w : Wiring} {stage : Stage} {table : DescriptorTable}
  {fd : Fd}

/-- An outer stream is in a table with all ends what it was before the line. -/
theorem Holds.outer (h : Holds m₀ w w.fds table) (hready : m₀.IsReady l.outer)
    (hwired : Wired m₀ w m) (hmem : fd ∈ l.outer.toList) :
    table.get? fd = m₀.table.get? fd := by
  refine h.outside fd fun hend => ?_
  have hopen := (hready.outer fd hmem).2
  rw [hwired.fresh fd hend] at hopen
  cases hopen

/-- What a stage is given is open, and no standard stream. -/
theorem Holds.isSome (h : Holds m₀ w w.fds table) (hready : m₀.IsReady l.outer)
    (hwired : Wired m₀ w m) (hmem : fd ∈ w.fds ++ l.outer.toList) :
    Fd.stderr < fd ∧ (table.get? fd).isSome = true := by
  rcases List.mem_append.mp hmem with hend | houter
  · refine ⟨hwired.above fd hend, ?_⟩
    obtain ⟨i, side, hend'⟩ := Wiring.mem_fds_iff.mp hend
    rw [h.inside i side fd hend' hend]
    rfl
  · obtain ⟨habove, hopen⟩ := hready.outer fd houter
    exact ⟨habove, h.outer hready hwired houter ▸ hopen⟩

variable (hready : m₀.IsReady l.outer) (hwired : Wired m₀ w m) (htable : Holds m₀ w w.fds table)
  (hproper : stage.isTerminator l.terminator = false)

include hready hwired htable hproper

/-! ### The table of a program -/

/-- Standard input at the start of a program. -/
theorem get?_startTable_stdin : (l.startTable w stage table).get? Fd.stdin =
    ((w.endsWithin l.outer stage.index).stdin.elim (table.get? Fd.stdin) fun fd =>
      (table.get? fd).map Entry.installed).filter fun e => !e.closeOnExec := by
  rw [Launcher.startTable, Launcher.plan_eq hproper, DescriptorTable.get?_afterExec,
    Child.get?_tableAfter_plan, if_neg fun h => absurd h.2 (by decide),
    Child.get?_tableAfter_installs_stdin]
  intro fd hfd
  obtain ⟨habove, hopen⟩ :=
    htable.isSome hready hwired (Wiring.mem_of_endsWithin_stdin hfd)
  exact ⟨by rintro rfl; exact absurd habove (by decide), hopen⟩

/-- Standard output at the start of a program. -/
theorem get?_startTable_stdout : (l.startTable w stage table).get? Fd.stdout =
    ((w.endsWithin l.outer stage.index).stdout.elim (table.get? Fd.stdout) fun fd =>
      (table.get? fd).map Entry.installed).filter fun e => !e.closeOnExec := by
  rw [Launcher.startTable, Launcher.plan_eq hproper, DescriptorTable.get?_afterExec,
    Child.get?_tableAfter_plan, if_neg fun h => absurd h.2 (by decide),
    Child.get?_tableAfter_installs_stdout]
  intro fd hfd
  obtain ⟨habove, hopen⟩ :=
    htable.isSome hready hwired (Wiring.mem_of_endsWithin_stdout hfd)
  exact ⟨by rintro rfl; exact absurd habove (by decide),
    by rintro rfl; exact absurd habove (by decide), hopen⟩

/-- Behind the first stage, standard input is the pipe before the stage. -/
theorem startTable_stdin_pipe {i : Nat} (hi : i < w.pipes.length) (hindex : stage.index = i + 1) :
    (l.startTable w stage table).get? Fd.stdin = some ⟨m₀.endFile i .read, false⟩ := by
  obtain ⟨fd, hend⟩ := w.exists_end?_eq_some .read hi
  have hopen := htable.inside i .read fd hend (Wiring.mem_fds_iff.mpr ⟨i, .read, hend⟩)
  rw [get?_startTable_stdin hready hwired htable hproper, hindex,
    Wiring.endsWithin_stdin_succ hend, Option.elim_some, hopen]
  rfl

/-- Before the last stage, standard output is the pipe behind the stage. -/
theorem startTable_stdout_pipe (hi : stage.index < w.pipes.length) :
    (l.startTable w stage table).get? Fd.stdout =
      some ⟨m₀.endFile stage.index .write, false⟩ := by
  obtain ⟨fd, hend⟩ := w.exists_end?_eq_some .write hi
  have hopen := htable.inside _ .write fd hend (Wiring.mem_fds_iff.mpr ⟨_, .write, hend⟩)
  rw [get?_startTable_stdout hready hwired htable hproper, Wiring.endsWithin_stdout hend,
    Option.elim_some, hopen]
  rfl

omit hproper in
/-- An outer stream, or else one of the shell's own, that a program starts with is what it was
before the line. -/
private theorem exists_outer {own : Fd} {given : Option Fd} {e : Entry}
    (hgiven : ∀ fd, given = some fd → fd ∈ l.outer.toList) (hown : own ≤ Fd.stderr)
    (h : ((given.elim (table.get? own) fun fd => (table.get? fd).map Entry.installed).filter
      fun e => !e.closeOnExec) = some e) :
    ∃ e₀, m₀.table.get? (given.getD own) = some e₀ ∧ e₀.file = e.file := by
  obtain ⟨h, -⟩ := Option.filter_eq_some_iff.mp h
  cases given with
  | none =>
    refine ⟨e, ?_, rfl⟩
    rw [Option.getD_none, ← htable.outside own fun hmem => ?_]
    · exact h
    · exact absurd (hwired.above own hmem) (Int.not_lt.mpr hown)
  | some fd =>
    obtain ⟨e₀, he₀, rfl⟩ := Option.map_eq_some_iff.mp h
    exact ⟨e₀, (htable.outer hready hwired (hgiven fd rfl)) ▸ he₀, rfl⟩

/-- Standard input of the first stage is the source, or the shell's own. -/
theorem startTable_stdin_outer {e : Entry} (hindex : stage.index = 0)
    (h : (l.startTable w stage table).get? Fd.stdin = some e) :
    ∃ e₀, m₀.table.get? (l.outer.source.getD Fd.stdin) = some e₀ ∧ e₀.file = e.file := by
  rw [get?_startTable_stdin hready hwired htable hproper, hindex,
    Wiring.endsWithin_stdin_zero] at h
  refine exists_outer hready hwired htable (fun fd hfd => ?_) (by decide) h
  simp [Outer.toList, hfd]

/-- Standard output of the last stage is the sink, or the shell's own. -/
theorem startTable_stdout_outer {e : Entry} (hlast : stage.index + 1 = w.stages)
    (hlength : w.pipes.length ≤ stage.index)
    (h : (l.startTable w stage table).get? Fd.stdout = some e) :
    ∃ e₀, m₀.table.get? (l.outer.sink.getD Fd.stdout) = some e₀ ∧ e₀.file = e.file := by
  rw [get?_startTable_stdout hready hwired htable hproper,
    Wiring.endsWithin_stdout_last hlast hlength] at h
  refine exists_outer hready hwired htable (fun fd hfd => ?_) (by decide) h
  simp [Outer.toList, hfd]

/-- Standard input of the first stage is the source, if there is one. -/
theorem startTable_stdin_source {e : Entry} (hindex : stage.index = 0)
    (hsource : l.outer.source = some fd) (he : m₀.table.get? fd = some e) :
    (l.startTable w stage table).get? Fd.stdin = some e.installed := by
  have hmem : fd ∈ l.outer.toList := by simp [Outer.toList, hsource]
  rw [get?_startTable_stdin hready hwired htable hproper, hindex,
    Wiring.endsWithin_stdin_zero, hsource, Option.elim_some, htable.outer hready hwired hmem, he]
  rfl

/-- Standard output of the last stage is the sink, if there is one. -/
theorem startTable_stdout_sink {e : Entry} (hlast : stage.index + 1 = w.stages)
    (hlength : w.pipes.length ≤ stage.index) (hsink : l.outer.sink = some fd)
    (he : m₀.table.get? fd = some e) :
    (l.startTable w stage table).get? Fd.stdout = some e.installed := by
  have hmem : fd ∈ l.outer.toList := by simp [Outer.toList, hsink]
  rw [get?_startTable_stdout hready hwired htable hproper,
    Wiring.endsWithin_stdout_last hlast hlength, hsink, Option.elim_some,
    htable.outer hready hwired hmem, he]
  rfl

/-- **No other end is open.** A program starts with the end before it as standard input, the end
behind it as standard output, and nothing else that was opened for the line. -/
theorem startTable_cases {e : Entry} (hcount : w.stages = w.pipes.length + 1)
    (hindex : stage.index < w.stages) (h : (l.startTable w stage table).get? fd = some e) :
    (fd = Fd.stdin ∧ 0 < stage.index ∧ e.file = m₀.endFile (stage.index - 1) .read) ∨
      (fd = Fd.stdout ∧ stage.index < w.pipes.length ∧
        e.file = m₀.endFile stage.index .write) ∨
      e.file < m₀.files.size := by
  rcases eq_or_ne fd Fd.stdin with rfl | hin
  · cases hzero : stage.index with
    | zero =>
      obtain ⟨e₀, he₀, heq⟩ := startTable_stdin_outer hready hwired htable hproper hzero h
      exact .inr (.inr (heq ▸ hready.entries _ e₀ he₀))
    | succ i =>
      rw [startTable_stdin_pipe hready hwired htable hproper (i := i) (by omega) hzero] at h
      cases h
      exact .inl ⟨rfl, Nat.succ_pos i, rfl⟩
  · rcases eq_or_ne fd Fd.stdout with rfl | hout
    · rcases Nat.lt_or_ge stage.index w.pipes.length with hlt | hge
      · rw [startTable_stdout_pipe hready hwired htable hproper hlt] at h
        cases h
        exact .inr (.inl ⟨rfl, hlt, rfl⟩)
      · obtain ⟨e₀, he₀, heq⟩ :=
          startTable_stdout_outer hready hwired htable hproper (by omega) hge h
        exact .inr (.inr (heq ▸ hready.entries _ e₀ he₀))
    · -- whatever else the process was made with is closed, or was open before the line
      rw [Launcher.startTable, Launcher.plan_eq hproper, DescriptorTable.get?_afterExec,
        Child.get?_tableAfter_plan, Child.get?_tableAfter_installs_of_ne hin hout,
        Option.filter_eq_some_iff] at h
      obtain ⟨h, -⟩ := h
      split at h
      · cases h
      · rename_i hforeign
        rw [htable.outside fd fun hmem => hforeign
          ⟨List.mem_append_left _ hmem, hwired.above fd hmem⟩] at h
        exact .inr (.inr (hready.entries fd e h))

/-! ### Halfway through a plan -/

omit hproper in
/-- Whatever a stage is given is open and no standard stream. -/
private theorem isSome_given : ∀ fd, (w.endsWithin l.outer stage.index).stdin = some fd ∨
    (w.endsWithin l.outer stage.index).stdout = some fd →
    Fd.stderr < fd ∧ (table.get? fd).isSome := by
  rintro fd (hfd | hfd)
  · exact htable.isSome hready hwired (Wiring.mem_of_endsWithin_stdin hfd)
  · exact htable.isSome hready hwired (Wiring.mem_of_endsWithin_stdout hfd)

/-- What a plan is about to install is open. -/
theorem isSome_of_install {past todo : Child} {stream : Stream}
    (h : past ++ .install fd stream :: todo = l.plan w stage) :
    ((Child.tableAfter table past).get? fd).isSome = true := by
  rw [Launcher.plan_eq hproper] at h
  have hmem : ChildStep.install fd stream ∈ Child.plan (w.endsWithin l.outer stage.index).stdin
      (w.endsWithin l.outer stage.index).stdout (w.fds ++ l.outer.toList) stage.words :=
    h ▸ List.mem_append_right _ List.mem_cons_self
  have hgiven : (w.endsWithin l.outer stage.index).stdin = some fd ∨
      (w.endsWithin l.outer stage.index).stdout = some fd := by
    simp only [Child.plan, List.mem_append, List.mem_singleton, reduceCtorEq, false_or,
      Option.mem_toList, Option.map_eq_some_iff, ChildStep.install.injEq, List.mem_map, and_false,
      exists_const, or_false] at hmem
    obtain ⟨fd', hfd', rfl, -⟩ | ⟨fd', hfd', rfl, -⟩ := hmem
    · exact .inl hfd'
    · exact .inr hfd'
  -- it stands above the standard streams, so nothing on the plan has touched it yet
  obtain ⟨habove, hopen⟩ := isSome_given hready hwired htable fd hgiven
  rw [Child.get?_tableAfter_of_install h (by rintro rfl; exact absurd habove (by decide))
    (by rintro rfl; exact absurd habove (by decide))]
  exact hopen

/-- Behind the first stage, the end before a stage is open however far its plan has been
followed. -/
theorem exists_get?_read {past todo : Child} {i : Nat} (h : past ++ todo = l.plan w stage)
    (hi : i < w.pipes.length) (hindex : stage.index = i + 1) :
    ∃ fd e, (Child.tableAfter table past).get? fd = some e ∧ e.file = m₀.endFile i .read := by
  obtain ⟨fd, hend⟩ := w.exists_end?_eq_some .read hi
  have hopen := htable.inside i .read fd hend (Wiring.mem_fds_iff.mpr ⟨i, .read, hend⟩)
  rw [Launcher.plan_eq hproper] at h
  have hmem : .install fd .stdin ∈ Child.installs (w.endsWithin l.outer stage.index).stdin
      (w.endsWithin l.outer stage.index).stdout := by
    simp [Child.installs, hindex, Wiring.endsWithin_stdin_succ hend]
  exact Child.exists_get?_tableAfter h (isSome_given hready hwired htable) hmem hopen

/-- Before the last stage, the end behind a stage is open however far its plan has been
followed. -/
theorem exists_get?_write {past todo : Child} (h : past ++ todo = l.plan w stage)
    (hi : stage.index < w.pipes.length) :
    ∃ fd e, (Child.tableAfter table past).get? fd = some e ∧
      e.file = m₀.endFile stage.index .write := by
  obtain ⟨fd, hend⟩ := w.exists_end?_eq_some .write hi
  have hopen := htable.inside _ .write fd hend (Wiring.mem_fds_iff.mpr ⟨_, .write, hend⟩)
  rw [Launcher.plan_eq hproper] at h
  have hmem : .install fd .stdout ∈ Child.installs (w.endsWithin l.outer stage.index).stdin
      (w.endsWithin l.outer stage.index).stdout := by
    simp [Child.installs, Wiring.endsWithin_stdout hend]
  exact Child.exists_get?_tableAfter h (isSome_given hready hwired htable) hmem hopen

end Streams

end Machine

end PipeShell
