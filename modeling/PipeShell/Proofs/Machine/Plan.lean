import PipeShell.Proofs.Machine.ProcessStep

/-!
# Where a plan leads

What the list of a new process does to its descriptors, seen through `DescriptorTable.get?`. A
plan installs at most two streams and closes descriptors above the error stream, so every
descriptor of the table that a program starts with can be told from the table at the fork.
-/

namespace PipeShell

/-- There are three standard streams. -/
theorem Fd.eq_stdin_or_stdout_or_stderr {fd : Fd} (hlow : Fd.stdin ≤ fd) (hhigh : fd ≤ Fd.stderr) :
    fd = Fd.stdin ∨ fd = Fd.stdout ∨ fd = Fd.stderr := by
  have hthree : ∀ n : Int, 0 ≤ n → n ≤ 2 → n = 0 ∨ n = 1 ∨ n = 2 := by omega
  exact hthree fd hlow hhigh

/-- What a descriptor refers to once it has been installed as a stream. -/
def Entry.installed (e : Entry) : Entry := { e with closeOnExec := false }

namespace ChildStep

theorem get?_apply_install (table : DescriptorTable) (source : Fd) (stream : Stream) (fd : Fd)
    {e : Entry} (hopen : table.get? source = some e) (hne : source ≠ stream.fd) :
    ((install source stream).apply table).get? fd =
      if fd = stream.fd then some e.installed else table.get? fd := by
  rw [apply, hopen]
  dsimp only
  rw [if_neg hne, DescriptorTable.get?_insert]
  rfl

theorem get?_apply_install_of_ne (table : DescriptorTable) (source : Fd) (stream : Stream)
    {fd : Fd} (hne : fd ≠ stream.fd) :
    ((install source stream).apply table).get? fd = table.get? fd := by
  rw [apply]
  split
  · rfl
  · split
    · rfl
    · rw [DescriptorTable.get?_insert, if_neg hne]

end ChildStep

namespace Child

@[simp] theorem tableAfter_nil (table : DescriptorTable) : tableAfter table [] = table := rfl

@[simp] theorem tableAfter_cons (table : DescriptorTable) (s : ChildStep) (steps : Child) :
    tableAfter table (s :: steps) = tableAfter (s.apply table) steps := rfl

theorem tableAfter_append (table : DescriptorTable) (steps steps' : Child) :
    tableAfter table (steps ++ steps') = tableAfter (tableAfter table steps) steps' :=
  List.foldl_append

/-- A descriptor that nothing on the list is about stays what it is. -/
theorem get?_tableAfter_of_forall {steps : Child} {fd : Fd}
    (h : ∀ s ∈ steps, ∀ table, (s.apply table).get? fd = table.get? fd)
    (table : DescriptorTable) : (tableAfter table steps).get? fd = table.get? fd := by
  induction steps generalizing table with
  | nil => rfl
  | cons s steps ih =>
    rw [tableAfter_cons, ih fun s' hs' => h s' (List.mem_cons_of_mem _ hs')]
    exact h s List.mem_cons_self table

theorem get?_tableAfter_close (table : DescriptorTable) (fds : List Fd) (fd : Fd) :
    (tableAfter table (fds.map .close)).get? fd = if fd ∈ fds then none else table.get? fd := by
  induction fds generalizing table with
  | nil => simp
  | cons fd' fds ih =>
    rw [List.map_cons, tableAfter_cons, ih, ChildStep.apply, DescriptorTable.get?_erase]
    by_cases h : fd ∈ fds <;> by_cases h' : fd = fd' <;> simp [h, h']

/-- The streams that a plan installs. -/
def installs (stdin stdout : Option Fd) : Child :=
  (stdin.map fun fd => .install fd .stdin).toList ++
    (stdout.map fun fd => .install fd .stdout).toList

/-- What a plan does behind the installations: it closes what is foreign, and starts the program. -/
def closes (foreign : List Fd) (argv : List String) : Child :=
  (foreign.filter fun fd => Fd.stderr < fd).map .close ++ [.exec argv]

section Plan

variable {table : DescriptorTable} {stdin stdout : Option Fd} {foreign : List Fd}
  {argv : List String}

theorem plan_eq_installs : plan stdin stdout foreign argv =
    (.restorePipeSignal :: installs stdin stdout) ++ closes foreign argv := by
  simp [plan, installs, closes]

/-- A plan closes the foreign descriptors behind the installation of the streams. -/
theorem get?_tableAfter_plan (fd : Fd) :
    (tableAfter table (plan stdin stdout foreign argv)).get? fd =
      if fd ∈ foreign ∧ Fd.stderr < fd then none
      else (tableAfter table (installs stdin stdout)).get? fd := by
  rw [plan_eq_installs, closes, tableAfter_append, tableAfter_append]
  simp only [tableAfter_cons, tableAfter_nil, ChildStep.apply, get?_tableAfter_close,
    List.mem_filter, decide_eq_true_eq]

/-- Descriptors other than the two streams are not installed. -/
theorem get?_tableAfter_installs_of_ne {fd : Fd} (hin : fd ≠ Fd.stdin) (hout : fd ≠ Fd.stdout) :
    (tableAfter table (installs stdin stdout)).get? fd = table.get? fd := by
  have hstdin : ∀ source table', ((ChildStep.install source .stdin).apply table').get? fd =
      table'.get? fd := fun source table' =>
    ChildStep.get?_apply_install_of_ne table' source .stdin hin
  have hstdout : ∀ source table', ((ChildStep.install source .stdout).apply table').get? fd =
      table'.get? fd := fun source table' =>
    ChildStep.get?_apply_install_of_ne table' source .stdout hout
  cases stdin <;> cases stdout <;> simp [installs, hstdin, hstdout]

/-- What standard input is after the installation. -/
theorem get?_tableAfter_installs_stdin
    (hopen : ∀ fd, stdin = some fd → fd ≠ Fd.stdin ∧ (table.get? fd).isSome) :
    (tableAfter table (installs stdin stdout)).get? Fd.stdin =
      (stdin.elim (table.get? Fd.stdin) fun fd => (table.get? fd).map Entry.installed) := by
  have hstdout : ∀ source table', ((ChildStep.install source .stdout).apply table').get? Fd.stdin =
      table'.get? Fd.stdin := fun source table' =>
    ChildStep.get?_apply_install_of_ne table' source .stdout (by decide)
  cases stdin with
  | none => cases stdout <;> simp [installs, hstdout]
  | some fd =>
    obtain ⟨hne, hsome⟩ := hopen fd rfl
    obtain ⟨e, he⟩ := Option.isSome_iff_exists.mp hsome
    have hstdin : ((ChildStep.install fd .stdin).apply table).get? Fd.stdin =
        some e.installed :=
      (ChildStep.get?_apply_install table fd .stdin Fd.stdin he hne).trans (if_pos rfl)
    cases stdout <;> simp [installs, hstdout, hstdin, he]

/-- What standard output is after the installation. -/
theorem get?_tableAfter_installs_stdout
    (hopen : ∀ fd, stdout = some fd → fd ≠ Fd.stdin ∧ fd ≠ Fd.stdout ∧ (table.get? fd).isSome) :
    (tableAfter table (installs stdin stdout)).get? Fd.stdout =
      (stdout.elim (table.get? Fd.stdout) fun fd => (table.get? fd).map Entry.installed) := by
  have hstdin : ∀ source fd, fd ≠ Fd.stdin →
      ((ChildStep.install source .stdin).apply table).get? fd = table.get? fd :=
    fun source fd hne => ChildStep.get?_apply_install_of_ne table source .stdin hne
  -- standard input is installed first, and is not what standard output is made from
  have hfirst : ∀ fd, fd ≠ Fd.stdin →
      (tableAfter table (stdin.map fun fd => .install fd .stdin).toList).get? fd =
        table.get? fd := by
    intro fd hne
    cases stdin <;> simp [hstdin _ fd hne]
  rw [installs, tableAfter_append]
  generalize (stdin.map fun fd => ChildStep.install fd .stdin).toList = first at hfirst ⊢
  cases stdout with
  | none => simp [hfirst Fd.stdout (by decide)]
  | some fd =>
    obtain ⟨hin, hout, hsome⟩ := hopen fd rfl
    obtain ⟨e, he⟩ := Option.isSome_iff_exists.mp hsome
    have hthen := ChildStep.get?_apply_install (tableAfter table first) fd .stdout Fd.stdout
      ((hfirst fd hin).trans he) hout
    rw [Option.map_some, Option.toList_some, tableAfter_cons, tableAfter_nil, hthen]
    simp [he, Fd.stdout, Stream.fd]

/-- The error stream stays what it is however far a plan has been followed. -/
theorem get?_tableAfter_stderr {past todo : Child}
    (h : past ++ todo = plan stdin stdout foreign argv) :
    (tableAfter table past).get? Fd.stderr = table.get? Fd.stderr := by
  refine get?_tableAfter_of_forall (fun s hs table' => ?_) table
  have hmem : s ∈ plan stdin stdout foreign argv := h ▸ List.mem_append_left _ hs
  cases s with
  | install source stream =>
    exact ChildStep.get?_apply_install_of_ne _ _ _ (by cases stream <;> decide)
  | close fd =>
    rw [ChildStep.apply, DescriptorTable.get?_erase, if_neg]
    rintro rfl
    simp [plan] at hmem
  | _ => rfl

/-! ### Halfway through a plan -/

/-- As long as a plan is at its installations, all descriptors but the two streams are what they
were. -/
theorem get?_tableAfter_of_installing {past more : Child} {fd : Fd}
    (h : past ++ more = .restorePipeSignal :: installs stdin stdout) (hin : fd ≠ Fd.stdin)
    (hout : fd ≠ Fd.stdout) : (tableAfter table past).get? fd = table.get? fd := by
  refine get?_tableAfter_of_forall (fun s hs table' => ?_) table
  have hmem : s ∈ .restorePipeSignal :: installs stdin stdout := h ▸ List.mem_append_left _ hs
  cases s with
  | install source stream =>
    refine ChildStep.get?_apply_install_of_ne _ _ _ ?_
    cases stream
    · exact hin
    · exact hout
  | close fd' => simp [installs] at hmem
  | _ => rfl

/-- Behind its installations, a plan changes no standard stream. -/
theorem get?_tableAfter_of_closing {closed todo : Child} {fd : Fd}
    (h : closed ++ todo = closes foreign argv)
    (hle : fd ≤ Fd.stderr) : (tableAfter table closed).get? fd = table.get? fd := by
  refine get?_tableAfter_of_forall (fun s hs table' => ?_) table
  have hmem : s ∈ closes foreign argv := h ▸ List.mem_append_left _ hs
  cases s with
  | install source stream => simp [closes] at hmem
  | close fd' =>
    rw [ChildStep.apply, DescriptorTable.get?_erase, if_neg]
    rintro rfl
    simp only [closes, List.mem_append, List.mem_map, List.mem_filter, decide_eq_true_eq,
      ChildStep.close.injEq, exists_eq_right, List.mem_singleton, reduceCtorEq, or_false] at hmem
    exact absurd hmem.2 (Int.not_lt.mpr hle)
  | _ => rfl

/-- What a plan is about to install, it has not touched yet. -/
theorem get?_tableAfter_of_install {past todo : Child} {source fd : Fd} {stream : Stream}
    (h : past ++ .install source stream :: todo = plan stdin stdout foreign argv)
    (hin : fd ≠ Fd.stdin) (hout : fd ≠ Fd.stdout) :
    (tableAfter table past).get? fd = table.get? fd := by
  rw [plan_eq_installs] at h
  obtain ⟨more, hmore, -⟩ | ⟨closed, -, hclosed⟩ := List.append_eq_append_iff.mp h
  · exact get?_tableAfter_of_installing hmore.symm hin hout
  · -- nothing is installed behind the installations
    have hmem : ChildStep.install source stream ∈ closes foreign argv :=
      hclosed ▸ List.mem_append_right _ List.mem_cons_self
    simp [closes] at hmem

/-- **A stage always has its streams.** However far a plan has been followed, what it installs is
open: where it was, or as the stream. -/
theorem exists_get?_tableAfter {past todo : Child} {fd : Fd} {stream : Stream} {e : Entry}
    (h : past ++ todo = plan stdin stdout foreign argv)
    (hopen : ∀ fd, stdin = some fd ∨ stdout = some fd → Fd.stderr < fd ∧ (table.get? fd).isSome)
    (hmem : .install fd stream ∈ installs stdin stdout) (he : table.get? fd = some e) :
    ∃ fd' e', (tableAfter table past).get? fd' = some e' ∧ e'.file = e.file := by
  have hne : ∀ fd, stdin = some fd ∨ stdout = some fd → fd ≠ Fd.stdin ∧ fd ≠ Fd.stdout ∧
      (table.get? fd).isSome := by
    intro fd hfd
    obtain ⟨habove, hsome⟩ := hopen fd hfd
    exact ⟨by rintro rfl; exact absurd habove (by decide),
      by rintro rfl; exact absurd habove (by decide), hsome⟩
  have hgiven : (stream = .stdin ∧ stdin = some fd) ∨ (stream = .stdout ∧ stdout = some fd) := by
    simp only [installs, List.mem_append, Option.mem_toList, Option.map_eq_some_iff] at hmem
    obtain ⟨fd', hfd', heq⟩ | ⟨fd', hfd', heq⟩ := hmem
    · cases heq
      exact .inl ⟨rfl, hfd'⟩
    · cases heq
      exact .inr ⟨rfl, hfd'⟩
  rw [plan_eq_installs] at h
  obtain ⟨more, hmore, -⟩ | ⟨closed, hpast, hclosed⟩ := List.append_eq_append_iff.mp h
  · -- it has not been installed yet, so it is open where it was
    obtain ⟨hin, hout, -⟩ := hne fd (hgiven.imp And.right And.right)
    exact ⟨fd, e, (get?_tableAfter_of_installing hmore.symm hin hout).trans he, rfl⟩
  · -- both streams have been installed, and what has been closed since is above them
    rw [hpast, tableAfter_append, tableAfter_cons,
      show ChildStep.restorePipeSignal.apply table = table from rfl]
    obtain ⟨rfl, rfl⟩ | ⟨rfl, rfl⟩ := hgiven
    · refine ⟨Fd.stdin, e.installed, ?_, rfl⟩
      rw [get?_tableAfter_of_closing hclosed.symm (by decide), get?_tableAfter_installs_stdin
        fun fd hfd => ⟨(hne fd (.inl hfd)).1, (hne fd (.inl hfd)).2.2⟩, Option.elim_some, he]
      rfl
    · refine ⟨Fd.stdout, e.installed, ?_, rfl⟩
      rw [get?_tableAfter_of_closing hclosed.symm (by decide), get?_tableAfter_installs_stdout
        fun fd hfd => hne fd (.inr hfd), Option.elim_some, he]
      rfl

end Plan

end Child

end PipeShell
