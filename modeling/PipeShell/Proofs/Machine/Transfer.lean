import PipeShell.Proofs.Machine.Drift

/-!
# Reading and writing

What a read or a write does depends on the open file alone. `Machine.Refers` says that a descriptor
is an end of a pipe, `isHeld_iff` who holds an end, and the lemmas on `readFrom` and `writeTo` say
when those who use a pipe have to wait.
-/

namespace PipeShell

variable {σ : Type}

/-- A table refers to a file with a property if one of its descriptors does. -/
theorem DescriptorTable.anyFile_iff {table : DescriptorTable} {p : Nat → Bool} :
    table.anyFile p = true ↔ ∃ fd e, table.get? fd = some e ∧ p e.file = true := by
  rw [anyFile, Array.any_eq_true']
  constructor
  · rintro ⟨slot, hmem, hp⟩
    obtain ⟨n, hn⟩ := Array.mem_iff_getElem?.mp hmem
    cases slot with
    | none => cases hp
    | some e => exact ⟨.ofNat n, e, by rw [get?, hn]; rfl, hp⟩
  · rintro ⟨fd, e, he, hp⟩
    cases fd with
    | negSucc n => cases he
    | ofNat n =>
      exact ⟨some e, Array.mem_of_getElem? (Option.join_eq_some_iff.mp he), hp⟩

namespace Machine

variable {m m' : Machine σ} {table table' : DescriptorTable} {fd fd' : Fd}

/-- A descriptor of a table is an end of a pipe. -/
def Refers (m : Machine σ) (table : DescriptorTable) (fd : Fd) (pipe : Nat) (side : Side) :
    Prop :=
  ∃ e, table.get? fd = some e ∧ m.files[e.file]? = some (.pipeEnd pipe side)

theorem not_refers_empty (m : Machine σ) (fd : Fd) (pipe : Nat) (side : Side) :
    ¬ m.Refers {} fd pipe side := by
  rintro ⟨e, he, -⟩
  rw [DescriptorTable.get?_empty] at he
  cases he

/-- Who holds an end of a pipe: the shell, or a process. -/
theorem isHeld_iff {pipe : Nat} {side : Side} : m.isHeld pipe side = true ↔
    (∃ fd, m.Refers m.table fd pipe side) ∨
      ∃ (pid : Pid) (c : Process σ) (fd : Fd), m.children[pid]? = some c ∧
        m.Refers c.table fd pipe side := by
  have hrefers : ∀ table : DescriptorTable, table.anyFile (m.isEnd pipe side) = true ↔
      ∃ fd, m.Refers table fd pipe side := by
    intro table
    rw [DescriptorTable.anyFile_iff]
    simp only [isEnd, beq_iff_eq, Refers]
  rw [isHeld, Bool.or_eq_true, hrefers, Array.any_eq_true']
  refine or_congr Iff.rfl ⟨?_, ?_⟩
  · rintro ⟨c, hmem, hc⟩
    obtain ⟨pid, hpid⟩ := Array.mem_iff_getElem?.mp hmem
    obtain ⟨fd, hfd⟩ := (hrefers _).mp hc
    exact ⟨pid, c, fd, hpid, hfd⟩
  · rintro ⟨pid, c, fd, hpid, hfd⟩
    exact ⟨c, Array.mem_of_getElem? hpid, (hrefers _).mpr ⟨fd, hfd⟩⟩

/-! ### The open file decides -/

/-- Two descriptors with the same open file. -/
theorem file?_congr {e e' : Entry} (he : table.get? fd = some e) (he' : table'.get? fd' = some e')
    (hfile : e.file = e'.file) : m.file? table fd = m.file? table' fd' := by
  rw [file?, file?, he, he', Option.bind_some, Option.bind_some, hfile]

theorem file?_eq {e : Entry} {file : OpenFile} (he : table.get? fd = some e)
    (hfile : m.files[e.file]? = some file) : m.file? table fd = some (e.file, file) := by
  rw [file?, he, Option.bind_some, hfile]
  rfl

theorem readFrom_congr (h : m.file? table fd = m.file? table' fd') (size : Nat) :
    m.readFrom table fd size = m.readFrom table' fd' size := by
  rw [readFrom, readFrom, h]

theorem writeTo_congr (h : m.file? table fd = m.file? table' fd') (bytes : Bytes) :
    m.writeTo table fd bytes = m.writeTo table' fd' bytes := by
  rw [writeTo, writeTo, h]

/-! ### Waiting -/

/-- A reader waits only while the pipe is empty and somebody can still write to it. -/
theorem of_readFrom_eq_none {number pipe size : Nat} {content : Pipe}
    (hfile : m.file? table fd = some (number, .pipeEnd pipe .read))
    (hpipe : m.pipes[pipe]? = some content) (h : m.readFrom table fd size = none) :
    content.content = [] ∧ m.isHeld pipe .write = true := by
  rw [readFrom, hfile] at h
  simp only [hpipe] at h
  split at h
  · rename_i hempty
    split at h
    · rename_i hheld
      exact ⟨List.isEmpty_iff.mp hempty, hheld⟩
    · cases h
  · cases h

/-- A writer waits only while the pipe is full and somebody can still read from it. -/
theorem of_writeTo_eq_waits {number pipe : Nat} {content : Pipe} {bytes : Bytes}
    (hfile : m.file? table fd = some (number, .pipeEnd pipe .write))
    (hpipe : m.pipes[pipe]? = some content) (h : m.writeTo table fd bytes = .waits) :
    content.capacity ≤ content.content.length ∧ m.isHeld pipe .read = true := by
  rw [writeTo, hfile] at h
  simp only [hpipe] at h
  split at h
  · cases h
  · split at h
    · rename_i hheld
      split at h
      · exact ⟨Nat.le_of_sub_eq_zero ‹_›, hheld⟩
      · cases h
    · cases h

/-- Nobody waits for a file that is no pipe and no terminal. -/
theorem isSome_readFrom (h : ∀ e, table.get? fd = some e → m.IsPatient e.file) (size : Nat) :
    (m.readFrom table fd size).isSome = true := by
  rw [readFrom]
  split
  · rfl
  · rename_i number file hfile
    obtain ⟨e, he, hmap⟩ := Option.bind_eq_some_iff.mp hfile
    obtain ⟨file', hfile', heq⟩ := Option.map_eq_some_iff.mp hmap
    cases heq
    have hpatient := h e he file hfile'
    cases file with
    | pipeEnd pipe side => cases hpatient
    | terminal => cases hpatient
    | stored number access offset =>
      dsimp only
      split <;> rfl
    | _ => rfl

theorem writeTo_ne_waits (h : ∀ e, table.get? fd = some e → m.IsPatient e.file) (bytes : Bytes) :
    m.writeTo table fd bytes ≠ .waits := by
  intro hwaits
  rw [writeTo] at hwaits
  split at hwaits
  · cases hwaits
  · rename_i number file hfile
    obtain ⟨e, he, hmap⟩ := Option.bind_eq_some_iff.mp hfile
    obtain ⟨file', hfile', heq⟩ := Option.map_eq_some_iff.mp hmap
    cases heq
    have hpatient := h e he file hfile'
    cases file with
    | pipeEnd pipe side => cases hpatient
    | stored number access offset =>
      dsimp only at hwaits
      split at hwaits <;> cases hwaits
    | _ => cases hwaits

end Machine

end PipeShell
