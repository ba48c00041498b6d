import Mathlib.Order.Nat
import PipeShell.Machine.Step

/-!
# What goes on aside

Most of a step concerns one process. What it does to everything else is the same for nearly every
call, and `Machine.Drift` says it once: the shell's table stays, pipe ends stay what they are, new
open files are ends of new pipes if they are pipe ends at all, pipes keep their capacity, and every
process is left alone or ended. `Process.Aside` is the part about a single process.

Drift is reflexive and transitive, so a step is taken apart into calls, and one lemma says of each
call that it is a drift.
-/

namespace PipeShell

variable {σ : Type}

@[simp] theorem DescriptorTable.get?_empty (fd : Fd) :
    ({} : DescriptorTable).get? fd = none := by
  cases fd <;> simp [DescriptorTable.get?]

/-! ### Processes -/

/-- What may happen to a process while others step: nothing that matters, the loss of an ending
that only another process could have asked for, or its end. -/
structure Process.Aside (c c' : Process σ) : Prop where
  maker : c.maker = .shell → c'.maker = .shell
  fate : (c'.table = c.table ∧ c'.life = c.life) ∨
    (c.maker ≠ .shell ∧ (∃ how, c.life = .ended how) ∧ c'.life = .collected ∧
      c'.table = c.table) ∨
    (c.life.isActive = true ∧ c'.life.isActive = false ∧ c'.table = {})

namespace Process.Aside

theorem refl (c : Process σ) : c.Aside c := ⟨id, .inl ⟨rfl, rfl⟩⟩

theorem trans {c c' c'' : Process σ} (h : c.Aside c') (h' : c'.Aside c'') : c.Aside c'' := by
  refine ⟨fun hm => h'.maker (h.maker hm), ?_⟩
  obtain ⟨ht, hl⟩ | ⟨hm, ⟨how, hl⟩, hl', ht⟩ | ⟨hl, hl', ht⟩ := h.fate
  · obtain ⟨ht', hl'⟩ | ⟨hm', ⟨how, hl'⟩, hl'', ht'⟩ | ⟨ha, ha', ht'⟩ := h'.fate
    · exact .inl ⟨ht'.trans ht, hl'.trans hl⟩
    · exact .inr (.inl ⟨fun hm => hm' (h.maker hm), ⟨how, hl ▸ hl'⟩, hl'', ht'.trans ht⟩)
    · exact .inr (.inr ⟨hl ▸ ha, ha', ht'⟩)
  · obtain ⟨ht', hl''⟩ | ⟨-, ⟨how', hl''⟩, -, -⟩ | ⟨ha, -, -⟩ := h'.fate
    · exact .inr (.inl ⟨hm, ⟨how, hl⟩, hl''.trans hl', ht'.trans ht⟩)
    · rw [hl'] at hl''
      cases hl''
    · rw [hl'] at ha
      cases ha
  · obtain ⟨ht', hl''⟩ | ⟨-, -, hl'', ht'⟩ | ⟨ha, -, -⟩ := h'.fate
    · exact .inr (.inr ⟨hl, hl'' ▸ hl', ht'.trans ht⟩)
    · exact .inr (.inr ⟨hl, by rw [hl'']; rfl, ht'.trans ht⟩)
    · rw [hl'] at ha
      cases ha

/-- Who is over stays over, and keeps what is left of its table. -/
theorem of_inactive {c c' : Process σ} (h : c.Aside c') (hlife : c.life.isActive = false) :
    c'.life.isActive = false ∧ c'.table = c.table := by
  obtain ⟨ht, hl⟩ | ⟨-, -, hl, ht⟩ | ⟨hactive, -, -⟩ := h.fate
  · exact ⟨hl ▸ hlife, ht⟩
  · exact ⟨by rw [hl]; rfl, ht⟩
  · rw [hlife] at hactive
    cases hactive

end Process.Aside

/-- Whether a read or a write may have to wait for somebody. -/
def OpenFile.mayWait : OpenFile → Bool
  | pipeEnd _ _ => true
  | terminal => true
  | _ => false

namespace Machine

/-- An open file that nobody ever has to wait for. -/
def IsPatient (m : Machine σ) (k : Nat) : Prop :=
  ∀ file, m.files[k]? = some file → file.mayWait = false

/-! ### Drift -/

/-- What may happen to all that a step is not about. -/
structure Drift (m m' : Machine σ) : Prop where
  table : m'.table = m.table
  discardsEnded : m'.discardsEnded = m.discardsEnded
  pipeCapacity : m'.pipeCapacity = m.pipeCapacity
  files_le : m.files.size ≤ m'.files.size
  ends : ∀ k < m.files.size, ∀ pipe side,
    m'.files[k]? = some (.pipeEnd pipe side) ↔ m.files[k]? = some (.pipeEnd pipe side)
  newEnds : ∀ k, m.files.size ≤ k → ∀ pipe side,
    m'.files[k]? = some (.pipeEnd pipe side) → m.pipes.size ≤ pipe
  patient : ∀ k < m.files.size, m.IsPatient k → m'.IsPatient k
  pipes_le : m.pipes.size ≤ m'.pipes.size
  capacity : ∀ (q : Nat) (pipe : Pipe), m.pipes[q]? = some pipe →
    ∃ pipe' : Pipe, m'.pipes[q]? = some pipe' ∧ pipe'.capacity = pipe.capacity
  children_size : m'.children.size = m.children.size
  aside : ∀ (pid : Pid) (c : Process σ), m.children[pid]? = some c →
    ∃ c', m'.children[pid]? = some c' ∧ c.Aside c'

theorem files_lt {m : Machine σ} {k : Nat} {file : OpenFile} (h : m.files[k]? = some file) :
    k < m.files.size :=
  (Array.getElem?_eq_some_iff.mp h).1

namespace Drift

variable {m m' m'' : Machine σ}

/-- A change to the processes alone is a drift if every process is left aside. -/
theorem of_children (children : Array (Process σ)) (hsize : children.size = m.children.size)
    (haside : ∀ (pid : Pid) (c : Process σ), m.children[pid]? = some c →
      ∃ c', children[pid]? = some c' ∧ c.Aside c') :
    m.Drift { m with children } where
  table := rfl
  discardsEnded := rfl
  pipeCapacity := rfl
  files_le := le_rfl
  ends _ _ _ _ := Iff.rfl
  newEnds _ hk _ _ h := absurd (files_lt h) hk.not_gt
  patient _ _ h := h
  pipes_le := le_rfl
  capacity _ pipe h := ⟨pipe, h, rfl⟩
  children_size := hsize
  aside := haside

/-- A change to what a drift is not about is a drift. -/
theorem of_same (htable : m'.table = m.table) (hchildren : m'.children = m.children)
    (hpipes : m'.pipes = m.pipes) (hfiles : m'.files = m.files)
    (hcapacity : m'.pipeCapacity = m.pipeCapacity)
    (hdiscards : m'.discardsEnded = m.discardsEnded) : m.Drift m' where
  table := htable
  discardsEnded := hdiscards
  pipeCapacity := hcapacity
  files_le := hfiles ▸ le_rfl
  ends _ _ _ _ := hfiles ▸ Iff.rfl
  newEnds _ hk _ _ h := absurd (files_lt (hfiles ▸ h)) hk.not_gt
  patient _ _ h := fun file hfile => h file (hfiles ▸ hfile)
  pipes_le := hpipes ▸ le_rfl
  capacity _ pipe h := ⟨pipe, hpipes ▸ h, rfl⟩
  children_size := hchildren ▸ rfl
  aside _ c h := ⟨c, hchildren ▸ h, .refl c⟩

theorem refl (m : Machine σ) : m.Drift m :=
  of_same rfl rfl rfl rfl rfl rfl

theorem trans (h : m.Drift m') (h' : m'.Drift m'') : m.Drift m'' where
  table := h'.table.trans h.table
  discardsEnded := h'.discardsEnded.trans h.discardsEnded
  pipeCapacity := h'.pipeCapacity.trans h.pipeCapacity
  files_le := h.files_le.trans h'.files_le
  ends k hk pipe side :=
    (h'.ends k (hk.trans_le h.files_le) pipe side).trans (h.ends k hk pipe side)
  newEnds k hk pipe side hend := by
    rcases Nat.lt_or_ge k m'.files.size with hlt | hge
    · exact h.newEnds k hk pipe side ((h'.ends k hlt pipe side).mp hend)
    · exact h.pipes_le.trans (h'.newEnds k hge pipe side hend)
  patient k hk hpatient := h'.patient k (hk.trans_le h.files_le) (h.patient k hk hpatient)
  pipes_le := h.pipes_le.trans h'.pipes_le
  capacity q pipe hq := by
    obtain ⟨pipe', hq', hcap⟩ := h.capacity q pipe hq
    obtain ⟨pipe'', hq'', hcap'⟩ := h'.capacity q pipe' hq'
    exact ⟨pipe'', hq'', hcap'.trans hcap⟩
  children_size := h'.children_size.trans h.children_size
  aside pid c hc := by
    obtain ⟨c', hc', ha⟩ := h.aside pid c hc
    obtain ⟨c'', hc'', ha'⟩ := h'.aside pid c' hc'
    exact ⟨c'', hc'', ha.trans ha'⟩

/-- Every process was there before. -/
theorem exists_aside (h : m.Drift m') {pid : Pid} {c' : Process σ}
    (hc' : m'.children[pid]? = some c') : ∃ c, m.children[pid]? = some c ∧ c.Aside c' := by
  have hlt : pid < m.children.size :=
    h.children_size ▸ (Array.getElem?_eq_some_iff.mp hc').1
  obtain ⟨d, hd, haside⟩ := h.aside pid _ (Array.getElem?_eq_getElem hlt)
  obtain rfl : d = c' := Option.some.inj (hd.symm.trans hc')
  exact ⟨_, Array.getElem?_eq_getElem hlt, haside⟩

end Drift

/-! ### Calls that are about files -/

section Files

variable {m m' : Machine σ}

/-- A change to the contents of files and pipes that leaves the pipe ends where they are. -/
theorem Drift.of_files (files : Array OpenFile) (pipes : Array Pipe) (tree : FileTree)
    (terminal : Terminal)
    (hsize : m.files.size ≤ files.size)
    (hends : ∀ k < m.files.size, ∀ pipe side,
      files[k]? = some (.pipeEnd pipe side) ↔ m.files[k]? = some (.pipeEnd pipe side))
    (hnew : ∀ k, m.files.size ≤ k → ∀ pipe side, files[k]? = some (.pipeEnd pipe side) →
      m.pipes.size ≤ pipe)
    (hpatient : ∀ k < m.files.size, m.IsPatient k → ∀ file, files[k]? = some file →
      file.mayWait = false)
    (hpipes : m.pipes.size ≤ pipes.size)
    (hcap : ∀ (q : Nat) (pipe : Pipe), m.pipes[q]? = some pipe →
      ∃ pipe' : Pipe, pipes[q]? = some pipe' ∧ pipe'.capacity = pipe.capacity) :
    m.Drift { m with files, pipes, tree, terminal } where
  table := rfl
  discardsEnded := rfl
  pipeCapacity := rfl
  files_le := hsize
  ends := hends
  newEnds := hnew
  patient := hpatient
  pipes_le := hpipes
  capacity := hcap
  children_size := rfl
  aside _ c h := ⟨c, h, .refl c⟩

/-- Nothing is said about the tree, the terminal, and what the shell knows of signals. -/
theorem Drift.of_tree (tree : FileTree) (terminal : Terminal) :
    m.Drift { m with tree, terminal } :=
  .of_same rfl rfl rfl rfl rfl rfl

/-- A file that is no pipe end stays none. -/
theorem drift_setFile {number : Nat} {file : OpenFile}
    (hold : ∀ pipe side, m.files[number]? ≠ some (.pipeEnd pipe side))
    (hnew : file.mayWait = false) : m.Drift (m.setFile number file) := by
  refine .of_files (m.files.setIfInBounds number file) m.pipes m.tree m.terminal
    (Array.size_setIfInBounds ..).ge (fun k hk pipe side => ?_) (fun k hk pipe side h => ?_)
    (fun k hk hpatient file' h => ?_) le_rfl fun _ pipe h => ⟨pipe, h, rfl⟩
  · -- the file was no pipe end and is none now, and the others are what they were
    rw [Array.getElem?_setIfInBounds]
    split
    · rename_i heq
      subst heq
      rw [if_pos hk]
      refine iff_of_false (fun h => ?_) (hold pipe side)
      rw [Option.some.inj h] at hnew
      cases hnew
    · rfl
  · rw [Array.getElem?_eq_none (by rw [Array.size_setIfInBounds]; exact hk)] at h
    cases h
  · rw [Array.getElem?_setIfInBounds] at h
    split at h
    · split at h
      · cases h
        exact hnew
      · cases h
    · exact hpatient file' h

theorem drift_addFile {file : OpenFile} (hnew : ∀ pipe side, file ≠ .pipeEnd pipe side) :
    m.Drift (m.addFile file) := by
  refine .of_files (m.files.push file) m.pipes m.tree m.terminal
    (by rw [Array.size_push]; exact Nat.le_succ _) (fun k hk pipe side => ?_)
    (fun k hk pipe side h => ?_) (fun k hk hpatient file' h => ?_) le_rfl
    fun _ pipe h => ⟨pipe, h, rfl⟩
  · rw [Array.getElem?_push_lt hk, Array.getElem?_eq_getElem hk]
  · rcases hk.eq_or_lt with rfl | hlt
    · rw [Array.getElem?_push_size] at h
      exact absurd (Option.some.inj h) (hnew pipe side)
    · rw [Array.getElem?_eq_none (by rw [Array.size_push]; exact hlt)] at h
      cases h
  · rw [Array.getElem?_push_lt hk] at h
    exact hpatient file' ((Array.getElem?_eq_getElem hk).trans h)

/-- The open files with both ends of a new pipe. -/
def withEnds (m : Machine σ) : Array OpenFile :=
  (m.files.push (.pipeEnd m.pipes.size .read)).push (.pipeEnd m.pipes.size .write)

@[simp] theorem size_withEnds (m : Machine σ) : m.withEnds.size = m.files.size + 2 := by
  rw [withEnds, Array.size_push, Array.size_push]

theorem getElem?_withEnds (m : Machine σ) (k : Nat) :
    m.withEnds[k]? = if k = m.files.size + 1 then some (.pipeEnd m.pipes.size .write)
      else if k = m.files.size then some (.pipeEnd m.pipes.size .read) else m.files[k]? := by
  rw [withEnds, Array.getElem?_push, Array.size_push, Array.getElem?_push]

/-- What was there before is there again. -/
theorem getElem?_withEnds_of_lt {k : Nat} (hk : k < m.files.size) :
    m.withEnds[k]? = m.files[k]? := by
  rw [getElem?_withEnds, if_neg (by omega), if_neg (by omega)]

/-- A new pipe with both its ends. -/
theorem drift_makeEnds (m : Machine σ) :
    m.Drift { m with
      files := m.withEnds
      pipes := m.pipes.push { capacity := m.pipeCapacity } } := by
  have hpipes : m.pipes.size ≤ (m.pipes.push { capacity := m.pipeCapacity }).size := by
    rw [Array.size_push]
    exact Nat.le_succ _
  refine .of_files _ _ m.tree m.terminal (m.size_withEnds ▸ Nat.le_add_right _ _)
    (fun k hk pipe side => ?_) (fun k hk pipe side h => ?_) (fun k hk hpatient file h => ?_)
    hpipes fun q pipe hq => ⟨pipe, ?_, rfl⟩
  · rw [getElem?_withEnds_of_lt hk]
  · -- behind the old files there are the ends of the new pipe only
    rw [getElem?_withEnds] at h
    split at h
    · cases h
      exact le_rfl
    · split at h
      · cases h
        exact le_rfl
      · exact absurd (files_lt h) hk.not_gt
  · rw [getElem?_withEnds_of_lt hk] at h
    exact hpatient file h
  · rw [Array.getElem?_push_lt (Array.getElem?_eq_some_iff.mp hq).1]
    exact congrArg some (Array.getElem?_eq_some_iff.mp hq).2

/-- The content of a pipe may change. -/
theorem drift_setPipe {number : Nat} {pipe : Pipe} (content : Bytes)
    (h : m.pipes[number]? = some pipe) :
    m.Drift { m with pipes := m.pipes.setIfInBounds number { pipe with content } } := by
  refine .of_files m.files _ m.tree m.terminal le_rfl (fun _ _ _ _ => Iff.rfl)
    (fun _ hk _ _ h => absurd (files_lt h) hk.not_gt) (fun _ _ h => h)
    (Array.size_setIfInBounds ..).ge fun q pipe' hq => ?_
  rw [Array.getElem?_setIfInBounds]
  split
  · rename_i heq
    subst heq
    rw [h] at hq
    cases hq
    exact ⟨_, if_pos (Array.getElem?_eq_some_iff.mp h).1, rfl⟩
  · exact ⟨pipe', hq, rfl⟩

/-- What a descriptor refers to is an open file of the machine. -/
theorem files_of_file? {table : DescriptorTable} {fd : Fd} {number : Nat} {file : OpenFile}
    (h : m.file? table fd = some (number, file)) : m.files[number]? = some file := by
  rw [file?, Option.bind_eq_some_iff] at h
  obtain ⟨entry, -, h⟩ := h
  obtain ⟨file', hfile, heq⟩ := Option.map_eq_some_iff.mp h
  cases heq
  exact hfile

/-- What a read or a write may do: octets are moved, and nothing else. -/
structure Transfer (m m' : Machine σ) : Prop where
  drift : m.Drift m'
  children : m'.children = m.children
  files_size : m'.files.size = m.files.size
  pipes_size : m'.pipes.size = m.pipes.size
  shellKilledBy : m'.shellKilledBy = m.shellKilledBy

theorem Transfer.refl (m : Machine σ) : m.Transfer m := ⟨.refl m, rfl, rfl, rfl, rfl⟩

theorem Transfer.trans {m'' : Machine σ} (h : m.Transfer m') (h' : m'.Transfer m'') :
    m.Transfer m'' :=
  ⟨h.drift.trans h'.drift, h'.children.trans h.children, h'.files_size.trans h.files_size,
    h'.pipes_size.trans h.pipes_size, h'.shellKilledBy.trans h.shellKilledBy⟩

theorem transfer_readFrom {table : DescriptorTable} {fd : Fd} {size : Nat} {answer}
    (h : m.readFrom table fd size = some (answer, m')) : m.Transfer m' := by
  rw [readFrom] at h
  split at h
  · cases h
    exact .refl m
  · rename_i number file hfile
    have hnumber := files_of_file? hfile
    cases file with
    | source content offset =>
      cases h
      exact ⟨drift_setFile (by simp [hnumber]) rfl, rfl, Array.size_setIfInBounds .., rfl, rfl⟩
    | sink reversed => cases h; exact .refl m
    | stored stored access offset =>
      dsimp only at h
      split at h
      · cases h
        exact ⟨drift_setFile (by simp [hnumber]) rfl, rfl, Array.size_setIfInBounds .., rfl, rfl⟩
      · cases h
        exact .refl m
    | null => cases h; exact .refl m
    | zeros => cases h; exact .refl m
    | directory => cases h; exact .refl m
    | terminal =>
      obtain ⟨⟨answer', terminal⟩, -, heq⟩ := Option.map_eq_some_iff.mp h
      cases heq
      exact ⟨.of_tree m.tree terminal, rfl, rfl, rfl, rfl⟩
    | pipeEnd q side =>
      cases side with
      | write => cases h; exact .refl m
      | read =>
        dsimp only at h
        split at h
        · cases h
          exact .refl m
        · rename_i pipe hpipe
          split at h
          · split at h
            · cases h
            · cases h
              exact .refl m
          · cases h
            exact ⟨drift_setPipe _ hpipe, rfl, rfl, Array.size_setIfInBounds .., rfl⟩

theorem transfer_writeTo {table : DescriptorTable} {fd : Fd} {bytes : Bytes} {count : Nat}
    (h : m.writeTo table fd bytes = .written count m') : m.Transfer m' := by
  rw [writeTo] at h
  split at h
  · cases h
  · rename_i number file hfile
    have hnumber := files_of_file? hfile
    cases file with
    | source content offset => cases h
    | sink reversed =>
      cases h
      exact ⟨drift_setFile (by simp [hnumber]) rfl, rfl, Array.size_setIfInBounds .., rfl, rfl⟩
    | stored stored access offset =>
      dsimp only at h
      split at h
      · cases h
      · cases h
        exact ⟨(Drift.of_tree _ m.terminal).trans
          (drift_setFile (by simp [hnumber]) rfl), rfl,
          Array.size_setIfInBounds .., rfl, rfl⟩
    | null => cases h; exact .refl m
    | zeros => cases h; exact .refl m
    | directory => cases h
    | terminal => cases h; exact .refl m
    | pipeEnd q side =>
      cases side with
      | read => cases h
      | write =>
        dsimp only at h
        split at h
        · cases h
        · rename_i pipe hpipe
          split at h
          · cases h
            exact .refl m
          · split at h
            · split at h
              · cases h
              · cases h
                exact ⟨drift_setPipe _ hpipe, rfl, rfl, Array.size_setIfInBounds .., rfl⟩
            · cases h

/-- What the shell's write of a text comes to: all that was left of it is taken, or nobody is there
to take it, or it fails. -/
theorem answer_writeAll_eq_some {fd : Fd} {bytes : Bytes}
    {a : (Request.writeAll fd bytes).Answer} (h : m.answer (.writeAll fd bytes) = some (a, m')) :
    (∃ count after, m.writeTo m.table fd (bytes.drop m.taken) = .written count after ∧
        bytes.length ≤ m.taken + count ∧ a = .ok () ∧ m' = { after with taken := 0 }) ∨
      (m.writeTo m.table fd (bytes.drop m.taken) = .failed .ebadf ∧ a = .ok () ∧
        m' = { m with taken := 0 }) ∨
      ∃ cause, a = .error cause ∧ m' = m := by
  rw [answer] at h
  dsimp only [writeRest] at h
  split at h
  · rename_i count after hwrite
    split at h
    · cases h
    · cases h
      exact .inl ⟨count, after, hwrite, by omega, rfl, rfl⟩
  · cases h
    exact .inr (.inr ⟨_, rfl, rfl⟩)
  · cases h
  · rename_i hwrite
    cases h
    exact .inr (.inl ⟨hwrite, rfl, rfl⟩)
  · cases h
    exact .inr (.inr ⟨_, rfl, rfl⟩)

/-- A part of a text that is taken is less than what was left of it. -/
theorem takePart_eq_some {request : Request} (h : m.takePart request = some m') :
    ∃ fd bytes count after, request = .writeAll fd bytes ∧
      m.writeTo m.table fd (bytes.drop m.taken) = .written count after ∧
      m.taken + count < bytes.length ∧ m' = { after with taken := m.taken + count } := by
  rw [takePart.eq_def] at h
  split at h
  · rename_i fd bytes
    dsimp only [writeRest] at h
    split at h
    · rename_i count after hwrite
      split at h
      · cases h
        exact ⟨fd, bytes, count, after, rfl, hwrite, ‹_›, rfl⟩
      · cases h
    · cases h
  · cases h

theorem transfer_setTaken (m : Machine σ) (taken : Nat) : m.Transfer { m with taken } :=
  ⟨.of_same rfl rfl rfl rfl rfl rfl, rfl, rfl, rfl, rfl⟩

/-- What happens when the shell shows a text, or a part of it: nothing that matters, or a write. -/
inductive Shows (m : Machine σ) (fd : Fd) : Machine σ → Prop where
  | nothing (taken : Nat) : Shows m fd { m with taken }
  | writes {bytes : Bytes} {count : Nat} {after : Machine σ} (taken : Nat)
    (write : m.writeTo m.table fd bytes = .written count after) : Shows m fd { after with taken }

theorem shows_of_answer {fd : Fd} {bytes : Bytes} {a : (Request.writeAll fd bytes).Answer}
    (h : m.answer (.writeAll fd bytes) = some (a, m')) : m.Shows fd m' := by
  obtain ⟨count, after, hwrite, -, -, rfl⟩ | ⟨-, -, rfl⟩ | ⟨cause, -, rfl⟩ :=
    answer_writeAll_eq_some h
  · exact .writes 0 hwrite
  · exact .nothing 0
  · exact .nothing m'.taken

theorem shows_of_takePart {fd : Fd} {bytes : Bytes}
    (h : m.takePart (.writeAll fd bytes) = some m') : m.Shows fd m' := by
  obtain ⟨fd, bytes, count, after, heq, hwrite, -, rfl⟩ := takePart_eq_some h
  cases heq
  exact .writes _ hwrite

theorem Shows.transfer {fd : Fd} (h : m.Shows fd m') : m.Transfer m' := by
  cases h with
  | nothing taken => exact transfer_setTaken m taken
  | writes taken write => exact (transfer_writeTo write).trans (transfer_setTaken _ taken)

end Files

/-! ### Calls that are about processes -/

section Processes

variable {m m' : Machine σ}

theorem getElem?_setChild (m : Machine σ) (pid other : Pid) (c : Process σ) :
    (m.setChild pid c).children[other]? =
      if pid = other then (if pid < m.children.size then some c else none)
      else m.children[other]? :=
  Array.getElem?_setIfInBounds

theorem getElem?_setChild_self {pid : Pid} {c c' : Process σ} (h : m.children[pid]? = some c) :
    (m.setChild pid c').children[pid]? = some c' := by
  rw [getElem?_setChild, if_pos rfl, if_pos (Array.getElem?_eq_some_iff.mp h).1]

theorem getElem?_setChild_of_ne {pid other : Pid} {c : Process σ} (h : pid ≠ other) :
    (m.setChild pid c).children[other]? = m.children[other]? := by
  rw [getElem?_setChild, if_neg h]

/-- Changing one process aside is a drift. -/
theorem drift_setChild {pid : Pid} {c c' : Process σ} (h : m.children[pid]? = some c)
    (haside : c.Aside c') : m.Drift (m.setChild pid c') := by
  refine .of_children _ (Array.size_setIfInBounds ..) fun other d hd => ?_
  rcases eq_or_ne pid other with rfl | hne
  · rw [h] at hd
    cases hd
    exact ⟨c', getElem?_setChild_self h, haside⟩
  · exact ⟨d, (getElem?_setChild_of_ne hne).trans hd, .refl d⟩

theorem drift_notice (m : Machine σ) (maker : Maker) : m.Drift (m.notice maker) := by
  rw [notice.eq_def]
  split
  · split
    · exact .refl m
    · rename_i child hchild
      split
      · exact drift_setChild hchild ⟨id, .inl ⟨rfl, rfl⟩⟩
      · exact .refl m
  · exact .refl m

/-- Losing the process that has made it does nothing to a process that runs. -/
theorem aside_orphan (pid : Pid) (c : Process σ) : c.Aside (orphan pid c) := by
  rw [orphan]
  split
  · rename_i hmaker
    have hne : c.maker ≠ .shell := by rw [hmaker]; simp
    refine ⟨fun h => absurd h hne, ?_⟩
    -- nobody is left who could ask for its ending
    cases hlife : c.life with
    | ended how => exact .inr (.inl ⟨hne, ⟨how, rfl⟩, rfl, rfl⟩)
    | preparing todo => exact .inl ⟨rfl, rfl⟩
    | running program => exact .inl ⟨rfl, rfl⟩
    | collected => exact .inl ⟨rfl, rfl⟩
  · exact .refl c

/-- How a process is left by its end. -/
def withEnding (m : Machine σ) (c : Process σ) (how : Ending) : Process σ :=
  { c with
    table := {}
    stopped := false
    life := if m.leavesEnding c then .ended how else .collected }

theorem aside_withEnding {c : Process σ} (m : Machine σ) (how : Ending)
    (hactive : c.life.isActive = true) : c.Aside (m.withEnding c how) := by
  refine ⟨id, .inr (.inr ⟨hactive, ?_, rfl⟩)⟩
  cases h : m.leavesEnding c <;> simp [withEnding, h, Life.isActive]

theorem finish_eq {pid : Pid} {c : Process σ} (how : Ending) (h : m.children[pid]? = some c) :
    m.finish pid how =
      let m' := (m.setChild pid (m.withEnding c how)).notice c.maker
      if m'.children.any fun other => other.maker = .process pid then
        { m' with children := m'.children.map (orphan pid) }
      else m' := by
  rw [finish.eq_def]
  simp only [h]
  rfl

/-- What the end of a process means for others is a drift. -/
theorem drift_finish_withEnding {pid : Pid} {c : Process σ} (how : Ending)
    (h : m.children[pid]? = some c) :
    (m.setChild pid (m.withEnding c how)).Drift (m.finish pid how) := by
  have hnotice := drift_notice (m.setChild pid (m.withEnding c how)) c.maker
  rw [finish_eq how h]
  dsimp only
  split
  · -- the processes that it has made lose their maker
    refine hnotice.trans (.of_children _ (Array.size_map ..) fun other d hd => ?_)
    exact ⟨orphan pid d, by rw [Array.getElem?_map, show _ = some d from hd]; rfl,
      aside_orphan pid d⟩
  · exact hnotice

/-- The end of a process is a drift. -/
theorem drift_finish {pid : Pid} {c : Process σ} (how : Ending) (h : m.children[pid]? = some c)
    (hactive : c.life.isActive = true) : m.Drift (m.finish pid how) :=
  (drift_setChild h (aside_withEnding m how hactive)).trans (drift_finish_withEnding how h)

theorem drift_deliver {pid : Pid} {c : Process σ} (number : Nat) (h : m.children[pid]? = some c)
    (hactive : c.life.isActive = true) : m.Drift (m.deliver pid c number) := by
  rw [deliver.eq_def]
  split
  · exact drift_finish _ h hactive
  · split
    · exact drift_setChild h ⟨id, .inl ⟨rfl, rfl⟩⟩
    · split
      · exact .refl m
      · split
        · exact drift_setChild h ⟨id, .inl ⟨rfl, rfl⟩⟩
        · split
          · exact drift_finish _ h hactive
          · exact drift_setChild h ⟨id, .inl ⟨rfl, rfl⟩⟩
          · exact .refl m

theorem drift_signalChild (m : Machine σ) (pid : Pid) (number : Nat) :
    m.Drift (m.signalChild pid number).2 := by
  rw [signalChild.eq_def]
  split
  · exact .refl m
  · rename_i c hc
    split
    · exact .refl m
    · exact .refl m
    · rename_i hcollected hended
      refine drift_deliver number hc ?_
      cases hlife : c.life with
      | preparing todo => rfl
      | running program => rfl
      | ended how => exact absurd hlife (hended how)
      | collected => exact absurd hlife hcollected

/-- A process that is sent the signal that cannot be refused is over. -/
theorem inactive_of_kill {pid : Pid} {c' : Process σ}
    (h : (m.signalChild pid Signal.kill.number).2.children[pid]? = some c') :
    c'.life.isActive = false := by
  rw [signalChild.eq_def] at h
  cases hc : m.children[pid]? with
  | none =>
    simp only [hc] at h
    cases h
  | some c =>
    simp only [hc] at h
    split at h
    · rename_i hlife
      obtain rfl : c = c' := Option.some.inj (hc.symm.trans h)
      rw [hlife]
      rfl
    · rename_i how hlife
      obtain rfl : c = c' := Option.some.inj (hc.symm.trans h)
      rw [hlife]
      rfl
    · -- what its end means for others does not bring it back
      rw [deliver, if_pos rfl] at h
      obtain ⟨d, hd, haside⟩ :=
        (drift_finish_withEnding (.killed Signal.kill.number) hc).exists_aside h
      rw [getElem?_setChild_self hc] at hd
      obtain rfl := Option.some.inj hd
      refine (haside.of_inactive ?_).1
      cases hleaves : m.leavesEnding c <;> simp [withEnding, hleaves, Life.isActive]

/-- What the shell learns of signals is nothing that a drift is about. -/
theorem drift_signalShell (m : Machine σ) (number : Nat) : m.Drift (m.signalShell number) := by
  have key : ∀ survives stops shellKilledBy,
      m.Drift { m with survives, stops, shellKilledBy } := fun _ _ _ =>
    .of_same rfl rfl rfl rfl rfl rfl
  rw [signalShell.eq_def]
  split
  · exact .refl m
  · split
    · exact key _ _ _
    · split
      · split
        · exact key _ _ _
        · split
          · exact key _ _ _
          · exact .refl m
      · split
        · exact key _ _ _
        · exact .refl m

theorem children_signalShell (m : Machine σ) (number : Nat) :
    (m.signalShell number).children = m.children := by
  rw [signalShell.eq_def]
  repeat' split
  all_goals rfl

end Processes

end Machine

end PipeShell
