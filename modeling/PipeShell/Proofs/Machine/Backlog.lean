import PipeShell.Proofs.Machine.Transfer
import PipeShell.Proofs.Machine.Wired

/-!
# What is left in an open file

The octets that a reader of an open file would still get, and what reads and writes do to them. A
read takes octets from the front, a write adds octets at the back, and neither concerns any other
open file, unless both are ends of one pipe.

* `Machine.backlog` are these octets; of a file that is written they are all that has been written.
* `Machine.Shares` and `Machine.Untouched` say which files a read or a write may concern, and that
  nothing has happened to a file.
* `Machine.delivers_of_readFrom` and `Machine.accepts_of_writeTo` say what a read and a write do.
-/

namespace PipeShell

variable {σ : Type}

namespace Machine

/-- What is left in an open file: what a source still has, what has been written to a sink, what a
pipe holds. -/
def backlog (m : Machine σ) (k : Nat) : Bytes :=
  match m.files[k]? with
  | some (.source content offset) => content.drop offset
  | some (.sink reversed) => reversed.reverse
  | some (.pipeEnd pipe _) => (m.pipes[pipe]?.map Pipe.content).getD []
  | _ => []

/-- Whether two open files are one, or are ends of one pipe. -/
def Shares (m : Machine σ) (k k' : Nat) : Prop :=
  k = k' ∨ ∃ pipe side side', m.files[k]? = some (.pipeEnd pipe side) ∧
    m.files[k']? = some (.pipeEnd pipe side')

/-- Nothing has happened to an open file, or to its pipe: nothing has been taken and nothing has
been added. -/
structure Untouched (m : Machine σ) (m' : Machine σ) (k : Nat) : Prop where
  file : m'.files[k]? = m.files[k]?
  pipe : ∀ pipe side, m.files[k]? = some (.pipeEnd pipe side) → m'.pipes[pipe]? = m.pipes[pipe]?

/-- An open file from which programs can read: a source, or the end of a pipe. -/
inductive IsInlet (m : Machine σ) (k : Nat) : Prop where
  | source {content offset} (file : m.files[k]? = some (.source content offset))
  | pipe {number pipe} (file : m.files[k]? = some (.pipeEnd number .read))
    (pipe_eq : m.pipes[number]? = some pipe)

/-- An open file to which programs can write: a sink, or the end of a pipe. -/
inductive IsOutlet (m : Machine σ) (k : Nat) : Prop where
  | sink {reversed} (file : m.files[k]? = some (.sink reversed))
  | pipe {number pipe} (file : m.files[k]? = some (.pipeEnd number .write))
    (pipe_eq : m.pipes[number]? = some pipe)

section Backlog

variable {m m' m'' : Machine σ} {k k' : Nat}

/-- What is no end of a pipe has nothing in common with another open file. -/
theorem not_shares_of_ne (hne : k ≠ k')
    (hfile : ∀ pipe side, m.files[k]? ≠ some (.pipeEnd pipe side)) : ¬ m.Shares k k' := by
  rintro (heq | ⟨pipe, side, side', hend, -⟩)
  · exact hne heq
  · exact hfile pipe side hend

theorem backlog_source {content : Bytes} {offset : Nat}
    (h : m.files[k]? = some (.source content offset)) : m.backlog k = content.drop offset := by
  rw [backlog, h]

theorem backlog_sink {reversed : Bytes} (h : m.files[k]? = some (.sink reversed)) :
    m.backlog k = reversed.reverse := by
  rw [backlog, h]

theorem backlog_pipeEnd {number : Nat} {side : Side} {pipe : Pipe}
    (h : m.files[k]? = some (.pipeEnd number side)) (hpipe : m.pipes[number]? = some pipe) :
    m.backlog k = pipe.content := by
  rw [backlog, h]
  dsimp only
  rw [hpipe]
  rfl

theorem backlog_setPipe {number : Nat} {side : Side} {pipe pipe' : Pipe}
    (h : m.files[k]? = some (.pipeEnd number side)) (hpipe : m.pipes[number]? = some pipe) :
    ({ m with pipes := m.pipes.setIfInBounds number pipe' } : Machine σ).backlog k =
      pipe'.content :=
  backlog_pipeEnd (m := { m with pipes := m.pipes.setIfInBounds number pipe' }) h
    (Array.getElem?_setIfInBounds_self_of_lt (Array.getElem?_eq_some_iff.mp hpipe).1)

theorem backlog_eq_nil (h : m.files[k]? = none) : m.backlog k = [] := by
  rw [backlog, h]

/-- What has been written to a sink is what is left in it. -/
theorem written_eq_backlog {reversed : Bytes} (h : m.files[k]? = some (.sink reversed)) :
    m.written k = m.backlog k := by
  rw [backlog_sink h, written, h]
  rfl

/-- Both ends of a pipe hold the same. -/
theorem backlog_eq_of_ends {number : Nat} {side side' : Side}
    (h : m.files[k]? = some (.pipeEnd number side))
    (h' : m.files[k']? = some (.pipeEnd number side')) : m.backlog k = m.backlog k' := by
  rw [backlog, backlog, h, h']

namespace Untouched

theorem refl (m : Machine σ) (k : Nat) : m.Untouched m k := ⟨rfl, fun _ _ _ => rfl⟩

theorem trans (h : m.Untouched m' k) (h' : m'.Untouched m'' k) : m.Untouched m'' k :=
  ⟨h'.file.trans h.file, fun pipe side hk =>
    (h'.pipe pipe side (h.file.trans hk)).trans (h.pipe pipe side hk)⟩

theorem backlog_eq (h : m.Untouched m' k) : m'.backlog k = m.backlog k := by
  rw [backlog, backlog, h.file]
  split
  · rfl
  · rfl
  · rename_i pipe side hk
    rw [h.pipe pipe side hk]
  · rfl

theorem inlet (h : m.Untouched m' k) (hin : m.IsInlet k) : m'.IsInlet k := by
  cases hin with
  | source file => exact .source (h.file.trans file)
  | pipe file pipe_eq => exact .pipe (h.file.trans file) ((h.pipe _ _ file).trans pipe_eq)

theorem outlet (h : m.Untouched m' k) (hout : m.IsOutlet k) : m'.IsOutlet k := by
  cases hout with
  | sink file => exact .sink (h.file.trans file)
  | pipe file pipe_eq => exact .pipe (h.file.trans file) ((h.pipe _ _ file).trans pipe_eq)

/-- Nothing has happened to any file if files and pipes are what they were. -/
theorem of_eq (hfiles : m'.files = m.files) (hpipes : m'.pipes = m.pipes) (k : Nat) :
    m.Untouched m' k :=
  ⟨by rw [hfiles], fun _ _ _ => by rw [hpipes]⟩

theorem of_setFile {file : OpenFile} (hne : k ≠ k') : m.Untouched (m.setFile k' file) k :=
  ⟨Array.getElem?_setIfInBounds_ne hne.symm, fun _ _ _ => rfl⟩

theorem of_setPipe {number : Nat} {side : Side} {pipe : Pipe}
    (hk' : m.files[k']? = some (.pipeEnd number side)) (hshares : ¬ m.Shares k k') :
    m.Untouched { m with pipes := m.pipes.setIfInBounds number pipe } k :=
  ⟨rfl, fun _ side' hk => Array.getElem?_setIfInBounds_ne fun heq =>
    hshares (.inr ⟨number, side', side, by rwa [heq], hk'⟩)⟩

end Untouched

/-! ### Reads -/

/-- What a read of an open file does that gives `data`. -/
structure Delivers (m : Machine σ) (k size : Nat) (data : Bytes) (m' : Machine σ) : Prop where
  fits : data.length ≤ size
  backlog_eq : m.backlog k = data ++ m'.backlog k
  nothing : data = [] → 0 < size → m.backlog k = [] ∧
    ∀ pipe, m.files[k]? = some (.pipeEnd pipe .read) → m.isHeld pipe .write = false
  inlet : m'.IsInlet k
  others : ∀ k', ¬ m.Shares k' k → m.Untouched m' k'
  terminal : m'.terminal = m.terminal

variable {table : DescriptorTable} {fd : Fd} {e : Entry}

/-- **A read takes octets from the front.** If there are none, nothing is left, and nobody holds
the end for writing. -/
theorem delivers_of_readFrom {size : Nat} {answer : Except Errno Bytes}
    (he : table.get? fd = some e) (hin : m.IsInlet e.file)
    (h : m.readFrom table fd size = some (answer, m')) :
    ∃ data, answer = .ok data ∧ m.Delivers e.file size data m' := by
  cases hin with
  | @source content offset hfile =>
    rw [readFrom, file?_eq he hfile] at h
    cases h
    have hfile' : (m.setFile e.file (.source content (offset +
        ((content.drop offset).take size).length))).files[e.file]? = some (.source content
          (offset + ((content.drop offset).take size).length)) :=
      Array.getElem?_setIfInBounds_self_of_lt (files_lt hfile)
    refine ⟨_, rfl, List.length_take_le .., ?_, fun hnil hsize => ⟨?_, ?_⟩, .source hfile',
      fun k' hshares => .of_setFile fun heq => hshares (.inl heq), rfl⟩
    · rw [backlog_source hfile, backlog_source hfile', ← List.drop_drop]
      -- what has been taken and what is left make up what there was
      conv_lhs => rw [← List.take_append_drop size (content.drop offset)]
      rw [List.length_take]
      congr 1
      rcases Nat.le_total size (content.drop offset).length with hle | hle
      · rw [Nat.min_eq_left hle]
      · rw [Nat.min_eq_right hle, List.drop_eq_nil_of_le hle, List.drop_eq_nil_of_le le_rfl]
    · rw [backlog_source hfile]
      exact (List.take_eq_nil_iff.mp hnil).resolve_left (Nat.ne_of_gt hsize)
    · intro pipe hpipe
      rw [hfile] at hpipe
      cases hpipe
  | @pipe number pipe hfile hpipe =>
    rw [readFrom, file?_eq he hfile] at h
    simp only [hpipe] at h
    split at h
    · rename_i hempty
      have hcontent : m.backlog e.file = [] :=
        (backlog_pipeEnd hfile hpipe).trans (List.isEmpty_iff.mp hempty)
      split at h
      · cases h
      · rename_i hheld
        cases h
        refine ⟨[], rfl, Nat.zero_le _, rfl, fun _ _ => ⟨hcontent, fun number' hfile' => ?_⟩,
          .pipe hfile hpipe, fun k' _ => .refl m k', rfl⟩
        rw [hfile] at hfile'
        cases hfile'
        exact Bool.eq_false_iff.mpr hheld
    · rename_i hempty
      cases h
      refine ⟨_, rfl, List.length_take_le .., ?_, fun hnil hsize => absurd ?_ hempty,
        .pipe hfile (Array.getElem?_setIfInBounds_self_of_lt
          (Array.getElem?_eq_some_iff.mp hpipe).1), fun k' hshares => .of_setPipe hfile hshares,
        rfl⟩
      · rw [backlog_pipeEnd hfile hpipe, backlog_setPipe hfile hpipe]
        exact (List.take_append_drop size pipe.content).symm
      · exact List.isEmpty_iff.mpr
          ((List.take_eq_nil_iff.mp hnil).resolve_left (Nat.ne_of_gt hsize))

/-! ### Writes -/

/-- What a write to an open file does that takes `count` octets. -/
structure Accepts (m : Machine σ) (k : Nat) (bytes : Bytes) (count : Nat) (m' : Machine σ) :
    Prop where
  fits : count ≤ bytes.length
  progress : bytes ≠ [] → 0 < count
  backlog_eq : m'.backlog k = m.backlog k ++ bytes.take count
  outlet : m'.IsOutlet k

/-- **A write adds octets at the back.** -/
theorem accepts_of_writeTo {bytes : Bytes} {count : Nat} (he : table.get? fd = some e)
    (hout : m.IsOutlet e.file) (h : m.writeTo table fd bytes = .written count m') :
    m.Accepts e.file bytes count m' := by
  cases hout with
  | @sink reversed hfile =>
    rw [writeTo, file?_eq he hfile] at h
    cases h
    have hfile' : (m.setFile e.file (.sink (bytes.reverse ++ reversed))).files[e.file]? =
        some (.sink (bytes.reverse ++ reversed)) :=
      Array.getElem?_setIfInBounds_self_of_lt (files_lt hfile)
    refine ⟨le_rfl, List.length_pos_iff.mpr, ?_, .sink hfile'⟩
    rw [backlog_sink hfile, backlog_sink hfile', List.reverse_append, List.reverse_reverse,
      List.take_length]
  | @pipe number pipe hfile hpipe =>
    rw [writeTo, file?_eq he hfile] at h
    simp only [hpipe] at h
    split at h
    · rename_i hempty
      cases h
      refine ⟨Nat.zero_le _, fun hne => absurd (List.isEmpty_iff.mp hempty) hne, ?_,
        .pipe hfile hpipe⟩
      rw [List.take_zero, List.append_nil]
    · split at h
      · split at h
        · cases h
        · rename_i hroom
          cases h
          refine ⟨Nat.min_le_right .., fun hne => Nat.lt_min.mpr
            ⟨Nat.pos_of_ne_zero hroom, List.length_pos_iff.mpr hne⟩, ?_,
            .pipe hfile (Array.getElem?_setIfInBounds_self_of_lt
              (Array.getElem?_eq_some_iff.mp hpipe).1)⟩
          rw [backlog_pipeEnd hfile hpipe, backlog_setPipe hfile hpipe, ← List.take_take,
            List.take_length]
      · cases h

/-- A write concerns no open file that shares nothing with the one that is written. -/
theorem untouched_of_writeTo {bytes : Bytes} {count : Nat} (he : table.get? fd = some e)
    (h : m.writeTo table fd bytes = .written count m') (hshares : ¬ m.Shares k e.file) :
    m.Untouched m' k := by
  have hne : k ≠ e.file := fun heq => hshares (.inl heq)
  rw [writeTo] at h
  split at h
  · cases h
  · rename_i number file hfile?
    obtain ⟨e', he', hmap⟩ := Option.bind_eq_some_iff.mp hfile?
    obtain rfl : e = e' := Option.some.inj (he.symm.trans he')
    obtain ⟨file', hfile, heq⟩ := Option.map_eq_some_iff.mp hmap
    cases heq
    cases file with
    | source content offset => cases h
    | sink reversed => cases h; exact .of_setFile hne
    | stored stored access offset =>
      dsimp only at h
      split at h
      · cases h
      · cases h
        exact ⟨Array.getElem?_setIfInBounds_ne hne.symm, fun _ _ _ => rfl⟩
    | null => cases h; exact .refl m k
    | zeros => cases h; exact .refl m k
    | directory => cases h
    | terminal => cases h; exact .refl m k
    | pipeEnd q side =>
      cases side with
      | read => cases h
      | write =>
        dsimp only at h
        split at h
        · cases h
        · split at h
          · cases h; exact .refl m k
          · split at h
            · split at h
              · cases h
              · cases h
                exact .of_setPipe hfile hshares
            · cases h

/-- No write changes what is to be read from the terminal. -/
theorem terminal_of_writeTo {bytes : Bytes} {count : Nat}
    (h : m.writeTo table fd bytes = .written count m') : m'.terminal = m.terminal := by
  rw [writeTo] at h
  split at h
  · cases h
  · rename_i number file hfile
    cases file with
    | stored stored access offset =>
      dsimp only at h
      split at h
      · cases h
      · cases h
        rfl
    | pipeEnd q side =>
      cases side with
      | read => cases h
      | write =>
        dsimp only at h
        repeat' split at h
        all_goals cases h
        all_goals rfl
    | _ => cases h <;> rfl

/-- A write is never refused, and never breaks as long as somebody holds the end for reading. -/
theorem of_writeTo_refused {bytes : Bytes} (he : table.get? fd = some e)
    (hout : m.IsOutlet e.file)
    (h : m.writeTo table fd bytes = .broken ∨ ∃ cause, m.writeTo table fd bytes = .failed cause) :
    ∃ pipe, m.files[e.file]? = some (.pipeEnd pipe .write) ∧ m.isHeld pipe .read = false := by
  cases hout with
  | sink hfile =>
    rw [writeTo, file?_eq he hfile] at h
    obtain h | ⟨cause, h⟩ := h <;> cases h
  | @pipe number pipe hfile hpipe =>
    refine ⟨number, hfile, ?_⟩
    rw [writeTo, file?_eq he hfile] at h
    simp only [hpipe] at h
    split at h
    · obtain h | ⟨cause, h⟩ := h <;> cases h
    · split at h
      · split at h <;> obtain h | ⟨cause, h⟩ := h <;> cases h
      · rename_i hheld
        exact Bool.eq_false_iff.mpr hheld

/-! ### New pipes -/

section MakePipe

variable {read write : Fd} (hbound : ∀ (k pipe : Nat) (side : Side),
  m.files[k]? = some (.pipeEnd pipe side) → pipe < m.pipes.size)
  (hpipe : m.makePipe = (.ok (read, write), m'))

include hbound hpipe

/-- A new pipe concerns no open file that is there. -/
theorem untouched_of_makePipe (hk : k < m.files.size) : m.Untouched m' k := by
  obtain ⟨table, rfl, -⟩ := makePipe_eq_ok hpipe
  refine ⟨?_, fun pipe side hend => ?_⟩
  · exact getElem?_withEnds_of_lt hk
  · have hlt := hbound k pipe side hend
    change (m.pipes.push _)[pipe]? = _
    rw [Array.getElem?_push_lt hlt, Array.getElem?_eq_getElem hlt]

/-- A new pipe is empty. -/
theorem backlog_of_makePipe (k : Nat) : m'.backlog k = m.backlog k := by
  rcases Nat.lt_or_ge k m.files.size with hlt | hge
  · exact (untouched_of_makePipe hbound hpipe hlt).backlog_eq
  · rw [backlog_eq_nil (Array.getElem?_eq_none hge)]
    obtain ⟨table, hm', -⟩ := makePipe_eq_ok hpipe
    have hfiles : m'.files = m.withEnds := by rw [hm']
    have hnew : m'.pipes[m.pipes.size]? = some { capacity := m.pipeCapacity } := by
      rw [hm']
      exact Array.getElem?_push_size
    -- a file that was not there is an end of the new pipe, or is not there now
    have hget := m.getElem?_withEnds k
    rw [← hfiles] at hget
    split at hget
    · exact backlog_pipeEnd hget hnew
    · split at hget
      · exact backlog_pipeEnd hget hnew
      · exact backlog_eq_nil (hget.trans (Array.getElem?_eq_none hge))

end MakePipe

end Backlog

end Machine

end PipeShell
