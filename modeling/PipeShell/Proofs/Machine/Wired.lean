import PipeShell.Pipeline.Wiring
import PipeShell.Proofs.Machine.Answer

/-!
# Pipes of a line

Where the pipes that the shell makes for a line stand on a machine. The `i`-th pipe of the line is
the `i`-th one made after the line has begun, and its ends are the open files that
`Machine.endFile` counts.

* `Machine.IsReady` is what is asked of a machine on which a line is begun.
* `Machine.Wired` says that the pipes of a wiring stand there and that no other open file is an
  end of one of them. `Wired.drift` keeps it while others step, `Wired.extend` adds a pipe.
* `Machine.Holds` says that a table holds certain ends and is otherwise the table that the shell
  began with.
-/

namespace PipeShell

variable {σ : Type}

/-! ### Ends -/

/-- Where an end stands behind the first file of its pipe. -/
def Side.offset : Side → Nat
  | read => 0
  | write => 1

/-- The end on a side. -/
def PipeEnds.fd (p : PipeEnds) : Side → Fd
  | .read => p.read
  | .write => p.write

namespace Wiring

/-- The end of pipe `i` on a side. -/
def end? (w : Wiring) (i : Nat) (side : Side) : Option Fd :=
  w.pipes[i]?.map fun p => p.fd side

theorem getElem?_fds (w : Wiring) (i : Nat) (side : Side) :
    w.fds[2 * i + side.offset]? = w.end? i side := by
  rw [fds, end?]
  induction w.pipes generalizing i with
  | nil => rfl
  | cons p pipes ih =>
    rw [List.flatMap_cons]
    cases i with
    | zero => cases side <;> rfl
    | succ i =>
      rw [show 2 * (i + 1) + side.offset = 2 + (2 * i + side.offset) by omega,
        List.getElem?_append_right (by simp [PipeEnds.toList])]
      simpa [PipeEnds.toList] using ih i

theorem exists_end?_eq_some (w : Wiring) {i : Nat} (side : Side) (hi : i < w.pipes.length) :
    ∃ fd, w.end? i side = some fd :=
  ⟨w.pipes[i].fd side, by rw [end?, List.getElem?_eq_getElem hi]; rfl⟩

theorem mem_fds_iff {w : Wiring} {fd : Fd} :
    fd ∈ w.fds ↔ ∃ i side, w.end? i side = some fd := by
  constructor
  · intro h
    obtain ⟨j, hj⟩ := List.mem_iff_getElem?.mp h
    -- the ends for reading stand at the even places, those for writing at the odd ones
    rcases Nat.mod_two_eq_zero_or_one j with hmod | hmod
    · exact ⟨j / 2, .read, by
        rw [← getElem?_fds, ← hj, Side.offset, show 2 * (j / 2) + 0 = j by omega]⟩
    · exact ⟨j / 2, .write, by
        rw [← getElem?_fds, ← hj, Side.offset, show 2 * (j / 2) + 1 = j by omega]⟩
  · rintro ⟨i, side, h⟩
    exact List.mem_iff_getElem?.mpr ⟨_, (getElem?_fds w i side).trans h⟩

/-- One more pipe. -/
def snoc (w : Wiring) (p : PipeEnds) : Wiring :=
  { w with pipes := w.pipes ++ [p] }

@[simp] theorem length_pipes_snoc (w : Wiring) (p : PipeEnds) :
    (w.snoc p).pipes.length = w.pipes.length + 1 := by
  simp [snoc]

theorem fds_snoc (w : Wiring) (p : PipeEnds) : (w.snoc p).fds = w.fds ++ [p.read, p.write] := by
  simp [fds, snoc, PipeEnds.toList]

/-- Every pipe has two ends. -/
theorem length_fds (w : Wiring) : w.fds.length = 2 * w.pipes.length := by
  simp [fds, PipeEnds.toList, List.length_flatMap, List.map_const', Nat.mul_comm]

theorem mem_fds_snoc {w : Wiring} {p : PipeEnds} {fd : Fd} :
    fd ∈ (w.snoc p).fds ↔ fd ∈ w.fds ∨ fd = p.read ∨ fd = p.write := by
  simp [fds_snoc]

theorem end?_snoc (w : Wiring) (p : PipeEnds) (i : Nat) (side : Side) :
    (w.snoc p).end? i side = if i = w.pipes.length then some (p.fd side) else w.end? i side := by
  rw [end?, end?, snoc]
  split
  · rename_i h
    subst h
    simp
  · rename_i h
    rcases Nat.lt_or_ge i w.pipes.length with hlt | hge
    · rw [List.getElem?_append_left hlt]
    · rw [List.getElem?_eq_none (by simp; omega), List.getElem?_eq_none (by omega)]

end Wiring

namespace Machine

/-! ### A machine on which a line is begun -/

/-- What is asked of a machine on which a line is begun: its numbers make sense, the standard and
the outer streams of the shell are open, and whatever other processes there are, they are over. -/
structure IsReady (m : Machine σ) (outer : Outer) : Prop where
  entries : ∀ fd e, m.table.get? fd = some e → e.file < m.files.size
  ends : ∀ (k pipe : Nat) (side : Side), m.files[k]? = some (.pipeEnd pipe side) →
    pipe < m.pipes.size
  standard : ∀ fd, Fd.stdin ≤ fd → fd ≤ Fd.stderr → (m.table.get? fd).isSome
  outer : ∀ fd ∈ outer.toList, Fd.stderr < fd ∧ (m.table.get? fd).isSome
  others : ∀ (pid : Pid) (c : Process σ), m.children[pid]? = some c →
    c.life.isActive = false ∧ ∀ fd e, c.table.get? fd = some e → e.file < m.files.size

/-- A machine on which nothing has happened: descriptor `n` of the shell is file `n`. -/
def fresh (files : List OpenFile) : Machine σ where
  table := .ofList ((List.range files.length).map fun n => ⟨n, false⟩)
  files := files.toArray

theorem get?_table_fresh (files : List OpenFile) (fd : Fd) :
    (fresh files : Machine σ).table.get? fd =
      if 0 ≤ fd ∧ fd < files.length then some ⟨fd.toNat, false⟩ else none := by
  cases fd with
  | negSucc n => rfl
  | ofNat n =>
    by_cases hn : n < files.length <;>
      simp [fresh, DescriptorTable.ofList, DescriptorTable.get?, hn]

/-- A line may be begun on a machine on which nothing has happened. -/
theorem isReady_fresh {files : List OpenFile} {outer : Outer}
    (hfiles : ∀ pipe side, .pipeEnd pipe side ∉ files) (hstandard : 3 ≤ files.length)
    (houter : ∀ fd ∈ outer.toList, Fd.stderr < fd ∧ fd < files.length) :
    (fresh files : Machine σ).IsReady outer where
  entries fd e h := by
    rw [get?_table_fresh] at h
    split at h
    · rename_i hfd
      cases h
      rw [fresh, List.size_toArray]
      exact (Int.toNat_lt hfd.1).mpr hfd.2
    · cases h
  ends k pipe side h := by
    rw [fresh, List.getElem?_toArray] at h
    exact absurd (List.mem_of_getElem? h) (hfiles pipe side)
  standard fd hnonneg hle := by
    rw [get?_table_fresh, if_pos ⟨hnonneg, Int.lt_of_le_of_lt hle (Int.ofNat_lt.mpr hstandard)⟩]
    rfl
  outer fd hmem := by
    obtain ⟨habove, hlt⟩ := houter fd hmem
    refine ⟨habove, ?_⟩
    have hnonneg : 0 ≤ fd := Int.le_trans (by decide) (Int.le_of_lt habove)
    rw [get?_table_fresh, if_pos ⟨hnonneg, hlt⟩]
    rfl
  others pid c h := by simp [fresh] at h

/-- It makes no difference which open file a descriptor of the shell refers to. -/
theorem IsReady.insert {m : Machine σ} {outer : Outer} (h : m.IsReady outer) (n : Nat) {e : Entry}
    (he : e.file < m.files.size) : { m with table := m.table.insert n e }.IsReady outer := by
  have hsome : ∀ fd, (m.table.get? fd).isSome → ((m.table.insert n e).get? fd).isSome := by
    intro fd hfd
    rw [DescriptorTable.get?_insert]
    split
    · rfl
    · exact hfd
  refine ⟨fun fd e' h' => ?_, h.ends, fun fd hnonneg hle => hsome fd (h.standard fd hnonneg hle),
    fun fd hfd => (h.outer fd hfd).imp_right (hsome fd), h.others⟩
  rw [DescriptorTable.get?_insert] at h'
  split at h'
  · cases h'
    exact he
  · exact h.entries fd e' h'

/-- The open file that is an end of pipe `i` of the line that is begun on a machine. -/
def endFile (m₀ : Machine σ) (i : Nat) (side : Side) : Nat :=
  m₀.files.size + (2 * i + side.offset)

theorem endFile_inj {m₀ : Machine σ} {i i' : Nat} {side side' : Side}
    (h : m₀.endFile i side = m₀.endFile i' side') : i = i' ∧ side = side' := by
  rw [endFile, endFile] at h
  cases side <;> cases side' <;> simp only [Side.offset] at h
  all_goals first
    | exact ⟨by omega, rfl⟩
    | omega

theorem endFile_lt (m₀ : Machine σ) {i count : Nat} (side : Side) (hi : i < count) :
    m₀.endFile i side < m₀.files.size + 2 * count := by
  rw [endFile]
  cases side <;> simp only [Side.offset] <;> omega

theorem files_size_le_endFile (m₀ : Machine σ) (i : Nat) (side : Side) :
    m₀.files.size ≤ m₀.endFile i side := Nat.le_add_right ..

/-! ### The pipes -/

/-- **The pipes of a line stand on a machine.** Each end is the open file that belongs to it, and
no other open file is such an end. -/
structure Wired (m₀ : Machine σ) (w : Wiring) (m : Machine σ) : Prop where
  fresh : ∀ fd ∈ w.fds, m₀.table.get? fd = none
  above : ∀ fd ∈ w.fds, Fd.stderr < fd
  nodup : w.fds.Nodup
  files_le : m₀.files.size + 2 * w.pipes.length ≤ m.files.size
  pipes_le : m₀.pipes.size + w.pipes.length ≤ m.pipes.size
  ends : ∀ i < w.pipes.length, ∀ side,
    m.files[m₀.endFile i side]? = some (.pipeEnd (m₀.pipes.size + i) side)
  only : ∀ i < w.pipes.length, ∀ (side : Side) (k : Nat),
    m.files[k]? = some (.pipeEnd (m₀.pipes.size + i) side) → k = m₀.endFile i side
  old : ∀ k < m₀.files.size, ∀ pipe side,
    m.files[k]? = some (.pipeEnd pipe side) ↔ m₀.files[k]? = some (.pipeEnd pipe side)
  patient : ∀ k < m₀.files.size, m₀.IsPatient k → m.IsPatient k
  capacity : ∀ i < w.pipes.length, ∃ pipe : Pipe, m.pipes[m₀.pipes.size + i]? = some pipe ∧
    pipe.capacity = m₀.pipeCapacity
  pipeCapacity : m.pipeCapacity = m₀.pipeCapacity
  discardsEnded : m.discardsEnded = m₀.discardsEnded

/-- Nothing but the pipes of a line has been added to a machine. -/
structure Bare (m₀ : Machine σ) (w : Wiring) (m : Machine σ) : Prop where
  files : m.files.size = m₀.files.size + 2 * w.pipes.length
  pipes : m.pipes.size = m₀.pipes.size + w.pipes.length
  bound : ∀ (k pipe : Nat) (side : Side), m.files[k]? = some (.pipeEnd pipe side) →
    pipe < m.pipes.size

section Wired

variable {m₀ m m' : Machine σ} {w : Wiring}

theorem wired_start (m₀ : Machine σ) (count : Nat) : Wired m₀ ⟨count, []⟩ m₀ where
  fresh := nofun
  above := nofun
  nodup := .nil
  files_le := le_rfl
  pipes_le := le_rfl
  ends := nofun
  only := nofun
  old _ _ _ _ := Iff.rfl
  patient _ _ h := h
  capacity := nofun
  pipeCapacity := rfl
  discardsEnded := rfl

theorem bare_start {outer : Outer} (h : m₀.IsReady outer) (count : Nat) :
    Bare m₀ ⟨count, []⟩ m₀ :=
  ⟨rfl, rfl, h.ends⟩

theorem Wired.drift (h : Wired m₀ w m) (hdrift : m.Drift m') : Wired m₀ w m' where
  fresh := h.fresh
  above := h.above
  nodup := h.nodup
  files_le := h.files_le.trans hdrift.files_le
  pipes_le := h.pipes_le.trans hdrift.pipes_le
  ends i hi side :=
    (hdrift.ends _ ((m₀.endFile_lt side hi).trans_le h.files_le) _ side).mpr (h.ends i hi side)
  only i hi side k hk := by
    rcases Nat.lt_or_ge k m.files.size with hlt | hge
    · exact h.only i hi side k ((hdrift.ends k hlt _ side).mp hk)
    · -- a pipe of somebody else comes behind those of the line
      have hle := hdrift.newEnds k hge _ side hk
      have hpipes := h.pipes_le
      omega
  old k hk pipe side :=
    (hdrift.ends k (hk.trans_le ((Nat.le_add_right ..).trans h.files_le)) pipe side).trans
      (h.old k hk pipe side)
  patient k hk hpatient := hdrift.patient k
    (hk.trans_le ((Nat.le_add_right ..).trans h.files_le)) (h.patient k hk hpatient)
  capacity i hi := by
    obtain ⟨pipe, hpipe, hcap⟩ := h.capacity i hi
    obtain ⟨pipe', hpipe', hcap'⟩ := hdrift.capacity _ pipe hpipe
    exact ⟨pipe', hpipe', hcap'.trans hcap⟩
  pipeCapacity := hdrift.pipeCapacity.trans h.pipeCapacity
  discardsEnded := hdrift.discardsEnded.trans h.discardsEnded

theorem Bare.drift (h : Bare m₀ w m) (hdrift : m.Drift m')
    (hfiles : m'.files.size = m.files.size) (hpipes : m'.pipes.size = m.pipes.size) :
    Bare m₀ w m' where
  files := hfiles.trans h.files
  pipes := hpipes.trans h.pipes
  bound k pipe side hk := by
    rw [hpipes]
    exact h.bound k pipe side ((hdrift.ends k (hfiles ▸ files_lt hk) pipe side).mp hk)

/-! ### Tables -/

/-- A table that holds the open ends of a wiring, and is otherwise the table that the shell began
with. -/
structure Holds (m₀ : Machine σ) (w : Wiring) (opened : List Fd) (table : DescriptorTable) :
    Prop where
  inside : ∀ i side fd, w.end? i side = some fd → fd ∈ opened →
    table.get? fd = some ⟨m₀.endFile i side, true⟩
  outside : ∀ fd, fd ∉ opened → table.get? fd = m₀.table.get? fd

theorem holds_start (m₀ : Machine σ) (w : Wiring) : Holds m₀ w [] m₀.table :=
  ⟨nofun, fun _ _ => rfl⟩

/-- An end that is closed is as it was before the line. -/
theorem Holds.close {fd : Fd} {opened : List Fd} {table : DescriptorTable}
    (h : Holds m₀ w (fd :: opened) table) (hfresh : m₀.table.get? fd = none)
    (hnodup : (fd :: opened).Nodup) : Holds m₀ w opened (table.erase fd) := by
  obtain ⟨hnot, -⟩ := List.nodup_cons.mp hnodup
  refine ⟨fun i side fd' hend hmem => ?_, fun fd' hmem => ?_⟩
  · rw [DescriptorTable.get?_erase, if_neg, h.inside i side fd' hend (.tail _ hmem)]
    rintro rfl
    exact hnot hmem
  · rw [DescriptorTable.get?_erase]
    split
    · rename_i heq
      exact (heq ▸ hfresh).symm
    · rename_i hne
      refine h.outside fd' fun h => ?_
      rcases List.mem_cons.mp h with heq | h
      · exact hne heq
      · exact hmem h

/-! ### One more pipe -/

/-- Ends of other pipes are where they were. -/
theorem withEnds_iff_of_ne {k pipe : Nat} {side : Side} (hne : pipe ≠ m.pipes.size) :
    m.withEnds[k]? = some (.pipeEnd pipe side) ↔ m.files[k]? = some (.pipeEnd pipe side) := by
  have hcases : k < m.files.size ∨ m.files[k]? = none := by
    rcases Nat.lt_or_ge k m.files.size with hlt | hge
    · exact .inl hlt
    · exact .inr (Array.getElem?_eq_none hge)
  rw [getElem?_withEnds]
  split
  · rename_i hk
    rw [hcases.resolve_left (by omega)]
    simp [hne.symm]
  · split
    · rename_i hk
      rw [hcases.resolve_left (by omega)]
      simp [hne.symm]
    · rfl

/-- The ends of the new pipe come behind all other files. -/
theorem withEnds_iff_new {k : Nat} {side : Side}
    (hbound : ∀ (k pipe : Nat) (side : Side), m.files[k]? = some (.pipeEnd pipe side) →
      pipe < m.pipes.size) :
    m.withEnds[k]? = some (.pipeEnd m.pipes.size side) ↔ k = m.files.size + side.offset := by
  -- no pipe that was there has the number of the new one
  have hold : m.files[k]? ≠ some (.pipeEnd m.pipes.size side) := fun hk =>
    Nat.lt_irrefl _ (hbound k _ side hk)
  rw [getElem?_withEnds]
  cases side <;> simp only [Side.offset]
  all_goals
    split
    · simp
      try omega
    · split
      · simp
        try omega
      · simp only [hold, false_iff]
        omega

/-- A number that is free while all ends are open is no end, and was free before the line. -/
theorem Holds.fresh {fd : Fd} {table : DescriptorTable} (h : Holds m₀ w w.fds table)
    (hfree : table.get? fd = none) : fd ∉ w.fds ∧ m₀.table.get? fd = none := by
  have hnot : fd ∉ w.fds := by
    intro hmem
    obtain ⟨i, side, hend⟩ := Wiring.mem_fds_iff.mp hmem
    rw [h.inside i side fd hend hmem] at hfree
    cases hfree
  exact ⟨hnot, (h.outside fd hnot).symm.trans hfree⟩

/-- A number that was free before the line is none of a standard stream. -/
theorem IsReady.above {outer : Outer} {fd : Fd} (h : m₀.IsReady outer) (hnonneg : 0 ≤ fd)
    (hfree : m₀.table.get? fd = none) : Fd.stderr < fd := by
  refine Int.not_le.mp fun hle => ?_
  have hopen := h.standard fd hnonneg hle
  rw [hfree] at hopen
  cases hopen

section Extend

variable {outer : Outer} {read write : Fd}

theorem Holds.extend (h : Holds m₀ w w.fds m.table) (hbare : Bare m₀ w m)
    (hpipe : m.makePipe = (.ok (read, write), m')) :
    Holds m₀ (w.snoc ⟨read, write⟩) (w.snoc ⟨read, write⟩).fds m'.table := by
  obtain ⟨table, rfl, ⟨-, hread⟩, ⟨-, hwrite⟩, hne, hget⟩ := makePipe_eq_ok hpipe
  refine ⟨fun i side fd hend _ => ?_, fun fd hmem => ?_⟩
  · rw [Wiring.end?_snoc] at hend
    rw [hget fd]
    split at hend
    · rename_i hi
      subst hi
      cases side with
      | read =>
        obtain rfl : read = fd := Option.some.inj hend
        rw [if_neg hne, if_pos rfl, endFile, hbare.files]
        rfl
      | write =>
        obtain rfl : write = fd := Option.some.inj hend
        rw [if_pos rfl, endFile, hbare.files]
        rfl
    · have hold : fd ∈ w.fds := Wiring.mem_fds_iff.mpr ⟨i, side, hend⟩
      rw [if_neg, if_neg, h.inside i side fd hend hold]
      · rintro rfl
        exact (h.fresh hread).1 hold
      · rintro rfl
        exact (h.fresh hwrite).1 hold
  · rw [Wiring.mem_fds_snoc] at hmem
    rw [hget fd, if_neg fun heq => hmem (.inr (.inr heq)),
      if_neg fun heq => hmem (.inr (.inl heq))]
    exact h.outside fd fun hold => hmem (.inl hold)

theorem Bare.extend (h : Bare m₀ w m) (hpipe : m.makePipe = (.ok (read, write), m')) :
    Bare m₀ (w.snoc ⟨read, write⟩) m' := by
  obtain ⟨table, rfl, -⟩ := makePipe_eq_ok hpipe
  have hpipes := h.pipes
  refine ⟨?_, ?_, fun k pipe side hk => ?_⟩
  · simp only [size_withEnds, Wiring.length_pipes_snoc, h.files]
    omega
  · simp only [Array.size_push, Wiring.length_pipes_snoc, hpipes]
    omega
  · rw [Array.size_push]
    rcases eq_or_ne pipe m.pipes.size with rfl | hne
    · exact Nat.lt_succ_self _
    · exact Nat.lt_succ_of_lt (h.bound k pipe side ((withEnds_iff_of_ne hne).mp hk))

/-- **One more pipe.** A pipe that the shell makes stands where it belongs. -/
theorem Wired.extend (hready : m₀.IsReady outer) (h : Wired m₀ w m) (hbare : Bare m₀ w m)
    (htable : Holds m₀ w w.fds m.table) (hpipe : m.makePipe = (.ok (read, write), m')) :
    Wired m₀ (w.snoc ⟨read, write⟩) m' := by
  have hbare' := hbare.extend hpipe
  obtain ⟨table, rfl, ⟨hread, hreadFree⟩, ⟨hwrite, hwriteFree⟩, hne, -⟩ := makePipe_eq_ok hpipe
  obtain ⟨hreadNot, hreadFresh⟩ := htable.fresh hreadFree
  obtain ⟨hwriteNot, hwriteFresh⟩ := htable.fresh hwriteFree
  have hpipes := hbare.pipes
  have hlast : m.files.size = m₀.files.size + 2 * w.pipes.length := hbare.files
  have hle : ∀ k < m₀.files.size, k < m.files.size := fun k hk => by omega
  -- the new pipe is the last one of the wiring
  have hcases : ∀ i < (w.snoc ⟨read, write⟩).pipes.length,
      i < w.pipes.length ∨ i = w.pipes.length := by
    intro i hi
    rw [Wiring.length_pipes_snoc] at hi
    omega
  refine ⟨fun fd hfd => ?_, fun fd hfd => ?_, ?_, hbare'.files.ge, hbare'.pipes.ge,
    fun i hi side => ?_, fun i hi side k hk => ?_, fun k hk pipe side => ?_,
    fun k hk hpatient file hfile => ?_, fun i hi => ?_, h.pipeCapacity, h.discardsEnded⟩
  · -- the new numbers were free, and so they were before the line
    rcases Wiring.mem_fds_snoc.mp hfd with hold | rfl | rfl
    · exact h.fresh fd hold
    · exact hreadFresh
    · exact hwriteFresh
  · rcases Wiring.mem_fds_snoc.mp hfd with hold | rfl | rfl
    · exact h.above fd hold
    · exact hready.above hread hreadFresh
    · exact hready.above hwrite hwriteFresh
  · rw [Wiring.fds_snoc, List.nodup_append]
    refine ⟨h.nodup, by simpa using hne, fun fd hfd fd' hfd' heq => ?_⟩
    subst heq
    rcases List.mem_cons.mp hfd' with rfl | hfd'
    · exact hreadNot hfd
    · obtain rfl := List.mem_singleton.mp hfd'
      exact hwriteNot hfd
  · rcases hcases i hi with hlt | rfl
    · exact (withEnds_iff_of_ne (by omega)).mpr (h.ends i hlt side)
    · rw [← hpipes]
      refine (withEnds_iff_new hbare.bound).mpr ?_
      rw [endFile, hlast, Nat.add_assoc]
  · rcases hcases i hi with hlt | rfl
    · exact h.only i hlt side k ((withEnds_iff_of_ne (by omega)).mp hk)
    · rw [← hpipes] at hk
      rw [(withEnds_iff_new hbare.bound).mp hk, endFile, hlast, Nat.add_assoc]
  · rw [getElem?_withEnds_of_lt (hle k hk)]
    exact h.old k hk pipe side
  · refine h.patient k hk hpatient file ?_
    rwa [getElem?_withEnds_of_lt (hle k hk)] at hfile
  · rcases hcases i hi with hlt | rfl
    · obtain ⟨pipe, hpipe, hcap⟩ := h.capacity i hlt
      refine ⟨pipe, ?_, hcap⟩
      rw [Array.getElem?_push, if_neg (by omega)]
      exact hpipe
    · rw [← hpipes, Array.getElem?_push_size]
      exact ⟨_, rfl, h.pipeCapacity⟩

end Extend

end Wired

end Machine

end PipeShell
