import PipeShell.Proofs.Machine.Backlog
import PipeShell.Proofs.Machine.Computing

/-!
# What passes through a line

What the stages of a line have read and written, seen from the open files. A stage reads the file
in front of it and writes the file behind it, and neighbours have a pipe in common.

* `Traffic` is what has passed: for each stage, what it has read, what it has written, and whether
  it has been told that there is nothing left.
* `Machine.Carries` is the invariant: whatever has been given to a stage has been read by it or is
  still in front of it, in this order, and the sink holds what the last stage has written.
* `Carries.read` and `Carries.write` keep it, `Carries.of_untouched` says what it depends on.
-/

namespace PipeShell

variable {σ : Type}

/-- What has passed through the stages of a line. -/
structure Traffic where
  /-- What a stage has read. -/
  taken : Nat → Bytes
  /-- What a stage has written. -/
  given : Nat → Bytes
  /-- Whether a stage has been told that there is nothing left to read. -/
  drained : Nat → Bool

namespace Traffic

/-- Nothing has passed. -/
def start : Traffic := ⟨fun _ => [], fun _ => [], fun _ => false⟩

/-- A stage has read, and may have been told that there is nothing left. -/
def read (t : Traffic) (i : Nat) (data : Bytes) (ended : Bool) : Traffic where
  taken := Function.update t.taken i (t.taken i ++ data)
  given := t.given
  drained := Function.update t.drained i (t.drained i || ended)

/-- A stage has written. -/
def write (t : Traffic) (i : Nat) (bytes : Bytes) : Traffic :=
  { t with given := Function.update t.given i (t.given i ++ bytes) }

/-- What a stage is given to read: the input, or what the stage before it has written. -/
def supply (t : Traffic) (input : Bytes) : Nat → Bytes
  | 0 => input
  | j + 1 => t.given j

section

variable (t : Traffic) (i j : Nat) (data : Bytes) (ended : Bool)

@[simp] theorem taken_read_self : (t.read i data ended).taken i = t.taken i ++ data :=
  Function.update_self ..

@[simp] theorem drained_read_self : (t.read i data ended).drained i = (t.drained i || ended) :=
  Function.update_self ..

@[simp] theorem given_write_self : (t.write i data).given i = t.given i ++ data :=
  Function.update_self ..

variable {i j}

theorem taken_read_of_ne (h : j ≠ i) : (t.read i data ended).taken j = t.taken j :=
  Function.update_of_ne h ..

theorem drained_read_of_ne (h : j ≠ i) : (t.read i data ended).drained j = t.drained j :=
  Function.update_of_ne h ..

theorem given_write_of_ne (h : j ≠ i) : (t.write i data).given j = t.given j :=
  Function.update_of_ne h ..

theorem supply_read (input : Bytes) : (t.read i data ended).supply input j = t.supply input j := by
  cases j <;> rfl

end

end Traffic

namespace Machine

/-- A shell that has been given a source and a sink, by the numbers of their open files. -/
structure HasOuter (m₀ : Machine σ) (outer : Outer) (source sink : Nat) : Prop where
  source_eq : ∃ fd e, outer.source = some fd ∧ m₀.table.get? fd = some e ∧ e.file = source
  sink_eq : ∃ fd e, outer.sink = some fd ∧ m₀.table.get? fd = some e ∧ e.file = sink
  reads : ∃ content offset, m₀.files[source]? = some (.source content offset)
  writes : ∃ reversed, m₀.files[sink]? = some (.sink reversed)

/-! ### Places -/

/-- The open file in front of a stage. -/
def front (m₀ : Machine σ) (source : Nat) : Nat → Nat
  | 0 => source
  | j + 1 => m₀.endFile j .read

/-- The open file behind stage `i` of `count`. -/
def back (m₀ : Machine σ) (sink count i : Nat) : Nat :=
  if i + 1 < count then m₀.endFile i .write else sink

/-- Where an open file stands along a line of `count` stages: the source comes first, then the
pipes, and the sink comes last. -/
inductive Place (m₀ : Machine σ) (source sink count : Nat) : Nat → Nat → Prop where
  | source : Place m₀ source sink count 0 source
  | pipe {j side} (inner : j + 1 < count) :
    Place m₀ source sink count (j + 1) (m₀.endFile j side)
  | sink (some : 0 < count) : Place m₀ source sink count count sink

section Place

variable {m₀ m m' : Machine σ} {outer : Outer} {source sink count : Nat} {w : Wiring}

theorem place_front {j : Nat} (hj : j < count) :
    Place m₀ source sink count j (m₀.front source j) := by
  cases j with
  | zero => exact .source
  | succ j => exact .pipe hj

theorem place_back {i : Nat} (hi : i < count) :
    Place m₀ source sink count (i + 1) (m₀.back sink count i) := by
  rw [back]
  split
  · rename_i hlt
    exact .pipe hlt
  · have hlast : i + 1 = count := by omega
    rw [hlast]
    exact .sink (by omega)

variable (houter : m₀.HasOuter outer source sink) (hwired : Wired m₀ w m)
  (hlength : w.pipes.length + 1 = count)

include houter

theorem HasOuter.source_lt : source < m₀.files.size := by
  obtain ⟨content, offset, hsource⟩ := houter.reads
  exact files_lt hsource

theorem HasOuter.sink_lt : sink < m₀.files.size := by
  obtain ⟨reversed, hsink⟩ := houter.writes
  exact files_lt hsink

theorem HasOuter.source_ne_sink : source ≠ sink := by
  rintro rfl
  obtain ⟨content, offset, hsource⟩ := houter.reads
  obtain ⟨reversed, hsink⟩ := houter.writes
  rw [hsource] at hsink
  cases hsink

include hwired

/-- The source is no pipe. -/
theorem HasOuter.source_ne_pipeEnd (pipe : Nat) (side : Side) :
    m.files[source]? ≠ some (.pipeEnd pipe side) := by
  intro h
  obtain ⟨content, offset, hsource⟩ := houter.reads
  rw [hwired.old source houter.source_lt, hsource] at h
  cases h

/-- The sink is no pipe. -/
theorem HasOuter.sink_ne_pipeEnd (pipe : Nat) (side : Side) :
    m.files[sink]? ≠ some (.pipeEnd pipe side) := by
  intro h
  obtain ⟨reversed, hsink⟩ := houter.writes
  rw [hwired.old sink houter.sink_lt, hsink] at h
  cases h

include hlength

/-- Open files at different places have nothing in common. -/
theorem Place.eq_of_shares {p p' k k' : Nat} (h : Place m₀ source sink count p k)
    (h' : Place m₀ source sink count p' k') (hshares : m.Shares k k') : p = p' := by
  have hsource := houter.source_ne_pipeEnd hwired
  have hsink := houter.sink_ne_pipeEnd hwired
  have hends : ∀ j side, j + 1 < count →
      m.files[m₀.endFile j side]? = some (.pipeEnd (m₀.pipes.size + j) side) :=
    fun j side hj => hwired.ends j (by omega) side
  -- source and sink were there before the pipes
  have hold : ∀ j side, source ≠ m₀.endFile j side ∧ sink ≠ m₀.endFile j side := by
    intro j side
    have hle := m₀.files_size_le_endFile j side
    have hlt := houter.source_lt
    have hlt' := houter.sink_lt
    exact ⟨by omega, by omega⟩
  obtain rfl | ⟨pipe, side, side', hk, hk'⟩ := hshares
  · cases h with
    | source =>
      generalize hk : source = k at h'
      cases h' with
      | source => rfl
      | pipe inner => exact absurd hk (hold _ _).1
      | sink some => exact absurd hk houter.source_ne_sink
    | @pipe j side inner =>
      generalize hk : m₀.endFile j side = k at h'
      cases h' with
      | source => exact absurd hk.symm (hold _ _).1
      | pipe inner' => rw [(endFile_inj hk).1]
      | sink some => exact absurd hk.symm (hold _ _).2
    | sink some =>
      generalize hk : sink = k at h'
      cases h' with
      | source => exact absurd hk.symm houter.source_ne_sink
      | pipe inner => exact absurd hk (hold _ _).2
      | sink some' => rfl
  · cases h with
    | source => exact absurd hk (hsource _ _)
    | sink some => exact absurd hk (hsink _ _)
    | pipe inner =>
      cases h' with
      | source => exact absurd hk' (hsource _ _)
      | sink some => exact absurd hk' (hsink _ _)
      | pipe inner' =>
        rw [hends _ _ inner] at hk
        rw [hends _ _ inner'] at hk'
        obtain ⟨hpipe, -⟩ := OpenFile.pipeEnd.inj (Option.some.inj hk)
        obtain ⟨hpipe', -⟩ := OpenFile.pipeEnd.inj (Option.some.inj hk')
        rw [Nat.add_left_cancel (hpipe.trans hpipe'.symm)]

/-- An open file that was there before the line, and is neither source nor sink, has nothing in
common with those of the line. -/
theorem Place.not_shares {p k k' : Nat} (hready : m₀.IsReady outer)
    (h : Place m₀ source sink count p k') (hk : k < m₀.files.size) (hsource : k ≠ source)
    (hsink : k ≠ sink) : ¬ m.Shares k k' := by
  rintro (rfl | ⟨pipe, side, side', hfile, hfile'⟩)
  · cases h with
    | source => exact hsource rfl
    | sink some => exact hsink rfl
    | @pipe j side inner =>
      have hle := m₀.files_size_le_endFile j side
      omega
  · cases h with
    | source => exact houter.source_ne_pipeEnd hwired _ _ hfile'
    | sink some => exact houter.sink_ne_pipeEnd hwired _ _ hfile'
    | pipe inner =>
      rw [hwired.ends _ (by omega)] at hfile'
      cases hfile'
      have hlt := hready.ends k _ _ ((hwired.old k hk _ _).mp hfile)
      omega

end Place

/-! ### What is carried -/

/-- **What the open files of a line carry.** What a stage is given, it has read or still has in
front of it. The sink has `ground` and behind it what the last stage has written; something of the
ground may still be owed. A stage that has been told so has nothing in front of it. -/
structure Carries (m₀ : Machine σ) (source sink count : Nat) (input ground owed : Bytes)
    (t : Traffic) (m : Machine σ) : Prop where
  inlet : m.IsInlet source
  outlet : m.IsOutlet sink
  passes : ∀ j < count, t.supply input j = t.taken j ++ m.backlog (m₀.front source j)
  lands : m.backlog sink ++ owed = ground ++ t.given (count - 1)
  empty : ∀ j < count, t.drained j = true → m.backlog (m₀.front source j) = []

section Carries

variable {m₀ m m' : Machine σ} {outer : Outer} {source sink count : Nat} {w : Wiring}
  {input ground owed : Bytes} {t : Traffic}

namespace Carries

/-- Files that nothing has happened to carry what they carried. -/
theorem of_untouched (h : Carries m₀ source sink count input ground owed t m)
    (hsource : m.Untouched m' source) (hsink : m.Untouched m' sink)
    (hfront : ∀ j < count, m'.backlog (m₀.front source j) = m.backlog (m₀.front source j)) :
    Carries m₀ source sink count input ground owed t m' where
  inlet := hsource.inlet h.inlet
  outlet := hsink.outlet h.outlet
  passes j hj := by rw [hfront j hj, h.passes j hj]
  lands := by rw [hsink.backlog_eq, h.lands]
  empty j hj hdrained := (hfront j hj).trans (h.empty j hj hdrained)

theorem of_eq (h : Carries m₀ source sink count input ground owed t m)
    (hfiles : m'.files = m.files) (hpipes : m'.pipes = m.pipes) :
    Carries m₀ source sink count input ground owed t m' :=
  h.of_untouched (.of_eq hfiles hpipes _) (.of_eq hfiles hpipes _)
    fun _ _ => (Untouched.of_eq hfiles hpipes _).backlog_eq

/-- There is nothing left for a stage that has been told so. -/
theorem data_eq_nil (h : Carries m₀ source sink count input ground owed t m) {i size : Nat}
    {data : Bytes} (hi : i < count) (hdelivers : m.Delivers (m₀.front source i) size data m')
    (hdrained : t.drained i = true) : data = [] := by
  have hbacklog := hdelivers.backlog_eq
  rw [h.empty i hi hdrained] at hbacklog
  exact (List.append_eq_nil_iff.mp hbacklog.symm).1

variable (houter : m₀.HasOuter outer source sink) (hwired : Wired m₀ w m)
  (hlength : w.pipes.length + 1 = count)

include houter hwired hlength

/-- **A stage reads** what is in front of it. -/
theorem read (h : Carries m₀ source sink count input ground owed t m) {i size : Nat}
    {data : Bytes} (hi : i < count) (hdelivers : m.Delivers (m₀.front source i) size data m') :
    Carries m₀ source sink count input ground owed
      (t.read i data (data.isEmpty && decide (0 < size))) m' := by
  have hothers : ∀ p k, Place m₀ source sink count p k → p ≠ i → m.Untouched m' k :=
    fun p k hplace hne => hdelivers.others k fun hshares =>
      hne (hplace.eq_of_shares houter hwired hlength (place_front hi) hshares)
  have hsink := hothers count sink (.sink (by omega)) (by omega)
  refine ⟨?_, hsink.outlet h.outlet, fun j hj => ?_, ?_, fun j hj hdrained => ?_⟩
  · rcases Nat.eq_zero_or_pos i with rfl | hpos
    · exact hdelivers.inlet
    · exact (hothers 0 source .source (by omega)).inlet h.inlet
  · rw [Traffic.supply_read, h.passes j hj]
    rcases eq_or_ne j i with rfl | hne
    · rw [Traffic.taken_read_self, hdelivers.backlog_eq, List.append_assoc]
    · rw [Traffic.taken_read_of_ne _ _ _ hne, (hothers j _ (place_front hj) hne).backlog_eq]
  · rw [hsink.backlog_eq, h.lands]
    rfl
  · rcases eq_or_ne j i with rfl | hne
    · rw [Traffic.drained_read_self, Bool.or_eq_true, Bool.and_eq_true, List.isEmpty_iff,
        decide_eq_true_eq] at hdrained
      have hnil : m.backlog (m₀.front source j) = [] :=
        hdrained.elim (h.empty j hj) fun hended => (hdelivers.nothing hended.1 hended.2).1
      rw [hdelivers.backlog_eq] at hnil
      exact (List.append_eq_nil_iff.mp hnil).2
    · rw [Traffic.drained_read_of_ne _ _ _ hne] at hdrained
      rw [(hothers j _ (place_front hj) hne).backlog_eq]
      exact h.empty j hj hdrained

/-- **A stage writes**, and what it writes is then in front of the next stage, or in the sink. -/
theorem write (h : Carries m₀ source sink count input ground [] t m) (hwired' : Wired m₀ w m')
    {i size : Nat} {bytes : Bytes} (hi : i < count)
    (haccepts : m.Accepts (m₀.back sink count i) bytes size m')
    (hothers : ∀ k, ¬ m.Shares k (m₀.back sink count i) → m.Untouched m' k)
    (hnext : i + 1 < count → t.drained (i + 1) = false) :
    Carries m₀ source sink count input ground [] (t.write i (bytes.take size)) m' := by
  have hothers : ∀ p k, Place m₀ source sink count p k → p ≠ i + 1 → m.Untouched m' k :=
    fun p k hplace hne => hothers k fun hshares =>
      hne (hplace.eq_of_shares houter hwired hlength (place_back hi) hshares)
  have hsource := hothers 0 source .source (by omega)
  -- only the next stage has more in front of it than before
  have hpasses : ∀ j < count, j ≠ i + 1 → (t.write i (bytes.take size)).supply input j =
      t.taken j ++ m'.backlog (m₀.front source j) := by
    intro j hj hne
    rw [(hothers j _ (place_front hj) hne).backlog_eq, ← h.passes j hj]
    cases j with
    | zero => rfl
    | succ j => exact Traffic.given_write_of_ne _ _ fun heq => hne (congrArg Nat.succ heq)
  rcases Nat.lt_or_ge (i + 1) count with hinner | hlast
  · -- the next stage has this and the one before at two ends of a pipe
    have hback : m₀.back sink count i = m₀.endFile i .write := if_pos hinner
    have hends : ∀ side, m.files[m₀.endFile i side]? = some (.pipeEnd (m₀.pipes.size + i) side) :=
      hwired.ends i (by omega)
    have hends' : ∀ side, m'.files[m₀.endFile i side]? =
        some (.pipeEnd (m₀.pipes.size + i) side) := hwired'.ends i (by omega)
    have hfront : m'.backlog (m₀.front source (i + 1)) =
        m.backlog (m₀.front source (i + 1)) ++ bytes.take size := by
      rw [front, backlog_eq_of_ends (hends' .read) (hends' .write),
        backlog_eq_of_ends (hends .read) (hends .write), ← hback]
      exact haccepts.backlog_eq
    have hsink := hothers count sink (.sink (by omega)) (by omega)
    refine ⟨hsource.inlet h.inlet, hsink.outlet h.outlet, fun j hj => ?_, ?_,
      fun j hj hdrained => ?_⟩
    · rcases eq_or_ne j (i + 1) with rfl | hne
      · have hsupply : (t.write i (bytes.take size)).supply input (i + 1) =
            t.given i ++ bytes.take size := Traffic.given_write_self ..
        have hpasses := h.passes (i + 1) hj
        rw [Traffic.supply] at hpasses
        rw [hsupply, hfront, hpasses, List.append_assoc]
        rfl
      · exact hpasses j hj hne
    · rw [hsink.backlog_eq, h.lands, Traffic.given_write_of_ne _ _ (by omega)]
    · have hne : j ≠ i + 1 := by
        rintro rfl
        rw [show t.drained (i + 1) = true from hdrained] at hnext
        exact Bool.noConfusion (hnext hj)
      rw [(hothers j _ (place_front hj) hne).backlog_eq]
      exact h.empty j hj hdrained
  · have hback : m₀.back sink count i = sink := if_neg (by omega)
    rw [hback] at haccepts
    refine ⟨hsource.inlet h.inlet, haccepts.outlet, fun j hj => hpasses j hj (by omega), ?_,
      fun j hj hdrained => ?_⟩
    · have hlands := h.lands
      rw [List.append_nil] at hlands ⊢
      rw [show count - 1 = i by omega] at hlands ⊢
      rw [haccepts.backlog_eq, hlands, Traffic.given_write_self, List.append_assoc]
    · rw [(hothers j _ (place_front hj) (by omega)).backlog_eq]
      exact h.empty j hj hdrained

omit houter in
theorem isInlet_front (h : Carries m₀ source sink count input ground owed t m) {j : Nat}
    (hj : j < count) : m.IsInlet (m₀.front source j) := by
  cases j with
  | zero => exact h.inlet
  | succ j =>
    obtain ⟨pipe, hpipe, -⟩ := hwired.capacity j (by omega)
    exact .pipe (hwired.ends j (by omega) .read) hpipe

omit houter in
theorem isOutlet_back (h : Carries m₀ source sink count input ground owed t m) {i : Nat} :
    m.IsOutlet (m₀.back sink count i) := by
  rw [back]
  split
  · obtain ⟨pipe, hpipe, -⟩ := hwired.capacity i (by omega)
    exact .pipe (hwired.ends i (by omega) .write) hpipe
  · exact h.outlet

omit houter hwired hlength

/-- **What the sink has in the end**, if every stage has read everything and has written the value
of its function at that. -/
theorem backlog_sink (h : Carries m₀ source sink count input ground [] t m) (hpos : 0 < count)
    {f : Nat → Bytes → Bytes}
    (hdone : ∀ i < count, t.drained i = true ∧ t.given i = f i (t.taken i)) :
    m.backlog sink = ground ++ through f count input := by
  -- what a stage is given is what the functions before it make of the input
  have hsupply : ∀ j ≤ count, t.supply input j = through f j input := by
    intro j
    induction j with
    | zero => exact fun _ => rfl
    | succ j ih =>
      intro hj
      obtain ⟨hdrained, hgiven⟩ := hdone j hj
      have hpasses := h.passes j hj
      rw [h.empty j hj hdrained, List.append_nil, ih (Nat.le_of_succ_le hj)] at hpasses
      rw [Traffic.supply, through, hgiven, hpasses]
  have hlands := h.lands
  rw [List.append_nil] at hlands
  rw [hlands, ← hsupply count le_rfl]
  obtain ⟨last, rfl⟩ := Nat.exists_eq_add_of_lt hpos
  rw [Nat.zero_add]
  rfl

end Carries

end Carries

end Machine

end PipeShell
