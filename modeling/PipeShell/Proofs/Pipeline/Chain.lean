import PipeShell.Proofs.Machine.Streams

/-!
# The chain of a pipeline

Every stage has two places for a descriptor, its standard input and its standard output. In a
pipeline the first and the last of these places are for the outer streams, and each pipe joins the
output of one stage to the input of the next. Here it is shown that this uses every end of every
pipe in one place and leaves no place over.

* `Wiring.given` is what stands at a place, and `Wiring.seat` is the place of an end.
* `Place.cases` says that every place is the first, the last, or the seat of an end, and
  `eq_seat_of_given` that an end stands at its own seat only.
* `Wiring.ends_used_once` puts them together.
-/

namespace PipeShell

/-- A place for a descriptor: a stream of a stage. -/
structure Place where
  /-- The position of the stage. -/
  stage : Nat
  /-- The stream. -/
  stream : Stream
  deriving DecidableEq, Repr

namespace Place

/-- Where a pipeline takes its input. -/
def first : Place :=
  ⟨0, .stdin⟩

/-- Where a pipeline of so many stages puts its output. -/
def last (stages : Nat) : Place :=
  ⟨stages - 1, .stdout⟩

end Place

theorem Side.offset_lt (side : Side) : side.offset < 2 := by
  cases side <;> decide

theorem Side.offset_inj {side side' : Side} (h : side.offset = side'.offset) : side = side' := by
  revert h
  cases side <;> cases side' <;> decide

/-- What stands at a stream. -/
def Ends.get (e : Ends) : Stream → Option Fd
  | .stdin => e.stdin
  | .stdout => e.stdout

namespace Wiring

/-- What stands at a place. -/
def given (w : Wiring) (outer : Outer) (place : Place) : Option Fd :=
  (w.endsWithin outer place.stage).get place.stream

/-- The place of an end of pipe `i`: it is written by stage `i` and read by the stage behind it. -/
def seat (i : Nat) : Side → Place
  | .read => ⟨i + 1, .stdin⟩
  | .write => ⟨i, .stdout⟩

end Wiring

/-- Every place is the first, the last, or between two stages. -/
theorem Place.cases {stages : Nat} {place : Place} (h : place.stage < stages) :
    place = first ∨ place = last stages ∨
      ∃ i side, i + 1 < stages ∧ place = Wiring.seat i side := by
  obtain ⟨stage, stream⟩ := place
  have hstage : stage < stages := h
  cases stream with
  | stdin =>
    cases stage with
    | zero => exact .inl rfl
    | succ i => exact .inr (.inr ⟨i, .read, hstage, rfl⟩)
  | stdout =>
    rcases Nat.lt_or_ge (stage + 1) stages with hlt | hge
    · exact .inr (.inr ⟨stage, .write, hlt, rfl⟩)
    · obtain rfl : stage = stages - 1 := by omega
      exact .inr (.inl rfl)

namespace Wiring

variable {w : Wiring} {outer : Outer} {fd : Fd} {i : Nat} {side : Side} {place : Place}

theorem stage_seat_lt {stages : Nat} (h : i + 1 < stages) : (seat i side).stage < stages := by
  cases side with
  | read => exact h
  | write => exact (Nat.lt_succ_self i).trans h

/-! ### What stands where -/

theorem given_first (w : Wiring) (outer : Outer) : w.given outer .first = outer.source :=
  endsWithin_stdin_zero

theorem given_last (hcount : w.pipes.length + 1 = w.stages) :
    w.given outer (.last w.stages) = outer.sink := by
  have hlast : w.stages - 1 + 1 = w.stages := by omega
  have hlength : w.pipes.length ≤ w.stages - 1 := by omega
  exact endsWithin_stdout_last hlast hlength

/-- An end stands at its seat, whatever the outer streams are. -/
theorem given_seat (h : w.end? i side = some fd) : w.given outer (seat i side) = some fd := by
  cases side with
  | read => exact endsWithin_stdin_succ h
  | write => exact endsWithin_stdout h

/-- The ends of different pipes, and the two ends of one, are known apart by their numbers. -/
theorem eq_of_end?_eq (hdistinct : w.fds.Nodup) {i' : Nat} {side' : Side}
    (h : w.end? i side = some fd) (h' : w.end? i' side' = some fd) : i' = i ∧ side' = side := by
  rw [← getElem?_fds] at h h'
  obtain ⟨hlt, -⟩ := List.getElem?_eq_some_iff.mp h
  have hplace := (List.getElem?_inj hlt hdistinct).mp (h.trans h'.symm)
  have hlow := side.offset_lt
  have hlow' := side'.offset_lt
  obtain rfl : i' = i := by omega
  exact ⟨rfl, Side.offset_inj (by omega)⟩

/-- There is a pipe between any two stages that follow each other. -/
theorem exists_end?_of_lt (hcount : w.pipes.length + 1 = w.stages) (side : Side)
    (h : i + 1 < w.stages) : ∃ fd ∈ w.fds, w.end? i side = some fd := by
  obtain ⟨fd, hend⟩ := w.exists_end?_eq_some side (i := i) (by omega)
  exact ⟨fd, mem_fds_iff.mpr ⟨i, side, hend⟩, hend⟩

/-- The end of a pipe has its seat in the pipeline. -/
theorem exists_seat_of_mem (hcount : w.pipes.length + 1 = w.stages) (h : fd ∈ w.fds) :
    ∃ i side, w.end? i side = some fd ∧ (seat i side).stage < w.stages := by
  obtain ⟨i, side, hend⟩ := mem_fds_iff.mp h
  obtain ⟨p, hp, -⟩ := Option.map_eq_some_iff.mp hend
  obtain ⟨hlt, -⟩ := List.getElem?_eq_some_iff.mp hp
  exact ⟨i, side, hend, stage_seat_lt (by omega)⟩

/-- **An end stands at its seat only**, unless an outer stream has its number. -/
theorem eq_seat_of_given (hcount : w.pipes.length + 1 = w.stages) (hdistinct : w.fds.Nodup)
    (hend : w.end? i side = some fd) (houter : fd ∉ outer.toList) (hplace : place.stage < w.stages)
    (hgiven : w.given outer place = some fd) : place = seat i side := by
  obtain rfl | rfl | ⟨i', side', hi', rfl⟩ := Place.cases hplace
  · rw [given_first] at hgiven
    exact absurd (by simp [Outer.toList, hgiven]) houter
  · rw [given_last hcount] at hgiven
    exact absurd (by simp [Outer.toList, hgiven]) houter
  · obtain ⟨fd', -, hend'⟩ := exists_end?_of_lt hcount side' hi'
    obtain rfl : fd' = fd := Option.some.inj ((given_seat hend').symm.trans hgiven)
    obtain ⟨rfl, rfl⟩ := eq_of_end?_eq hdistinct hend hend'
    rfl

/-! ### The theorem -/

/-- **A pipeline is a chain that uses every end once.** Between any two stages that follow each
other there is one pipe, with its end for writing at the output of the one and its end for reading
at the input of the other. Every end stands at exactly one stream of exactly one stage, and does so
whatever the outer streams are; it stands nowhere else, unless a caller has put an outer stream with
its number at the first or at the last place. The source stands at the input of the first stage and
the sink at the output of the last one, which are one and the same stage if there are no pipes; and
at any other place there is an end, whatever the outer streams are. -/
theorem ends_used_once (hcount : w.pipes.length + 1 = w.stages) (hdistinct : w.fds.Nodup)
    (outer : Outer) :
    (∀ i, i + 1 < w.stages → ∃ p, w.pipes[i]? = some p ∧
      (w.endsWithin outer i).stdout = some p.write ∧
      (w.endsWithin outer (i + 1)).stdin = some p.read) ∧
    (∀ fd ∈ w.fds, ∃! place : Place, place.stage < w.stages ∧
      ∀ outer', w.given outer' place = some fd) ∧
    (∀ fd ∈ w.fds, fd ∉ outer.toList → ∃! place : Place, place.stage < w.stages ∧
      w.given outer place = some fd) ∧
    (w.endsWithin outer 0).stdin = outer.source ∧
    (w.endsWithin outer (w.stages - 1)).stdout = outer.sink ∧
    ∀ place : Place, place.stage < w.stages → place ≠ .first → place ≠ .last w.stages →
      ∃ fd ∈ w.fds, ∀ outer', w.given outer' place = some fd := by
  refine ⟨?_, ?_, ?_, w.given_first outer, given_last hcount, ?_⟩
  · intro i hi
    obtain ⟨p, hp⟩ : ∃ p, w.pipes[i]? = some p :=
      ⟨_, List.getElem?_eq_getElem (show i < w.pipes.length by omega)⟩
    have hend : ∀ side, w.end? i side = some (p.fd side) := by
      intro side
      rw [end?, hp]
      rfl
    exact ⟨p, hp, endsWithin_stdout (hend .write), endsWithin_stdin_succ (hend .read)⟩
  · intro fd hfd
    obtain ⟨i, side, hend, hseat⟩ := exists_seat_of_mem hcount hfd
    refine ⟨seat i side, ⟨hseat, fun _ => given_seat hend⟩, ?_⟩
    -- without outer streams, nothing has the number of the end by chance
    have houter : fd ∉ Outer.toList {} := List.not_mem_nil
    rintro place ⟨hplace, hgiven⟩
    exact eq_seat_of_given hcount hdistinct hend houter hplace (hgiven {})
  · intro fd hfd houter
    obtain ⟨i, side, hend, hseat⟩ := exists_seat_of_mem hcount hfd
    refine ⟨seat i side, ⟨hseat, given_seat hend⟩, ?_⟩
    rintro place ⟨hplace, hgiven⟩
    exact eq_seat_of_given hcount hdistinct hend houter hplace hgiven
  · intro place hplace hfirst hlast
    obtain rfl | rfl | ⟨i, side, hi, rfl⟩ := Place.cases hplace
    · exact absurd rfl hfirst
    · exact absurd rfl hlast
    · obtain ⟨fd, hfd, hend⟩ := exists_end?_of_lt hcount side hi
      exact ⟨fd, hfd, fun _ => given_seat hend⟩

/-- Three stages between outer streams that are one and the same descriptor. -/
theorem ends_used_once_three_stages :
    let w : Wiring := ⟨3, [⟨5, 3⟩, ⟨4, 6⟩]⟩
    let outer : Outer := { source := some 7, sink := some 7 }
    w.pipes.length + 1 = w.stages ∧ w.fds.Nodup ∧
      (∃! place : Place, place.stage < 3 ∧ w.given outer place = some 4) ∧
      w.given outer .first = some 7 ∧ w.given outer (.last 3) = some 7 := by
  intro w outer
  have hdistinct : w.fds.Nodup := by decide
  obtain ⟨-, -, honce, hsource, hsink, -⟩ := ends_used_once (w := w) rfl hdistinct outer
  exact ⟨rfl, hdistinct, honce 4 (by decide) (by decide), hsource, hsink⟩

end Wiring

end PipeShell
