import Mathlib.Data.Finset.Card
import Mathlib.Data.Finset.Range
import PipeShell.Proofs.Machine.Wired
import PipeShell.Proofs.Pipeline.Conversation

/-!
# Room for the pipes of a line

The pipes of a line are made one by one, and there may be room for some of them only. A machine has
room for as many descriptors as there are free numbers below its limit (`Machine.HasRoom`), and a
pipe needs two of them (`Machine.makePipe_ok_iff`).

* `Machine.Serves` is what a machine answers that may also refuse a pipe that there is room for, and
  `Interaction.Proceeds` what such an answer does to a computation.
* `Stand` is where the making of pipes stands: it goes on, or a pipe has been refused and the ends
  of those before are closed again. `Stand.Sound` is what is known there, kept by every answer
  (`Stand.sound_step`).
* `Wiring.make_allOrNothing` puts it together: either all pipes are there, or no descriptor is left
  behind; and the former exactly if there is room for all of them.
-/

namespace PipeShell

/-! ### Free numbers -/

namespace DescriptorTable

/-- Below the least free number all numbers are taken. -/
theorem isSome_get?_of_lt_lowestFree {t : DescriptorTable} {n : Nat} (h : n < t.lowestFree) :
    (t.get? (n : Int)).isSome := by
  have hslot : ∀ hn : n < t.slots.size, t.slots[n] ≠ none → (t.get? (n : Int)).isSome := by
    intro hn hopen
    have hget : t.get? (n : Int) = t.slots[n]?.join := rfl
    rw [hget, Array.getElem?_eq_getElem hn]
    exact Option.isSome_iff_ne_none.mpr hopen
  rw [lowestFree] at h
  cases hfind : t.slots.findIdx? Option.isNone with
  | none =>
    rw [hfind] at h
    have hall := Array.findIdx?_eq_none_iff.mp hfind t.slots[n] (Array.getElem_mem h)
    exact hslot h fun hnone => by simp [hnone] at hall
  | some i =>
    rw [hfind] at h
    obtain ⟨hi, -, hbefore⟩ := Array.findIdx?_eq_some_iff_getElem.mp hfind
    exact hslot (Nat.lt_trans h hi) fun hnone => hbefore n h (by simp [hnone])

/-- How many numbers below a limit are free. -/
def free (t : DescriptorTable) (limit : Nat) : Nat :=
  ((Finset.range limit).filter fun n : Nat => t.get? n = none).card

/-- The least free number is below a limit if any free number is. -/
theorem lowestFree_lt_iff (t : DescriptorTable) (limit : Nat) :
    t.lowestFree < limit ↔ 0 < t.free limit := by
  rw [free, Finset.card_pos]
  constructor
  · intro h
    exact ⟨t.lowestFree, Finset.mem_filter.mpr ⟨Finset.mem_range.mpr h, t.get?_lowestFree⟩⟩
  · rintro ⟨n, hn⟩
    obtain ⟨hlimit, hfree⟩ := Finset.mem_filter.mp hn
    have hle : t.lowestFree ≤ n := by
      refine Nat.le_of_not_lt fun hlt => ?_
      have hsome := isSome_get?_of_lt_lowestFree hlt
      rw [hfree] at hsome
      cases hsome
    exact Nat.lt_of_le_of_lt hle (Finset.mem_range.mp hlimit)

/-- Whoever takes a free number leaves one less. -/
theorem free_insert {t : DescriptorTable} {n limit : Nat} (e : Entry)
    (hfree : t.get? (n : Int) = none) (hn : n < limit) :
    (t.insert n e).free limit + 1 = t.free limit := by
  have hmem : n ∈ (Finset.range limit).filter fun m : Nat => t.get? m = none :=
    Finset.mem_filter.mpr ⟨Finset.mem_range.mpr hn, hfree⟩
  have herase : ((Finset.range limit).filter fun m : Nat => (t.insert n e).get? m = none) =
      ((Finset.range limit).filter fun m : Nat => t.get? m = none).erase n := by
    ext m
    by_cases hm : m = n
    · simp [hm, get?_insert]
    · have hne : (m : Int) ≠ n := by omega
      simp only [Finset.mem_filter, Finset.mem_erase, get?_insert, if_neg hne, ne_eq, hm,
        not_false_eq_true, true_and]
  rw [free, free, herase, Finset.card_erase_add_one hmem]

/-- The two numbers that a pipe takes are below a limit if there are two free ones. -/
theorem two_le_free_iff (t : DescriptorTable) (limit : Nat) (e : Entry) :
    2 ≤ t.free limit ↔
      t.lowestFree < limit ∧ (t.insert t.lowestFree e).lowestFree < limit := by
  have hinsert : t.lowestFree < limit →
      (t.insert t.lowestFree e).free limit + 1 = t.free limit :=
    free_insert e t.get?_lowestFree
  constructor
  · intro h
    have hfirst : t.lowestFree < limit := (lowestFree_lt_iff t limit).mpr (by omega)
    have hcount := hinsert hfirst
    exact ⟨hfirst, (lowestFree_lt_iff _ limit).mpr (by omega)⟩
  · rintro ⟨hfirst, hsecond⟩
    have hcount := hinsert hfirst
    have hone := (lowestFree_lt_iff _ limit).mp hsecond
    omega

end DescriptorTable

namespace Machine

variable {σ : Type} {m m' : Machine σ}

/-- Whether the shell may have so many descriptors besides those that it has. -/
def HasRoom (m : Machine σ) (count : Nat) : Prop :=
  ∀ limit, m.descriptorLimit = some limit → count ≤ m.table.free limit

theorem HasRoom.mono {count count' : Nat} (h : m.HasRoom count) (hle : count' ≤ count) :
    m.HasRoom count' :=
  fun limit hlimit => Nat.le_trans hle (h limit hlimit)

theorem mayOpen_iff (m : Machine σ) (n : Nat) :
    m.mayOpen n = true ↔ ∀ limit, m.descriptorLimit = some limit → n < limit := by
  rw [mayOpen]
  cases m.descriptorLimit with
  | none => simp
  | some limit => simp

/-- A pipe takes the two least free numbers, if both are below the limit. -/
theorem hasRoom_two_iff (m : Machine σ) (e : Entry) :
    m.HasRoom 2 ↔
      (m.mayOpen m.table.lowestFree && m.mayOpen (m.table.insert m.table.lowestFree e).lowestFree) =
        true := by
  rw [Bool.and_eq_true, mayOpen_iff, mayOpen_iff]
  constructor
  · intro h
    exact ⟨fun limit hlimit => ((m.table.two_le_free_iff limit e).mp (h limit hlimit)).1,
      fun limit hlimit => ((m.table.two_le_free_iff limit e).mp (h limit hlimit)).2⟩
  · rintro ⟨hfirst, hsecond⟩ limit hlimit
    exact (m.table.two_le_free_iff limit e).mpr ⟨hfirst limit hlimit, hsecond limit hlimit⟩

/-- **A pipe can be made exactly if there is room for two descriptors.** -/
theorem makePipe_ok_iff (m : Machine σ) :
    (∃ ends m', m.makePipe = (.ok ends, m')) ↔ m.HasRoom 2 := by
  rw [m.hasRoom_two_iff ⟨m.files.size, true⟩, makePipe.eq_def]
  dsimp only
  split
  · rename_i hroom
    exact iff_of_true ⟨_, _, rfl⟩ hroom
  · rename_i hroom
    refine iff_of_false ?_ hroom
    rintro ⟨ends, m', h⟩
    cases h

/-- A pipe leaves room for two descriptors less. -/
theorem hasRoom_of_makePipe {read write : Fd} (h : m.makePipe = (.ok (read, write), m'))
    (count : Nat) : m'.HasRoom count ↔ m.HasRoom (2 + count) := by
  rw [makePipe.eq_def] at h
  dsimp only at h
  split at h
  · rename_i hmay
    obtain ⟨-, rfl⟩ := Prod.mk.inj h
    have hroom := (m.hasRoom_two_iff ⟨m.files.size, true⟩).mpr hmay
    have htaken : ∀ limit, m.descriptorLimit = some limit →
        ((m.table.insert m.table.lowestFree ⟨m.files.size, true⟩).insert
          (m.table.insert m.table.lowestFree ⟨m.files.size, true⟩).lowestFree
          ⟨m.files.size + 1, true⟩).free limit + 2 = m.table.free limit := by
      intro limit hlimit
      obtain ⟨hfirst, hsecond⟩ := (DescriptorTable.two_le_free_iff _ limit ⟨m.files.size, true⟩).mp
        (hroom limit hlimit)
      have hread := DescriptorTable.free_insert ⟨m.files.size, true⟩ m.table.get?_lowestFree hfirst
      have hwrite := DescriptorTable.free_insert ⟨m.files.size + 1, true⟩
        (DescriptorTable.get?_lowestFree _) hsecond
      omega
    constructor
    · intro hcount limit hlimit
      have hafter := hcount limit hlimit
      have hfree := htaken limit hlimit
      dsimp only at hafter
      omega
    · intro hcount limit hlimit
      have hbefore := hcount limit hlimit
      have hfree := htaken limit hlimit
      dsimp only
      omega
  · cases h

/-! ### What is left behind -/

/-- Of two states of a machine, the later one has these descriptors besides those of the earlier
one: all of them new, each once, and closed when a program starts. Nothing else has changed in the
table.
-/
structure Adds (m m' : Machine σ) (fds : List Fd) : Prop where
  nodup : fds.Nodup
  fresh : ∀ fd ∈ fds, m.table.get? fd = none
  opened : ∀ fd ∈ fds, ∃ file, m'.table.get? fd = some ⟨file, true⟩
  others : ∀ fd ∉ fds, m'.table.get? fd = m.table.get? fd

theorem Adds.refl (m : Machine σ) : m.Adds m [] :=
  ⟨.nil, nofun, nofun, fun _ _ => rfl⟩

/-- Where no descriptor has been added, the table is what it was. -/
theorem Adds.get?_eq (h : m.Adds m' []) (fd : Fd) : m'.table.get? fd = m.table.get? fd :=
  h.others fd List.not_mem_nil

/-- A pipe adds its two ends. -/
theorem Adds.makePipe {m₀ : Machine σ} {fds : List Fd} (h : m₀.Adds m fds) {read write : Fd}
    (hpipe : m.makePipe = (.ok (read, write), m')) : m₀.Adds m' (fds ++ [read, write]) := by
  obtain ⟨table, rfl, ⟨-, hread⟩, ⟨-, hwrite⟩, hne, htable⟩ := makePipe_eq_ok hpipe
  have hnew : ∀ fd, m.table.get? fd = none → fd ∉ fds ∧ m₀.table.get? fd = none := by
    intro fd hnone
    have hmem : fd ∉ fds := by
      intro hmem
      obtain ⟨file, hopen⟩ := h.opened fd hmem
      rw [hnone] at hopen
      cases hopen
    exact ⟨hmem, (h.others fd hmem).symm.trans hnone⟩
  obtain ⟨hreadNew, hreadFresh⟩ := hnew read hread
  obtain ⟨hwriteNew, hwriteFresh⟩ := hnew write hwrite
  refine ⟨?_, ?_, ?_, ?_⟩
  · have hends : [read, write].Nodup := by simp [hne]
    refine h.nodup.append hends ?_
    rintro fd hfd hend
    obtain rfl | rfl : fd = read ∨ fd = write := by simpa using hend
    · exact hreadNew hfd
    · exact hwriteNew hfd
  · intro fd hfd
    obtain hfd | rfl | rfl : fd ∈ fds ∨ fd = read ∨ fd = write := by simpa using hfd
    · exact h.fresh fd hfd
    · exact hreadFresh
    · exact hwriteFresh
  · intro fd hfd
    dsimp only
    rw [htable]
    split
    · exact ⟨_, rfl⟩
    · split
      · exact ⟨_, rfl⟩
      · rename_i hw hr
        have hold : fd ∈ fds := by simpa [hw, hr] using hfd
        exact h.opened fd hold
  · intro fd hfd
    obtain ⟨hold, hr, hw⟩ : fd ∉ fds ∧ fd ≠ read ∧ fd ≠ write := by simpa using hfd
    dsimp only
    rw [htable, if_neg hw, if_neg hr]
    exact h.others fd hold

/-- A descriptor that has been added can be closed, and nothing else is closed with it. -/
theorem Adds.close {m₀ : Machine σ} {fd : Fd} {fds : List Fd} (h : m₀.Adds m (fd :: fds))
    {answer : (Request.close fd).Answer} (hclose : m.answer (.close fd) = some (answer, m')) :
    answer = .ok () ∧ m₀.Adds m' fds := by
  obtain ⟨hfd, hnodup⟩ := List.nodup_cons.mp h.nodup
  obtain ⟨file, hopen⟩ := h.opened fd List.mem_cons_self
  rw [Machine.answer] at hclose
  simp only [hopen] at hclose
  cases hclose
  refine ⟨rfl, hnodup, fun other hother => h.fresh other (List.mem_cons_of_mem fd hother), ?_, ?_⟩
  · intro other hother
    have hne : other ≠ fd := fun heq => hfd (heq ▸ hother)
    dsimp only
    rw [DescriptorTable.get?_erase, if_neg hne]
    exact h.opened other (List.mem_cons_of_mem fd hother)
  · intro other hother
    dsimp only
    rw [DescriptorTable.get?_erase]
    split
    · rename_i heq
      rw [heq, h.fresh fd List.mem_cons_self]
    · rename_i hne
      exact h.others other (by simp [hne, hother])

end Machine

/-! ### A machine that may refuse a pipe -/

section Refusals

variable {σ α : Type} {refusals : Errno → Prop} {m m' : Machine σ}

/-- What a machine may answer: what it answers of itself, or that a pipe cannot be had for one of
some causes, whether there is room for it or not. -/
inductive Machine.Serves (refusals : Errno → Prop) (m : Machine σ) :
    ShellReply → Machine σ → Prop where
  | answers {r : Request} {answer : r.Answer} {m' : Machine σ}
    (h : m.answer r = some (answer, m')) : Serves refusals m ⟨r, answer⟩ m'
  | refuses {cause : Errno} (h : refusals cause) : Serves refusals m ⟨.pipe, .error cause⟩ m

/-- What one answer of such a machine does to a computation of the shell. -/
inductive Interaction.Proceeds (refusals : Errno → Prop) :
    Interaction α × Machine σ → ShellReply → Interaction α × Machine σ → Prop where
  | once {r : Request} {next : r.Answer → Interaction α} {m m' : Machine σ} {answer : r.Answer}
    (h : m.Serves refusals ⟨r, answer⟩ m') :
    Proceeds refusals (.once r next, m) ⟨r, answer⟩ (next answer, m')
  | persist {r : Request} {next : r.Answer → Interaction α} {m m' : Machine σ} {answer : r.Answer}
    (h : m.Serves refusals ⟨r, answer⟩ m') :
    Proceeds refusals (.persist r next, m) ⟨r, answer⟩ (resume r next answer, m')

/-- Why a pipe has been refused, if an answer says so. An interruption is no refusal. -/
def ShellReply.refusal? : ShellReply → Option Errno
  | ⟨.pipe, .error cause⟩ => if cause = .eintr then none else some cause
  | _ => none

/-! ### Where the making of pipes stands -/

/-- Where the making of the pipes of a line stands. -/
inductive Stand where
  /-- So many pipes are still to be made behind those that are there. -/
  | growing (w : Wiring) (left : Nat)
  /-- A pipe has been refused, and these ends are still to be closed. -/
  | giving (rest : List Fd) (cause : Errno)

namespace Stand

/-- What is left to do. -/
def toInteraction : Stand → Interaction (Except LaunchError Wiring)
  | growing w left => w.extend left
  | giving rest cause =>
    (Interaction.performAll (rest.map .close)).bind fun _ => .done (.error (.pipe cause))

/-- What is known of a machine `m₀` with nothing made yet, of all answers since, and of the machine
`m` now, while the pipes of a line of `n` stages are being made. -/
structure Growing (n : Nat) (m₀ : Machine σ) (past : List ShellReply) (w : Wiring) (left : Nat)
    (m : Machine σ) : Prop where
  stages : w.stages = n
  count : w.pipes.length + left = n - 1
  ends : w.fds = endsMade past
  adds : m₀.Adds m w.fds
  room : ∀ count, m.HasRoom count ↔ m₀.HasRoom (w.fds.length + count)
  unrefused : ∀ e ∈ past, e.refusal? = none

/-- What is known once a pipe has been refused. -/
structure Giving (refusals : Errno → Prop) (n : Nat) (m₀ : Machine σ) (past : List ShellReply)
    (rest : List Fd) (cause : Errno) (m : Machine σ) : Prop where
  adds : m₀.Adds m rest
  refused : ∃ e ∈ past, e.refusal? = some cause
  only : ∀ e ∈ past, ∀ cause', e.refusal? = some cause' → cause' = cause
  last : past.Pairwise fun e e' => e.refusal? ≠ none → e'.1 ≠ .pipe
  why : refusals cause ∨ ¬m₀.HasRoom (2 * (n - 1))

/-- What is known wherever the making of pipes stands. -/
def Sound (refusals : Errno → Prop) (n : Nat) (m₀ : Machine σ) (past : List ShellReply) :
    Stand → Machine σ → Prop
  | growing w left, m => Growing n m₀ past w left m
  | giving rest cause, m => Giving refusals n m₀ past rest cause m

variable {n : Nat} {m₀ : Machine σ} {past : List ShellReply} {w : Wiring} {left : Nat}
  {rest : List Fd} {cause : Errno}

/-- The line begins with nothing made. -/
theorem growing_start (n : Nat) (m : Machine σ) : Growing n m [] ⟨n, []⟩ (n - 1) m where
  stages := rfl
  count := Nat.zero_add _
  ends := rfl
  adds := .refl m
  room count := by
    have hnone : Wiring.fds ⟨n, []⟩ = [] := rfl
    rw [hnone, List.length_nil, Nat.zero_add]
  unrefused := nofun

/-- One more pipe has been made. -/
theorem Growing.made (h : Growing n m₀ past w (left + 1) m) {read write : Fd}
    (hpipe : m.makePipe = (.ok (read, write), m')) :
    Growing n m₀ (past ++ [⟨.pipe, .ok (read, write)⟩]) (w.snoc ⟨read, write⟩) left m' where
  stages := h.stages
  count := by
    have hcount := h.count
    rw [Wiring.length_pipes_snoc]
    omega
  ends := by
    rw [Wiring.fds_snoc, endsMade_append, ← h.ends]
    rfl
  adds := by
    rw [Wiring.fds_snoc]
    exact h.adds.makePipe hpipe
  room count := by
    rw [Machine.hasRoom_of_makePipe hpipe, h.room, Wiring.fds_snoc, List.length_append,
      Nat.add_assoc]
    rfl
  unrefused e he := by
    rw [List.mem_append, List.mem_singleton] at he
    rcases he with he | rfl
    · exact h.unrefused e he
    · rfl

/-- An interruption changes nothing. -/
theorem Growing.interrupted (h : Growing n m₀ past w left m) :
    Growing n m₀ (past ++ [⟨.pipe, .error .eintr⟩]) w left m where
  stages := h.stages
  count := h.count
  ends := by
    rw [endsMade_append, h.ends]
    exact (List.append_nil _).symm
  adds := h.adds
  room := h.room
  unrefused e he := by
    rw [List.mem_append, List.mem_singleton] at he
    rcases he with he | rfl
    · exact h.unrefused e he
    · rfl

/-- A pipe is refused. -/
theorem Growing.refused (h : Growing n m₀ past w left m) (hcause : cause ≠ .eintr)
    (hwhy : refusals cause ∨ ¬m₀.HasRoom (2 * (n - 1))) :
    Giving refusals n m₀ (past ++ [⟨.pipe, .error cause⟩]) w.fds cause m where
  adds := h.adds
  refused := ⟨_, List.mem_append_right _ (List.mem_singleton_self _), if_neg hcause⟩
  only e he cause' hrefusal := by
    rw [List.mem_append, List.mem_singleton] at he
    rcases he with he | rfl
    · rw [h.unrefused e he] at hrefusal
      cases hrefusal
    · exact (Option.some.inj ((if_neg hcause).symm.trans hrefusal)).symm
  last := by
    have hbefore : ∀ e ∈ past, ∀ e' : ShellReply, e.refusal? ≠ none → e'.1 ≠ .pipe :=
      fun e he e' hne => absurd (h.unrefused e he) hne
    refine List.pairwise_append.mpr
      ⟨?_, List.pairwise_singleton _ _, fun e he e' _ => hbefore e he e'⟩
    exact List.pairwise_of_forall_mem_list fun e he e' _ => hbefore e he e'
  why := hwhy

/-- A machine that has no room for a pipe has no room for all of them. -/
theorem Growing.not_hasRoom (h : Growing n m₀ past w (left + 1) m) (hfull : ¬m.HasRoom 2) :
    ¬m₀.HasRoom (2 * (n - 1)) := by
  intro hroom
  have hcount := h.count
  have hlength := w.length_fds
  exact hfull ((h.room 2).mpr (hroom.mono (by omega)))

/-- An end that is still there is closed. -/
theorem Giving.closed {fd : Fd} (h : Giving refusals n m₀ past (fd :: rest) cause m)
    {answer : (Request.close fd).Answer} (hclose : m.answer (.close fd) = some (answer, m')) :
    Giving refusals n m₀ (past ++ [⟨.close fd, answer⟩]) rest cause m' where
  adds := (h.adds.close hclose).2
  refused := by
    obtain ⟨e, he, hrefusal⟩ := h.refused
    exact ⟨e, List.mem_append_left _ he, hrefusal⟩
  only e he cause' hrefusal := by
    rw [List.mem_append, List.mem_singleton] at he
    rcases he with he | rfl
    · exact h.only e he cause' hrefusal
    · cases hrefusal
  last := by
    refine List.pairwise_append.mpr ⟨h.last, List.pairwise_singleton _ _, ?_⟩
    rintro e - e' he' -
    obtain rfl := List.mem_singleton.mp he'
    nofun
  why := h.why

/-- **Every answer leads from one stand to another**, and what is known is kept. -/
theorem sound_step {stand : Stand} (h : stand.Sound refusals n m₀ past m) {e : ShellReply}
    {t : Interaction (Except LaunchError Wiring) × Machine σ}
    (hproceeds : Interaction.Proceeds refusals (stand.toInteraction, m) e t) :
    ∃ stand' : Stand, t.1 = stand'.toInteraction ∧
      stand'.Sound refusals n m₀ (past ++ [e]) t.2 := by
  cases stand with
  | growing w left =>
    cases left with
    | zero => cases hproceeds
    | succ left =>
      cases hproceeds with
      | @persist _ _ _ m' answer hserves =>
        cases hserves with
        | answers hpipe =>
          replace hpipe : m.makePipe = (answer, m') := Option.some.inj hpipe
          match answer with
          | .ok (read, write) =>
            exact ⟨growing (w.snoc ⟨read, write⟩) left, rfl, Growing.made h hpipe⟩
          | .error cause =>
            obtain ⟨rfl, rfl⟩ := Machine.makePipe_eq_error hpipe
            have hfull : ¬m'.HasRoom 2 := by
              rw [← Machine.makePipe_ok_iff]
              rintro ⟨ends, m'', hmade⟩
              rw [hpipe] at hmade
              cases hmade
            exact ⟨giving w.fds .emfile, rfl,
              Growing.refused h nofun (.inr (Growing.not_hasRoom h hfull))⟩
        | @refuses cause hrefused =>
          by_cases hcause : cause = .eintr
          · subst hcause
            exact ⟨growing w (left + 1), rfl, Growing.interrupted h⟩
          · have hsettled : isInterruption (.error cause : Request.pipe.Answer) = false := by
              refine Bool.eq_false_iff.mpr fun hinterrupted => hcause ?_
              exact Except.error.inj (eq_of_isInterruption hinterrupted)
            refine ⟨giving w.fds cause, ?_, Growing.refused h hcause (.inl hrefused)⟩
            rw [Interaction.resume, if_neg (Bool.eq_false_iff.mp hsettled)]
            rfl
  | giving rest cause =>
    cases rest with
    | nil => cases hproceeds
    | cons fd rest =>
      cases hproceeds with
      | once hserves =>
        cases hserves with
        | answers hclose => exact ⟨giving rest cause, rfl, Giving.closed h hclose⟩

theorem sound_of_plays {p : Interaction (Except LaunchError Wiring)} {replies : List ShellReply}
    (h : Plays (Interaction.Proceeds refusals) (Wiring.make n, m₀) replies (p, m)) :
    ∃ stand : Stand, p = stand.toInteraction ∧ stand.Sound refusals n m₀ replies m := by
  have hstart : ∃ stand : Stand, Wiring.make n = stand.toInteraction ∧
      stand.Sound refusals n m₀ [] m₀ :=
    ⟨growing ⟨n, []⟩ (n - 1), rfl, growing_start n m₀⟩
  refine h.records (fun past (s : Interaction (Except LaunchError Wiring) × Machine σ) =>
    ∃ stand : Stand, s.1 = stand.toInteraction ∧ stand.Sound refusals n m₀ past s.2) ?_ hstart
  rintro past ⟨p, m⟩ e t ⟨stand, rfl, hsound⟩ hproceeds
  exact sound_step hsound hproceeds

/-- Closing comes to its end. -/
theorem exists_plays_closing (refusals : Errno → Prop) (fds : List Fd) (m : Machine σ) (a : α) :
    ∃ replies m', Plays (Interaction.Proceeds refusals)
      ((Interaction.performAll (fds.map .close)).bind fun _ => .done a, m) replies
      (.done a, m') := by
  induction fds generalizing m with
  | nil => exact ⟨[], m, .nil _⟩
  | cons fd rest ih =>
    obtain ⟨answer, m', hclose⟩ : ∃ answer m', m.answer (.close fd) = some (answer, m') := by
      rw [Machine.answer]
      split <;> exact ⟨_, _, rfl⟩
    obtain ⟨replies, m'', hrest⟩ := ih m'
    exact ⟨_, m'', .cons (.once (.answers hclose)) hrest⟩

/-- **The making of pipes comes to its end**, if the machine lets it. -/
theorem exists_plays_done (refusals : Errno → Prop) (stand : Stand) (m : Machine σ) :
    ∃ replies result m', Plays (Interaction.Proceeds refusals) (stand.toInteraction, m) replies
      (.done result, m') := by
  have hgiving : ∀ (rest : List Fd) (cause : Errno) (m : Machine σ), ∃ replies result m',
      Plays (Interaction.Proceeds refusals) ((giving rest cause).toInteraction, m) replies
        (.done result, m') := by
    intro rest cause m
    obtain ⟨replies, m', hplays⟩ := exists_plays_closing refusals rest m
      (Except.error (.pipe cause) : Except LaunchError Wiring)
    exact ⟨replies, _, m', hplays⟩
  cases stand with
  | giving rest cause => exact hgiving rest cause m
  | growing w left =>
    induction left generalizing w m with
    | zero => exact ⟨[], .ok w, m, .nil _⟩
    | succ left ih =>
      rcases hpipe : m.makePipe with ⟨answer, m'⟩
      have hserves : m.Serves refusals ⟨.pipe, answer⟩ m' := .answers (congrArg some hpipe)
      match answer with
      | .ok (read, write) =>
        obtain ⟨replies, result, m'', hrest⟩ := ih m' (w.snoc ⟨read, write⟩)
        exact ⟨_, result, m'', .cons (.persist hserves) hrest⟩
      | .error cause =>
        obtain ⟨rfl, rfl⟩ := Machine.makePipe_eq_error hpipe
        obtain ⟨replies, result, m'', hrest⟩ := hgiving w.fds .emfile m'
        exact ⟨_, result, m'', .cons (.persist hserves) hrest⟩

/-- The making of pipes is over when none are missing, or none are left to be closed. -/
theorem cases_of_toInteraction_eq_done {stand : Stand} {result : Except LaunchError Wiring}
    (h : stand.toInteraction = .done result) :
    (∃ w, stand = growing w 0 ∧ result = .ok w) ∨
      ∃ cause, stand = giving [] cause ∧ result = .error (.pipe cause) := by
  cases stand with
  | growing w left =>
    cases left with
    | zero => exact .inl ⟨w, rfl, (Interaction.done.inj h).symm⟩
    | succ left => cases h
  | giving rest cause =>
    cases rest with
    | nil => exact .inr ⟨cause, rfl, (Interaction.done.inj h).symm⟩
    | cons fd rest => cases h

end Stand

theorem ShellReply.ne_eintr_of_refusal?_eq_some {e : ShellReply} {cause : Errno}
    (h : e.refusal? = some cause) : cause ≠ .eintr := by
  rw [refusal?.eq_def] at h
  split at h
  · split at h
    · cases h
    · rename_i hcause
      exact Option.some.inj h ▸ hcause
  · cases h

/-- Closing what has been added brings the table back to what it was. -/
theorem Machine.Adds.get?_of_closing {m₀ : Machine σ} {fds : List Fd} (h : m₀.Adds m fds)
    {replies : List ShellReply} {u : Unit}
    (hplays : Plays (Interaction.Proceeds refusals)
      (Interaction.performAll (fds.map .close), m) replies (.done u, m')) (fd : Fd) :
    m'.table.get? fd = m₀.table.get? fd := by
  induction fds generalizing m replies with
  | nil =>
    cases hplays with
    | nil => exact h.get?_eq fd
    | cons first others => cases first
  | cons fd' rest ih =>
    cases hplays with
    | cons first others =>
      cases first with
      | once hserves =>
        cases hserves with
        | answers hclose => exact ih (h.close hclose).2 others

namespace Wiring

/-- The pipes of a line of `n` stages have been made, two descriptors for each, on a machine that
had room for them. -/
structure IsMade (n : Nat) (m m' : Machine σ) (replies : List ShellReply) (w : Wiring) : Prop where
  stages : w.stages = n
  count : w.fds.length = 2 * (n - 1)
  /-- The ends are those that the answers tell of, in the order in which they were made. -/
  ends : w.fds = endsMade replies
  adds : m.Adds m' w.fds
  room : m.HasRoom (2 * (n - 1))

theorem isMade_of_growing {n : Nat} {replies : List ShellReply} {w : Wiring}
    (h : Stand.Growing n m replies w 0 m') : w.IsMade n m m' replies := by
  have hcount : w.fds.length = 2 * (n - 1) := by
    have hpipes := h.count
    have hlength := w.length_fds
    omega
  refine ⟨h.stages, hcount, h.ends, h.adds, ?_⟩
  have hnone : m'.HasRoom 0 := fun _ _ => Nat.zero_le _
  rw [h.room, hcount] at hnone
  exact hnone

/-- **All pipes or none.** Whatever the table of the shell is, whatever room there is in it and
wherever a pipe is refused: the making of the pipes of a line of `n` stages comes to its end, and
behind a refusal no further pipe is asked for.

At the end, the result is the cause of the refusal if there was one, and the table is what it was.
Without a refusal the shell has `2 * (n - 1)` new descriptors, all different and closed when a
program starts; closing them brings the table back to what it was. If pipes are refused for want of
room only, this is so exactly if there was room for all of them. -/
theorem make_allOrNothing {n : Nat} {replies : List ShellReply}
    {p : Interaction (Except LaunchError Wiring)}
    (h : Plays (Interaction.Proceeds refusals) (make n, m) replies (p, m')) :
    (∃ rest result m'', Plays (Interaction.Proceeds refusals) (p, m') rest (.done result, m'')) ∧
    (replies.Pairwise fun e e' => e.refusal? ≠ none → e'.1 ≠ .pipe) ∧
    ∀ result, p = .done result →
      (∀ e ∈ replies, ∀ cause, e.refusal? = some cause → result = .error (.pipe cause)) ∧
      (∀ error, result = .error error →
        (∃ e ∈ replies, ∃ cause, e.refusal? = some cause ∧ error = .pipe cause) ∧
        ∀ fd, m'.table.get? fd = m.table.get? fd) ∧
      (∀ w, result = .ok w → w.IsMade n m m' replies ∧
        (∃ rest m'', Plays (Interaction.Proceeds refusals) (w.release, m') rest (.done (), m'')) ∧
        ∀ rest m'', Plays (Interaction.Proceeds refusals) (w.release, m') rest (.done (), m'') →
          ∀ fd, m''.table.get? fd = m.table.get? fd) ∧
      ((∀ cause, refusals cause → cause = .eintr) →
        ((∃ w, result = .ok w) ↔ m.HasRoom (2 * (n - 1)))) := by
  obtain ⟨stand, rfl, hsound⟩ := Stand.sound_of_plays h
  refine ⟨stand.exists_plays_done refusals m', ?_, ?_⟩
  · cases stand with
    | growing w left =>
      exact List.pairwise_of_forall_mem_list fun e he _ _ hrefused =>
        absurd (Stand.Growing.unrefused hsound e he) hrefused
    | giving rest cause => exact Stand.Giving.last hsound
  · intro result hdone
    obtain ⟨w, rfl, rfl⟩ | ⟨cause, rfl, rfl⟩ := Stand.cases_of_toInteraction_eq_done hdone
    · have hmade := isMade_of_growing hsound
      refine ⟨?_, nofun, ?_, fun _ => iff_of_true ⟨w, rfl⟩ hmade.room⟩
      · intro e he cause hrefusal
        rw [Stand.Growing.unrefused hsound e he] at hrefusal
        cases hrefusal
      · intro w' hw
        obtain rfl := Except.ok.inj hw
        refine ⟨hmade, ?_, fun rest m'' => hmade.adds.get?_of_closing⟩
        obtain ⟨rest, m'', hclosing⟩ := Stand.exists_plays_closing refusals w.fds m' ()
        have hrelease : (Interaction.performAll (w.fds.map .close)).bind (fun _ => .done ()) =
            w.release := Interaction.bind_done _
        rw [hrelease] at hclosing
        exact ⟨rest, m'', hclosing⟩
    · obtain ⟨hadds, ⟨e, he, hrefusal⟩, honly, -, hwhy⟩ := hsound
      refine ⟨?_, ?_, nofun, ?_⟩
      · intro e he cause' hrefusal
        rw [honly e he cause' hrefusal]
      · intro error herror
        obtain rfl := Except.error.inj herror
        exact ⟨⟨e, he, cause, hrefusal, rfl⟩, hadds.get?_eq⟩
      · intro hinterrupted
        have hcause := ShellReply.ne_eintr_of_refusal?_eq_some hrefusal
        refine iff_of_false (fun ⟨w, hw⟩ => nomatch hw) (hwhy.resolve_left fun hrefused => ?_)
        exact hcause (hinterrupted cause hrefused)

end Wiring

end Refusals

/-! ### A second pipe that there is no room for -/

/-- A shell with its standard streams that may have three descriptors more. -/
def crampedMachine : Machine Unit where
  table := .ofList [⟨0, false⟩, ⟨1, false⟩, ⟨2, false⟩]
  files := #[.null, .null, .null]
  descriptorLimit := some 6

/-- Of the two pipes of three stages only one can be made, and it is given up. -/
theorem make_allOrNothing_cramped :
    crampedMachine.HasRoom 2 ∧ ∃ replies cause m',
      Plays (Interaction.Proceeds (· = .eintr)) (Wiring.make 3, crampedMachine) replies
        (.done (.error (.pipe cause)), m') ∧
      ∀ fd, m'.table.get? fd = crampedMachine.table.get? fd := by
  have hroom : ∀ count, crampedMachine.HasRoom count ↔ count ≤ 3 := by
    intro count
    have hfree : crampedMachine.table.free 6 = 3 := by decide
    exact ⟨fun h => hfree ▸ h 6 rfl, fun h limit hlimit => by cases hlimit; rwa [hfree]⟩
  obtain ⟨replies, result, m', hplays⟩ :=
    (Stand.growing ⟨3, []⟩ 2).exists_plays_done (· = .eintr) crampedMachine
  obtain ⟨-, -, hall⟩ := Wiring.make_allOrNothing hplays
  obtain ⟨-, herror, -, hmade⟩ := hall result rfl
  cases result with
  | ok w => exact absurd ((hroom 4).mp ((hmade fun _ h => h).mp ⟨w, rfl⟩)) (by decide)
  | error error =>
    obtain ⟨⟨e, -, cause, -, rfl⟩, htable⟩ := herror error rfl
    exact ⟨(hroom 2).mpr (by decide), replies, cause, m', hplays, htable⟩

end PipeShell
