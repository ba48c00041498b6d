import PipeShell.Proofs.Machine.Holders
import PipeShell.Proofs.Machine.PlainMoment
import PipeShell.Proofs.Pipeline.Completion

/-!
# No line deadlocks

The stages of a line wait for each other through pipes of bounded capacity, and the shell waits for
the stages. If the outer streams never make anybody wait, somebody can always go on.

The argument follows the chain. Suppose that everybody waits. Then the shell waits for a process,
all stages before it are over, and everybody who lives runs a program. The first stage that lives
does not wait for input: nobody else can write to the pipe before it. So it waits for room in the
pipe behind it, which is full and has a reader, the next stage. That one does not wait for input
either, since its pipe is full; so it waits for room as well, and so on to the last stage, which
writes to the sink and does not wait.

* `Machine.NeverBlocks` is the assumption on the outer streams. It holds of files that are neither
  pipes nor terminals (`neverBlocks_of_reaches`).
* `Machine.never_deadlocks` is the theorem, for all lines, plain programs and orders of steps.
-/

namespace PipeShell

variable {σ : Type}

namespace Machine

/-- Nobody waits for the outer streams, nor for the error stream. -/
structure NeverBlocks (m₀ : Machine σ) (outer : Outer) (m : Machine σ) : Prop where
  source : ∀ size, (m.readFrom m₀.table (outer.source.getD Fd.stdin) size).isSome = true
  sink : ∀ bytes, m.writeTo m₀.table (outer.sink.getD Fd.stdout) bytes ≠ .waits
  error : ∀ bytes, m.writeTo m₀.table Fd.stderr bytes ≠ .waits

section Deadlock

variable {rep : Repertoire σ} {r : Runner} {line : String} {m₀ m : Machine σ} {l : Launcher}
  {stages : List Stage} {s : Progress} {outer : Outer}

/-! ### Who lives -/

/-- Who refers to something lives. -/
theorem Layout.isActive_of_refers {R : DescriptorTable → DescriptorTable → Prop}
    (h : Layout m₀ l stages R s m) {i : Nat} {c : Process σ} {fd : Fd} {pipe : Nat} {side : Side}
    (hc : m.children[m₀.children.size + i]? = some c)
    (hrefers : m.Refers c.table fd pipe side) : c.life.isActive = true := by
  obtain ⟨-, -, stage, table, -, -, hfollows⟩ := h.process hc
  refine Bool.not_eq_false _ ▸ fun hinactive => ?_
  rw [hfollows.of_inactive hinactive] at hrefers
  exact m.not_refers_empty fd pipe side hrefers

/-- Nobody waits before a program has started. -/
theorem Layout.not_blocks_of_preparing {R : DescriptorTable → DescriptorTable → Prop}
    (h : Layout m₀ l stages R s m) (hblocks : NeverBlocks m₀ outer m) {i : Nat} {c : Process σ}
    {todo : Child} (hc : m.children[m₀.children.size + i]? = some c)
    (hlife : c.life = .preparing todo) : ¬ c.Blocks rep m := by
  obtain ⟨-, -, stage, table, -, htable, hfollows⟩ := h.process hc
  have hstderr : c.table.get? Fd.stderr = m₀.table.get? Fd.stderr := by
    have hbefore : table.get? Fd.stderr = m₀.table.get? Fd.stderr :=
      htable.outside _ fun hmem => absurd (h.wired.above _ hmem) (by decide)
    cases hfollows with
    | preparing life plan table_eq =>
      rw [table_eq, Launcher.get?_tableAfter_stderr plan, hbefore]
    | parting life parts plan table_eq =>
      rw [table_eq, Launcher.get?_tableAfter_stderr plan, hbefore]
    | running life proper table_rel => rw [hlife] at life; cases life
    | ended life table_eq => rw [hlife] at life; cases life
  intro hwaits
  cases hwaits with
  | complains life waits =>
    have hfile : m.file? c.table Fd.stderr = m.file? m₀.table Fd.stderr := by
      rw [file?, file?, hstderr]
    rw [writeTo_congr hfile] at waits
    exact hblocks.error _ waits
  | reads life act waits => rw [hlife] at life; cases life
  | writes life act waits => rw [hlife] at life; cases life

variable (hready : m₀.IsReady l.outer)
  (hindex : ∀ (i : Nat) (stage : Stage), stages[i]? = some stage → stage.index = i)
  (h : Layout m₀ l stages Eq s m) (hopened : s.opened = [])
  (hprepared : ∀ (pid : Pid) (c : Process σ) (todo : Child), m.children[pid]? = some c →
    c.life ≠ .preparing todo)

include hready hindex h hopened hprepared

/-- Once the shell has closed its ends and all programs have started, an end of a pipe that is
held at all is held by the stage that it belongs to, and that stage lives. -/
theorem Layout.exists_of_isHeld {i : Nat} {side : Side} (hi : i + 1 < stages.length)
    (hheld : m.isHeld (m₀.pipes.size + i) side = true) : ∃ c : Process σ,
      m.children[m₀.children.size + (i + (1 - side.offset))]? = some c ∧
      c.life.isActive = true := by
  obtain ⟨fd, hrefers⟩ | ⟨pid, c, fd, hc, hrefers⟩ := isHeld_iff.mp hheld
  · exact absurd hrefers (h.not_refers_shell hready hopened hi)
  · have hdescends : Layout m₀ l stages (Descends m₀ (stages.length - 1)) s m :=
      h.mono fun t t' heq fd e he => .inl (heq ▸ he)
    obtain ⟨rfl, rfl, -⟩ | ⟨rfl, rfl, -⟩ := hdescends.holders_of_refers hready hindex hc
      (fun todo => hprepared pid c todo hc) hi hrefers
    · exact ⟨c, hc, h.isActive_of_refers hc hrefers⟩
    · exact ⟨c, hc, h.isActive_of_refers hc hrefers⟩

omit hopened in
/-- A stage that waits reads from an empty pipe before it that somebody can write to, or writes to
a full pipe behind it that somebody can read from. -/
theorem Layout.of_blocks (hblocks : NeverBlocks m₀ l.outer m) {j : Nat} {c : Process σ}
    (hc : m.children[m₀.children.size + j]? = some c) (hwaits : c.Blocks rep m) :
    (∃ i pipe, j = i + 1 ∧ m.pipes[m₀.pipes.size + i]? = some pipe ∧ pipe.content = [] ∧
      m.isHeld (m₀.pipes.size + i) .write = true) ∨
    ∃ pipe : Pipe, j + 1 < stages.length ∧ m.pipes[m₀.pipes.size + j]? = some pipe ∧
      m₀.pipeCapacity ≤ pipe.content.length ∧ m.isHeld (m₀.pipes.size + j) .read = true := by
  obtain ⟨hj, -, stage, table, hstage, htable, hfollows⟩ := h.process hc
  obtain ⟨hcount, hlength⟩ := h.full (Nat.zero_lt_of_lt hj)
  have hposition := hindex j stage hstage
  have hlt := (List.getElem?_eq_some_iff.mp hstage).1
  cases hfollows with
  | preparing life plan table_eq => exact absurd life (hprepared _ c _ hc)
  | parting life parts plan table_eq => exact absurd life (hprepared _ c _ hc)
  | ended life table_eq =>
    cases hwaits with
    | complains hlife => rw [hlife] at life; cases life
    | reads hlife => rw [hlife] at life; cases life
    | writes hlife => rw [hlife] at life; cases life
  | running life proper table_rel =>
    cases hwaits with
    | complains hlife => rw [hlife] at life; cases life
    | reads hlife act waits =>
      rw [← table_rel] at waits
      cases j with
      | zero =>
        -- the first stage reads from the source, or from nothing at all
        have hsome : ∀ size, (m.readFrom (l.startTable s.wiring stage table) Fd.stdin
            size).isSome = true := by
          intro size
          cases hget : (l.startTable s.wiring stage table).get? Fd.stdin with
          | none => exact isSome_readFrom (fun e he => by rw [hget] at he; cases he) size
          | some e =>
            obtain ⟨e₀, he₀, hfile⟩ :=
              startTable_stdin_outer hready h.wired htable proper hposition hget
            rw [readFrom_congr (file?_congr hget he₀ hfile.symm)]
            exact hblocks.source size
        exact absurd waits (Option.isSome_iff_ne_none.mp (hsome _))
      | succ i =>
        have hi : i < s.wiring.pipes.length := by omega
        have hget := startTable_stdin_pipe hready h.wired htable proper hi hposition
        obtain ⟨pipe, hpipe, -⟩ := h.wired.capacity i hi
        obtain ⟨hempty, hheld⟩ :=
          of_readFrom_eq_none (file?_eq hget (h.wired.ends i hi .read)) hpipe waits
        exact .inl ⟨i, pipe, rfl, hpipe, hempty, hheld⟩
    | writes hlife act waits =>
      rw [← table_rel] at waits
      rcases Nat.lt_or_ge j s.wiring.pipes.length with hpipes | hpipes
      · have hget := startTable_stdout_pipe hready h.wired htable proper (by omega)
        rw [hposition] at hget
        obtain ⟨pipe, hpipe, hcapacity⟩ := h.wired.capacity j hpipes
        obtain ⟨hfull, hheld⟩ :=
          of_writeTo_eq_waits (file?_eq hget (h.wired.ends j hpipes .write)) hpipe waits
        exact .inr ⟨pipe, by omega, hpipe, hcapacity ▸ hfull, hheld⟩
      · -- the last stage writes to the sink, or to nothing at all
        cases hget : (l.startTable s.wiring stage table).get? Fd.stdout with
        | none =>
          exact absurd waits (writeTo_ne_waits (fun e he => by rw [hget] at he; cases he) _)
        | some e =>
          obtain ⟨e₀, he₀, hfile⟩ := startTable_stdout_outer hready h.wired htable proper
            (by omega) (by omega) hget
          rw [writeTo_congr (file?_congr hget he₀ hfile.symm)] at waits
          exact absurd waits (hblocks.sink _)

/-- **The chain.** Once the shell has closed its ends and all programs have started, not everybody
who lives can be waiting, if all stages before the first one that lives are over. -/
theorem Layout.not_all_block (hblocks : NeverBlocks m₀ l.outer m)
    (hcapacity : 0 < m₀.pipeCapacity) (hmade : s.made = stages.length) {first : Nat}
    (hgone : ∀ i < first, ∀ c : Process σ, m.children[m₀.children.size + i]? = some c →
      c.life.isActive = false)
    {c : Process σ} (hc : m.children[m₀.children.size + first]? = some c)
    (hactive : c.life.isActive = true)
    (hall : ∀ (i : Nat) (c : Process σ), m.children[m₀.children.size + i]? = some c →
      c.life.isActive = true → c.Blocks rep m) : False := by
  -- all stages from the first one that lives on wait for room, by induction along the chain
  have hfull : ∀ d, ∃ pipe : Pipe, first + d + 1 < stages.length ∧
      m.pipes[m₀.pipes.size + (first + d)]? = some pipe ∧
      m₀.pipeCapacity ≤ pipe.content.length ∧
      m.isHeld (m₀.pipes.size + (first + d)) .read = true := by
    intro d
    induction d with
    | zero =>
      obtain ⟨i, pipe, rfl, -, -, hheld⟩ | hwrites :=
        h.of_blocks hready hindex hprepared hblocks hc (hall first c hc hactive)
      · -- nobody lives who could write to the pipe before the first stage that lives
        have hlt := (h.process hc).1
        obtain ⟨c', hc', hactive'⟩ :=
          h.exists_of_isHeld hready hindex hopened hprepared (by omega) hheld
        rw [hgone i (Nat.lt_succ_self i) c' hc'] at hactive'
        cases hactive'
      · exact hwrites
    | succ d ih =>
      obtain ⟨pipe, hlt, hpipe, hlength, hheld⟩ := ih
      obtain ⟨c', hc', hactive'⟩ :=
        h.exists_of_isHeld hready hindex hopened hprepared hlt hheld
      obtain ⟨i, pipe', heq, hpipe', hempty, -⟩ | hwrites :=
        h.of_blocks hready hindex hprepared hblocks hc' (hall _ c' hc' hactive')
      · -- the pipe before the next stage is full, so that stage does not wait for input
        obtain rfl : first + d = i := Nat.succ.inj heq
        obtain rfl : pipe = pipe' := Option.some.inj (hpipe.symm.trans hpipe')
        rw [hempty, List.length_nil] at hlength
        omega
      · exact hwrites
  obtain ⟨-, hlt, -⟩ := hfull stages.length
  omega

omit hready hindex h hopened hprepared

/-! ### Who goes on -/

/-- A process that is over can be waited for. -/
theorem isSome_collect {pid : Pid} (hover : ∀ c : Process σ, m.children[pid]? = some c →
    c.life.isActive = false) : (m.collect pid).isSome = true := by
  rw [Machine.collect.eq_def]
  split
  · rfl
  · rename_i c hc
    have hinactive := hover c hc
    split
    · rfl
    · rfl
    · rename_i hcollected hended
      cases hlife : c.life with
      | ended how => exact absurd hlife (hended how)
      | collected => exact absurd hlife hcollected
      | _ => rw [hlife] at hinactive; cases hinactive

/-- A text that does not have to wait is taken, or a part of it is, or it is refused. -/
theorem isSome_answer_or_takePart {fd : Fd} {bytes : Bytes}
    (h : m.writeTo m.table fd (bytes.drop m.taken) ≠ .waits) :
    (m.answer (.writeAll fd bytes)).isSome = true ∨
      (m.takePart (.writeAll fd bytes)).isSome = true := by
  simp only [Machine.answer, takePart, writeRest]
  cases hwrite : m.writeTo m.table fd (bytes.drop m.taken) with
  | written count after =>
    by_cases hlt : m.taken + count < bytes.length
    · exact .inr (by simp [hlt])
    · exact .inl (by simp [hlt])
  | broken => exact .inl rfl
  | waits => exact absurd hwrite h
  | failed cause => cases cause <;> exact .inl rfl

/-- The shell is done or gone, goes on, or waits for the first process that is not known to be
over. -/
theorem Moment.shell_cases {R : DescriptorTable → DescriptorTable → Prop} {phase : Phase}
    (hmoment : Moment rep r line m₀ R phase s m) (hblocks : NeverBlocks m₀ outer m) :
    (∃ result, phase = .finished result) ∨ phase = .aborted ∨
      ((phase.toInteraction r).step m).isSome = true ∨
      (s.opened = [] ∧ s.made = (stagesOf r.settings line).length ∧ s.gone < s.made ∧
        ∃ c, m.children[m₀.children.size + s.gone]? = some c ∧ c.life.isActive = true) := by
  have hlayout := hmoment.layout
  have hstands := hmoment.stands
  cases phase with
  | finished result => exact .inl ⟨result, rfl⟩
  | aborted => exact .inr (.inl rfl)
  | trace text rest read =>
    obtain ⟨-, rfl⟩ := hstands
    refine .inr (.inr (.inl (Phase.isSome_step (.untraced .eintr) (isSome_answer_or_takePart ?_))))
    have hstderr : m.table.get? Fd.stderr = m₀.table.get? Fd.stderr :=
      hlayout.holds.outside _ List.not_mem_nil
    have hfile : m.file? m.table Fd.stderr = m.file? m₀.table Fd.stderr := by
      rw [file?, file?, hstderr]
    rw [writeTo_congr hfile]
    exact hblocks.error _
  | wire w left rest => exact .inr (.inr (.inl (Phase.isSome_step (.unwired .eintr) (.inl rfl))))
  | launch w handles stage rest =>
    exact .inr (.inr (.inl (Phase.isSome_step (.unlaunched .eintr) (.inl rfl))))
  | close fd rest next =>
    refine .inr (.inr (.inl (Phase.isSome_step (.closed (.error .eintr)) (.inl ?_))))
    rw [Machine.answer]
    split <;> rfl
  | kill handle rest handles error =>
    exact .inr (.inr (.inl (Phase.isSome_step (.killed (.error .eintr)) (.inl rfl))))
  | reap handle rest error =>
    obtain ⟨-, hgone, d, hdrop⟩ := hstands
    obtain ⟨rfl, hlt, -⟩ := of_drop_handlesFrom hdrop
    refine .inr (.inr (.inl (Phase.isSome_step (.reaped (.error .eintr)) (.inl ?_))))
    exact isSome_collect (hlayout.gone d (by omega))
  | wait report handle rest =>
    obtain ⟨hopened, hmade, hdrop⟩ := hstands
    obtain ⟨rfl, hlt, -⟩ := of_drop_handlesFrom hdrop
    -- the shell waits for the first process that is not known to be over
    obtain ⟨-, c, -, hc, -⟩ := hlayout.stage s.gone hlt
    cases hactive : c.life.isActive with
    | true => exact .inr (.inr (.inr ⟨hopened, hmade, hlt, c, hc, hactive⟩))
    | false =>
      refine .inr (.inr (.inl (Phase.isSome_step (.waited (.error .eintr))
        (.inl (isSome_collect ?_)))))
      intro c' hc'
      obtain rfl : c = c' := Option.some.inj (hc.symm.trans hc')
      exact hactive

/-- The outer streams and the error stream are neither pipes nor terminals. -/
def HasPatientStreams (m₀ : Machine σ) (outer : Outer) : Prop :=
  ∀ fd, fd = outer.source.getD Fd.stdin ∨ fd = outer.sink.getD Fd.stdout ∨ fd = Fd.stderr →
    ∀ e, m₀.table.get? fd = some e → m₀.IsPatient e.file

/-- Streams that are neither pipes nor terminals never make anybody wait. -/
theorem neverBlocks_of_reaches {p : Interaction (Except PipelineError Execution)}
    (hready : m₀.IsReady r.outer) (hplain : rep.IsPlain)
    (hpatient : m₀.HasPatientStreams r.outer) (h : Reaches rep (r.execute line, m₀) (p, m)) :
    NeverBlocks m₀ r.outer m := by
  obtain ⟨phase, s, -, hmoment⟩ := moment_of_reaches hready (fun _ => rfl)
    (fun _ m _ => tame_of_isPlain hplain m₀ _ m) h
  have hstream : ∀ fd, fd = r.outer.source.getD Fd.stdin ∨ fd = r.outer.sink.getD Fd.stdout ∨
      fd = Fd.stderr → ∀ e, m₀.table.get? fd = some e → m.IsPatient e.file := fun fd hfd e he =>
    hmoment.layout.wired.patient e.file (hready.entries fd e he) (hpatient fd hfd e he)
  exact ⟨fun size => isSome_readFrom (hstream _ (.inl rfl)) size,
    fun bytes => writeTo_ne_waits (hstream _ (.inr (.inl rfl))) bytes,
    fun bytes => writeTo_ne_waits (hstream _ (.inr (.inr rfl))) bytes⟩

/-- **No line deadlocks.** As long as a line is not done, the shell or a process can go on, unless
the shell has been aborted since it could not show its trace: then no process has been made for the
line, and nobody lives who could wait. -/
theorem never_deadlocks {p : Interaction (Except PipelineError Execution)}
    (hready : m₀.IsReady r.outer) (hplain : rep.IsPlain) (hcapacity : 0 < m₀.pipeCapacity)
    (halive : m₀.shellKilledBy = none)
    (hstreams : ∀ p m, Reaches rep (r.execute line, m₀) (p, m) → NeverBlocks m₀ r.outer m)
    (h : Reaches rep (r.execute line, m₀) (p, m)) (hdone : ∀ result, p ≠ .done result) :
    (m.shellKilledBy = none ∧ (p.step m).isSome = true) ∨
      (∃ pid, (m.childStep rep pid).isSome = true) ∨
      (p = .aborted ∧ (parse r.settings line).trace ≠ [] ∧
        m.children.size = m₀.children.size ∧
        ∀ c ∈ m.children, c.life.isActive = false) := by
  obtain ⟨phase, s, rfl, hmoment, hcalm, htrace⟩ := plain_induction
    (J := fun phase _ _ => phase.Untraces (parse r.settings line).trace) hready
    hplain halive (Phase.untraces_phase r line)
    (fun _ _ _ _ _ _ _ _ _ htrace hmoves _ _ => htrace.next hmoves)
    (fun _ _ _ _ _ _ _ htrace _ _ => htrace)
    (fun _ _ _ _ _ _ _ _ htrace _ _ _ _ _ => htrace) (fun _ _ _ _ _ htrace => htrace) h
  have hblocks := hstreams _ m h
  obtain ⟨result, rfl⟩ | rfl | hstep | ⟨hopened, hmade, hgone, c, hc, hactive⟩ :=
    hmoment.shell_cases hblocks
  · exact absurd rfl (hdone result)
  · have hlayout := hmoment.layout
    obtain rfl := hmoment.stands
    refine .inr (.inr ⟨rfl, htrace.2 rfl, hlayout.size, fun c hmem => ?_⟩)
    obtain ⟨pid, hc⟩ := Array.mem_iff_getElem?.mp hmem
    refine Bool.not_eq_true _ ▸ fun hactive => ?_
    obtain ⟨i, hi, -⟩ := hlayout.exists_of_isActive hc hactive
    exact absurd hi (Nat.not_lt_zero i)
  · exact .inl ⟨hcalm.alive, hstep⟩
  · -- the shell waits; if no process could go on, all that live would be waiting
    refine .inr (.inl (not_forall_not.mp fun hnone => ?_))
    have hlayout := hmoment.layout
    have hall : ∀ (i : Nat) (d : Process σ), m.children[m₀.children.size + i]? = some d →
        d.life.isActive = true → d.Blocks rep m := by
      intro i d hd hactive'
      obtain ⟨j, hj, heq⟩ := hlayout.exists_of_isActive hd hactive'
      obtain rfl : i = j := Nat.add_left_cancel heq
      exact blocks_of_childStep_eq_none hplain hd hactive'
        (hcalm.calm i hj d hd hactive').stopped
        (Option.not_isSome_iff_eq_none.mp (hnone (m₀.children.size + i)))
    -- nobody waits before its program has started, so all programs have
    have hprepared : ∀ (pid : Pid) (d : Process σ) (todo : Child), m.children[pid]? = some d →
        d.life ≠ .preparing todo := by
      intro pid d todo hd hlife
      have hactive' : d.life.isActive = true := by
        rw [hlife]
        rfl
      obtain ⟨i, hi, rfl⟩ := hlayout.exists_of_isActive hd hactive'
      exact hlayout.not_blocks_of_preparing hblocks hd hlife (hall i d hd hactive')
    exact hlayout.not_all_block hready index_of_getElem?_stagesOf hopened hprepared hblocks
      hcapacity hmade hlayout.gone hc hactive hall

/-- Two stages at the start of their programs: the shell waits, and somebody goes on. -/
theorem never_deadlocks_two_stages : ∃ p m,
    Reaches leaving (({} : Runner).execute "a|b", fresh [.source [] 0, .sink [], .sink []]) (p, m) ∧
    (∀ result, p ≠ .done result) ∧ p.step m = none ∧
    ∃ pid, (m.childStep leaving pid).isSome = true := by
  let start := (({} : Runner).execute "a|b",
    (fresh [.source [] 0, .sink [], .sink []] : Machine Unit))
  let schedule : List (Option Pid) :=
    .replicate 5 none ++ .replicate 5 (some 0) ++ .replicate 5 (some 1)
  have hrun : (follow leaving schedule start).any (fun t => t.1.request?.isSome &&
      (t.1.step t.2).isNone) = true := by
    decide +kernel
  obtain ⟨⟨p, m⟩, hfollow, hrun⟩ := (Option.any_eq_true _ _).mp hrun
  simp only [Bool.and_eq_true, Option.isNone_iff_eq_none] at hrun
  obtain ⟨hrequest, hwaits⟩ := hrun
  have hdone : ∀ result, p ≠ .done result := by
    rintro result rfl
    cases hrequest
  have hready : (fresh [.source [] 0, .sink [], .sink []] : Machine Unit).IsReady {} :=
    isReady_fresh (by simp) (by decide) nofun
  have hplain : leaving.IsPlain := fun _ => rfl
  have hpatient : (fresh [.source [] 0, .sink [], .sink []] : Machine Unit).HasPatientStreams
      {} := by
    intro fd _ e _ file hfile
    have hmem := List.mem_of_getElem? ((List.getElem?_toArray ..).symm.trans hfile)
    simp only [List.mem_cons, List.not_mem_nil, or_false] at hmem
    rcases hmem with rfl | rfl | rfl <;> rfl
  have hreaches := reaches_of_follow hfollow
  refine ⟨p, m, hreaches, hdone, hwaits, ?_⟩
  obtain ⟨-, hstep⟩ | hstep | ⟨rfl, -, -⟩ := never_deadlocks (r := {}) hready hplain
    (by decide) rfl (fun _ _ h => neverBlocks_of_reaches hready hplain hpatient h) hreaches hdone
  · rw [hwaits] at hstep
    cases hstep
  · exact hstep
  · cases hrequest

end Deadlock

end Machine

end PipeShell
