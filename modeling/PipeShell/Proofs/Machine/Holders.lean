import PipeShell.Proofs.Machine.Moment
import PipeShell.Proofs.Machine.Streams
import PipeShell.Proofs.Machine.Transfer

/-!
# Who holds the ends of a pipe

A reader of a pipe waits for ever if anybody still holds the end for writing, so it matters who
holds what. Once the shell has closed its ends and every process has started its program or is
over, each end is held by one stage at most, and there as the standard stream that it was made for.

`Machine.holders_of_pipes` says so for all lines, outer streams and orders of steps.
-/

namespace PipeShell

variable {σ : Type}

/-- Whether the shell is past everything for which it needs its pipe ends: it ends processes,
waits for them, or is done or gone. -/
def Interaction.isCollecting {α : Type} (p : Interaction α) : Bool :=
  match p.request? with
  | none => true
  | some (.kill _ _) => true
  | some (.wait _) => true
  | _ => false

/-- A shell that collects has closed its ends. -/
theorem Phase.Stands.opened_eq_nil {r : Runner} {phase : Phase} {base : Nat}
    {stages : List Stage} {s : Progress} (h : phase.Stands base stages s)
    (hcollecting : (phase.toInteraction r).isCollecting = true) : s.opened = [] := by
  obtain ⟨result, rfl⟩ | rfl | ⟨request, next, heq, hnext⟩ := toInteraction_cases r phase
  · exact h.1
  · exact congrArg Progress.opened h
  · have hrequest : (phase.toInteraction r).request? = some request := by
      rw [heq]
      split <;> rfl
    obtain ⟨phase', hmoves, -⟩ := hnext (.error .eintr)
    rw [Interaction.isCollecting, hrequest] at hcollecting
    cases hmoves with
    | killed answer => exact h.1
    | reaped answer => exact h.1
    | waited answer => exact h.1
    | untraced cause => cases hcollecting
    | unwired cause => cases hcollecting
    | unlaunched cause => cases hcollecting
    | closed answer => cases hcollecting

namespace Machine

section Holders

variable {rep : Repertoire σ} {r : Runner} {line : String} {m₀ m : Machine σ} {l : Launcher}
  {stages : List Stage} {R : DescriptorTable → DescriptorTable → Prop} {s : Progress}
  {outer : Outer}

/-- Whatever refers to an end of a pipe of the line refers to the file of that end. -/
theorem Layout.file_of_refers (h : Layout m₀ l stages R s m) {table : DescriptorTable} {fd : Fd}
    {i : Nat} {side : Side} (hrefers : m.Refers table fd (m₀.pipes.size + i) side)
    (hi : i + 1 < stages.length) : ∃ e, table.get? fd = some e ∧
      e.file = m₀.endFile i side := by
  obtain ⟨e, he, hfile⟩ := hrefers
  refine ⟨e, he, h.wired.only i ?_ side e.file hfile⟩
  -- as long as no process has been made there are no pipes but those of the wiring
  rcases Nat.eq_zero_or_pos s.made with hmade | hmade
  · have hbare := h.bare hmade
    have hlt := hbare.bound e.file _ side hfile
    rw [hbare.pipes] at hlt
    omega
  · have hcomplete := (h.full hmade).2
    omega

/-- A shell that has closed its ends refers to no end of the line. -/
theorem Layout.not_refers_shell (h : Layout m₀ l stages R s m) (hready : m₀.IsReady outer)
    (hopened : s.opened = []) {fd : Fd} {i : Nat} {side : Side} (hi : i + 1 < stages.length) :
    ¬ m.Refers m.table fd (m₀.pipes.size + i) side := by
  intro hrefers
  obtain ⟨e, he, hfile⟩ := h.file_of_refers hrefers hi
  rw [h.holds.outside fd (by rw [hopened]; exact List.not_mem_nil)] at he
  have hlt := hready.entries fd e he
  have hle := m₀.files_size_le_endFile i side
  omega

/-- What a table may have become when nothing in it has been copied: every descriptor is one that
it started with, or was opened later. -/
def Descends (m₀ : Machine σ) (count : Nat) (table table' : DescriptorTable) : Prop :=
  ∀ fd e, table'.get? fd = some e →
    table.get? fd = some e ∨ m₀.files.size + 2 * count ≤ e.file

/-- What a table may have become when no standard stream has been closed. -/
def KeepsStreams (table table' : DescriptorTable) : Prop :=
  ∀ fd e, fd = Fd.stdin ∨ fd = Fd.stdout → table.get? fd = some e → e.closeOnExec = false →
    table'.get? fd = some e

/-- A process that is not at its plan any more holds the ends of its stage and no others. -/
theorem Layout.holders_of_refers
    (h : Layout m₀ l stages (Descends m₀ (stages.length - 1)) s m) (hready : m₀.IsReady l.outer)
    (hindex : ∀ (i : Nat) (stage : Stage), stages[i]? = some stage → stage.index = i)
    {pid : Pid} {c : Process σ} (hc : m.children[pid]? = some c)
    (hprepared : ∀ todo, c.life ≠ .preparing todo) {fd : Fd} {i : Nat} {side : Side}
    (hi : i + 1 < stages.length) (hrefers : m.Refers c.table fd (m₀.pipes.size + i) side) :
    (side = .write ∧ pid = m₀.children.size + i ∧ fd = Fd.stdout) ∨
      (side = .read ∧ pid = m₀.children.size + (i + 1) ∧ fd = Fd.stdin) := by
  obtain ⟨e, he, hfile⟩ := h.file_of_refers hrefers hi
  have hle := m₀.files_size_le_endFile i side
  rcases Nat.lt_or_ge pid m₀.children.size with hold | hnew
  · -- a process from before the line refers to old files only
    have hlt := (h.others pid c hold hc).2 fd e he
    omega
  · obtain ⟨j, rfl⟩ : ∃ j, pid = m₀.children.size + j := ⟨_, (Nat.add_sub_of_le hnew).symm⟩
    obtain ⟨hj, -, stage, table, hstage, htable, hfollows⟩ := h.process hc
    obtain ⟨hcount, hlength⟩ := h.full (Nat.zero_lt_of_lt hj)
    have hposition := hindex j stage hstage
    have hlt := (List.getElem?_eq_some_iff.mp hstage).1
    cases hfollows with
    | preparing life plan table_eq => exact absurd life (hprepared _)
    | parting life parts plan table_eq => exact absurd life (hprepared _)
    | ended life table_eq =>
      rw [table_eq] at hrefers
      exact absurd hrefers (m.not_refers_empty fd _ side)
    | running life proper table_rel =>
      -- an end of the line was not opened later, so the program has started with it
      have hend : m₀.endFile i side < m₀.files.size + 2 * (stages.length - 1) :=
        m₀.endFile_lt side (by omega)
      have hstart := (table_rel fd e he).resolve_right (by omega)
      obtain ⟨rfl, hpos, hfile'⟩ | ⟨rfl, -, hfile'⟩ | hlt' :=
        startTable_cases hready h.wired htable proper (by omega) (by omega) hstart
      · obtain ⟨rfl, rfl⟩ := endFile_inj (hfile.symm.trans hfile')
        refine .inr ⟨rfl, ?_, rfl⟩
        rw [show stage.index - 1 + 1 = j by omega]
      · obtain ⟨rfl, rfl⟩ := endFile_inj (hfile.symm.trans hfile')
        exact .inl ⟨rfl, by rw [hposition], rfl⟩
      · omega

/-- A program has its ends as standard streams, as long as no program closes one of these. -/
theorem Layout.refers_of_running (h : Layout m₀ l stages KeepsStreams s m)
    (hready : m₀.IsReady l.outer)
    (hindex : ∀ (i : Nat) (stage : Stage), stages[i]? = some stage → stage.index = i)
    {j : Nat} {c : Process σ} {program : σ} (hc : m.children[m₀.children.size + j]? = some c)
    (hlife : c.life = .running program) :
    (j + 1 < stages.length → m.Refers c.table Fd.stdout (m₀.pipes.size + j) .write) ∧
      ∀ i, j = i + 1 → m.Refers c.table Fd.stdin (m₀.pipes.size + i) .read := by
  obtain ⟨hj, -, stage, table, hstage, htable, hfollows⟩ := h.process hc
  obtain ⟨hcount, hlength⟩ := h.full (Nat.zero_lt_of_lt hj)
  obtain ⟨proper, hkeeps⟩ := hfollows.of_running hlife
  have hposition := hindex j stage hstage
  have hlt := (List.getElem?_eq_some_iff.mp hstage).1
  refine ⟨fun hnext => ?_, fun i hi => ?_⟩
  · have hstart := startTable_stdout_pipe hready h.wired htable proper (by omega)
    rw [hposition] at hstart
    exact ⟨_, hkeeps _ _ (.inr rfl) hstart rfl, h.wired.ends j (by omega) .write⟩
  · have hstart := startTable_stdin_pipe hready h.wired htable proper (i := i) (by omega)
      (hposition.trans hi)
    exact ⟨_, hkeeps _ _ (.inl rfl) hstart rfl, h.wired.ends i (by omega) .read⟩

/-- **Who holds the ends of a pipe.** A shell that collects has closed all its ends. Once it has
closed them and every process has started its program or is over, the end of pipe `i` for writing
is held by stage `i` alone, as standard output, and the end for reading by stage `i + 1` alone, as
standard input; and these streams are in place as long as no program closes them. -/
theorem holders_of_pipes {p : Interaction (Except PipelineError Execution)}
    (hready : m₀.IsReady r.outer)
    (hcopies : ∀ p m, Reaches rep (r.execute line, m₀) (p, m) →
      ∀ (pid : Pid) (c : Process σ) (program : σ), m.children[pid]? = some c →
      c.life = .running program → isCopying rep m c program = false)
    (h : Reaches rep (r.execute line, m₀) (p, m)) :
    (p.isCollecting = true → ∀ i, i + 1 < (stagesOf r.settings line).length → ∀ fd side,
      ¬ m.Refers m.table fd (m₀.pipes.size + i) side) ∧
    ((∀ i, i + 1 < (stagesOf r.settings line).length → ∀ fd side,
        ¬ m.Refers m.table fd (m₀.pipes.size + i) side) →
      (∀ (pid : Pid) (c : Process σ) (todo : Child), m.children[pid]? = some c →
        c.life ≠ .preparing todo) →
      ∀ i, i + 1 < (stagesOf r.settings line).length →
      ∀ (pid : Pid) (c : Process σ), m.children[pid]? = some c → ∀ fd,
      (m.Refers c.table fd (m₀.pipes.size + i) .write →
        pid = m₀.children.size + i ∧ fd = Fd.stdout) ∧
      (m.Refers c.table fd (m₀.pipes.size + i) .read →
        pid = m₀.children.size + (i + 1) ∧ fd = Fd.stdin)) ∧
    ((∀ p m, Reaches rep (r.execute line, m₀) (p, m) →
        ∀ (pid : Pid) (c : Process σ) (program : σ), m.children[pid]? = some c →
        c.life = .running program →
        rep.act program ≠ .close Fd.stdin ∧ rep.act program ≠ .close Fd.stdout) →
      ∀ (j : Nat) (c : Process σ) (program : σ), m.children[m₀.children.size + j]? = some c →
      c.life = .running program →
      (j + 1 < (stagesOf r.settings line).length →
        m.Refers c.table Fd.stdout (m₀.pipes.size + j) .write) ∧
      ∀ i, j = i + 1 → m.Refers c.table Fd.stdin (m₀.pipes.size + i) .read) := by
  have hdescends : ∀ p m, Reaches rep (r.execute line, m₀) (p, m) →
      Tame rep m₀ ((stagesOf r.settings line).length - 1)
        (Descends m₀ ((stagesOf r.settings line).length - 1)) m := by
    refine fun p m h => ⟨hcopies p m h, ?_⟩
    intro pid c program table table' hc hlife hle hR hretains fd e he
    rcases hretains.descends fd e he with he' | hge
    · exact hR fd e he'
    · exact .inr (hle.trans hge)
  obtain ⟨phase, s, rfl, hmoment⟩ :=
    moment_of_reaches hready (fun table fd e he => .inl he) hdescends h
  refine ⟨fun hcollecting i hi fd side => ?_, fun _ hprepared i hi pid c hc fd => ?_,
    fun hkeeps j c program hc hlife => ?_⟩
  · exact hmoment.layout.not_refers_shell hready (hmoment.stands.opened_eq_nil hcollecting) hi
  · refine ⟨fun hrefers => ?_, fun hrefers => ?_⟩
    · obtain ⟨-, hholder⟩ | ⟨hside, -⟩ := hmoment.layout.holders_of_refers hready
        index_of_getElem?_stagesOf hc (fun todo => hprepared pid c todo hc) hi hrefers
      · exact hholder
      · cases hside
    · obtain ⟨hside, -⟩ | ⟨-, hholder⟩ := hmoment.layout.holders_of_refers hready
        index_of_getElem?_stagesOf hc (fun todo => hprepared pid c todo hc) hi hrefers
      · cases hside
      · exact hholder
  · -- the same run once more, with what programs keep instead of what they open
    have htame : ∀ p m, Reaches rep (r.execute line, m₀) (p, m) →
        Tame rep m₀ ((stagesOf r.settings line).length - 1) KeepsStreams m := by
      refine fun p m h => ⟨hcopies p m h, ?_⟩
      intro pid c program table table' hc hlife _ hR hretains
      obtain ⟨hin, hout⟩ := hkeeps p m h pid c program hc hlife
      intro fd e hfd he hclose
      refine hretains.keeps fd e (hR fd e hfd he hclose) hclose ?_
      rcases hfd with rfl | rfl
      · exact hin
      · exact hout
    obtain ⟨_, s', -, hmoment'⟩ :=
      moment_of_reaches hready (fun table fd e _ he _ => he) htame h
    exact hmoment'.layout.refers_of_running hready index_of_getElem?_stagesOf hc hlife

/-- Programs that leave at once. -/
def leaving : Repertoire Unit where
  load _ _ _ := .ok ()
  act _ := .exit 0
  resume s _ := s

/-- Two stages, both at the start of their programs, while the shell waits for the first. -/
theorem holders_of_pipes_two_stages : ∃ p m,
    Reaches leaving (({} : Runner).execute "a|b", fresh [.source [] 0, .sink [], .sink []]) (p, m) ∧
    (p.isCollecting = true ∧ ∀ fd side, ¬ m.Refers m.table fd 0 side) ∧
    (∀ (pid : Pid) (c : Process Unit), m.children[pid]? = some c → ∀ fd,
      (m.Refers c.table fd 0 .write → pid = 0 ∧ fd = Fd.stdout) ∧
      (m.Refers c.table fd 0 .read → pid = 1 ∧ fd = Fd.stdin)) ∧
    (∃ c, m.children[0]? = some c ∧ m.Refers c.table Fd.stdout 0 .write) ∧
    ∃ c, m.children[1]? = some c ∧ m.Refers c.table Fd.stdin 0 .read := by
  let start := (({} : Runner).execute "a|b",
    (fresh [.source [] 0, .sink [], .sink []] : Machine Unit))
  let schedule : List (Option Pid) :=
    .replicate 5 none ++ .replicate 5 (some 0) ++ .replicate 5 (some 1)
  have hrun : (follow leaving schedule start).any (fun t => t.1.isCollecting &&
      t.2.children.size == 2 && t.2.children.all fun c => c.life matches .running _) = true := by
    decide +kernel
  obtain ⟨⟨p, m⟩, hfollow, hrun⟩ := (Option.any_eq_true _ _).mp hrun
  simp only [Bool.and_eq_true, beq_iff_eq] at hrun
  obtain ⟨⟨hcollecting, hsize⟩, hrunning⟩ := hrun
  have hlife : ∀ (pid : Pid) (c : Process Unit), m.children[pid]? = some c →
      c.life = .running () := by
    intro pid c hc
    have hmatches := Array.all_eq_true_iff_forall_mem.mp hrunning c (Array.mem_of_getElem? hc)
    cases hlife : c.life with
    | running program => rfl
    | _ => rw [hlife] at hmatches; cases hmatches
  have hpids : ∀ pid : Pid, pid < 2 → ∃ c, m.children[pid]? = some c := fun pid hpid =>
    ⟨_, Array.getElem?_eq_getElem (hsize ▸ hpid)⟩
  have hreaches := reaches_of_follow hfollow
  obtain ⟨hshell, hheld, hstreams⟩ := holders_of_pipes (r := {})
    (isReady_fresh (by simp) (by decide) nofun) (fun _ _ _ _ _ _ _ _ => rfl) hreaches
  have hcount : (stagesOf ({} : Runner).settings "a|b").length = 2 := by decide +kernel
  have hclosed := hshell hcollecting
  refine ⟨p, m, hreaches, ⟨hcollecting, hclosed 0 (by omega)⟩, ?_, ?_, ?_⟩
  · exact hheld hclosed (fun pid c todo hc => by rw [hlife pid c hc]; exact nofun) 0 (by omega)
  · obtain ⟨c, hc⟩ := hpids 0 (by decide)
    exact ⟨c, hc, (hstreams (fun _ _ _ _ _ _ _ _ => ⟨nofun, nofun⟩) 0 c () hc
      (hlife 0 c hc)).1 (by omega)⟩
  · obtain ⟨c, hc⟩ := hpids 1 (by decide)
    exact ⟨c, hc, (hstreams (fun _ _ _ _ _ _ _ _ => ⟨nofun, nofun⟩) 1 c () hc
      (hlife 1 c hc)).2 0 rfl⟩

end Holders

end Machine

end PipeShell
