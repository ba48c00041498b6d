import PipeShell.Proofs.Machine.Moment
import PipeShell.Proofs.Machine.PlainStep

/-!
# Moments of a line of plain programs

If all programs are plain, more is known at every moment of a line: no signal but the shell's own
has been sent to anybody, and programs run with the very tables that they were started with.

`Machine.plain_induction` is the induction over moments under this assumption. A step of a process
is one of `Process.Acts` there, made by the process of a stage that lives.
-/

namespace PipeShell

variable {σ : Type}

namespace Machine

/-- No signal has been sent to the shell or to a process of the line that lives. -/
structure Calm (m₀ : Machine σ) (s : Progress) (m : Machine σ) : Prop where
  alive : m.shellKilledBy = none
  calm : ∀ i < s.made, ∀ c : Process σ, m.children[m₀.children.size + i]? = some c →
    c.life.isActive = true → c.IsCalm

/-- A process of the line that is sent the signal that cannot be refused: it is over already, or
it ends now. -/
theorem signalChild_kill_cases (m : Machine σ) (pid : Pid) :
    (m.signalChild pid Signal.kill.number).2 = m ∨
      (m.signalChild pid Signal.kill.number).2 = m.finish pid (.killed Signal.kill.number) := by
  rw [signalChild.eq_def]
  split
  · exact .inl rfl
  · split
    · exact .inl rfl
    · exact .inl rfl
    · refine .inr ?_
      rw [deliver, if_pos rfl]

section Calm

variable {m₀ m m' : Machine σ} {l : Launcher} {stages : List Stage}
  {R : DescriptorTable → DescriptorTable → Prop} {s : Progress}

namespace Calm

theorem of_eq (h : Calm m₀ s m) (hchildren : m'.children = m.children)
    (halive : m'.shellKilledBy = m.shellKilledBy) : Calm m₀ s m' :=
  ⟨halive.trans h.alive, fun i hi c hc => h.calm i hi c (hchildren ▸ hc)⟩

theorem transfer (h : Calm m₀ s m) (htransfer : m.Transfer m') : Calm m₀ s m' :=
  h.of_eq htransfer.children htransfer.shellKilledBy

theorem setChild (h : Calm m₀ s m) {pid : Pid} {c' : Process σ}
    (hcalm : c'.life.isActive = true → c'.IsCalm) : Calm m₀ s (m.setChild pid c') := by
  refine ⟨h.alive, fun i hi d hd hactive => ?_⟩
  rw [getElem?_setChild] at hd
  split at hd
  · split at hd
    · cases hd
      exact hcalm hactive
    · cases hd
  · exact h.calm i hi d hd hactive

theorem finish (h : Calm m₀ s m) (hlayout : Layout m₀ l stages R s m) (how : Ending) {i : Nat}
    (hi : i < s.made) : Calm m₀ s (m.finish (m₀.children.size + i) how) := by
  obtain ⟨-, c, -, hc, hmaker, -⟩ := hlayout.stage i hi
  obtain ⟨children, heq, hself, hothers⟩ := finish_of_shell how hc hmaker
  rw [heq]
  refine ⟨h.alive, fun j hj d hd hactive => ?_⟩
  change children[m₀.children.size + j]? = some d at hd
  rcases eq_or_ne j i with rfl | hne
  · rw [hself] at hd
    cases hd
    cases hleaves : m.leavesEnding c <;> simp [withEnding, hleaves, Life.isActive] at hactive
  · obtain ⟨-, d', -, hd', hmaker', -⟩ := hlayout.stage j hj
    -- the other stages have been made by the shell as well, and are left alone
    have hsame := hothers _ d' (fun heq => hne (Nat.add_left_cancel heq)) hd' hmaker'
    obtain rfl : d' = d := Option.some.inj (hsame.symm.trans hd)
    exact h.calm j hj d' hd' hactive

/-- Waiting for a process changes none that lives. -/
theorem wait (h : Calm m₀ s m) {pid : Pid} {answer : (Request.wait pid).Answer}
    (hanswer : m.answer (.wait pid) = some (answer, m')) :
    Calm m₀ (s.next (.wait pid) answer) m' := by
  have hcalm : Calm m₀ s m' := by
    obtain ⟨-, rfl, -⟩ | ⟨c, how, -, -, -, rfl⟩ := collect_eq_some hanswer
    · exact h
    · exact h.setChild (by simp [Life.isActive])
  exact ⟨hcalm.alive, hcalm.calm⟩

/-- The shell leaves the processes in peace. -/
theorem next (h : Calm m₀ s m) (hlayout : Layout m₀ l stages R s m) {phase phase' : Phase}
    {r : Request} {answer : r.Answer} (hstands : phase.Stands m₀.children.size stages s)
    (hmoves : phase.Moves l r answer phase') (hanswer : m.answer r = some (answer, m')) :
    Calm m₀ (s.next r answer) m' := by
  cases hmoves with
  | traced => exact h.transfer (shows_of_answer hanswer).transfer
  | untraced cause => exact h.transfer (shows_of_answer hanswer).transfer
  | wired read write =>
    obtain ⟨table, rfl, -⟩ := makePipe_eq_ok (Option.some.inj hanswer)
    exact ⟨h.alive, h.calm⟩
  | unwired cause =>
    obtain ⟨-, rfl⟩ := makePipe_eq_error (Option.some.inj hanswer)
    exact h
  | launched pid =>
    obtain ⟨-, c, rfl, -, -, -, hcalm⟩ := makeChild_eq_ok (Option.some.inj hanswer)
    have hsize := hlayout.size
    refine ⟨h.alive, fun i hi d hd hactive => ?_⟩
    rcases Nat.lt_succ_iff_lt_or_eq.mp hi with hlt | rfl
    · rw [Array.getElem?_push, if_neg (by omega)] at hd
      exact h.calm i hlt d hd hactive
    · rw [← hsize, Array.getElem?_push_size] at hd
      obtain rfl : c = d := Option.some.inj hd
      exact ⟨hcalm.1, hcalm.2.1, hcalm.2.2⟩
  | unlaunched cause =>
    obtain ⟨-, rfl⟩ := makeChild_eq_error (Option.some.inj hanswer)
    exact h
  | @closed fd rest next answer =>
    obtain ⟨table, rfl, -⟩ := answer_close_eq_some hanswer
    exact ⟨h.alive, h.calm⟩
  | killed answer =>
    obtain ⟨-, rfl, hdrop⟩ := hstands
    obtain ⟨rfl, hlt, -⟩ := of_drop_handlesFrom hdrop
    have hkill := (Prod.ext_iff.mp (Option.some.inj hanswer)).2
    dsimp only at hkill
    have hcalm : Calm m₀ s m' := by
      rcases signalChild_kill_cases m (m₀.children.size + s.gone) with heq | heq
      · exact (heq.symm.trans hkill) ▸ h
      · exact (heq.symm.trans hkill) ▸ h.finish hlayout _ hlt
    exact ⟨hcalm.alive, hcalm.calm⟩
  | reaped answer => exact h.wait hanswer
  | waited answer => exact h.wait hanswer

/-- A process of the line that steps stays in peace itself. -/
theorem acts (h : Calm m₀ s m) (hlayout : Layout m₀ l stages R s m) {rep : Repertoire σ} {i : Nat}
    {c : Process σ} (hi : i < s.made) (hcalm : c.IsCalm)
    (hacts : c.Acts rep m (m₀.children.size + i) m') : Calm m₀ s m' := by
  cases hacts with
  | follows step maker calm active prepares eq => exact eq ▸ h.setChild fun _ => calm hcalm
  | complains life write todo_eq eq =>
    exact eq ▸ (h.transfer (transfer_writeTo write)).setChild fun _ =>
      ⟨hcalm.1, hcalm.2, hcalm.3⟩
  | reads life act read eq =>
    exact eq ▸ (h.transfer (transfer_readFrom read)).setChild fun _ =>
      ⟨hcalm.1, hcalm.2, hcalm.3⟩
  | writes life act write eq =>
    exact eq ▸ (h.transfer (transfer_writeTo write)).setChild fun _ =>
      ⟨hcalm.1, hcalm.2, hcalm.3⟩
  | fails life act write eq => exact eq ▸ h.setChild fun _ => ⟨hcalm.1, hcalm.2, hcalm.3⟩
  | breaks life act write eq => exact eq ▸ h.finish hlayout _ hi
  | exits life act eq => exact eq ▸ h.finish hlayout _ hi
  | leaves life parts eq => exact eq ▸ h.finish hlayout _ hi

end Calm

end Calm

/-! ### Induction -/

section Plain

variable {rep : Repertoire σ} {r : Runner} {line : String} {m₀ m : Machine σ}
  {p : Interaction (Except PipelineError Execution)}

/-- Plain programs do not change their tables. -/
theorem tame_of_isPlain (hplain : rep.IsPlain) (m₀ : Machine σ) (count : Nat) (m : Machine σ) :
    Tame rep m₀ count Eq m where
  copies _ c program _ _ := hplain.isCopying_eq_false m c program
  stays _ _ program _ _ _ _ _ hR hretains := hR.trans (hretains.plain (hplain program)).symm

/-- **Induction over the moments of a line of plain programs.** -/
theorem plain_induction {J : Phase → Progress → Machine σ → Prop}
    (hready : m₀.IsReady r.outer) (hplain : rep.IsPlain) (halive : m₀.shellKilledBy = none)
    (start : J (r.phase line) (.start (stagesOf r.settings line).length) m₀)
    (shell : ∀ phase s m request answer phase' m', Moment rep r line m₀ Eq phase s m →
      Calm m₀ s m → J phase s m → phase.Moves r.launcher request answer phase' →
      m.answer request = some (answer, m') →
      Moment rep r line m₀ Eq phase' (s.next request answer) m' →
      J phase' (s.next request answer) m')
    (part : ∀ text rest read s m m', Moment rep r line m₀ Eq (.trace text rest read) s m →
      J (.trace text rest read) s m →
      m.takePart (.writeAll Fd.stderr (Text.encode text)) = some m' →
      Moment rep r line m₀ Eq (.trace text rest read) s m' → J (.trace text rest read) s m')
    (process : ∀ phase s m i c m', Moment rep r line m₀ Eq phase s m → Calm m₀ s m →
      J phase s m → i < s.made → m.children[m₀.children.size + i]? = some c →
      c.life.isActive = true → c.Acts rep m (m₀.children.size + i) m' →
      Moment rep r line m₀ Eq phase s m' → J phase s m')
    (tick : ∀ phase s m time, Moment rep r line m₀ Eq phase s m → J phase s m →
      J phase s { m with clock := time })
    (h : Reaches rep (r.execute line, m₀) (p, m)) : ∃ phase s, p = phase.toInteraction r ∧
      Moment rep r line m₀ Eq phase s m ∧ Calm m₀ s m ∧ J phase s m := by
  -- whoever steps is the process of a stage, and nobody has sent it a signal
  have hacts : ∀ phase s m pid m', Moment rep r line m₀ Eq phase s m → Calm m₀ s m →
      m.childStep rep pid = some m' → ∃ i c, i < s.made ∧ pid = m₀.children.size + i ∧
      m.children[m₀.children.size + i]? = some c ∧ c.life.isActive = true ∧ c.IsCalm ∧
      c.Acts rep m (m₀.children.size + i) m' := by
    intro phase s m pid m' hmoment hcalm hstep
    obtain ⟨c, hc, hactive, -⟩ := childStep_spec hstep fun c program _ _ =>
      hplain.isCopying_eq_false m c program
    obtain ⟨i, hi, rfl⟩ := hmoment.layout.exists_of_isActive hc hactive
    have hcalm' := hcalm.calm i hi c hc hactive
    exact ⟨i, c, hi, rfl, hc, hactive, hcalm', plainStep_spec hplain hc hcalm' hstep⟩
  obtain ⟨phase, s, hp, hmoment, hcalm, hJ⟩ := moment_induction
    (J := fun phase s m => Calm m₀ s m ∧ J phase s m) hready (fun _ => rfl)
    (fun _ m _ => tame_of_isPlain hplain m₀ _ m)
    ⟨⟨halive, fun i hi => absurd hi (Nat.not_lt_zero i)⟩, start⟩
    (fun phase s m request answer phase' m' hmoment ⟨hcalm, hJ⟩ hmoves hanswer hmoment' =>
      ⟨hcalm.next hmoment.layout hmoment.stands hmoves hanswer,
        shell phase s m request answer phase' m' hmoment hcalm hJ hmoves hanswer hmoment'⟩)
    (fun text rest read s m m' hmoment ⟨hcalm, hJ⟩ hpart hmoment' =>
      ⟨hcalm.transfer (shows_of_takePart hpart).transfer,
        part text rest read s m m' hmoment hJ hpart hmoment'⟩)
    (fun phase s m pid m' hmoment ⟨hcalm, hJ⟩ hstep hmoment' => by
      obtain ⟨i, c, hi, rfl, hc, hactive, hcalm', hacts⟩ :=
        hacts phase s m pid m' hmoment hcalm hstep
      exact ⟨hcalm.acts hmoment.layout hi hcalm' hacts,
        process phase s m i c m' hmoment hcalm hJ hi hc hactive hacts hmoment'⟩)
    (fun phase s m time hmoment ⟨hcalm, hJ⟩ =>
      ⟨hcalm.of_eq rfl rfl, tick phase s m time hmoment hJ⟩) h
  exact ⟨phase, s, hp, hmoment, hcalm, hJ⟩

end Plain

end Machine

end PipeShell
