import PipeShell.Proofs.Machine.Interleaving
import PipeShell.Proofs.Machine.Layout

/-!
# Moments of a line

Every state that some order of steps leads to, from the beginning of a line on, is a phase of the
shell on a machine that is laid out for it. `Machine.Moment` says so, and `moment_of_reaches` proves
it for all orders of steps.

`moment_induction` is the same with a further invariant. What is special about a line is proved
with it: the layout is known on both sides of every step. `moment_of_run` speaks of the one
order in which a line is computed.
-/

namespace PipeShell

variable {σ : Type}

/-! ### Steps of the shell -/

namespace Machine

/-- No call that is asked again is ever interrupted on a machine. -/
theorem isInterruption_answer {m m' : Machine σ} {request : Request} {a : request.Answer}
    (hretried : request.isRetried = true) (h : m.answer request = some (a, m')) :
    isInterruption a = false := by
  cases request with
  | pipe =>
    cases a with
    | ok ends => rfl
    | error cause =>
      obtain ⟨rfl, -⟩ := makePipe_eq_error (Option.some.inj h)
      rfl
  | fork plan =>
    cases a with
    | ok pid => rfl
    | error cause =>
      obtain ⟨rfl, -⟩ := makeChild_eq_error (Option.some.inj h)
      rfl
  | wait pid =>
    obtain ⟨rfl, -, -⟩ | ⟨c, how, -, -, rfl, -⟩ := collect_eq_some h
    · rfl
    · rfl
  | _ => cases hretried

end Machine

namespace Interaction

variable {α : Type} {request : Request} {next : request.Answer → Interaction α} {m m' : Machine σ}
  {p' : Interaction α}

/-- A step at something that is asked for gets the answer, or part of a text is taken. -/
theorem cases_of_step_once (h : (once request next).step m = some (p', m')) :
    (∃ answer, m.answer request = some (answer, m') ∧ p' = next answer) ∨
      m.takePart request = some m' ∧ p' = once request next := by
  rw [step] at h
  split at h
  · rename_i answer m₁ hanswer
    cases h
    exact .inl ⟨answer, hanswer, rfl⟩
  · obtain ⟨m₁, hpart, hpair⟩ := Option.map_eq_some_iff.mp h
    cases hpair
    exact .inr ⟨hpart, rfl⟩

theorem cases_of_step_persist (h : (persist request next).step m = some (p', m')) :
    (∃ answer, m.answer request = some (answer, m') ∧ p' = resume request next answer) ∨
      m.takePart request = some m' ∧ p' = persist request next := by
  rw [step] at h
  split at h
  · rename_i answer m₁ hanswer
    cases h
    exact .inl ⟨answer, hanswer, rfl⟩
  · obtain ⟨m₁, hpart, hpair⟩ := Option.map_eq_some_iff.mp h
    cases hpair
    exact .inr ⟨hpart, rfl⟩

/-- Whoever asks goes on as soon as there is an answer, or part of a text can be taken. -/
theorem isSome_step_iff {p : Interaction α} (h : p.request? = some request) :
    (p.step m).isSome = true ↔
      (m.answer request).isSome = true ∨ (m.takePart request).isSome = true := by
  cases p with
  | done a => cases h
  | aborted => cases h
  | once r next =>
    cases h
    rw [step]
    cases hanswer : m.answer request <;> simp
  | persist r next =>
    cases h
    rw [step]
    cases hanswer : m.answer request <;> simp

end Interaction

namespace Phase

variable {r : Runner} {phase : Phase} {m : Machine σ}

/-- A step of the shell moves it to another phase, or takes part of the trace that it shows. -/
theorem exists_moves_of_step {p' : Interaction (Except PipelineError Execution)} {m' : Machine σ}
    (h : (phase.toInteraction r).step m = some (p', m')) :
    (∃ request answer phase', phase.Moves r.launcher request answer phase' ∧
        m.answer request = some (answer, m') ∧ p' = phase'.toInteraction r) ∨
      (∃ text rest read, phase = .trace text rest read ∧
        m.takePart (.writeAll Fd.stderr (Text.encode text)) = some m') ∧
        p' = phase.toInteraction r := by
  obtain ⟨result, rfl⟩ | rfl | ⟨request, next, heq, hnext⟩ := toInteraction_cases r phase
  · cases h
  · cases h
  · have hstep : (∃ answer, m.answer request = some (answer, m') ∧ p' = next answer) ∨
        m.takePart request = some m' ∧ p' = phase.toInteraction r := by
      rw [heq] at h ⊢
      cases hretried : request.isRetried with
      | false =>
        rw [hretried] at h
        exact Interaction.cases_of_step_once h
      | true =>
        rw [hretried] at h
        obtain ⟨answer, hanswer, rfl⟩ | hpart := Interaction.cases_of_step_persist h
        · refine .inl ⟨answer, hanswer, ?_⟩
          rw [Interaction.resume, Machine.isInterruption_answer hretried hanswer]
          rfl
        · exact .inr hpart
    obtain ⟨answer, hanswer, rfl⟩ | ⟨hpart, hp'⟩ := hstep
    · obtain ⟨phase', hmoves, hphase⟩ := hnext answer
      exact .inl ⟨request, answer, phase', hmoves, hanswer, hphase⟩
    · -- only a text is taken in parts, and the trace is the only text of a line
      obtain ⟨fd, bytes, -, -, rfl, -⟩ := Machine.takePart_eq_some hpart
      obtain ⟨phase', hmoves, -⟩ := hnext (.error .eintr)
      cases hmoves
      exact .inr ⟨⟨_, _, _, rfl, hpart⟩, hp'⟩

/-- The shell goes on as soon as there is an answer to what it asks for. -/
theorem isSome_step {request : Request} {answer : request.Answer} {phase' : Phase}
    (hmoves : phase.Moves r.launcher request answer phase')
    (hanswer : (m.answer request).isSome = true ∨ (m.takePart request).isSome = true) :
    ((phase.toInteraction r).step m).isSome = true := by
  obtain ⟨result, rfl⟩ | rfl | ⟨request', next, heq, hnext⟩ := toInteraction_cases r phase
  · cases hmoves
  · cases hmoves
  · -- any answer tells which request it is
    obtain ⟨phase'', hmoves', -⟩ := hnext (.error .eintr)
    obtain rfl := hmoves.request_eq hmoves'
    refine (Interaction.isSome_step_iff ?_).mpr hanswer
    rw [heq]
    cases request.isRetried <;> rfl

end Phase

/-! ### Moments -/

namespace Machine

/-- **A moment of a line**: a phase that some order of steps leads to, what has been done by
then, and the machine. -/
structure Moment (rep : Repertoire σ) (r : Runner) (line : String) (m₀ : Machine σ)
    (R : DescriptorTable → DescriptorTable → Prop) (phase : Phase) (s : Progress)
    (m : Machine σ) : Prop where
  reaches : Reaches rep (r.execute line, m₀) (phase.toInteraction r, m)
  stands : phase.Stands m₀.children.size (stagesOf r.settings line) s
  layout : Layout m₀ r.launcher (stagesOf r.settings line) R s m

section Moment

variable {rep : Repertoire σ} {r : Runner} {line : String} {m₀ m : Machine σ}
  {R : DescriptorTable → DescriptorTable → Prop}
  {p : Interaction (Except PipelineError Execution)}

/-- **Induction over the moments of a line.** An invariant that holds at its beginning and that
every step keeps holds at every moment. -/
theorem moment_induction {J : Phase → Progress → Machine σ → Prop}
    (hready : m₀.IsReady r.outer) (hrefl : ∀ table, R table table)
    (htame : ∀ p m, Reaches rep (r.execute line, m₀) (p, m) →
      Tame rep m₀ ((stagesOf r.settings line).length - 1) R m)
    (start : J (r.phase line) (.start (stagesOf r.settings line).length) m₀)
    (shell : ∀ phase s m request answer phase' m', Moment rep r line m₀ R phase s m →
      J phase s m → phase.Moves r.launcher request answer phase' →
      m.answer request = some (answer, m') →
      Moment rep r line m₀ R phase' (s.next request answer) m' →
      J phase' (s.next request answer) m')
    (part : ∀ text rest read s m m', Moment rep r line m₀ R (.trace text rest read) s m →
      J (.trace text rest read) s m →
      m.takePart (.writeAll Fd.stderr (Text.encode text)) = some m' →
      Moment rep r line m₀ R (.trace text rest read) s m' → J (.trace text rest read) s m')
    (process : ∀ phase s m pid m', Moment rep r line m₀ R phase s m → J phase s m →
      m.childStep rep pid = some m' → Moment rep r line m₀ R phase s m' → J phase s m')
    (tick : ∀ phase s m time, Moment rep r line m₀ R phase s m → J phase s m →
      J phase s { m with clock := time })
    (h : Reaches rep (r.execute line, m₀) (p, m)) :
    ∃ phase s, p = phase.toInteraction r ∧ Moment rep r line m₀ R phase s m ∧ J phase s m := by
  -- induction on the order of steps, each of which is taken from a moment
  generalize hstate : (p, m) = state at h
  induction h generalizing p m with
  | refl =>
    cases hstate
    exact ⟨r.phase line, _, (Phase.toInteraction_phase r line).symm,
      ⟨(Phase.toInteraction_phase r line).symm ▸ .refl _, Phase.stands_phase rfl,
        layout_start hready _⟩, start⟩
  | tail before step ih =>
    subst hstate
    cases step with
    | shell alive step =>
      obtain ⟨phase, s, rfl, hmoment, hJ⟩ := ih rfl
      obtain ⟨request, answer, phase', hmoves, hanswer, rfl⟩ |
        ⟨⟨text, rest, read, rfl, hpart⟩, rfl⟩ := Phase.exists_moves_of_step step
      · obtain ⟨hlayout, hnumbers⟩ :=
          hmoment.layout.next hready hmoment.stands hmoves hanswer
        have hstands := hmoment.stands.next hmoves index_of_getElem?_stagesOf hnumbers
        have hmoment' : Moment rep r line m₀ R phase' (s.next request answer) m :=
          ⟨Relation.ReflTransGen.tail before (.shell alive step), hstands, hlayout⟩
        exact ⟨phase', _, rfl, hmoment',
          shell phase s _ request answer phase' m hmoment hJ hmoves hanswer hmoment'⟩
      · have hmoment' : Moment rep r line m₀ R (.trace text rest read) s m :=
          ⟨Relation.ReflTransGen.tail before (.shell alive step), hmoment.stands,
            hmoment.layout.transfer (shows_of_takePart hpart).transfer⟩
        exact ⟨_, s, rfl, hmoment', part text rest read s _ m hmoment hJ hpart hmoment'⟩
    | process pid step =>
      obtain ⟨phase, s, rfl, hmoment, hJ⟩ := ih rfl
      have hmoment' : Moment rep r line m₀ R phase s m :=
        ⟨Relation.ReflTransGen.tail before (.process pid step), hmoment.stands,
          hmoment.layout.childStep hrefl (htame _ _ before) step⟩
      exact ⟨phase, s, rfl, hmoment', process phase s _ pid m hmoment hJ step hmoment'⟩
    | tick time later =>
      obtain ⟨phase, s, rfl, hmoment, hJ⟩ := ih rfl
      refine ⟨phase, s, rfl, ⟨Relation.ReflTransGen.tail before (.tick time later),
        hmoment.stands, ?_⟩, tick phase s _ time hmoment hJ⟩
      exact hmoment.layout.drift (.of_same rfl rfl rfl rfl rfl rfl) fun _ => ⟨rfl, rfl⟩

/-- **Every state is a moment.** -/
theorem moment_of_reaches (hready : m₀.IsReady r.outer) (hrefl : ∀ table, R table table)
    (htame : ∀ p m, Reaches rep (r.execute line, m₀) (p, m) →
      Tame rep m₀ ((stagesOf r.settings line).length - 1) R m)
    (h : Reaches rep (r.execute line, m₀) (p, m)) :
    ∃ phase s, p = phase.toInteraction r ∧ Moment rep r line m₀ R phase s m := by
  obtain ⟨phase, s, hp, hmoment, -⟩ := moment_induction (J := fun _ _ _ => True) hready hrefl
    htame trivial (fun _ _ _ _ _ _ _ _ _ _ _ _ => trivial)
    (fun _ _ _ _ _ _ _ _ _ _ => trivial) (fun _ _ _ _ _ _ _ _ _ => trivial)
    (fun _ _ _ _ _ _ => trivial) h
  exact ⟨phase, s, hp, hmoment⟩

/-- **A line that has been run stands at a moment**: `run` takes the steps in one of all orders. -/
theorem moment_of_run {fuel : Nat} {result : Except PipelineError Execution}
    (hready : m₀.IsReady r.outer) (hrefl : ∀ table, R table table)
    (htame : ∀ p m, Reaches rep (r.execute line, m₀) (p, m) →
      Tame rep m₀ ((stagesOf r.settings line).length - 1) R m)
    (h : m₀.run rep fuel (r.execute line) = .finished result m) :
    ∃ s, Moment rep r line m₀ R (.finished result) s m := by
  obtain ⟨phase, s, hp, hmoment⟩ := moment_of_reaches hready hrefl htame (reaches_of_run h)
  obtain rfl := Phase.eq_finished_of_toInteraction hp.symm
  exact ⟨s, hmoment⟩

end Moment

end Machine

end PipeShell
