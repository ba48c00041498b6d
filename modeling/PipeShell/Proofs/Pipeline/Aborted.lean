import PipeShell.Proofs.Pipeline.Completion
import PipeShell.Proofs.Pipeline.Conversation

/-!
# Lines that are aborted

The shell is aborted when it cannot show a text, and for a line it shows nothing but the trace. So a
line is aborted only before anything has been made for it.

* `Scene.exists_moves_of_takes` says what one answer makes of a phase.
* `Runner.speaks_execute` says that a line is aborted where the trace cannot be shown, and nowhere
  else; from any other moment on it may come to its end.
* `Runner.request_of_aborted` is what an aborted line has asked for.
-/

namespace PipeShell

/-- What an answer makes of a phase. An interruption of a call that is made again leaves it alone.
-/
theorem Scene.exists_moves_of_takes {r : Runner} {phase : Phase} {scene : Scene} {e : ShellReply}
    {t : Interaction (Except PipelineError Execution) × Scene}
    (h : Takes (phase.toInteraction r, scene) e t) :
    ∃ phase', phase.Moves r.launcher e.1 e.2 phase' ∧
      t = ((if e.settles then phase' else phase).toInteraction r, scene.after e.1 e.2) := by
  obtain ⟨result, rfl⟩ | rfl | ⟨request, next, heq, hall⟩ := phase.toInteraction_cases r
  · cases h
  · cases h
  · rw [heq] at h
    cases hretried : request.isRetried with
    | true =>
      rw [hretried, if_pos rfl] at h
      cases h with
      | persist answer =>
        obtain ⟨phase', hmoves, hnext⟩ := hall answer
        refine ⟨phase', hmoves, Prod.ext ?_ rfl⟩
        cases hinterrupted : isInterruption answer with
        | true =>
          have hsettles : ShellReply.settles ⟨request, answer⟩ = false := by
            simp [ShellReply.settles, hretried, hinterrupted]
          rw [hsettles, if_neg Bool.false_ne_true, heq, hretried, if_pos rfl]
          exact if_pos hinterrupted
        | false =>
          have hsettles : ShellReply.settles ⟨request, answer⟩ = true := by
            simp [ShellReply.settles, hinterrupted]
          rw [hsettles, if_pos rfl, ← hnext]
          exact if_neg (Bool.eq_false_iff.mp hinterrupted)
    | false =>
      rw [hretried, if_neg Bool.false_ne_true] at h
      cases h with
      | once answer =>
        obtain ⟨phase', hmoves, hnext⟩ := hall answer
        have hsettles : ShellReply.settles ⟨request, answer⟩ = true := by
          simp [ShellReply.settles, hretried]
        refine ⟨phase', hmoves, Prod.ext ?_ rfl⟩
        rw [hsettles, if_pos rfl]
        exact hnext

/-! ### Phases -/

namespace Phase

variable {l : Launcher} {phase phase' : Phase}

/-- An answer aborts the line exactly if it is that a text could not be shown. -/
theorem Moves.isUnshown_iff {request : Request} {answer : request.Answer}
    (h : phase.Moves l request answer phase') :
    ShellReply.isUnshown ⟨request, answer⟩ = true ↔ phase' = .aborted := by
  have hcases := h.cases_of_trace
  cases h with
  | traced => exact iff_of_false nofun (tracing_ne_aborted _ _)
  | untraced cause => exact iff_of_true rfl rfl
  | _ =>
    refine iff_of_false nofun fun haborted => ?_
    obtain htraced | ⟨text, rest, read, heq, -⟩ := hcases
    · rw [haborted] at htraced
      cases htraced
    · cases heq

/-- Only a phase in which the shell is gone is an aborted computation. -/
theorem eq_aborted_of_toInteraction {r : Runner} (h : phase.toInteraction r = .aborted) :
    phase = .aborted := by
  obtain ⟨result, rfl⟩ | rfl | ⟨request, next, heq, -⟩ := phase.toInteraction_cases r
  · cases h
  · rfl
  · rw [heq] at h
    split at h <;> cases h

/-- **A line is aborted where its trace cannot be shown**, and nowhere else. -/
theorem speaks_toInteraction (r : Runner) (h : phase ≠ .aborted) :
    (phase.toInteraction r).Speaks := by
  -- induction on the computation, which behind every answer is that of a phase
  generalize hp : phase.toInteraction r = p
  induction p generalizing phase with
  | done result => exact .done result
  | aborted => exact absurd (eq_aborted_of_toInteraction hp) h
  | once request next ih =>
    obtain ⟨result, rfl⟩ | rfl | ⟨request', next', heq, hall⟩ := phase.toInteraction_cases r
    · cases hp
    · cases hp
    · rw [heq] at hp
      split at hp
      · cases hp
      cases hp
      refine .once (fun answer hshown => ?_) fun answer hunshown => ?_
      · obtain ⟨phase', hmoves, hnext⟩ := hall answer
        refine ih answer (fun haborted => ?_) hnext.symm
        rw [hmoves.isUnshown_iff.mpr haborted] at hshown
        cases hshown
      · obtain ⟨phase', hmoves, hnext⟩ := hall answer
        rw [hnext, hmoves.isUnshown_iff.mp hunshown]
        rfl
  | persist request next ih =>
    obtain ⟨result, rfl⟩ | rfl | ⟨request', next', heq, hall⟩ := phase.toInteraction_cases r
    · cases hp
    · cases hp
    · rw [heq] at hp
      split at hp
      swap
      · cases hp
      rename_i hretried
      cases hp
      -- a text is not asked for again
      have hother : ∀ answer, ShellReply.isUnshown ⟨request, answer⟩ = false := by
        intro answer
        cases request with
        | writeAll fd bytes => cases hretried
        | _ => rfl
      refine .persist hother fun answer => ?_
      obtain ⟨phase', hmoves, hnext⟩ := hall answer
      refine ih answer (fun haborted => ?_) hnext.symm
      have hunshown := hmoves.isUnshown_iff.mpr haborted
      rw [hother answer] at hunshown
      cases hunshown

/-- Until the trace has been shown, nothing is asked for but that. -/
def AsksForTrace (past : List ShellReply) (phase : Phase) : Prop :=
  phase.isTraced = false → ∀ e ∈ past, ∃ text, e.1 = .writeAll Fd.stderr (Text.encode text)

/-- **The step.** -/
theorem AsksForTrace.moves {past : List ShellReply} {e : ShellReply} (h : phase.AsksForTrace past)
    (hmoves : phase.Moves l e.1 e.2 phase') :
    (if e.settles then phase' else phase).AsksForTrace (past ++ [e]) := by
  intro hleft
  obtain ⟨request, answer⟩ := e
  have hcases := hmoves.cases_of_trace
  cases hmoves with
  | traced => exact List.forall_mem_append.mpr ⟨h rfl, List.forall_mem_singleton.mpr ⟨_, rfl⟩⟩
  | untraced cause =>
    exact List.forall_mem_append.mpr ⟨h rfl, List.forall_mem_singleton.mpr ⟨_, rfl⟩⟩
  | _ =>
    -- the trace has been shown before, and still has
    obtain htraced | ⟨text, rest, read, heq, -⟩ := hcases
    · split at hleft
      · rw [htraced] at hleft
        cases hleft
      · cases hleft
    · cases heq

end Phase

/-! ### Lines -/

namespace Runner

open Scene

variable {r : Runner} {line : String} {scene scene' : Scene} {replies : List ShellReply}

theorem speaks_execute (r : Runner) (line : String) : (r.execute line).Speaks := by
  rw [← Phase.toInteraction_phase]
  exact Phase.speaks_toInteraction r (Phase.tracing_ne_aborted _ _)

/-- A line that has not been aborted may come to its end. -/
theorem exists_plays_done_of_ne_aborted {p : Interaction (Except PipelineError Execution)}
    (h : Plays Takes (r.execute line, scene) replies (p, scene')) (hp : p ≠ .aborted) :
    ∃ more result last, Plays Takes (p, scene') more (.done result, last) := by
  obtain ⟨hspeaks, -⟩ | ⟨haborted, -⟩ := speaks_of_plays (r.speaks_execute line) h
  · exact exists_plays_done hspeaks scene'
  · exact absurd haborted hp

/-- **What an aborted line has asked for**: that pieces of its trace be shown, and nothing else. -/
theorem request_of_aborted (h : Plays Takes (r.execute line, scene) replies (.aborted, scene'))
    {e : ShellReply} (he : e ∈ replies) :
    ∃ text, e.1 = .writeAll Fd.stderr (Text.encode text) := by
  rw [← Phase.toInteraction_phase] at h
  have hstart : (r.phase line).AsksForTrace [] := fun _ => nofun
  obtain ⟨phase, heq, hasks⟩ := h.records
    (fun past (s : Interaction (Except PipelineError Execution) × Scene) =>
      ∃ phase : Phase, s.1 = phase.toInteraction r ∧ phase.AsksForTrace past)
    (by
      rintro past ⟨_, scene⟩ e t ⟨phase, rfl, hasks⟩ htakes
      obtain ⟨phase', hmoves, rfl⟩ := exists_moves_of_takes htakes
      exact ⟨_, rfl, hasks.moves hmoves⟩)
    ⟨_, rfl, hstart⟩
  obtain rfl := Phase.eq_aborted_of_toInteraction heq.symm
  exact hasks rfl e he

/-- A line that has been aborted has made no process. -/
theorem forks_of_aborted (h : Plays Takes (r.execute line, scene) replies (.aborted, scene')) :
    forks replies = [] :=
  forks_eq_nil fun e he => by
    obtain ⟨text, heq⟩ := request_of_aborted h he
    rw [heq]
    rfl

end Runner

end PipeShell
