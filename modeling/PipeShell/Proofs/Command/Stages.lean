import PipeShell.Command.Line

/-!
# The stages of a line

What is known of the stages that `parse` gives: stage `i` of a line has the position `i`, and it
has a word.
-/

namespace PipeShell

/-- The stages of a line; none if the line is malformed. -/
def stagesOf (settings : Settings) (line : String) : List Stage :=
  (parse settings line).stages.toOption.getD []

/-- A step of a reading that succeeds has succeeded itself. -/
theorem exists_of_bind_eq_ok {ε α β : Type} {x : Except ε α} {f : α → Except ε β} {b : β}
    (h : x >>= f = .ok b) : ∃ a, x = .ok a ∧ f a = .ok b := by
  cases x with
  | error e => cases h
  | ok a => exact ⟨a, rfl, h⟩

/-- A stage that has been read has the position that it was read at, and a word. -/
theorem Stage.read_eq_ok {index most : Nat} {text : String} {stage : Stage}
    (h : Stage.read index text most = .ok stage) :
    stage.index = index ∧ stage.words ≠ [] := by
  obtain ⟨words, -, h⟩ := exists_of_bind_eq_ok h
  by_cases hempty : words.isEmpty = true
  · simp only [hempty, if_true] at h
    cases h
  · simp only [hempty] at h
    by_cases hnul : words.any Stage.hasNul = true
    · simp only [hnul, if_true] at h
      cases h
    · simp only [hnul] at h
      cases h
      exact ⟨rfl, fun heq => hempty (List.isEmpty_iff.mpr heq)⟩

theorem of_mem_readAll {most start : Nat} {texts : List String} {stages : List Stage}
    (h : readAll most start texts = .ok stages) {i : Nat} {stage : Stage}
    (hi : stages[i]? = some stage) : stage.index = start + i ∧ stage.words ≠ [] := by
  induction texts generalizing start stages i with
  | nil =>
    cases h
    cases hi
  | cons text rest ih =>
    obtain ⟨first, hfirst, h⟩ := exists_of_bind_eq_ok h
    obtain ⟨others, hothers, h⟩ := exists_of_bind_eq_ok h
    cases h
    cases i with
    | zero =>
      cases hi
      exact Stage.read_eq_ok hfirst
    | succ i =>
      obtain ⟨hindex, hwords⟩ := ih hothers hi
      exact ⟨by omega, hwords⟩

/-- Stage `i` of a line has the position `i`, and a word. -/
theorem of_getElem?_stagesOf {settings : Settings} {line : String} {i : Nat} {stage : Stage}
    (hi : (stagesOf settings line)[i]? = some stage) : stage.index = i ∧ stage.words ≠ [] := by
  rw [stagesOf, parse] at hi
  cases hread : readStages settings line with
  | error e =>
    rw [hread] at hi
    cases hi
  | ok stages =>
    simp only [hread] at hi
    -- checking a status may fail but changes no stage
    have hsame : ∀ stages', checkStatus settings stages = .ok stages' → stages' = stages := by
      intro stages' h
      rw [checkStatus.eq_def] at h
      split at h
      · split at h
        · rename_i stage' _
          cases hstatus : stage'.exitStatus with
          | error e => rw [hstatus] at h; cases h
          | ok status => rw [hstatus] at h; cases h; rfl
        · cases h; rfl
      · cases h; rfl
    cases hcheck : checkStatus settings stages with
    | error e =>
      rw [hcheck] at hi
      cases hi
    | ok stages' =>
      rw [hcheck] at hi
      obtain rfl := hsame stages' hcheck
      obtain ⟨texts, -, hread⟩ := exists_of_bind_eq_ok hread
      obtain ⟨hindex, hwords⟩ := of_mem_readAll hread hi
      exact ⟨by omega, hwords⟩

/-- Stages stand in their order. -/
theorem index_of_getElem?_stagesOf {settings : Settings} {line : String} (i : Nat) (stage : Stage)
    (hi : (stagesOf settings line)[i]? = some stage) : stage.index = i :=
  (of_getElem?_stagesOf hi).1

end PipeShell
