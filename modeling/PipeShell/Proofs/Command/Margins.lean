import PipeShell.Proofs.Command.Writing
import PipeShell.Session.Shell

/-!
# The margins of a line

White space at the two ends of a line means nothing: the pieces are trimmed, and so is the line
where a message shows it. So a line may be handed over with its line feed or without, with a
carriage return before it or without, and what is done with it is the same, call by call.

* `texts_trim` is the fact about the texts of a line, and `split_trimmed` about the reader of lines.
* `parse_trimmed` says that a line and the line without its margins are read in the same way, with
  the same trace and the same faults.
* `Shell.runLine_congr` says that a shell does the same for lines that differ in their margins.
-/

namespace PipeShell

/-! ### Trimming -/

theorem Text.trim_append_white (text : List Char) {v : List Char}
    (hv : ∀ c ∈ v, isWhiteSpace c = true) : trim (text ++ v) = trim text := by
  have hparts : front text ++ trim text ++ (back text ++ v) = text ++ v := by
    rw [← List.append_assoc, front_append_trim_append_back]
  have hback : ∀ c ∈ back text ++ v, isWhiteSpace c = true := by
    intro c hc
    exact (List.mem_append.mp hc).elim isWhiteSpace_of_mem_back (hv c)
  rw [← hparts, trim_append (fun _ => isWhiteSpace_of_mem_front) (isTrimmed_trim text) hback]

@[simp] theorem Text.trim_trim (text : List Char) : trim (trim text) = trim text :=
  (isTrimmed_trim text).trim_eq

@[simp] theorem Text.trimmed_empty : trimmed "" = "" := by decide

/-! ### The texts of a line -/

theorem texts_append_of_white {u : List Char} (hu : ∀ c ∈ u, Text.isWhiteSpace c = true)
    (line : List Char) : texts (u ++ line) = texts line := by
  induction u with
  | nil => rfl
  | cons c rest ih =>
    rw [List.cons_append, texts_cons_of_white (hu c List.mem_cons_self),
      ih fun d hd => hu d (List.mem_cons_of_mem c hd)]

/-- White space at the end of a line is in no text. -/
theorem texts_append_white (line : List Char) {v : List Char}
    (hv : ∀ c ∈ v, Text.isWhiteSpace c = true) : texts (line ++ v) = texts line := by
  induction line using pieces_induction with
  | one line hline =>
    -- no delimiter is white
    have hwhole : ∀ s ∈ spots (line ++ v), s.isCut = false := by
      intro s hs
      rw [spots_append, List.mem_append, List.mem_map] at hs
      obtain hs | ⟨s', hs', rfl⟩ := hs
      · exact hline s hs
      · obtain ⟨after, hafter⟩ := mem_spots.mp hs'
        have hwhite : Text.isWhiteSpace s'.char = true := hv s'.char (by simp [hafter])
        have hne : s'.char ≠ delimiter := by
          intro h
          rw [h] at hwhite
          exact absurd hwhite (by decide)
        simp [Spot.isCut, Spot.shift, hne]
    rw [texts, texts, pieces_eq_singleton hwhole, pieces_eq_singleton hline, List.map_singleton,
      List.map_singleton, Text.trim_append_white line hv]
  | more a b ha iha ihb =>
    rw [List.append_assoc, List.cons_append, texts_append_cons ha, texts_append_cons ha, ihb]

/-- **The margins of a line are in none of its texts.** -/
theorem texts_trim (line : List Char) : texts (Text.trim line) = texts line := by
  have hparts := Text.front_append_trim_append_back line
  conv_rhs => rw [← hparts]
  rw [texts_append_white _ fun _ => Text.isWhiteSpace_of_mem_back,
    texts_append_of_white fun _ => Text.isWhiteSpace_of_mem_front]

/-! ### The readers -/

/-- The reader of lines does not look at the margins, and no message shows them. -/
theorem split_trimmed (most : Nat) (line : String) :
    split most (Text.trimmed line) = split most line := by
  have hchars : (Text.trimmed line).toList = Text.trim line.toList := String.toList_ofList
  rw [split_eq, split_eq, hchars, marks_trim, texts_trim, Text.trim_trim]

/-- **A line is read as the line without its margins**: with the same stages or the same fault, and
with the same trace. -/
theorem parse_trimmed (settings : Settings) (line : String) :
    parse settings (Text.trimmed line) = parse settings line := by
  rw [parse, parse, readStages, readStages, split_trimmed]

section Congr

variable {line line' : String}

/-- Lines that differ in their margins are read in the same way. -/
theorem parse_congr (settings : Settings) (h : Text.trimmed line = Text.trimmed line') :
    parse settings line = parse settings line' := by
  rw [← parse_trimmed settings line, h, parse_trimmed]

theorem Runner.execute_congr (r : Runner) (h : Text.trimmed line = Text.trimmed line') :
    r.execute line = r.execute line' := by
  rw [execute, execute, parse_congr r.settings h]

/-- **A shell does the same for lines that differ in their margins**: it asks the operating system
for the same things in the same order, and goes on in the same way behind the same answers. -/
theorem Shell.runLine_congr (shell : Shell) (h : Text.trimmed line = Text.trimmed line') :
    shell.runLine line = shell.runLine line' := by
  rw [runLine, runLine, Runner.run, Runner.run, Runner.execute_congr shell.runner h]

/-- A shell does nothing for a blank line. -/
theorem Shell.runLine_of_blank (shell : Shell) (h : Text.trimmed line = "") :
    shell.runLine line = .done (shell, none) := by
  have hempty : shell.runLine "" = .done (shell, none) := by
    have htrace : (parse shell.runner.settings "").trace = [] := by
      rw [parse]
      cases shell.runner.settings.trace <;> rfl
    have hstages : (parse shell.runner.settings "").stages = .ok [] := rfl
    rw [runLine, Runner.run, Runner.execute, htrace, hstages]
    rfl
  have hmargins : Text.trimmed line = Text.trimmed "" := h
  rw [shell.runLine_congr hmargins, hempty]

end Congr

end PipeShell
