import Mathlib.Data.Int.ModEq
import PipeShell.Proofs.Session.Modes

/-!
# The way of a status

A lone terminator may ask for a status by a word. This is the way from the word to what the
operating system is told when the session is over.

* `AsksBy` says that a line is such a terminator. Words behind the status do not matter.
* If the word denotes a number of 32 bits, the line stops the shell with it
  (`Shell.runLine_of_asksBy`); if not, the shell complains and goes on (`Shell.runLine_of_refused`).
* `Shell.runLines_cut` finds the line among others: it is run if no line before it stops the shell.
* `exitCode_eq_iff`: what is told is the one code below 256 that is congruent to the status.
* `Session.exits_by_word` puts them together, for all ways to feed a session with lines.
-/

namespace PipeShell

/-- Whether a line is the terminator alone and asks for a status by a word. -/
def AsksBy (settings : Settings) (line word : String) : Prop :=
  ∃ stage more, readStages settings line = .ok [stage] ∧
    stage.words = settings.terminator :: word :: more

/-! ### The line -/

section Line

variable {settings : Settings} {line word : String}

theorem Stage.exitStatus_of_denotes {stage : Stage} {n : Int} (hword : stage.words[1]? = some word)
    (hn : Text.Denotes word.toList n ∧ -2147483648 ≤ n ∧ n ≤ 2147483647) :
    stage.exitStatus = .ok (some n) := by
  simp only [exitStatus, hword, Text.readInt32_eq_ok_iff.mpr hn]

theorem Stage.exitStatus_of_refused {stage : Stage} (hword : stage.words[1]? = some word)
    (hbad : ¬Text.IsInt32 word.toList) : stage.exitStatus = .error (.badExitStatus word) := by
  cases hread : Text.readInt32 word.toList with
  | error fault => simp only [exitStatus, hword, hread]
  | ok n => exact absurd ⟨n, Text.readInt32_eq_ok_iff.mp hread⟩ hbad

/-- What is read of a line that asks for a status depends on the status. -/
theorem AsksBy.exists_stage (h : AsksBy settings line word) :
    ∃ stage : Stage, stage.isTerminator settings.terminator = true ∧
      stage.words[1]? = some word ∧
      (parse settings line).stages = stage.exitStatus.map fun _ => [stage] := by
  obtain ⟨stage, more, hread, hwords⟩ := h
  have hterminator : stage.isTerminator settings.terminator = true := by
    simp [Stage.isTerminator, Stage.program, hwords]
  refine ⟨stage, hterminator, by simp [hwords], ?_⟩
  simp only [parse, hread, checkStatus, hterminator, if_true]

theorem AsksBy.isStop (h : AsksBy settings line word) {n : Int}
    (hn : Text.Denotes word.toList n ∧ -2147483648 ≤ n ∧ n ≤ 2147483647) :
    IsStop settings line (some n) := by
  obtain ⟨stage, hterminator, hword, hparse⟩ := h.exists_stage
  have hstatus := Stage.exitStatus_of_denotes hword hn
  exact ⟨stage, by rw [hparse, hstatus]; rfl, hterminator, hstatus⟩

theorem AsksBy.parse_of_refused (h : AsksBy settings line word)
    (hbad : ¬Text.IsInt32 word.toList) :
    (parse settings line).stages = .error (.badExitStatus word) := by
  obtain ⟨stage, -, hword, hparse⟩ := h.exists_stage
  rw [hparse, Stage.exitStatus_of_refused hword hbad]
  rfl

/-- Such a line stops the shell with the number that the word denotes, or not at all. -/
theorem AsksBy.isStop_iff (h : AsksBy settings line word) (status : Option Int) :
    IsStop settings line status ↔ ∃ n, status = some n ∧
      Text.Denotes word.toList n ∧ -2147483648 ≤ n ∧ n ≤ 2147483647 := by
  constructor
  · intro hstop
    by_cases hfine : Text.IsInt32 word.toList
    · obtain ⟨n, hn⟩ := hfine
      exact ⟨n, hstop.status_eq (h.isStop hn), hn⟩
    · obtain ⟨stage, hread, -⟩ := hstop
      cases hread.symm.trans (h.parse_of_refused hfine)
  · rintro ⟨n, rfl, hn⟩
    exact h.isStop hn

end Line

theorem Interaction.complainAll_append_bind {α : Type} (first second : List String)
    (k : Unit → Interaction α) :
    (complainAll (first ++ second)).bind k =
      (complainAll first).bind fun _ => (complainAll second).bind k := by
  induction first with
  | nil => rfl
  | cons text rest ih =>
    rw [List.cons_append, complainAll, complainAll, bind_assoc, bind_assoc]
    exact congrArg _ (funext fun _ => ih)

/-- A line that cannot be read asks for nothing but that its trace be shown. -/
theorem Runner.execute_of_malformed {r : Runner} {line : String} {e : LineError}
    (h : (parse r.settings line).stages = .error e) :
    r.execute line = (Interaction.complainAll (parse r.settings line).trace).bind fun _ =>
      .done (.error (.line e)) := by
  rw [execute, h]
  rfl

theorem Runner.execute_of_refused {r : Runner} {settings : Settings} {line word : String}
    (hr : r.settings = settings) (h : AsksBy settings line word)
    (hbad : ¬Text.IsInt32 word.toList) :
    r.execute line = (Interaction.complainAll (parse settings line).trace).bind fun _ =>
      .done (.error (.line (.badExitStatus word))) := by
  subst hr
  exact execute_of_malformed (h.parse_of_refused hbad)

/-- What the shell shows when it cannot take a word for a status. -/
def refusal (word : String) : String :=
  Runner.notice (LineError.badExitStatus word).message

namespace Shell

variable {shell : Shell} {settings : Settings} {line word : String}

/-- **A number of 32 bits stops the shell.** -/
theorem runLine_of_asksBy (hshell : shell.runner.settings = settings)
    (h : AsksBy settings line word) {n : Int}
    (hn : Text.Denotes word.toList n ∧ -2147483648 ≤ n ∧ n ≤ 2147483647) :
    shell.runLine line = (Interaction.complainAll (parse settings line).trace).bind fun _ =>
      .done (shell, some n) := by
  subst hshell
  exact runLine_of_isStop (h.isStop hn)

/-- **Any other word is complained about**, and the shell goes on. -/
theorem runLine_of_refused (hshell : shell.runner.settings = settings)
    (h : AsksBy settings line word) (hbad : ¬Text.IsInt32 word.toList) :
    shell.runLine line =
      (Interaction.complainAll ((parse settings line).trace ++ [refusal word])).bind fun _ =>
        .done ({ shell with last := 1 }, none) := by
  rw [runLine_eq, Runner.execute_of_refused hshell h hbad, Interaction.bind_assoc,
    Interaction.complainAll_append_bind]
  rfl

/-- The line stops the shell with what the word denotes, whatever the system answers. -/
theorem stop_eq_some_iff_of_plays (hshell : shell.runner.settings = settings)
    (h : AsksBy settings line word) {replies : List ShellReply} {shell' : Shell} {stop : Option Int}
    {scene scene' : Scene}
    (hplays : Plays Scene.Takes (shell.runLine line, scene) replies (.done (shell', stop), scene'))
    (n : Int) :
    stop = some n ↔ Text.Denotes word.toList n ∧ -2147483648 ≤ n ∧ n ≤ 2147483647 := by
  subst hshell
  obtain ⟨result, htakes⟩ := exists_takes_of_runLine hplays
  rw [htakes.stop_eq_some_iff n]
  constructor
  · rintro ⟨status, hstop, rfl⟩
    obtain ⟨n, rfl, hn⟩ := (h.isStop_iff status).mp hstop
    exact hn
  · intro hn
    exact ⟨some n, h.isStop hn, rfl⟩

/-! ### The line among others -/

variable {α : Type}

/-- Whatever goes on behind lines may count on the settings. -/
theorem bind_runLines_congr {lines : List String} {k k' : Ran → Interaction α}
    (h : ∀ ran, ran.shell.runner = shell.runner → k ran = k' ran) :
    (shell.runLines lines).bind k = (shell.runLines lines).bind k' := by
  induction lines generalizing shell k k' with
  | nil => exact h _ rfl
  | cons line rest ih =>
    rw [runLines_cons_bind, runLines_cons_bind]
    refine bind_runLine_congr fun shell' stop hrunner => ?_
    cases stop with
    | some status => exact h _ hrunner
    | none => exact ih fun ran hran => h _ (hran.trans hrunner)

/-- Lines are run behind others, unless one of these has stopped the shell. -/
theorem runLines_append (shell : Shell) (before after : List String) :
    shell.runLines (before ++ after) = (shell.runLines before).bind fun ran =>
      if ran.stop = none then (ran.shell.runLines after).bind fun rest =>
        .done { rest with lines := ran.lines ++ rest.lines }
      else .done ran := by
  induction before generalizing shell with
  | nil => exact (Interaction.bind_done _).symm
  | cons line before ih =>
    rw [List.cons_append, runLines, runLines_cons_bind]
    refine congrArg _ (funext ?_)
    rintro ⟨shell, stop⟩
    cases stop with
    | some status => rfl
    | none =>
      change (shell.runLines (before ++ after)).bind _ = _
      rw [ih, Interaction.bind_assoc]
      refine congrArg _ (funext fun ran => ?_)
      by_cases hran : ran.stop = none
      · simp only [if_pos hran, Interaction.bind_assoc]
        rfl
      · simp only [if_neg hran]
        rfl

/-- What a line that is known for all shells with some settings comes to among others. -/
theorem runLines_cut {before after : List String} {k : Ran → Interaction Ran}
    (h : ∀ ran : Ran, ran.shell.runner = shell.runner →
      ((ran.shell.runLines (line :: after)).bind fun rest =>
        .done { rest with lines := ran.lines ++ rest.lines }) = k ran) :
    shell.runLines (before ++ line :: after) = (shell.runLines before).bind fun ran =>
      if ran.stop = none then k ran else .done ran := by
  rw [runLines_append]
  refine bind_runLines_congr fun ran hrunner => ?_
  rw [h ran hrunner]

/-- What the session of a shell comes to if one of its lines stops it with a number. -/
theorem runLines_of_asksBy (hshell : shell.runner.settings = settings)
    (h : AsksBy settings line word) {n : Int}
    (hn : Text.Denotes word.toList n ∧ -2147483648 ≤ n ∧ n ≤ 2147483647)
    (before after : List String) :
    shell.runLines (before ++ line :: after) = (shell.runLines before).bind fun ran =>
      if ran.stop = none then
        (Interaction.complainAll (parse settings line).trace).bind fun _ =>
          .done ⟨ran.shell, some n, ran.lines ++ [line]⟩
      else .done ran := by
  refine runLines_cut fun ran hrunner => ?_
  have hran : ran.shell.runner.settings = settings := by rw [hrunner, hshell]
  rw [runLines_cons_bind, runLine_of_asksBy hran h hn, Interaction.bind_assoc]
  rfl

/-- What the session of a shell comes to if one of its lines asks for a status in vain. -/
theorem runLines_of_refused (hshell : shell.runner.settings = settings)
    (h : AsksBy settings line word) (hbad : ¬Text.IsInt32 word.toList)
    (before after : List String) :
    shell.runLines (before ++ line :: after) = (shell.runLines before).bind fun ran =>
      if ran.stop = none then
        (Interaction.complainAll ((parse settings line).trace ++ [refusal word])).bind fun _ =>
          (({ ran.shell with last := 1 } : Shell).runLines after).bind fun rest =>
            .done { rest with lines := ran.lines ++ line :: rest.lines }
      else .done ran := by
  refine runLines_cut fun ran hrunner => ?_
  have hran : ran.shell.runner.settings = settings := by rw [hrunner, hshell]
  rw [runLines_cons_bind, runLine_of_refused hran h hbad, Interaction.bind_assoc]
  rfl

end Shell

/-! ### The code -/

theorem exitCode_lt (status : Int) : exitCode status < 256 := by
  rw [exitCode]
  omega

theorem exitCode_modEq (status : Int) : (exitCode status : Int) ≡ status [ZMOD 256] := by
  rw [exitCode, Int.ModEq]
  omega

/-- **What the system is told** is the one code below 256 that is congruent to the status. -/
theorem exitCode_eq_iff {status : Int} {code : Nat} :
    exitCode status = code ↔ code < 256 ∧ (code : Int) ≡ status [ZMOD 256] := by
  constructor
  · rintro rfl
    exact ⟨exitCode_lt status, exitCode_modEq status⟩
  · rintro ⟨hlt, hcode⟩
    have hmod : (code : Int) % 256 = status % 256 := hcode
    rw [exitCode]
    omega

/-! ### Sessions -/

/-- Whether a session with some lines comes to `p`, in every way to feed it. From a file the lines
may come in any blocks and with any of the usual endings; at a terminal a complaint about the
history may be added behind them; one line may be given with the command. What the system is told is
the code of the status behind `p`. -/
structure Options.RunsAs (o : Options) (environment : Environment) (lines : List String)
    (p : Interaction Ran) : Prop where
  file : ∀ f : Feed, f.terminal ≠ .ok true → f.Delivers lines →
    (∀ line ∈ lines, '\n' ∉ line.toList) → ∀ n, f.blocks.length + lines.length + 1 < n →
      ((({ o with command := none } : Options).session environment).code n).answered f =
        p.bind fun ran => .done (some (exitCode ran.status))
  terminal : ∀ f : Feed, f.terminal = .ok true → f.Edits lines → ∀ n, lines.length + 1 < n →
    ((({ o with command := none } : Options).session environment).code n).answered f =
      p.bind fun ran =>
        (Interaction.complainAll
          (Interactive.complaints (o.settings environment).history f.stored)).bind fun _ =>
            .done (some (exitCode ran.status))
  command : ∀ line, lines = [line] → ∀ n, 0 < n →
    (({ o with command := some line } : Options).session environment).code n =
      p.bind fun ran => .done (some (exitCode ran.status))

/-- A session comes to its lines one after another. -/
theorem Options.runsAs (o : Options) (environment : Environment) (lines : List String) :
    o.RunsAs environment lines
      (Shell.runLines { runner := { settings := o.settings environment } } lines) where
  file _ hterminal hdelivers hlines _ hn := Session.code_of_file hterminal hdelivers hlines hn
  terminal _ hterminal hedits _ hn := Session.code_of_terminal hterminal hedits hn
  command := by
    rintro line rfl n hn
    exact Session.code_of_line _ line hn

namespace Session

open Scene

/-- **From the word of a terminator to the code of the process.** A lone terminator asks for a
status by a word; the words behind it do not matter. If the word denotes a number of 32 bits, with
or without a sign and with any number of leading zeros, the line stops the shell with this number;
any other word is complained about, and the shell goes on and remembers a failure. So it is among
the lines of a session, if no line before it stops the shell, whether the lines come from a file,
from a terminal or with the command; and the system is told the one code below 256 that is congruent
to the number. -/
theorem exits_by_word (o : Options) (environment : Environment) {line word : String}
    (h : AsksBy (o.settings environment) line word) :
    let trace := (parse (o.settings environment) line).trace
    let start : Shell := { runner := { settings := o.settings environment } }
    (∀ shell : Shell, shell.runner.settings = o.settings environment →
      ∀ replies shell' stop scene scene',
        Plays Takes (shell.runLine line, scene) replies (.done (shell', stop), scene') →
          ∀ n, stop = some n ↔
            Text.Denotes word.toList n ∧ -2147483648 ≤ n ∧ n ≤ 2147483647) ∧
    (∀ n, Text.Denotes word.toList n ∧ -2147483648 ≤ n ∧ n ≤ 2147483647 →
      (∀ shell : Shell, shell.runner.settings = o.settings environment →
        shell.runLine line =
          (Interaction.complainAll trace).bind fun _ => .done (shell, some n)) ∧
      (∀ code : Nat, exitCode n = code ↔ code < 256 ∧ (code : Int) ≡ n [ZMOD 256]) ∧
      ∀ before after, o.RunsAs environment (before ++ line :: after)
        ((start.runLines before).bind fun ran =>
          if ran.stop = none then
            (Interaction.complainAll trace).bind fun _ =>
              .done ⟨ran.shell, some n, ran.lines ++ [line]⟩
          else .done ran)) ∧
    (¬(∃ n, Text.Denotes word.toList n ∧ -2147483648 ≤ n ∧ n ≤ 2147483647) →
      (∀ shell : Shell, shell.runner.settings = o.settings environment →
        shell.runner.execute line = ((Interaction.complainAll trace).bind fun _ =>
          .done (.error (.line (.badExitStatus word)))) ∧
        shell.runLine line = (Interaction.complainAll (trace ++ [refusal word])).bind fun _ =>
          .done ({ shell with last := 1 }, none)) ∧
      ∀ before after, o.RunsAs environment (before ++ line :: after)
        ((start.runLines before).bind fun ran =>
          if ran.stop = none then
            (Interaction.complainAll (trace ++ [refusal word])).bind fun _ =>
              (({ ran.shell with last := 1 } : Shell).runLines after).bind fun rest =>
                .done { rest with lines := ran.lines ++ line :: rest.lines }
          else .done ran)) := by
  intro trace start
  have hstart : start.runner.settings = o.settings environment := rfl
  refine ⟨?_, fun n hn => ⟨?_, fun code => exitCode_eq_iff, ?_⟩, fun hbad => ⟨?_, ?_⟩⟩
  · intro shell hshell replies shell' stop scene scene' hplays n
    exact Shell.stop_eq_some_iff_of_plays hshell h hplays n
  · intro shell hshell
    exact Shell.runLine_of_asksBy hshell h hn
  · intro before after
    rw [← Shell.runLines_of_asksBy hstart h hn before after]
    exact o.runsAs environment _
  · intro shell hshell
    exact ⟨Runner.execute_of_refused hshell h hbad, Shell.runLine_of_refused hshell h hbad⟩
  · intro before after
    rw [← Shell.runLines_of_refused hstart h hbad before after]
    exact o.runsAs environment _

/-- A status below zero with a word behind it, and one that is too large by one. -/
theorem exits_by_word_minus_one :
    let file : Feed := { blocks := [Text.encode "exit 2147483648\nexit -1 x"] }
    (({ command := some "exit -1 x" } : Options).session {}).code 1 = .done (some 255) ∧
    ((({} : Options).session {}).code 5).answered file =
      (Interaction.complainAll [refusal "2147483648"]).bind fun _ => .done (some 255) := by
  intro file
  have hminus : AsksBy {} "exit -1 x" "-1" :=
    ⟨⟨0, "exit -1 x", ["exit", "-1", "x"]⟩, ["x"], by decide, by decide⟩
  have hlarge : AsksBy {} "exit 2147483648" "2147483648" :=
    ⟨⟨0, "exit 2147483648", ["exit", "2147483648"]⟩, [], by decide, by decide⟩
  have hdenotes : Text.Denotes "-1".toList (-1) :=
    .minus (List.cons_ne_nil '1' []) (List.forall_mem_singleton.mpr rfl)
  have hrefused : ¬∃ n, Text.Denotes "2147483648".toList n ∧ -2147483648 ≤ n ∧ n ≤ 2147483647 := by
    rintro ⟨n, hn⟩
    have hread : Text.readInt32 "2147483648".toList = .error .tooLarge := by decide
    cases hread.symm.trans (Text.readInt32_eq_ok_iff.mpr hn)
  obtain ⟨hline, hcode, hsession⟩ := (exits_by_word {} {} hminus).2.1 (-1) ⟨hdenotes, by decide⟩
  obtain ⟨-, hsession'⟩ := (exits_by_word {} {} hlarge).2.2 hrefused
  have htrace : (parse (Options.settings {} {}) "exit -1 x").trace = [] := by decide
  have htrace' : (parse (Options.settings {} {}) "exit 2147483648").trace = [] := by decide
  have h255 : exitCode (-1) = 255 := (hcode 255).mpr ⟨by decide, by decide⟩
  have hran : Shell.runLines { last := 1 } ["exit -1 x"] =
      .done ⟨{ last := 1 }, some (-1), ["exit -1 x"]⟩ := by
    rw [Shell.runLines, hline { last := 1 } rfl, htrace]
    rfl
  constructor
  · refine ((hsession [] []).command "exit -1 x" rfl 1 (by decide)).trans ?_
    rw [htrace, ← h255]
    rfl
  · have hdelivers : file.Delivers ["exit 2147483648", "exit -1 x"] := by
      refine ⟨?_, _, .cons "exit 2147483648" false (.last "exit -1 x"), ?_⟩
      · change [] ∉ [Text.encode "exit 2147483648\nexit -1 x"]
        rw [Text.encode_eq]
        decide
      · change [Text.encode "exit 2147483648\nexit -1 x"].flatten = _
        rw [List.flatten_singleton]
        rfl
    have hruns := hsession' [] ["exit -1 x"]
    have hterminal : file.terminal ≠ .ok true := by rintro ⟨⟩
    refine (hruns.file file hterminal hdelivers (by decide) 5 (by decide)).trans ?_
    rw [htrace', ← h255]
    change ((Interaction.complainAll [refusal "2147483648"]).bind fun _ =>
      (Shell.runLines { last := 1 } ["exit -1 x"]).bind _).bind _ = _
    rw [hran, Interaction.bind_assoc]
    rfl

end Session

end PipeShell
