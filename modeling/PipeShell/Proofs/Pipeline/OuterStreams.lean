import PipeShell.Proofs.Machine.Streams
import PipeShell.Proofs.Pipeline.Inheritance
import PipeShell.Proofs.Pipeline.Order

/-!
# The outer streams of a line

A new process installs its streams one after another on one table: standard input first, standard
output second. The second installation therefore looks at a table that the first one has changed,
and what it finds there is not always what the shell had. Everything is said in terms of open files,
so that the numbers of the outer streams may be any, those of the standard streams and of each other
included.

* `DescriptorTable.file?` is the file that a descriptor refers to, and `IsStandard` what is asked of
  the shell's standard streams.
* `Child.tableAfter_installs` treats a stream that nothing replaces as one that is installed as
  itself.
* `Worker.Started` is what is kept until a program runs; `Worker.streams_of_running` tells the
  streams of a program.
* `Runner.outer_streams_at_exec` is the theorem, for the first and the last stage of a line: the
  source always arrives, and the sink unless it has the number of standard input.
-/

namespace PipeShell

/-! ### Open files -/

namespace DescriptorTable

/-- The open file that a descriptor refers to. -/
def file? (t : DescriptorTable) (fd : Fd) : Option Nat :=
  (t.get? fd).map Entry.file

/-- Whether the standard streams are open, and stay open when a program starts. -/
def IsStandard (t : DescriptorTable) : Prop :=
  ∀ fd, Fd.stdin ≤ fd → fd ≤ Fd.stderr → ∃ e, t.get? fd = some e ∧ e.closeOnExec = false

variable {t t' : DescriptorTable} {fd : Fd}

@[simp] theorem isSome_file? : (t.file? fd).isSome = (t.get? fd).isSome :=
  Option.isSome_map

theorem file?_congr (h : t.get? fd = t'.get? fd) : t.file? fd = t'.file? fd :=
  congrArg (Option.map Entry.file) h

namespace IsStandard

theorem isSome (h : t.IsStandard) (hlow : Fd.stdin ≤ fd) (hhigh : fd ≤ Fd.stderr) :
    (t.file? fd).isSome := by
  obtain ⟨e, he, -⟩ := h fd hlow hhigh
  rw [isSome_file?, he]
  rfl

/-- What is open for an outer stream, or else for the stream that it is to replace. -/
theorem isSome_getD (h : t.IsStandard) (hlow : Fd.stdin ≤ fd) (hhigh : fd ≤ Fd.stderr)
    {outer : Option Fd} (hopen : ∀ fd', outer = some fd' → (t.get? fd').isSome) :
    (t.file? (outer.getD fd)).isSome := by
  cases outer with
  | none => exact h.isSome hlow hhigh
  | some fd' => exact isSome_file?.trans (hopen fd' rfl)

/-- The start of a program leaves the standard streams alone. -/
theorem file?_afterExec (h : t.IsStandard) (hlow : Fd.stdin ≤ fd) (hhigh : fd ≤ Fd.stderr) :
    t.afterExec.file? fd = t.file? fd := by
  obtain ⟨e, he, hkept⟩ := h fd hlow hhigh
  refine file?_congr ?_
  rw [get?_afterExec, he, Option.filter_some, hkept]
  rfl

/-- What changes no standard stream keeps them as they are to be. -/
theorem congr (h : t.IsStandard)
    (hsame : ∀ fd, Fd.stdin ≤ fd → fd ≤ Fd.stderr → t'.get? fd = t.get? fd) : t'.IsStandard := by
  intro fd hlow hhigh
  rw [hsame fd hlow hhigh]
  exact h fd hlow hhigh

end IsStandard

end DescriptorTable

/-! ### Installing streams -/

namespace ChildStep

variable {table : DescriptorTable} {source : Fd} {stream : Stream}

/-- Nothing is done for a stream that is installed as itself. -/
theorem apply_install_self (table : DescriptorTable) (stream : Stream) :
    (install stream.fd stream).apply table = table := by
  rw [apply]
  split
  · rfl
  · exact if_pos rfl

/-- What is open and is installed gives its file to the stream, whichever number it has. -/
theorem file?_apply_install (hopen : (table.file? source).isSome) :
    ((install source stream).apply table).file? stream.fd = table.file? source := by
  rw [DescriptorTable.isSome_file?] at hopen
  obtain ⟨e, he⟩ := Option.isSome_iff_exists.mp hopen
  by_cases hsame : source = stream.fd
  · rw [hsame, apply_install_self]
  · rw [DescriptorTable.file?, get?_apply_install table source stream stream.fd he hsame,
      if_pos rfl, DescriptorTable.file?, he]
    rfl

/-- Other descriptors keep their files. -/
theorem file?_apply_install_of_ne {fd : Fd} (hne : fd ≠ stream.fd) :
    ((install source stream).apply table).file? fd = table.file? fd :=
  DescriptorTable.file?_congr (get?_apply_install_of_ne table source stream hne)

/-- An installed stream stays open when a program starts. -/
theorem isStandard_apply_install (h : table.IsStandard) (source : Fd) (stream : Stream) :
    ((install source stream).apply table).IsStandard := by
  by_cases hsame : source = stream.fd
  · rwa [hsame, apply_install_self]
  · cases he : table.get? source with
    | none =>
      have hnothing : (install source stream).apply table = table := by rw [apply, he]
      rwa [hnothing]
    | some e =>
      intro fd hlow hhigh
      rw [get?_apply_install table source stream fd he hsame]
      split
      · exact ⟨_, rfl, rfl⟩
      · exact h fd hlow hhigh

end ChildStep

namespace Child

variable {table : DescriptorTable} {stdin stdout : Option Fd} {foreign : List Fd}
  {argv : List String}

/-- Both streams are installed, if need be as what they are already. -/
theorem tableAfter_installs : tableAfter table (installs stdin stdout) =
    (ChildStep.install (stdout.getD Fd.stdout) .stdout).apply
      ((ChildStep.install (stdin.getD Fd.stdin) .stdin).apply table) := by
  have hin : ∀ t, (ChildStep.install Fd.stdin .stdin).apply t = t := fun t =>
    ChildStep.apply_install_self t .stdin
  have hout : ∀ t, (ChildStep.install Fd.stdout .stdout).apply t = t := fun t =>
    ChildStep.apply_install_self t .stdout
  cases stdin <;> cases stdout <;> simp [installs, hin, hout]

/-- Behind its installations, a plan leaves the standard streams alone. -/
theorem get?_tableAfter_plan_of_le {fd : Fd} (hhigh : fd ≤ Fd.stderr) :
    (tableAfter table (plan stdin stdout foreign argv)).get? fd =
      (tableAfter table (installs stdin stdout)).get? fd := by
  rw [get?_tableAfter_plan, if_neg fun h => absurd h.2 (Int.not_lt.mpr hhigh)]

theorem file?_tableAfter_plan_of_le {fd : Fd} (hhigh : fd ≤ Fd.stderr) :
    (tableAfter table (plan stdin stdout foreign argv)).file? fd =
      (tableAfter table (installs stdin stdout)).file? fd :=
  DescriptorTable.file?_congr (get?_tableAfter_plan_of_le hhigh)

theorem isStandard_tableAfter_plan (h : table.IsStandard) :
    (tableAfter table (plan stdin stdout foreign argv)).IsStandard := by
  have hinstalls : (tableAfter table (installs stdin stdout)).IsStandard := by
    rw [tableAfter_installs]
    exact ChildStep.isStandard_apply_install (ChildStep.isStandard_apply_install h _ _) _ _
  exact hinstalls.congr fun fd _ hhigh => get?_tableAfter_plan_of_le hhigh

/-- Standard input is what the plan has been given for it. -/
theorem file?_tableAfter_plan_stdin (hopen : (table.file? (stdin.getD Fd.stdin)).isSome) :
    (tableAfter table (plan stdin stdout foreign argv)).file? Fd.stdin =
      table.file? (stdin.getD Fd.stdin) := by
  rw [file?_tableAfter_plan_of_le (by decide), tableAfter_installs,
    ChildStep.file?_apply_install_of_ne (show Fd.stdin ≠ Stream.stdout.fd by decide)]
  exact ChildStep.file?_apply_install hopen

/-- Standard output is what the plan has been given for it, **unless this is named by the number of
standard input**: what had that number is no longer there when standard output is installed. -/
theorem file?_tableAfter_plan_stdout (h : table.IsStandard)
    (hopen : (table.file? (stdout.getD Fd.stdout)).isSome) :
    (tableAfter table (plan stdin stdout foreign argv)).file? Fd.stdout =
      if stdout = some Fd.stdin then
        (tableAfter table (plan stdin stdout foreign argv)).file? Fd.stdin
      else table.file? (stdout.getD Fd.stdout) := by
  rw [file?_tableAfter_plan_of_le (show Fd.stdout ≤ Fd.stderr by decide),
    file?_tableAfter_plan_of_le (show Fd.stdin ≤ Fd.stderr by decide), tableAfter_installs,
    ChildStep.file?_apply_install_of_ne (show Fd.stdin ≠ Stream.stdout.fd by decide)]
  have hbetween := ChildStep.isStandard_apply_install h (stdin.getD Fd.stdin) .stdin
  generalize hthen : (ChildStep.install (stdin.getD Fd.stdin) .stdin).apply table = between
    at hbetween ⊢
  split
  · rename_i hstdin
    rw [hstdin, Option.getD_some]
    exact ChildStep.file?_apply_install (hbetween.isSome (by decide) (by decide))
  · rename_i hother
    -- the number of standard input is the only one that the first installation is about
    have hne : stdout.getD Fd.stdout ≠ Fd.stdin := by
      cases stdout with
      | none => decide
      | some fd => exact fun heq => hother (congrArg some heq)
    have hkept : between.file? (stdout.getD Fd.stdout) = table.file? (stdout.getD Fd.stdout) := by
      rw [← hthen]
      exact ChildStep.file?_apply_install_of_ne hne
    rw [← hkept] at hopen ⊢
    exact ChildStep.file?_apply_install hopen

end Child

/-! ### Running programs -/

namespace Worker

variable {w w' : Worker} {table : DescriptorTable} {plan : Child}

/-- Whether a process that runs a program has followed its plan up to the start of this program. -/
def Started (table : DescriptorTable) (plan : Child) (w : Worker) : Prop :=
  ∀ argv, w.life = .running argv → ∃ past rest, past ++ .exec argv :: rest = plan ∧
    w.table = (Child.tableAfter table past).afterExec

/-- **The step.** A program is only started from within the plan. -/
theorem started_of_takes {e : WorkerReply} (hfollows : w.Follows table plan)
    (h : w.Started table plan) (htakes : Takes w e w') : w'.Started table plan := by
  obtain @⟨step, rest, life, answer⟩ := htakes
  have hgoes := goes_after life answer
  generalize w.after step rest answer = w' at hgoes
  intro argv hrunning
  cases hgoes with
  | again => exact h argv hrunning
  | on => cases hrunning
  | fails => cases hrunning
  | leaves => cases hrunning
  | unheard => cases hrunning
  | @runs argv' starts =>
    obtain rfl : argv' = argv := Life.running.inj hrunning
    subst starts
    obtain hparts | ⟨past, hpast, htable⟩ := hfollows _ life
    · cases hparts
    · exact ⟨past, rest, hpast, congrArg DescriptorTable.afterExec htable⟩

/-- **The run.** -/
theorem started_of_plays {pid : Pid} {replies : List WorkerReply}
    (h : Plays Takes ⟨pid, table, .preparing plan⟩ replies w) : w.Started table plan := by
  have hall : w.Follows table plan ∧ w.Started table plan := by
    refine h.keeps (fun w => w.Follows table plan ∧ w.Started table plan)
      (fun hs htakes => ⟨follows_of_takes hs.1 htakes, started_of_takes hs.1 hs.2 htakes⟩) ⟨?_, ?_⟩
    · intro todo htodo
      exact .inr ⟨[], (Life.preparing.inj htodo).symm, rfl⟩
    · intro argv hrunning
      cases hrunning
  exact hall.2

variable {stdin stdout : Option Fd} {foreign : List Fd} {argv argv' : List String}

/-- **The streams of a program**, told from the table that its process has started with. -/
theorem streams_of_running {pid : Pid} {replies : List WorkerReply} (hstandard : table.IsStandard)
    (h : Plays Takes ⟨pid, table, .preparing (.plan stdin stdout foreign argv)⟩ replies w)
    (hrunning : w.life = .running argv') :
    argv' = argv ∧
    ((table.file? (stdin.getD Fd.stdin)).isSome →
      w.table.file? Fd.stdin = table.file? (stdin.getD Fd.stdin)) ∧
    ((table.file? (stdout.getD Fd.stdout)).isSome →
      w.table.file? Fd.stdout = if stdout = some Fd.stdin then w.table.file? Fd.stdin
        else table.file? (stdout.getD Fd.stdout)) := by
  obtain ⟨past, rest, hpast, htable⟩ := started_of_plays h argv' hrunning
  obtain ⟨rfl, hall⟩ := Child.of_append_exec_eq_plan table hpast
  rw [hall] at htable
  have hplan : (Child.tableAfter table (.plan stdin stdout foreign argv')).IsStandard :=
    Child.isStandard_tableAfter_plan hstandard
  rw [htable, hplan.file?_afterExec (by decide) (by decide),
    hplan.file?_afterExec (by decide) (by decide)]
  exact ⟨rfl, Child.file?_tableAfter_plan_stdin, Child.file?_tableAfter_plan_stdout hstandard⟩

/-- A process that is only to leave runs no program. -/
theorem not_running_of_exit {pid : Pid} {status : Nat} {replies : List WorkerReply}
    (h : Plays Takes ⟨pid, table, .preparing [.exit status]⟩ replies w) :
    w.life ≠ .running argv := by
  intro hrunning
  obtain ⟨past, rest, hpast, -⟩ := started_of_plays h argv hrunning
  have hmem : ChildStep.exec argv ∈ [ChildStep.exit status] :=
    hpast ▸ List.mem_append_right _ List.mem_cons_self
  cases List.mem_singleton.mp hmem

end Worker

/-! ### The first and the last stage -/

namespace Runner

open Scene

variable {r : Runner} {line : String} {scene scene' : Scene}
  {p : Interaction (Except PipelineError Execution)}

/-- **Where the outer streams arrive.** Whenever a process is made for a stage of a line, with the
standard streams and the outer streams of the shell open at that time, whatever their numbers are:
it is the last one that has been made, with a copy of the shell's table. When its program runs, it
is that of its stage. If this is the first stage, standard input refers to the file that the source
referred to, or standard input if there is no source. If it is the last one, standard output refers
to the file that the sink referred to, or standard output if there is no sink; but a sink with the
number of standard input is read from the table when standard input has been installed, so that both
streams of the program refer to one file. -/
theorem outer_streams_at_exec {before : List ShellReply} {plan : Child} {pid : Pid}
    (h : Plays Takes (r.execute line, scene) (before ++ [⟨.fork plan, .ok pid⟩]) (p, scene'))
    (hstandard : scene'.table.IsStandard)
    (hopen : ∀ fd ∈ r.outer.toList, (scene'.table.get? fd).isSome) :
    ∃ (stage : Stage) (earlier : List Worker) (child : Worker),
      (stagesOf r.settings line)[stage.index]? = some stage ∧
      stage.index = (forks before).length ∧ scene'.workers = earlier ++ [child] ∧
      child = ⟨pid, scene'.table, .preparing plan⟩ ∧
      ∀ answers worker argv, Plays Worker.Takes child answers worker →
        worker.life = .running argv → argv = stage.words ∧
          (stage.index = 0 → worker.table.file? Fd.stdin =
            scene'.table.file? (r.outer.source.getD Fd.stdin)) ∧
          (stage.index + 1 = (stagesOf r.settings line).length → worker.table.file? Fd.stdout =
            if r.outer.sink = some Fd.stdin then worker.table.file? Fd.stdin
            else scene'.table.file? (r.outer.sink.getD Fd.stdout)) := by
  obtain ⟨w, stage, ⟨hstages, hpipes⟩, -, hstage, hplan⟩ := of_plays_fork h
  obtain ⟨phase, phase', middle, q, -, -, -, hlast⟩ := exists_moves_of_plays h
  have hscene : scene' = middle.after (.fork plan) (.ok pid) := by
    cases hlast with
    | nil => rfl
  have hindex := index_of_getElem?_stagesOf _ stage hstage
  rw [← hindex] at hstage
  refine ⟨stage, middle.workers, _, hstage, hindex, by rw [hscene]; rfl, rfl, ?_⟩
  intro answers worker argv hplays hrunning
  rw [hplan, Launcher.plan] at hplays
  by_cases hterminator : stage.isTerminator r.launcher.terminator = true
  · rw [if_pos hterminator] at hplays
    exact absurd hrunning (Worker.not_running_of_exit hplays)
  rw [if_neg hterminator] at hplays
  obtain ⟨hargv, hstdin, hstdout⟩ := Worker.streams_of_running hstandard hplays hrunning
  refine ⟨hargv, fun hfirst => ?_, fun hend => ?_⟩
  · have hgiven : (w.endsWithin r.launcher.outer stage.index).stdin = r.outer.source := by
      rw [hfirst]
      exact Wiring.endsWithin_stdin_zero
    rw [hgiven] at hstdin
    refine hstdin (hstandard.isSome_getD (by decide) (by decide) fun fd hfd => ?_)
    exact hopen fd (by simp [Outer.toList, hfd])
  · have hgiven : (w.endsWithin r.launcher.outer stage.index).stdout = r.outer.sink :=
      Wiring.endsWithin_stdout_last (hend.trans hstages.symm) (by omega)
    rw [hgiven] at hstdout
    refine hstdout (hstandard.isSome_getD (by decide) (by decide) fun fd hfd => ?_)
    exact hopen fd (by simp [Outer.toList, hfd])

/-! ### A line of one stage -/

section OneStage

/-- A shell with its standard streams and one more descriptor, each for a file of its own. -/
def fourOpen : Scene where
  table := .ofList [⟨0, false⟩, ⟨1, false⟩, ⟨2, false⟩, ⟨3, true⟩]
  files := 4

theorem isStandard_fourOpen : fourOpen.table.IsStandard := by
  intro fd hlow hhigh
  obtain rfl | rfl | rfl := Fd.eq_stdin_or_stdout_or_stderr hlow hhigh <;> exact ⟨_, rfl, rfl⟩

/-- What the process of a lone stage does that is given these outer streams. -/
def lonePlan (source sink : Fd) : Child :=
  .plan (some source) (some sink) [source, sink] ["a"]

/-- The process is made at once. -/
theorem plays_oneStage (source sink : Fd) :
    ∃ p, Plays Takes (Runner.execute { outer := ⟨some source, some sink⟩ } "a", fourOpen)
      [⟨.fork (lonePlan source sink), .ok (7 : Pid)⟩]
      (p, fourOpen.after (.fork (lonePlan source sink)) (.ok (7 : Pid))) := by
  have hstages : (parse {} "a").stages = .ok [⟨0, "a", ["a"]⟩] := by decide
  have htrace : (parse {} "a").trace = [] := by decide
  have hexecute : Runner.execute { outer := ⟨some source, some sink⟩ } "a" =
      (Runner.start { outer := ⟨some source, some sink⟩ } [⟨0, "a", ["a"]⟩]).bind fun result =>
        .done (result.mapError .launch) := by
    simp only [Runner.execute, hstages, htrace]
    rfl
  rw [hexecute]
  exact ⟨_, .cons (.persist _) (.nil _)⟩

/-- Standard output as the source and the error stream as the sink: the program reads from what the
shell writes to, and writes to the error stream. -/
theorem outer_streams_at_exec_standard :
    ∃ answers worker, Plays Worker.Takes ⟨7, fourOpen.table, .preparing (lonePlan 1 2)⟩ answers
        worker ∧ worker.life = .running ["a"] ∧
      worker.table.file? Fd.stdin = some 1 ∧ worker.table.file? Fd.stdout = some 2 := by
  obtain ⟨p, hplays⟩ := plays_oneStage 1 2
  obtain ⟨stage, earlier, child, -, hindex, -, rfl, hall⟩ :=
    outer_streams_at_exec (show Plays Takes _ ([] ++ [_]) _ from hplays) isStandard_fourOpen
      (by decide)
  have hchild : Plays Worker.Takes ⟨7, fourOpen.table, .preparing (lonePlan 1 2)⟩
      [(.restorePipeSignal, .ok ()), (.install 1 .stdin, .error .eintr),
        (.install 1 .stdin, .ok ()), (.install 2 .stdout, .ok ()), (.exec ["a"], .ok ())] _ :=
    .cons (.step rfl _) (.cons (.step rfl _) (.cons (.step rfl _) (.cons (.step rfl _)
      (.cons (.step rfl _) (.nil _)))))
  obtain ⟨-, hstdin, hstdout⟩ := hall _ _ ["a"] hchild rfl
  have hlast : stage.index + 1 = (stagesOf {} "a").length := by
    rw [hindex]
    decide
  exact ⟨_, _, hchild, rfl, hstdin hindex, (hstdout hlast).trans (by decide)⟩

/-- **A sink with the number of standard input is lost.** The shell's standard input is file 0, and
it is the sink of the line; the program writes to file 3, which is the source. -/
theorem sink_lost_at_stdin :
    ∃ p scene' answers worker,
      Plays Takes (Runner.execute { outer := ⟨some 3, some Fd.stdin⟩ } "a", fourOpen)
        [⟨.fork (lonePlan 3 0), .ok (7 : Pid)⟩] (p, scene') ∧
      scene'.table.IsStandard ∧ (scene'.table.get? 3).isSome ∧
      (stagesOf {} "a").length = 1 ∧
      scene'.workers = [⟨7, scene'.table, .preparing (lonePlan 3 0)⟩] ∧
      Plays Worker.Takes ⟨7, scene'.table, .preparing (lonePlan 3 0)⟩ answers worker ∧
      worker.life = .running ["a"] ∧ scene'.table.file? Fd.stdin = some 0 ∧
      worker.table.file? Fd.stdout = some 3 := by
  obtain ⟨p, hplays⟩ := plays_oneStage 3 Fd.stdin
  have hchild : Plays Worker.Takes ⟨7, fourOpen.table, .preparing (lonePlan 3 0)⟩
      [(.restorePipeSignal, .ok ()), (.install 3 .stdin, .ok ()), (.install 0 .stdout, .ok ()),
        (.close 3, .ok ()), (.exec ["a"], .ok ())] _ :=
    .cons (.step rfl _) (.cons (.step rfl _) (.cons (.step rfl _) (.cons (.step rfl _)
      (.cons (.step rfl _) (.nil _)))))
  obtain ⟨-, hstdin, hstdout⟩ := Worker.streams_of_running isStandard_fourOpen hchild rfl
  exact ⟨p, _, _, _, hplays, isStandard_fourOpen, by decide, by decide, rfl, hchild, rfl, by decide,
    (hstdout (by decide)).trans (hstdin (by decide))⟩

end OneStage

end Runner

end PipeShell
