import PipeShell.Session.Shell
import PipeShell.Proofs.Command.Verdict
import PipeShell.Proofs.Pipeline.Stopping

/-!
# The status of a shell

A shell is given one line after another, and remembers how the last of them did that was neither
blank nor a request to stop. A `Turn` is one line with what became of it; a session is a list of
turns.

* `Takes.cases` is the step: the three things that a line may do to a shell. It rests on
  `parse_eq_nil_iff`, which says of a line that it is read as no stages exactly if it is blank, and
  on the ways of a line.
* `LastFailed` says of a session that the last line that counts has failed, and `last_of_plays` is
  the induction over a session: this is what the shell remembers.
* `Shell.status_of_session` is the theorem.
-/

namespace PipeShell

/-- A line that a shell has been given. -/
structure Turn where
  /-- The line. -/
  line : String
  /-- What became of it. -/
  result : Except PipelineError Execution
  /-- The status to stop with, if the shell is to stop. -/
  stop : Option Int

/-- **What a line does to a shell**, whatever the operating system answers: `result` is what the
line is executed to while the shell runs it. -/
inductive Shell.Takes (shell : Shell) (turn : Turn) (shell' : Shell) : Prop where
  | line {scene middle scene' : Scene} {replies shown : List ShellReply}
    (executed : Plays Scene.Takes (shell.runner.execute turn.line, scene) replies
      (.done turn.result, middle))
    (ran : Plays Scene.Takes (shell.runLine turn.line, scene) (replies ++ shown)
      (.done (shell', turn.stop), scene'))

namespace Turn

/-- Whether the line is to be remembered: it is neither blank nor a lone terminator with a valid
status. -/
def Counts (settings : Settings) (turn : Turn) : Prop :=
  ¬IsIdle turn.line.toList ∧ ∀ status, ¬IsStop settings turn.line status

/-- Whether the line failed: it could not be read or launched, or not all of its stages did well. -/
def Failed (turn : Turn) : Prop :=
  match turn.result with
  | .ok (.completed report) => report.outcome = .failure
  | .ok _ => False
  | .error _ => True

end Turn

/-! ### Blank lines -/

/-- A line is read as no stages exactly if there is nothing in it. -/
theorem parse_eq_nil_iff (settings : Settings) (line : String) :
    (parse settings line).stages = .ok [] ↔ IsIdle line.toList := by
  constructor
  · intro hparse
    obtain ⟨result, hverdict⟩ := exists_verdict settings line.toList
    obtain rfl : result = .ok [] := hverdict.parse_eq.symm.trans hparse
    generalize hnil : (Except.ok [] : Except LineError (List Stage)) = result at hverdict
    cases hverdict with
    | idle closed idle => exact idle
    | accepted closed busy few good fine =>
      have htexts : texts line.toList = [] := List.mapIdx_eq_nil_iff.mp (Except.ok.inj hnil).symm
      exact absurd (List.map_eq_nil_iff.mp htexts) (pieces_ne_nil line.toList)
    | _ => cases hnil
  · intro hidle
    have hclosed : Even (marks line.toList) := by
      rw [hidle.marks_eq_zero]
      exact Even.zero
    exact (Verdict.idle hclosed hidle).parse_eq

/-- A lone terminator with an invalid status cannot be read. -/
theorem exists_parse_error_of_badStatus {settings : Settings} {line : String} {word : List Char}
    (h : BadStatus settings.terminator line.toList word) :
    ∃ e, (parse settings line).stages = .error e := by
  obtain ⟨result, hverdict⟩ := exists_verdict settings line.toList
  rw [hverdict.parse_eq]
  cases hverdict with
  | idle closed idle =>
    -- the text of a blank line is empty, and there is no word in it
    obtain ⟨text, htexts, hfirst, -⟩ := h
    have hempty := (texts_all_isEmpty_iff line.toList).mpr idle
    rw [htexts, List.all_cons, List.all_nil, Bool.and_true, List.isEmpty_iff] at hempty
    subst hempty
    rw [words_nil] at hfirst
    cases hfirst
  | accepted closed busy few good fine => exact absurd h (fine word)
  | _ => exact ⟨_, rfl⟩

/-! ### One line -/

namespace Shell

open Scene

variable {shell shell' : Shell} {turn : Turn} {line : String}

/-- A line is executed, the messages are shown, and the shell remembers how it did. -/
theorem runLine_eq (shell : Shell) (line : String) : shell.runLine line =
    (shell.runner.execute line).bind fun result =>
      (Interaction.complainAll ((messages result).map Runner.notice)).bind fun _ =>
        .done (shell.after (.ofResult result)) := by
  have hrun : shell.runLine line = (shell.runner.run line).bind fun control =>
      .done (shell.after control) := rfl
  rw [hrun, run_eq, Interaction.bind_assoc]
  refine congrArg (Interaction.bind _) (funext fun result => ?_)
  rw [Interaction.bind_assoc]
  rfl

/-- What a line makes of a shell is what it has been executed to. -/
theorem Takes.after_eq (h : shell.Takes turn shell') :
    shell.after (.ofResult turn.result) = (shell', turn.stop) := by
  obtain ⟨executed, ran⟩ := h
  rw [runLine_eq, plays_bind_iff executed] at ran
  obtain ⟨_, _, _, _, _, -, hend⟩ := exists_of_plays_bind ran
  exact (of_plays_done hend).2.1.symm

/-- Whatever a line has been executed to, the shell takes it. -/
theorem takes_of_execute {scene scene' : Scene} {replies : List ShellReply}
    {result : Except PipelineError Execution}
    (h : Plays Scene.Takes (shell.runner.execute line, scene) replies (.done result, scene')) :
    shell.Takes ⟨line, result, (shell.after (.ofResult result)).2⟩
      (shell.after (.ofResult result)).1 := by
  have hrun := (plays_run_iff h _ _ _).mpr ⟨rfl, rfl, rfl⟩
  have hran : Plays Scene.Takes (shell.runLine line, scene) (_ ++ [])
      (.done (shell.after (.ofResult result)), scene') :=
    (plays_bind_iff hrun [] _).mpr (.nil _)
  rw [List.append_nil] at hran
  exact .line h hran

/-- Whenever a shell has run a line, it has taken it. -/
theorem exists_takes_of_runLine {scene scene' : Scene} {replies : List ShellReply}
    {stop : Option Int}
    (h : Plays Scene.Takes (shell.runLine line, scene) replies (.done (shell', stop), scene')) :
    ∃ result, shell.Takes ⟨line, result, stop⟩ shell' := by
  have hran := h
  rw [runLine_eq] at h
  obtain ⟨heard, shown, result, middle, rfl, hexecute, -⟩ := exists_of_plays_bind h
  exact ⟨result, .line hexecute hran⟩

/-- A line that a shell has taken has gone one of its ways. -/
theorem Takes.exists_goes (h : shell.Takes turn shell') :
    ∃ replies, shell.runner.Goes turn.line replies turn.result := by
  obtain ⟨executed, -⟩ := h
  obtain ⟨rest, -, hgoes⟩ := Runner.goes_of_plays executed
  exact ⟨settled rest, hgoes⟩

/-- **What a line may do to a shell.** A blank line does nothing; a line that stops the shell
changes nothing in it; and any other line is remembered by whether it has failed. -/
theorem Takes.cases (h : shell.Takes turn shell') :
    (IsIdle turn.line.toList ∧ shell' = shell ∧ turn.stop = none) ∨
    (∃ status, IsStop shell.runner.settings turn.line status ∧ shell' = shell ∧
      turn.stop = some (status.getD shell.last)) ∨
    (turn.Counts shell.runner.settings ∧ turn.stop = none ∧
      ((turn.Failed ∧ shell' = { shell with last := 1 }) ∨
        (¬turn.Failed ∧ shell' = { shell with last := 0 }))) := by
  have hafter := h.after_eq
  obtain ⟨replies, hgoes⟩ := h.exists_goes
  obtain ⟨line, result, stop⟩ := turn
  have hidle := parse_eq_nil_iff shell.runner.settings line
  -- what cannot be executed is remembered as a failure
  have herror : ∀ e, result = .error e → stop = none ∧
      (Turn.Failed ⟨line, result, stop⟩ ∧ shell' = { shell with last := 1 }) := by
    rintro e rfl
    obtain ⟨rfl, rfl⟩ := Prod.mk.inj hafter
    exact ⟨rfl, trivial, rfl⟩
  cases hgoes with
  | @malformed e refused =>
    have hcounts : Turn.Counts shell.runner.settings ⟨line, .error (.line e), stop⟩ := by
      constructor
      · intro hblank
        cases refused.symm.trans (hidle.mpr hblank)
      · rintro status ⟨stage, hread, -⟩
        cases refused.symm.trans hread
    obtain ⟨hstop, hfailed⟩ := herror _ rfl
    exact .inr (.inr ⟨hcounts, hstop, .inl hfailed⟩)
  | idle blank =>
    obtain ⟨rfl, rfl⟩ := Prod.mk.inj hafter
    exact .inl ⟨hidle.mp blank, rfl, rfl⟩
  | stop asks =>
    obtain ⟨rfl, rfl⟩ := Prod.mk.inj hafter
    exact .inr (.inl ⟨_, asks, rfl, rfl⟩)
  | @run stages _ outcome read proper goes course =>
    have hcounts : Turn.Counts shell.runner.settings ⟨line, outcome.mapError .launch, stop⟩ := by
      refine ⟨fun hblank => proper ?_, goes⟩
      exact Except.ok.inj (read.symm.trans (hidle.mpr hblank))
    obtain ⟨report, rfl⟩ | ⟨cause, rfl⟩ | ⟨i, cause, rfl⟩ := course.result_cases
    · obtain ⟨rfl, rfl⟩ := Prod.mk.inj hafter
      refine .inr (.inr ⟨hcounts, rfl, ?_⟩)
      cases houtcome : report.outcome with
      | failure => exact .inl ⟨houtcome, rfl⟩
      | success =>
        have hfine : ¬Turn.Failed ⟨line, .ok (.completed report), none⟩ := by
          intro hfailed
          cases houtcome.symm.trans hfailed
        exact .inr ⟨hfine, rfl⟩
    · obtain ⟨hstop, hfailed⟩ := herror _ rfl
      exact .inr (.inr ⟨hcounts, hstop, .inl hfailed⟩)
    · obtain ⟨hstop, hfailed⟩ := herror _ rfl
      exact .inr (.inr ⟨hcounts, hstop, .inl hfailed⟩)

end Shell

/-! ### Sessions -/

/-- Whether the last line of a session that is to be remembered has failed. -/
def LastFailed (settings : Settings) (turns : List Turn) : Prop :=
  ∃ before turn after, turns = before ++ turn :: after ∧ turn.Counts settings ∧ turn.Failed ∧
    ∀ t ∈ after, ¬t.Counts settings

/-- A line is the last one to be remembered if none behind it is. -/
theorem lastFailed_cons_iff {settings : Settings} {turn : Turn} {turns : List Turn} :
    LastFailed settings (turn :: turns) ↔ LastFailed settings turns ∨
      (turn.Counts settings ∧ turn.Failed ∧ ∀ t ∈ turns, ¬t.Counts settings) := by
  constructor
  · rintro ⟨before, last, after, heq, hcounts, hfailed, hafter⟩
    cases before with
    | nil =>
      obtain ⟨rfl, rfl⟩ := List.cons.inj heq
      exact .inr ⟨hcounts, hfailed, hafter⟩
    | cons first before =>
      obtain ⟨rfl, rfl⟩ := List.cons.inj heq
      exact .inl ⟨before, last, after, rfl, hcounts, hfailed, hafter⟩
  · rintro (⟨before, last, after, rfl, hlast⟩ | hturn)
    · exact ⟨turn :: before, last, after, rfl, hlast⟩
    · exact ⟨[], turn, turns, rfl, hturn⟩

theorem not_lastFailed_of_forall {settings : Settings} {turns : List Turn}
    (h : ∀ t ∈ turns, ¬t.Counts settings) : ¬LastFailed settings turns := by
  rintro ⟨before, turn, after, rfl, hcounts, -⟩
  exact h turn (List.mem_append_right before List.mem_cons_self) hcounts

namespace Shell

variable {shell shell' : Shell}

/-- What one line makes of what a shell remembers. -/
theorem Takes.remembers {turn : Turn} (h : shell.Takes turn shell') :
    shell'.runner = shell.runner ∧
      ((¬turn.Counts shell.runner.settings ∧ shell'.last = shell.last) ∨
        (turn.Counts shell.runner.settings ∧ turn.Failed ∧ shell'.last = 1) ∨
        (turn.Counts shell.runner.settings ∧ ¬turn.Failed ∧ shell'.last = 0)) := by
  obtain ⟨hblank, rfl, -⟩ | ⟨status, hstop, rfl, -⟩ | ⟨hcounts, -, ⟨hfailed, rfl⟩ | ⟨hfine, rfl⟩⟩ :=
    h.cases
  · exact ⟨rfl, .inl ⟨fun hcounts => hcounts.1 hblank, rfl⟩⟩
  · exact ⟨rfl, .inl ⟨fun hcounts => hcounts.2 status hstop, rfl⟩⟩
  · exact ⟨rfl, .inr (.inl ⟨hcounts, hfailed, rfl⟩)⟩
  · exact ⟨rfl, .inr (.inr ⟨hcounts, hfine, rfl⟩)⟩

/-- **What a shell remembers of a session**: how the last line has done that counts, and what it has
remembered before if none does. -/
theorem last_of_plays {turns : List Turn} (h : Plays Takes shell turns shell') :
    shell'.runner = shell.runner ∧
      ((shell'.last = 1 ∧ LastFailed shell.runner.settings turns) ∨
        (shell'.last = 0 ∧ ¬LastFailed shell.runner.settings turns ∧
          ∃ t ∈ turns, t.Counts shell.runner.settings) ∨
        (shell'.last = shell.last ∧ ∀ t ∈ turns, ¬t.Counts shell.runner.settings)) := by
  induction h with
  | nil shell => exact ⟨rfl, .inr (.inr ⟨rfl, List.forall_mem_nil _⟩)⟩
  | @cons shell middle shell' turn rest first others ih =>
    obtain ⟨hrunner, hfirst⟩ := first.remembers
    obtain ⟨hrunner', hothers⟩ := ih
    rw [hrunner] at hrunner' hothers
    refine ⟨hrunner', ?_⟩
    simp only [lastFailed_cons_iff, List.mem_cons, exists_eq_or_imp, forall_eq_or_imp]
    -- the others decide, unless none of them counts
    obtain ⟨hlast, hfailed⟩ | ⟨hlast, hfine, hcounts⟩ | ⟨hlast, hnone⟩ := hothers
    · exact .inl ⟨hlast, .inl hfailed⟩
    · refine .inr (.inl ⟨hlast, ?_, .inr hcounts⟩)
      rintro (hfailed | ⟨-, -, hnone⟩)
      · exact hfine hfailed
      · obtain ⟨t, ht, hcounts⟩ := hcounts
        exact hnone t ht hcounts
    · obtain ⟨hcounts, hsame⟩ | ⟨hcounts, hfailed, hone⟩ | ⟨hcounts, hfine, hzero⟩ := hfirst
      · exact .inr (.inr ⟨hlast.trans hsame, hcounts, hnone⟩)
      · exact .inl ⟨hlast.trans hone, .inr ⟨hcounts, hfailed, hnone⟩⟩
      · refine .inr (.inl ⟨hlast.trans hzero, ?_, .inl hcounts⟩)
        rintro (hfailed | ⟨-, hfailed, -⟩)
        · exact not_lastFailed_of_forall hnone hfailed
        · exact hfine hfailed

/-- A line that cannot be read fails. -/
theorem Takes.failed_of_parse {turn : Turn} {e : LineError} (h : shell.Takes turn shell')
    (hread : (parse shell.runner.settings turn.line).stages = .error e) : turn.Failed := by
  obtain ⟨replies, hgoes⟩ := h.exists_goes
  obtain ⟨line, result, stop⟩ := turn
  cases hgoes with
  | malformed refused => exact trivial
  | idle blank => cases hread.symm.trans blank
  | stop asks =>
    obtain ⟨stage, hread', -⟩ := asks
    cases hread.symm.trans hread'
  | run read proper goes course => cases hread.symm.trans read

/-- What is behind a line that may not stop the shell. -/
theorem Takes.of_badStatus {turn : Turn} {word : List Char} (h : shell.Takes turn shell')
    (hbad : BadStatus shell.runner.settings.terminator turn.line.toList word) :
    shell'.last = 1 ∧ turn.stop = none := by
  obtain ⟨e, hread⟩ := exists_parse_error_of_badStatus hbad
  have hfailed := h.failed_of_parse hread
  obtain ⟨hblank, -⟩ | ⟨status, ⟨stage, hread', -⟩, -⟩ | ⟨-, hstop, hlast⟩ := h.cases
  · cases hread.symm.trans ((parse_eq_nil_iff _ _).mpr hblank)
  · cases hread.symm.trans hread'
  · obtain ⟨-, rfl⟩ | ⟨hfine, -⟩ := hlast
    · exact ⟨rfl, hstop⟩
    · exact absurd hfailed hfine

/-- A shell stops exactly at a lone terminator. -/
theorem Takes.stop_eq_some_iff {turn : Turn} (h : shell.Takes turn shell') (s : Int) :
    turn.stop = some s ↔ ∃ status, IsStop shell.runner.settings turn.line status ∧
      s = status.getD shell.last := by
  obtain ⟨hblank, -, hstop⟩ | ⟨status, hasks, -, hstop⟩ | ⟨hcounts, hstop, -⟩ := h.cases
  · rw [hstop]
    constructor
    · rintro ⟨⟩
    · rintro ⟨status, ⟨stage, hread, -⟩, -⟩
      cases hread.symm.trans ((parse_eq_nil_iff _ _).mpr hblank)
  · rw [hstop, Option.some.injEq]
    constructor
    · rintro rfl
      exact ⟨status, hasks, rfl⟩
    · rintro ⟨status', hasks', rfl⟩
      rw [hasks.status_eq hasks']
  · rw [hstop]
    constructor
    · rintro ⟨⟩
    · rintro ⟨status, hasks, -⟩
      exact absurd hasks (hcounts.2 status)

/-- A shell does stop at a lone terminator. -/
theorem runLine_of_isStop {line : String} {status : Option Int}
    (h : IsStop shell.runner.settings line status) : shell.runLine line =
      (Interaction.complainAll (parse shell.runner.settings line).trace).bind fun _ =>
        .done (shell, some (status.getD shell.last)) := by
  rw [runLine_eq, Runner.execute_of_isStop h, Interaction.bind_assoc]
  rfl

/-! ### The theorem -/

/-- **The status of a shell over a session.** Whatever lines a shell has been given and whatever the
operating system has answered, its status is zero or one. It is one exactly if, among the lines that
were neither blank nor a lone terminator with a valid status, the last one could not be read, could
not be launched, or did not do well. Behind the session, a line stops the shell exactly if it is a
lone terminator with a valid status, and then with this status, or without one with the status of
the shell; a blank line and a terminator leave the status as it is; a lone terminator with an
invalid status sets it to one and does not stop the shell. Every line that comes to its end is
covered, and a lone terminator does come to its end. -/
theorem status_of_session (r : Runner) {turns : List Turn} {shell : Shell}
    (h : Plays Takes { runner := r } turns shell) :
    (shell.last = 0 ∨ shell.last = 1) ∧
    (shell.last = 1 ↔ ∃ before turn after, turns = before ++ turn :: after ∧
      turn.Counts r.settings ∧ turn.Failed ∧ ∀ t ∈ after, ¬t.Counts r.settings) ∧
    (∀ turn shell', shell.Takes turn shell' →
      (∀ s, turn.stop = some s ↔
        ∃ status, IsStop r.settings turn.line status ∧ s = status.getD shell.last) ∧
      (IsIdle turn.line.toList ∨ (∃ status, IsStop r.settings turn.line status) →
        shell'.last = shell.last) ∧
      ∀ word, BadStatus r.settings.terminator turn.line.toList word →
        shell'.last = 1 ∧ turn.stop = none) ∧
    (∀ line replies scene scene' shell' stop,
      Plays Scene.Takes (shell.runLine line, scene) replies (.done (shell', stop), scene') →
        ∃ result, shell.Takes ⟨line, result, stop⟩ shell') ∧
    ∀ line status, IsStop r.settings line status → shell.runLine line =
      (Interaction.complainAll (parse r.settings line).trace).bind fun _ =>
        .done (shell, some (status.getD shell.last)) := by
  obtain ⟨hrunner, hlast⟩ := last_of_plays h
  obtain rfl : r = shell.runner := hrunner.symm
  refine ⟨?_, ?_, ?_, fun _ _ _ _ _ _ hran => exists_takes_of_runLine hran,
    fun _ _ hstop => runLine_of_isStop hstop⟩
  · obtain ⟨hone, -⟩ | ⟨hzero, -⟩ | ⟨hsame, -⟩ := hlast
    · exact .inr hone
    · exact .inl hzero
    · exact .inl hsame
  · change shell.last = 1 ↔ LastFailed shell.runner.settings turns
    obtain ⟨hone, hfailed⟩ | ⟨hzero, hfine, -⟩ | ⟨hsame, hnone⟩ := hlast
    · exact iff_of_true hone hfailed
    · exact iff_of_false (by omega) hfine
    · have hzero : shell.last = 0 := hsame
      exact iff_of_false (by omega) (not_lastFailed_of_forall hnone)
  · intro turn shell' htakes
    refine ⟨htakes.stop_eq_some_iff, ?_, fun word hbad => htakes.of_badStatus hbad⟩
    intro hkeeps
    have hcounts : ¬turn.Counts shell.runner.settings := by
      rintro ⟨hbusy, hgoes⟩
      obtain hblank | ⟨status, hstop⟩ := hkeeps
      · exact hbusy hblank
      · exact hgoes status hstop
    obtain ⟨-, ⟨-, hsame⟩ | ⟨hcounts', -⟩ | ⟨hcounts', -⟩⟩ := htakes.remembers
    · exact hsame
    · exact absurd hcounts' hcounts
    · exact absurd hcounts' hcounts

/-- A failure is remembered over a blank line, until the shell stops with it. -/
theorem status_of_session_failure :
    ∃ turns : List Turn, turns.map Turn.line = ["a | b", " | "] ∧
      Plays Takes {} turns { last := 1 } ∧
      (∃ before turn after, turns = before ++ turn :: after ∧ turn.Counts {} ∧ turn.Failed ∧
        ∀ t ∈ after, ¬t.Counts {}) ∧
      Shell.runLine { last := 1 } "exit" = .done ({ last := 1 }, some 1) := by
  obtain ⟨scene', hfails⟩ : ∃ scene', Plays Scene.Takes (Runner.execute {} "a | b", ⟨{}, 0, []⟩)
      (twoStagesReplies (.ok (.exited 0)) (.ok (.exited 1)))
      (.done (.ok (.completed (.ofTold [(7, .ok (.exited 0)), (8, .ok (.exited 1))]))), scene') :=
    exists_plays_twoStages rfl rfl
  have hblank : Runner.execute {} " | " = .done (.ok .idle) := by
    have hread : (parse {} " | ").stages = .ok [] := by decide
    have htrace : (parse {} " | ").trace = [] := by decide
    simp only [Runner.execute, hread, htrace]
    rfl
  have hfirst : Takes {} ⟨"a | b", .ok (.completed (.ofTold [(7, .ok (.exited 0)),
      (8, .ok (.exited 1))])), none⟩ { last := 1 } := takes_of_execute hfails
  have hidle : Plays Scene.Takes (Runner.execute {} " | ", ⟨{}, 0, []⟩) []
      (.done (.ok .idle), ⟨{}, 0, []⟩) := hblank ▸ .nil _
  have hsecond : Takes { last := 1 } ⟨" | ", .ok .idle, none⟩ { last := 1 } :=
    takes_of_execute hidle
  have hsession : Plays Takes {} _ { last := 1 } := .cons hfirst (.cons hsecond (.nil _))
  obtain ⟨-, hremembered, -, -, hstops⟩ := status_of_session {} hsession
  have hexit : IsStop {} "exit" none :=
    ⟨⟨0, "exit", ["exit"]⟩, by decide, by decide, by decide⟩
  have htrace : (parse {} "exit").trace = [] := by decide
  refine ⟨_, rfl, hsession, hremembered.mp rfl, ?_⟩
  rw [hstops "exit" none hexit, htrace]
  rfl

end Shell

end PipeShell
