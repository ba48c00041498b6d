import PipeShell.Options
import PipeShell.Proofs.Session.Reading
import PipeShell.Session.Basic

/-!
# Three ways to feed lines

Lines may come from a file, from a terminal, or with the command itself. The two loops differ: the
one hands a line over as it has been read, the other gets it without its ending, does not run blank
lines and has the line editor remember the others. Yet for the operating system all three come to
the same, which is `Shell.runLines`: the lines one after another, until one of them stops the shell.

* `Batch.answered_rounds` and `Interactive.answered_rounds` are what the loops come to, by induction
  on the rounds.
* `Session.modes_agree` puts them together.
-/

namespace PipeShell

/-! ### Lines one after another -/

/-- What has become of a shell over some lines. -/
structure Ran where
  /-- The shell behind them. -/
  shell : Shell
  /-- The status that one of them has stopped the shell with. -/
  stop : Option Int
  /-- The lines that have been run. -/
  lines : List String

/-- The status that a session ends with. -/
def Ran.status (ran : Ran) : Int :=
  ran.stop.getD ran.shell.last

/-- Runs lines one after another, until one of them stops the shell. -/
def Shell.runLines (shell : Shell) : List String → Interaction Ran
  | [] => .done ⟨shell, none, []⟩
  | line :: rest => (shell.runLine line).bind fun
    | (shell, some status) => .done ⟨shell, some status, [line]⟩
    | (shell, none) => (shell.runLines rest).bind fun ran =>
      .done { ran with lines := line :: ran.lines }

/-- So many rounds of a session, or fewer if it is over before. -/
def Session.rounds : Nat → Session → Interaction (Session ⊕ Int)
  | 0, s => .done (.inl s)
  | n + 1, s => s.turn.bind fun
    | .inl s => s.rounds n
    | .inr status => .done (.inr status)

/-- What the system is told within so many rounds, if the session is over by then. -/
def Session.code (n : Nat) (s : Session) : Interaction (Option Nat) :=
  (s.rounds n).bind fun
    | .inl _ => .done none
    | .inr status => .done (some (exitCode status))

namespace Interaction

variable {α β : Type} (p : Interaction α) (k : α → Interaction β) (f : Feed)

theorem answered_bind : (p.bind k).answered f = (p.feed f).bind fun (a, f) => (k a).answered f := by
  rw [answered, feed_bind, bind_assoc]
  rfl

end Interaction

namespace Shell

variable {shell : Shell} {α : Type}

/-- A line leaves the settings of a shell as they are. -/
theorem runner_after (shell : Shell) (control : Control) :
    (shell.after control).1.runner = shell.runner := by
  cases control <;> rfl

theorem Takes.runner_eq {shell' : Shell} {turn : Turn} (h : shell.Takes turn shell') :
    shell'.runner = shell.runner := by
  have hafter : (shell.after (.ofResult turn.result)).1 = shell' := congrArg Prod.fst h.after_eq
  rw [← hafter, runner_after]

/-- Whatever goes on behind a line may count on the settings. -/
theorem bind_runLine_congr {line : String} {k k' : Shell × Option Int → Interaction α}
    (h : ∀ shell' stop, shell'.runner = shell.runner → k (shell', stop) = k' (shell', stop)) :
    (shell.runLine line).bind k = (shell.runLine line).bind k' := by
  rw [runLine, Interaction.bind_eq, Interaction.bind_assoc, Interaction.bind_assoc]
  refine congrArg _ (funext fun control => ?_)
  exact h _ _ (shell.runner_after control)

/-- What goes on behind lines goes on behind the first, if that stops the shell, or else behind the
others. -/
theorem runLines_cons_bind (line : String) (rest : List String) (k : Ran → Interaction α) :
    (shell.runLines (line :: rest)).bind k = (shell.runLine line).bind fun
      | (shell, some status) => k ⟨shell, some status, [line]⟩
      | (shell, none) => (shell.runLines rest).bind fun ran =>
        k { ran with lines := line :: ran.lines } := by
  rw [runLines, Interaction.bind_assoc]
  refine congrArg _ (funext fun (shell, stop) => ?_)
  cases stop with
  | some status => rfl
  | none => exact Interaction.bind_assoc _ _ _

theorem runLines_of_blank {lines : List String} (h : ∀ line ∈ lines, line = "") :
    shell.runLines lines = .done ⟨shell, none, lines⟩ := by
  induction lines with
  | nil => rfl
  | cons line rest ih =>
    rw [List.forall_mem_cons] at h
    obtain ⟨rfl, hrest⟩ := h
    rw [runLines, shell.runLine_of_blank Text.trimmed_empty, Interaction.done_bind]
    change (shell.runLines rest).bind _ = _
    rw [ih hrest]
    rfl

end Shell

/-! ### Lines from a file -/

namespace Batch

variable {f : Feed} {lines : List String}

theorem feed_runLine (b : Batch) (bytes : Bytes) (f : Feed) :
    (b.runLine bytes).feed f = (b.shell.runLine (Text.decodeLossy bytes)).bind fun
      | (_, some status) => .done (.inr status, f)
      | (shell, none) => .done (.inl { b with shell }, f) := by
  rw [runLine, Interaction.bind_eq, Interaction.feed_bind, Shell.feed_runLine,
    Interaction.bind_assoc]
  refine congrArg _ (funext fun (shell, stop) => ?_)
  cases stop <;> rfl

/-- One round, as one part of many. -/
theorem answered_rounds_succ (b : Batch) (n : Nat) (f : Feed) :
    ((Session.batch b).rounds (n + 1)).answered f = (b.turn.feed f).bind fun
      | (.inl b, f) => ((Session.batch b).rounds n).answered f
      | (.inr status, _) => .done (.inr status) := by
  have hturn : (Session.batch b).turn = b.turn.bind fun r => .done (r.map .batch id) := rfl
  rw [Session.rounds, hturn, Interaction.bind_assoc, Interaction.answered_bind]
  refine congrArg _ (funext fun (r, f) => ?_)
  cases r <;> rfl

/-- **What the loop over a file comes to**: the lines one after another. -/
theorem answered_rounds {b : Batch} {n : Nat} (hawaits : b.reader.Awaits f lines)
    (hlines : ∀ line ∈ lines, '\n' ∉ line.toList) (hn : f.blocks.length + lines.length < n) :
    ((Session.batch b).rounds n).answered f = (b.shell.runLines lines).bind fun ran =>
      .done (.inr ran.status) := by
  -- induction on the rounds: each takes a block or a line
  induction n generalizing b f lines with
  | zero => exact absurd hn (Nat.not_lt_zero _)
  | succ n ih =>
    obtain ⟨out, f', hnext, hyields⟩ := LineReader.exists_yields hawaits hlines
    rw [answered_rounds_succ, turn, Interaction.bind_eq, Interaction.feed_bind, hnext,
      Interaction.done_bind]
    cases hyields with
    | @line r first others tail tails awaits =>
      have hfirst := Text.trimmed_append first tails.isWhiteSpace
      change ((({ b with reader := r } : Batch).runLine _).feed f).bind _ = _
      rw [feed_runLine, Interaction.bind_assoc, Text.decodeLossy_encode,
        b.shell.runLine_congr hfirst, Shell.runLines_cons_bind]
      refine congrArg _ (funext fun (shell, stop) => ?_)
      cases stop with
      | some status => rfl
      | none =>
        rw [List.length_cons] at hn
        have hothers : ∀ line ∈ others, '\n' ∉ line.toList :=
          fun line hline => hlines line (List.mem_cons_of_mem _ hline)
        exact ih (b := { shell, reader := r }) awaits hothers (by omega)
    | @more r _ blocks fewer awaits =>
      have hcount : blocks.length + lines.length < n := by omega
      exact ih (b := { b with reader := r }) awaits hlines hcount
    | ended blank =>
      rw [Shell.runLines_of_blank blank]
      rfl

end Batch

/-! ### Lines from a terminal -/

/-- Whether a line editor hands over these lines, each without its ending. A carriage return at the
end of a line may go with the ending. -/
def Feed.Edits (f : Feed) (lines : List String) : Prop :=
  List.Forall₂ (fun line text => line = text ∨ line = text ++ "\r") lines f.edits

namespace Interactive

variable {f : Feed} {lines : List String} {i : Interactive}

/-- What the shell says at the end of a session if the history has not been written. -/
def complaints (path : Option String) (stored : Except Errno (Option String)) : List String :=
  match path with
  | none => []
  | some path => ((complaint? stored).map (unwritable path)).toList

theorem feed_save (i : Interactive) (f : Feed) : i.save.feed f =
    (Interaction.complainAll (complaints i.historyPath f.stored)).bind fun _ => .done ((), f) := by
  rw [save]
  cases i.historyPath with
  | none => rfl
  | some path =>
    have hanswer : f.answer? (.saveHistory path) = some (f.stored, f) := rfl
    rw [Interaction.feed_once _ hanswer, complaints]
    cases complaint? f.stored with
    | none => rfl
    | some message =>
      have hasks : (Interaction.complain (unwritable path message)).Asks fun r => r.isFed = false :=
        Interaction.asks_say rfl
      refine (hasks.feed_eq f).trans ?_
      change _ = ((Interaction.complain (unwritable path message)).bind fun _ => .done ()).bind _
      rw [Interaction.bind_assoc]
      rfl

theorem feed_leave (i : Interactive) (status : Int) (f : Feed) : (i.leave status).feed f =
    (Interaction.complainAll (complaints i.historyPath f.stored)).bind fun _ =>
      .done (.inr status, f) := by
  rw [leave, Interaction.bind_eq, Interaction.feed_bind, feed_save, Interaction.bind_assoc]
  rfl

theorem runLine_eq (i : Interactive) (line : String) :
    i.runLine line = (Interaction.perform (.remember (Text.trimmed line))).bind fun _ =>
      (i.shell.runLine line).bind fun
        | (shell, some status) => (⟨shell⟩ : Interactive).leave status
        | (shell, none) => takeStop.bind fun asked =>
          if asked then (⟨shell⟩ : Interactive).leave shell.last else .done (.inl ⟨shell⟩) := by
  rw [runLine, Interaction.bind_eq]
  refine congrArg _ (funext fun _ => congrArg _ (funext fun (shell, stop) => ?_))
  cases stop <;> rfl

theorem feed_handle_line (i : Interactive) (line : String) (f : Feed) :
    (i.handle (.line line)).feed f = (i.shell.runLine line).bind fun
      | (shell, some status) => ((⟨shell⟩ : Interactive).leave status).feed f
      | (shell, none) => .done (.inl ⟨shell⟩, f) := by
  rw [handle]
  split
  · rename_i hblank
    have hempty : Text.trimmed line = "" := String.isEmpty_iff.mp hblank
    rw [i.shell.runLine_of_blank hempty]
    rfl
  · have hanswer : f.answer? (.remember (Text.trimmed line)) = some (f.remembered, f) := rfl
    rw [runLine_eq, Interaction.perform, Interaction.bind, Interaction.feed_once _ hanswer,
      Interaction.done_bind, Interaction.feed_bind, Shell.feed_runLine, Interaction.bind_assoc]
    refine congrArg _ (funext fun result => ?_)
    obtain ⟨shell, stop⟩ := result
    rw [Interaction.done_bind]
    cases stop <;> rfl

/-- One round, as one part of many. -/
theorem answered_rounds_succ (i : Interactive) (n : Nat) (f : Feed) :
    ((Session.interactive i).rounds (n + 1)).answered f = (i.turn.feed f).bind fun
      | (.inl i, f) => ((Session.interactive i).rounds n).answered f
      | (.inr status, _) => .done (.inr status) := by
  have hturn : (Session.interactive i).turn = i.turn.bind fun r => .done (r.map .interactive id) :=
    rfl
  rw [Session.rounds, hturn, Interaction.bind_assoc, Interaction.answered_bind]
  refine congrArg _ (funext fun (r, f) => ?_)
  cases r <;> rfl

/-- The end of a session behind some lines: it may be said that the history has not been written. -/
def close (i : Interactive) (stored : Except Errno (Option String)) (ran : Ran) :
    Interaction (Session ⊕ Int) :=
  (Interaction.complainAll (complaints i.historyPath stored)).bind fun _ => .done (.inr ran.status)

/-- **The step of the induction**: if the rounds behind a line come to what the other lines say, so
do those that begin with handling it. -/
theorem handle_line_bind {i : Interactive} {n : Nat} {line text : String} {others : List String}
    (htext : Text.trimmed text = Text.trimmed line)
    (ih : ∀ shell, shell.runner = i.shell.runner →
      ((Session.interactive ⟨shell⟩).rounds n).answered f =
        (shell.runLines others).bind ((⟨shell⟩ : Interactive).close f.stored)) :
    (((i.handle (.line text)).feed f).bind fun
      | (.inl i, f) => ((Session.interactive i).rounds n).answered f
      | (.inr status, _) => .done (.inr status)) =
      (i.shell.runLines (line :: others)).bind (i.close f.stored) := by
  rw [feed_handle_line, Interaction.bind_assoc, i.shell.runLine_congr htext,
    Shell.runLines_cons_bind]
  refine Shell.bind_runLine_congr fun shell stop hrunner => ?_
  have hpath : (⟨shell⟩ : Interactive).historyPath = i.historyPath := by
    rw [historyPath, historyPath, hrunner]
  cases stop with
  | some status =>
    change (((⟨shell⟩ : Interactive).leave status).feed f).bind _ =
      i.close f.stored ⟨shell, some status, [line]⟩
    rw [feed_leave, Interaction.bind_assoc, hpath]
    rfl
  | none =>
    change ((Session.interactive ⟨shell⟩).rounds n).answered f =
      (shell.runLines others).bind fun ran =>
        i.close f.stored { ran with lines := line :: ran.lines }
    rw [ih shell hrunner]
    refine congrArg _ (funext fun ran => ?_)
    rw [close, hpath]
    rfl

/-- When the input is over, so is the session. -/
theorem handle_ended_bind (i : Interactive) (n : Nat) :
    (((i.handle .ended).feed f).bind fun
      | (.inl i, f) => ((Session.interactive i).rounds n).answered f
      | (.inr status, _) => .done (.inr status)) =
      (i.shell.runLines []).bind (i.close f.stored) := by
  rw [handle, feed_leave, Interaction.bind_assoc]
  rfl

/-- **What the loop over a terminal comes to.** -/
theorem answered_rounds {n : Nat} (hedits : f.Edits lines) (hn : lines.length < n) :
    ((Session.interactive i).rounds n).answered f =
      (i.shell.runLines lines).bind (i.close f.stored) := by
  -- induction on the rounds: each takes a line
  induction n generalizing i f lines with
  | zero => exact absurd hn (Nat.not_lt_zero _)
  | succ n ih =>
    rw [answered_rounds_succ, turn, Interaction.bind_eq, Interaction.feed_bind, Interaction.call]
    rw [Feed.Edits] at hedits
    cases hfed : f.edits with
    | nil =>
      rw [hfed] at hedits
      cases hedits
      have hanswer : f.answer? (.edit i.prompt) = some (.ok .ended, f) := by
        rw [Feed.answer?, hfed]
      rw [Interaction.feed_once _ hanswer]
      exact i.handle_ended_bind n
    | cons text edits =>
      rw [hfed] at hedits
      cases hedits with
      | @cons line _ others _ htext hothers =>
        have hanswer : f.answer? (.edit i.prompt) = some (.ok (.line text), { f with edits }) := by
          rw [Feed.answer?, hfed]
        have hsame : Text.trimmed text = Text.trimmed line := by
          obtain rfl | rfl := htext
          · rfl
          · exact (Text.trimmed_append_return text).symm
        rw [Interaction.feed_once _ hanswer, Interaction.feed_done, Interaction.done_bind]
        rw [List.length_cons] at hn
        refine handle_line_bind (f := { f with edits }) hsame fun shell _ => ?_
        exact ih (i := ⟨shell⟩) hothers (by omega)

end Interactive

/-! ### The theorem -/

/-- Whether the input is these lines, put together: each with a line feed behind it, or a carriage
return and a line feed, except perhaps the last one. -/
def Feed.Delivers (f : Feed) (lines : List String) : Prop :=
  [] ∉ f.blocks ∧ ∃ text, Text.Joined lines text ∧ f.blocks.flatten = Text.encode text

namespace Session

variable {f : Feed} {lines : List String}

/-- Where the lines do not come from a terminal, they come from a file. -/
theorem feed_begin_batch (shell : Shell) (kind : Option String) (h : f.terminal ≠ .ok true) :
    (begin shell kind).feed f = .done (.inl (.batch { shell }), f) := by
  obtain ⟨terminal⟩ := f
  match terminal with
  | .ok true => exact absurd rfl h
  | .ok false => rfl
  | .error _ => rfl

/-- At a terminal the line editor reads the history first. -/
theorem feed_begin_interactive (shell : Shell) (kind : Option String) (h : f.terminal = .ok true) :
    (begin shell kind).feed f = .done (.inl (.interactive { shell }), f) := by
  have hbegin : (begin shell kind).feed f =
      ((Interactive.start shell).bind fun i => .done (.inl (interactive i))).feed f := by
    obtain ⟨terminal⟩ := f
    obtain rfl : terminal = .ok true := h
    rfl
  rw [hbegin, Interactive.start]
  cases shell.runner.settings.history with
  | none => rfl
  | some path => rfl

/-- The rounds behind the first. -/
theorem answered_rounds_opening {shell : Shell} {kind : Option String} {f' : Feed} {s : Session}
    (n : Nat) (h : (begin shell kind).feed f = .done (.inl s, f')) :
    ((opening shell kind).rounds (n + 1)).answered f = (s.rounds n).answered f' := by
  rw [rounds, turn, Interaction.answered_bind, h]
  rfl

theorem answered_code (n : Nat) (s : Session) (f : Feed) :
    (s.code n).answered f = ((s.rounds n).answered f).bind fun
      | .inl _ => .done none
      | .inr status => .done (some (exitCode status)) := by
  rw [code, Interaction.answered_bind, Interaction.answered, Interaction.bind_assoc]
  refine congrArg _ (funext fun (r, f) => ?_)
  cases r <;> rfl

/-- Lines from a file. -/
theorem code_of_file {shell : Shell} {kind : Option String} {n : Nat}
    (hterminal : f.terminal ≠ .ok true) (hdelivers : f.Delivers lines)
    (hlines : ∀ line ∈ lines, '\n' ∉ line.toList) (hn : f.blocks.length + lines.length + 1 < n) :
    ((opening shell kind).code n).answered f = (shell.runLines lines).bind fun ran =>
      .done (some (exitCode ran.status)) := by
  obtain ⟨n, rfl⟩ : ∃ m, n = m + 1 := ⟨n - 1, by omega⟩
  have hawaits : LineReader.Awaits {} f lines := hdelivers
  rw [answered_code, answered_rounds_opening n (feed_begin_batch shell kind hterminal),
    Batch.answered_rounds hawaits hlines (by omega), Interaction.bind_assoc]
  rfl

/-- Lines from a terminal. -/
theorem code_of_terminal {shell : Shell} {kind : Option String} {n : Nat}
    (hterminal : f.terminal = .ok true) (hedits : f.Edits lines) (hn : lines.length + 1 < n) :
    ((opening shell kind).code n).answered f = (shell.runLines lines).bind fun ran =>
      (Interaction.complainAll
        (Interactive.complaints shell.runner.settings.history f.stored)).bind fun _ =>
          .done (some (exitCode ran.status)) := by
  obtain ⟨n, rfl⟩ : ∃ m, n = m + 1 := ⟨n - 1, by omega⟩
  rw [answered_code, answered_rounds_opening n (feed_begin_interactive shell kind hterminal),
    Interactive.answered_rounds hedits (by omega), Interaction.bind_assoc]
  exact congrArg _ (funext fun ran => Interaction.bind_assoc _ _ _)

/-- A line that is given with the command. -/
theorem code_of_line (shell : Shell) (line : String) {n : Nat} (hn : 0 < n) :
    (single shell line).code n = (shell.runLines [line]).bind fun ran =>
      .done (some (exitCode ran.status)) := by
  obtain ⟨n, rfl⟩ : ∃ m, n = m + 1 := ⟨n - 1, by omega⟩
  rw [Shell.runLines_cons_bind, code, rounds, turn, Interaction.bind_eq, Interaction.bind_assoc,
    Interaction.bind_assoc]
  refine congrArg _ (funext fun (shell, stop) => ?_)
  cases stop <;> rfl

/-- **The three ways to feed lines agree.** From a file, from a terminal, and for a single line with
the command itself, a session comes to the same, whatever the operating system answers: the lines
are run one after another with the same calls in the same order, until one of them stops the shell,
and what the system is told is the status of the shell modulo 256. From a file the lines may end
with a line feed, or with a carriage return and a line feed, the last one also with nothing, and
they may come in any blocks. At a terminal, whatever its kind, the line editor hands them over
without their ends, and all that may be added is one complaint behind the last line, that the
history has not been written. -/
theorem modes_agree (o : Options) (environment : Environment) (lines : List String)
    (hlines : ∀ line ∈ lines, '\n' ∉ line.toList) :
    let shell : Shell := { runner := { settings := o.settings environment } }
    let session := ({ o with command := none } : Options).session environment
    (∀ f : Feed, f.terminal ≠ .ok true → f.Delivers lines →
      ∀ n, f.blocks.length + lines.length + 1 < n →
        (session.code n).answered f = (shell.runLines lines).bind fun ran =>
          .done (some (ran.status % 256).toNat)) ∧
    (∀ f : Feed, f.terminal = .ok true → f.Edits lines →
      ∀ n, lines.length + 1 < n →
        (session.code n).answered f = (shell.runLines lines).bind fun ran =>
          (Interaction.complainAll
            (Interactive.complaints (o.settings environment).history f.stored)).bind fun _ =>
              .done (some (ran.status % 256).toNat)) ∧
    ∀ line, lines = [line] → ∀ n, 0 < n →
      (({ o with command := some line } : Options).session environment).code n =
        (shell.runLines lines).bind fun ran => .done (some (ran.status % 256).toNat) := by
  refine ⟨fun f hterminal hdelivers n hn => code_of_file hterminal hdelivers hlines hn,
    fun f hterminal hedits n hn => code_of_terminal hterminal hedits hn, ?_⟩
  rintro line rfl n hn
  exact code_of_line _ line hn

/-- A lone terminator does in all three ways. -/
theorem modes_agree_exit :
    let file : Feed := { blocks := [Text.encode "exit 26", Text.encode "3\r\n"] }
    let terminal : Feed := { terminal := .ok true, edits := ["exit 263"] }
    ((({} : Options).session {}).code 5).answered file = .done (some 7) ∧
    ((({} : Options).session {}).code 5).answered terminal = .done (some 7) ∧
    (({ command := some "exit 263" } : Options).session {}).code 1 = .done (some 7) := by
  intro file terminal
  obtain ⟨hfile, hterminal, hline⟩ := modes_agree {} {} ["exit 263"] (by decide)
  have hstop : IsStop {} "exit 263" (some 263) :=
    ⟨⟨0, "exit 263", ["exit", "263"]⟩, by decide, by decide, by decide⟩
  have hran : Shell.runLines {} ["exit 263"] = .done ⟨{}, some 263, ["exit 263"]⟩ := by
    have htrace : (parse {} "exit 263").trace = [] := by decide
    rw [Shell.runLines, Shell.runLine_of_isStop hstop, htrace]
    rfl
  have hdelivers : file.Delivers ["exit 263"] := by
    refine ⟨?_, "exit 263\r\n", .cons "exit 263" true .nil, ?_⟩
    · change [] ∉ [Text.encode "exit 26", Text.encode "3\r\n"]
      rw [Text.encode_eq, Text.encode_eq]
      decide
    · change [Text.encode "exit 26", Text.encode "3\r\n"].flatten = _
      rw [List.flatten_cons, List.flatten_cons, List.flatten_nil, List.append_nil,
        ← Text.encode_append]
      rfl
  have hedits : terminal.Edits ["exit 263"] := .cons (.inl rfl) .nil
  refine ⟨(hfile file nofun hdelivers 5 (by decide)).trans ?_,
    (hterminal terminal rfl hedits 5 (by decide)).trans ?_, (hline _ rfl 1 (by decide)).trans ?_⟩
  · exact congrArg (Interaction.bind · _) hran
  · exact congrArg (Interaction.bind · _) hran
  · exact congrArg (Interaction.bind · _) hran

end Session

end PipeShell
