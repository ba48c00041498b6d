import PipeShell.Proofs.Command.Padding
import PipeShell.Proofs.Session.Modes

/-!
# What comes of an event

At a terminal a session waits for an event, handles it, and waits for the next. What is heard while
an event is handled, and what is behind it, is said here by a table with one line for each thing
that may happen; the end of a session, which several events come to, stands apart.

* `Interactive.Handles` is the table, and `exists_handles_of_plays` says that the session goes by
  it.
* `Interactive.Saves` is what is heard while the history is saved; `saves_of_plays` and
  `plays_of_saves` say that this is heard and nothing else.
-/

namespace PipeShell

open Scene

/-! ### Lines -/

theorem Text.isEmpty_trimmed_iff {text : String} :
    (trimmed text).isEmpty = true ↔ IsWhite text := by
  rw [String.isEmpty_iff, trimmed, String.ofList_eq_empty_iff, trim_eq_nil_iff, IsWhite]

/-- A blank line does not stop a shell. -/
theorem IsStop.not_isWhite {settings : Settings} {text : String} {status : Option Int}
    (h : IsStop settings text status) : ¬Text.IsWhite text := by
  intro hwhite
  obtain ⟨stage, hread, -⟩ := h
  have hidle : IsIdle text.toList := fun c hc => .inr (hwhite c hc)
  cases hread.symm.trans ((parse_eq_nil_iff settings text).mpr hidle)

/-- What is heard while a shell runs a line, and the shell behind it. -/
def Shell.Runs (shell : Shell) (line : String) (replies : List ShellReply) (shell' : Shell)
    (stop : Option Int) : Prop :=
  ∃ scene scene', Plays Scene.Takes (shell.runLine line, scene) replies
    (.done (shell', stop), scene')

/-- A lone terminator stops a shell and changes nothing in it; no other line stops it. -/
theorem Shell.Runs.stop_cases {shell shell' : Shell} {line : String} {replies : List ShellReply}
    {stop : Option Int} (h : shell.Runs line replies shell' stop) :
    (∃ status, IsStop shell.runner.settings line status ∧ shell' = shell ∧
      stop = some (status.getD shell.last)) ∨
    ((∀ status, ¬IsStop shell.runner.settings line status) ∧ stop = none) := by
  obtain ⟨_, _, hran⟩ := h
  obtain ⟨result, htakes⟩ := exists_takes_of_runLine hran
  have hgoes : stop = none → ∀ status, ¬IsStop shell.runner.settings line status := by
    rintro rfl status hasks
    cases (htakes.stop_eq_some_iff _).mpr ⟨status, hasks, rfl⟩
  obtain ⟨-, -, hstop⟩ | hstops | ⟨-, hstop, -⟩ := htakes.cases
  · exact .inr ⟨hgoes hstop, hstop⟩
  · exact .inl hstops
  · exact .inr ⟨hgoes hstop, hstop⟩

theorem Shell.Runs.runner_eq {shell shell' : Shell} {line : String} {replies : List ShellReply}
    {stop : Option Int} (h : shell.Runs line replies shell' stop) :
    shell'.runner = shell.runner := by
  obtain ⟨_, _, hran⟩ := h
  obtain ⟨result, htakes⟩ := exists_takes_of_runLine hran
  exact htakes.runner_eq

/-- What is heard while a line is run concerns the line alone. -/
theorem Shell.Runs.isFed_eq_false {shell shell' : Shell} {line : String}
    {replies : List ShellReply} {stop : Option Int} (h : shell.Runs line replies shell' stop) :
    ∀ e ∈ replies, e.1.isFed = false := by
  obtain ⟨_, _, hran⟩ := h
  exact ((shell.asks_runLine line).of_plays hran).1

/-! ### The end of a session -/

/-- Whether a request belongs to the end of a session at a terminal: the history is to be written to
its file, or the farewell is said. -/
def Request.IsParting : Request → Prop
  | saveHistory _ => True
  | writeAll fd bytes => fd = Fd.stdout ∧ bytes = Text.encode Interactive.farewell
  | _ => False

theorem Request.not_isParting_of_isFed {r : Request} (h : r.isFed = false) : ¬r.IsParting := by
  cases r with
  | saveHistory path => cases h
  | writeAll fd bytes =>
    rintro ⟨rfl, -⟩
    cases h
  | _ => exact id

namespace Interactive

/-- **What is heard while the history is saved.** Without a file there is nothing to do. Else the
line editor is told once to write the history, and if it has not done so, the shell says this. -/
inductive Saves (i : Interactive) : List ShellReply → Prop where
  | nothing (unconfigured : i.historyPath = none) : Saves i []
  | saved {path : String} {answer : (Request.saveHistory path).Answer}
    (configured : i.historyPath = some path) (fine : complaint? answer = none) :
    Saves i [⟨.saveHistory path, answer⟩]
  | failed {path message : String} {answer : (Request.saveHistory path).Answer}
    (configured : i.historyPath = some path) (bad : complaint? answer = some message) :
    Saves i [⟨.saveHistory path, answer⟩, .ofText Fd.stderr (unwritable path message)]

theorem saves_of_plays {i : Interactive} {scene scene' : Scene} {replies : List ShellReply}
    {u : Unit} (h : Plays Takes (i.save, scene) replies (.done u, scene')) : i.Saves replies := by
  rw [save] at h
  split at h
  · rename_i hpath
    obtain ⟨rfl, -⟩ := of_plays_done h
    exact .nothing hpath
  · rename_i path hpath
    obtain ⟨answer, rest, rfl, hnext⟩ := of_plays_once h
    split at hnext
    · rename_i hfine
      obtain ⟨rfl, -⟩ := of_plays_done hnext
      exact .saved hpath hfine
    · rename_i message hbad
      obtain ⟨rfl, -⟩ := of_plays_say hnext
      exact .failed hpath hbad

/-- Each of these is heard if it is answered so. -/
theorem plays_of_saves {i : Interactive} {replies : List ShellReply} (h : i.Saves replies)
    (scene : Scene) : Plays Takes (i.save, scene) replies (.done (), scene) := by
  cases h with
  | nothing unconfigured =>
    simp only [save, unconfigured]
    exact .nil _
  | @saved path answer configured fine =>
    simp only [save, configured]
    refine .cons (.once answer) ?_
    simp only [fine]
    exact .nil _
  | @failed path message answer configured bad =>
    simp only [save, configured]
    refine .cons (.once answer) ?_
    simp only [bad]
    exact plays_say Fd.stderr _ scene

/-- What stands behind something that has happened in a session. -/
inductive Next where
  /-- The session goes on. -/
  | goesOn (i : Interactive)
  /-- The session ends with a status. -/
  | leaves (i : Interactive) (status : Int)

namespace Next

/-- The session, whether it goes on or not. -/
def session : Next → Interactive
  | goesOn i => i
  | leaves i _ => i

@[simp] theorem session_goesOn (i : Interactive) : (goesOn i).session = i := rfl

@[simp] theorem session_leaves (i : Interactive) (status : Int) :
    (leaves i status).session = i := rfl

/-- Whether the session ends. -/
def IsLeaving : Next → Prop
  | goesOn _ => False
  | leaves _ _ => True

/-- What is left to do: nothing, or else the history is saved and the farewell is said, and nothing
that is heard meanwhile changes the status. -/
def toInteraction {α : Type} (f : Interactive → α) : Next → Interaction (α ⊕ Int)
  | goesOn i => .done (.inl (f i))
  | leaves i status => i.save.bind fun _ =>
    (Interaction.print farewell).bind fun _ => .done (.inr status)

end Next

/-! ### Handling -/

/-- **What comes of an event**: what is heard while it is handled, and what is behind it. The end of
the session is left out. -/
inductive Handles (i : Interactive) : Event → List ShellReply → Next → Prop where
  /-- A blank line changes nothing. -/
  | blank {text : String} (white : Text.IsWhite text) : Handles i (.line text) [] (.goesOn i)
  /-- Any other line is offered to the history, without the white space around it, and then run. A
  lone terminator ends the session with its status, or else with the status of the shell. -/
  | stops {text : String} {status : Option Int} {ran : List ShellReply}
    (kept : (Request.remember (Text.trimmed text)).Answer)
    (asks : IsStop i.shell.runner.settings text status)
    (runs : i.shell.Runs text ran i.shell (some (status.getD i.shell.last))) :
    Handles i (.line text) (⟨_, kept⟩ :: ran) (.leaves i (status.getD i.shell.last))
  /-- Behind a line that is no terminator a request to stop ends the session, with the status of the
  shell behind the line. -/
  | asked {text : String} {shell : Shell} {ran : List ShellReply} {signal : Signal}
    (kept : (Request.remember (Text.trimmed text)).Answer) (busy : ¬Text.IsWhite text)
    (goes : ∀ status, ¬IsStop i.shell.runner.settings text status)
    (runs : i.shell.Runs text ran shell none) :
    Handles i (.line text) (⟨_, kept⟩ :: (ran ++ [⟨.takeStop, .ok (some signal)⟩]))
      (.leaves { shell } shell.last)
  /-- Without a request the session goes on behind the line, with what running it has made of the
  shell. -/
  | unasked {text : String} {shell : Shell} {ran : List ShellReply}
    (kept : (Request.remember (Text.trimmed text)).Answer)
    {answer : Request.takeStop.Answer} (busy : ¬Text.IsWhite text)
    (goes : ∀ status, ¬IsStop i.shell.runner.settings text status)
    (runs : i.shell.Runs text ran shell none) (quiet : ∀ signal, answer ≠ .ok (some signal)) :
    Handles i (.line text) (⟨_, kept⟩ :: (ran ++ [⟨.takeStop, answer⟩])) (.goesOn { shell })
  /-- A line that has been dropped changes nothing. -/
  | interrupted : Handles i .interrupted
    [.ofText Fd.stderr (Runner.notice "type 'exit' or Ctrl+d to quit")] (.goesOn i)
  /-- What is no text sets the status to one. -/
  | noText {message : String} : Handles i (.noText message)
    [.ofText Fd.stderr (Runner.notice message)] (.goesOn { shell := { i.shell with last := 1 } })
  /-- At the end of the input the session ends with the status of the shell. -/
  | ended : Handles i .ended [] (.leaves i i.shell.last)
  /-- If reading fails, the session ends with one. -/
  | failed {message : String} : Handles i (.failed message)
    [.ofText Fd.stderr (Runner.notice s!"read error\n{message}")] (.leaves i 1)

variable {i : Interactive} {scene scene' : Scene} {replies : List ShellReply}
  {out : Interactive ⊕ Int}

theorem of_plays_complain {α : Type} {text : String} {k : Unit → Interaction α} {a : α}
    (h : Plays Takes ((Interaction.complain text).bind k, scene) replies (.done a, scene')) :
    ∃ rest, replies = [.ofText Fd.stderr text] ++ rest ∧
      Plays Takes ((Interaction.complain text).bind k, scene) [.ofText Fd.stderr text]
        (k (), scene) ∧
      Plays Takes (k (), scene) rest (.done a, scene') := by
  obtain ⟨said, rest, _, _, rfl, hsaid, hrest⟩ := exists_of_plays_bind h
  obtain ⟨rfl, rfl⟩ := of_plays_say hsaid
  exact ⟨rest, rfl, plays_bind hsaid k, hrest⟩

theorem of_plays_takeStop {α : Type} {k : Bool → Interaction α} {a : α}
    (h : Plays Takes (takeStop.bind k, scene) replies (.done a, scene')) :
    ∃ answer asked rest, replies = [⟨.takeStop, answer⟩] ++ rest ∧
      (asked = true ↔ ∃ signal, answer = .ok (some signal)) ∧
      Plays Takes (takeStop.bind k, scene) [⟨.takeStop, answer⟩] (k asked, scene) ∧
      Plays Takes (k asked, scene) rest (.done a, scene') := by
  obtain ⟨answer, rest, rfl, hrest⟩ := of_plays_once h
  have hfirst : Plays Takes (takeStop.bind k, scene) [⟨.takeStop, answer⟩] _ :=
    .cons (.once answer) (.nil _)
  match answer with
  | .ok (some signal) =>
    exact ⟨_, true, rest, rfl, iff_of_true rfl ⟨signal, rfl⟩, hfirst, hrest⟩
  | .ok none => exact ⟨_, false, rest, rfl, iff_of_false nofun nofun, hfirst, hrest⟩
  | .error cause => exact ⟨_, false, rest, rfl, iff_of_false nofun nofun, hfirst, hrest⟩

/-- A line that is not blank is handled by the table. -/
theorem exists_handles_of_runLine {text : String} (busy : ¬Text.IsWhite text)
    (h : Plays Takes (i.runLine text, scene) replies (.done out, scene')) :
    ∃ heard rest next middle, replies = heard ++ rest ∧ i.Handles (.line text) heard next ∧
      Plays Takes (i.runLine text, scene) heard (next.toInteraction id, middle) ∧
      Plays Takes (next.toInteraction id, middle) rest (.done out, scene') := by
  rw [runLine_eq] at h ⊢
  obtain ⟨kept, rest, rfl, hrest⟩ := of_plays_once h
  change Plays Takes ((i.shell.runLine text).bind _, scene) rest _ at hrest
  obtain ⟨ran, others, ⟨shell, stop⟩, middle, rfl, hran, hothers⟩ := exists_of_plays_bind hrest
  have hruns : i.shell.Runs text ran shell stop := ⟨scene, middle, hran⟩
  obtain ⟨status, hasks, rfl, rfl⟩ | ⟨hgoes, rfl⟩ := hruns.stop_cases
  · refine ⟨_, others, .leaves i _, middle, rfl, .stops kept hasks hruns, .cons (.once kept) ?_,
      hothers⟩
    exact plays_bind hran _
  · -- behind the line the requests to stop are looked at
    obtain ⟨answer, asked, rest, rfl, hasked, hpoll, hend⟩ := of_plays_takeStop hothers
    rw [← List.append_assoc, ← List.cons_append]
    cases asked with
    | true =>
      obtain ⟨signal, rfl⟩ := hasked.mp rfl
      refine ⟨_, rest, .leaves _ _, middle, rfl, .asked kept busy hgoes hruns,
        .cons (.once kept) ?_, hend⟩
      exact (plays_bind_iff hran _ _).mpr hpoll
    | false =>
      have hnone : ∀ signal, answer ≠ .ok (some signal) := fun signal heq =>
        Bool.false_ne_true (hasked.mpr ⟨signal, heq⟩)
      refine ⟨_, rest, .goesOn _, middle, rfl, .unasked kept busy hgoes hruns hnone,
        .cons (.once kept) ?_, hend⟩
      exact (plays_bind_iff hran _ _).mpr hpoll

/-- **Every event is handled by the table**, and behind what is heard then nothing is left to do, or
the end of the session. -/
theorem exists_handles_of_plays {event : Event}
    (h : Plays Takes (i.handle event, scene) replies (.done out, scene')) :
    ∃ heard rest next middle, replies = heard ++ rest ∧ i.Handles event heard next ∧
      Plays Takes (i.handle event, scene) heard (next.toInteraction id, middle) ∧
      Plays Takes (next.toInteraction id, middle) rest (.done out, scene') := by
  cases event with
  | line text =>
    rw [handle] at h ⊢
    split at h
    · rename_i hblank
      rw [if_pos hblank]
      exact ⟨[], replies, .goesOn i, scene, rfl, .blank (Text.isEmpty_trimmed_iff.mp hblank),
        .nil _, h⟩
    · rename_i hbusy
      rw [if_neg hbusy]
      exact exists_handles_of_runLine (hbusy ∘ Text.isEmpty_trimmed_iff.mpr) h
  | interrupted =>
    obtain ⟨rest, rfl, hsaid, hend⟩ := of_plays_complain h
    exact ⟨_, rest, .goesOn _, scene, rfl, .interrupted, hsaid, hend⟩
  | ended => exact ⟨[], replies, .leaves _ _, scene, rfl, .ended, .nil _, h⟩
  | noText message =>
    obtain ⟨rest, rfl, hsaid, hend⟩ := of_plays_complain h
    exact ⟨_, rest, .goesOn _, scene, rfl, .noText, hsaid, hend⟩
  | failed message =>
    obtain ⟨rest, rfl, hsaid, hend⟩ := of_plays_complain h
    exact ⟨_, rest, .leaves _ _, scene, rfl, .failed, hsaid, hend⟩

end Interactive

end PipeShell
