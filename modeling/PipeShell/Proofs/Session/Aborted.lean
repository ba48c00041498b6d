import PipeShell.Proofs.Pipeline.Aborted
import PipeShell.Proofs.Session.Modes

/-!
# Sessions that are aborted

A session shows a greeting, messages and a farewell, and it is aborted if one of its own texts
cannot be shown. Nothing else aborts it: whatever the operating system, the line editor and the
processes of its lines do, a session that has shown what it had to say can go on.

* `Session.speaks_turn` is one turn, put together from the parts of the two loops.
* `Session.aborted_or_endable` is what many turns may come to.
-/

namespace PipeShell

open Interaction

/-! ### Lines -/

theorem Runner.speaks_run (r : Runner) (line : String) : (r.run line).Speaks := by
  rw [run_eq]
  exact (r.speaks_execute line).bind fun _ => (speaks_complainAll _).bind fun _ => .done _

theorem Shell.speaks_runLine (shell : Shell) (line : String) : (shell.runLine line).Speaks :=
  (shell.runner.speaks_run line).bind fun _ => .done _

theorem speaks_takeStop : takeStop.Speaks := by
  refine speaks_once (fun _ => rfl) fun answer => ?_
  split <;> exact .done _

/-! ### Lines from a file -/

theorem LineReader.speaks_next (r : LineReader) : r.next.Speaks := by
  rw [next]
  split
  · exact .done _
  · refine .persist (fun _ => rfl) fun answer => ?_
    split <;> exact .done _

theorem Batch.speaks_turn (b : Batch) : b.turn.Speaks := by
  refine b.reader.speaks_next.bind fun result => ?_
  obtain ⟨reader, reading⟩ := result
  cases reading with
  | line line =>
    refine (b.shell.speaks_runLine _).bind fun result => ?_
    obtain ⟨shell, stop⟩ := result
    cases stop with
    | some status => exact .done _
    | none =>
      refine speaks_takeStop.bind fun asked => ?_
      cases asked <;> exact .done _
  | failed cause => exact (speaks_say _ _).bind fun _ => .done _
  | _ => exact .done _

/-! ### Lines from a terminal -/

namespace Interactive

theorem speaks_save (i : Interactive) : i.save.Speaks := by
  rw [save]
  split
  · exact .done ()
  · refine speaks_once (fun _ => rfl) fun answer => ?_
    split
    · exact .done ()
    · exact speaks_say _ _

theorem speaks_leave (i : Interactive) (status : Int) : (i.leave status).Speaks :=
  i.speaks_save.bind fun _ => (speaks_say _ _).bind fun _ => .done _

theorem speaks_handle (i : Interactive) (event : Event) : (i.handle event).Speaks := by
  cases event with
  | line text =>
    rw [handle]
    split
    · exact .done _
    · rw [runLine_eq]
      refine speaks_once (fun _ => rfl) fun _ => ?_
      refine (i.shell.speaks_runLine text).bind fun result => ?_
      obtain ⟨shell, stop⟩ := result
      cases stop with
      | some status => exact speaks_leave _ _
      | none =>
        refine speaks_takeStop.bind fun asked => ?_
        cases asked with
        | false => exact .done _
        | true => exact speaks_leave _ _
  | interrupted => exact (speaks_say _ _).bind fun _ => .done _
  | ended => exact i.speaks_leave _
  | noText message => exact (speaks_say _ _).bind fun _ => .done _
  | failed message => exact (speaks_say _ _).bind fun _ => i.speaks_leave _

theorem speaks_turn (i : Interactive) : i.turn.Speaks :=
  speaks_once (fun _ => rfl) fun _ => i.speaks_handle _

theorem speaks_start (shell : Shell) : (start shell).Speaks := by
  rw [start]
  cases shell.runner.settings.history with
  | none => exact (speaks_say _ _).bind fun _ => .done _
  | some path =>
    exact speaks_once (fun _ => rfl) fun _ => (speaks_say _ _).bind fun _ => .done _

end Interactive

/-! ### Sessions -/

namespace Session

theorem speaks_giveUp (message : String) : (giveUp message).Speaks :=
  (speaks_say _ _).bind fun _ => .done _

theorem speaks_begin (shell : Shell) (kind : Option String) : (begin shell kind).Speaks := by
  refine speaks_once (fun _ => rfl) fun caught => ?_
  cases caught with
  | error cause => exact speaks_giveUp _
  | ok u =>
    refine speaks_once (fun _ => rfl) fun terminal => ?_
    obtain cause | (_ | _) := terminal
    · exact .done _
    · exact .done _
    · refine speaks_once (fun _ => rfl) fun opened => ?_
      rw [Interaction.done_bind]
      split
      · exact speaks_giveUp _
      · exact (Interactive.speaks_start shell).bind fun _ => .done _

/-- **One turn** is aborted where a text cannot be shown, and nowhere else. -/
theorem speaks_turn (s : Session) : s.turn.Speaks := by
  cases s with
  | notice fd text status => exact (speaks_say fd text).bind fun _ => .done _
  | single shell line => exact (shell.speaks_runLine line).bind fun _ => .done _
  | opening shell kind => exact speaks_begin shell kind
  | batch b => exact b.speaks_turn.bind fun _ => .done _
  | interactive i => exact i.speaks_turn.bind fun _ => .done _

theorem speaks_rounds (n : Nat) (s : Session) : (s.rounds n).Speaks := by
  induction n generalizing s with
  | zero => exact .done _
  | succ n ih =>
    refine s.speaks_turn.bind fun r => ?_
    cases r with
    | inl s => exact ih s
    | inr status => exact .done _

/-- **A session is aborted by a text that cannot be shown, and by nothing else.** Whatever has been
answered within some turns, all texts have been shown and the turns may come to their end; or the
last answer is that a text could not be shown, and the session is aborted. -/
theorem aborted_or_endable {s : Session} {n : Nat} {scene scene' : Scene}
    {replies : List ShellReply} {p : Interaction (Session ⊕ Int)}
    (h : Plays Scene.Takes (s.rounds n, scene) replies (p, scene')) :
    ((∀ e ∈ replies, e.isUnshown = false) ∧
      ∃ more r last, Plays Scene.Takes (p, scene') more (.done r, last)) ∨
    p = .aborted ∧ ∃ before e, replies = before ++ [e] ∧ e.isUnshown = true := by
  obtain ⟨hspeaks, hshown⟩ | haborted := Scene.speaks_of_plays (s.speaks_rounds n) h
  · exact .inl ⟨hshown, Scene.exists_plays_done hspeaks scene'⟩
  · exact .inr haborted

end Session

end PipeShell
