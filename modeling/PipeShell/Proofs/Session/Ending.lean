import PipeShell.Proofs.Session.Aborted
import PipeShell.Proofs.Session.Rounds

/-!
# How a session at a terminal ends

A session at a terminal ends at the first round that is final, with the status that the table of
events gives it, and with one attempt to save the history and one farewell behind it. `IsAccount`
puts together what can be said of a conversation with a session, and
`Interactive.ends_at_first_final` says that every conversation has such an account.
-/

namespace PipeShell

open Scene

/-- The last of many turns, as one part of them. -/
theorem Session.rounds_succ_last (s : Session) (n : Nat) :
    s.rounds (n + 1) = (s.rounds n).bind fun
      | .inl s => s.turn
      | .inr status => .done (.inr status) := by
  induction n generalizing s with
  | zero =>
    change s.turn.bind _ = s.turn
    conv_rhs => rw [← Interaction.bind_done s.turn]
    refine congrArg _ (funext fun r => ?_)
    cases r <;> rfl
  | succ n ih =>
    rw [rounds, rounds, Interaction.bind_assoc]
    refine congrArg _ (funext fun r => ?_)
    cases r with
    | inl s => exact ih s
    | inr status => rfl

namespace Interactive

/-- To save the history no line is asked for, and nothing is offered. -/
theorem Saves.edits_and_remembered {i : Interactive} {saving : List ShellReply}
    (h : i.Saves saving) : edits saving = [] ∧ remembered saving = [] := by
  cases h <;> exact ⟨rfl, rfl⟩

/-- **An account of a session at a terminal.** Within `n` turns the session `i` has heard `replies`
and has come to `r`. This has been the list `rounds`, which has led to `next`, and behind it
`rest`. -/
structure IsAccount (i : Interactive) (n : Nat) (scene : Scene) (replies : List ShellReply)
    (r : Session ⊕ Int) (rounds : List Round) (rest : List ShellReply) (next : Next) : Prop where
  /-- Nothing else has been heard. -/
  heard : replies = rounds.flatMap Round.replies ++ rest
  /-- One round has followed the other, each as the table has it. -/
  proceeds : Plays Proceeds (.goesOn i) rounds next
  /-- What the line editor has given back is what has been handled, in that order. -/
  edits_eq : edits replies = rounds.map Round.answer
  /-- The lines that are not blank have been offered to the history, in that order, without the
  white space around them, and nothing else has been. -/
  remembered_eq : remembered replies =
    ((rounds.map Round.event).filterMap Event.line?).map Text.trimmed
  /-- The settings have stayed what they were. -/
  runner_eq : next.session.shell.runner = i.shell.runner
  /-- The first final round is the last one, and behind any other last round the session goes
  on. -/
  isFinal_iff : ∀ before round after, rounds = before ++ round :: after →
    (round.IsFinal i.shell.runner.settings ↔ after = [] ∧ next.IsLeaving)
  /-- In no round has the history been written to its file, or the farewell been said. -/
  not_isParting : ∀ e ∈ rounds.flatMap Round.replies, ¬e.1.IsParting
  /-- A session that goes on has made all of its turns. -/
  goesOn : ∀ j, next = .goesOn j → r = .inl (.interactive j) ∧ rest = [] ∧ rounds.length = n
  /-- A session that ends has the status that its last round gives it. Behind this round the
  history has been saved, and then the farewell has been said. -/
  leaves : ∀ j status, next = .leaves j status → r = .inr status ∧
    ∃ saving, j.Saves saving ∧ rest = saving ++ [.ofText Fd.stdout farewell]
  /-- Behind the last round nothing but the end has been left to do, whatever is answered then. -/
  left : ∃ middle, Plays Takes ((Session.interactive i).rounds n, scene)
    (rounds.flatMap Round.replies) (next.toInteraction .interactive, middle)

section Ending

variable {i j : Interactive} {n : Nat} {scene scene' : Scene} {replies : List ShellReply}
  {r : Session ⊕ Int}

/-- At the end of a session no line is asked for, and nothing is offered. -/
theorem edits_and_remembered_of_plays {α : Type} {f : Interactive → α} {out : α ⊕ Int}
    {next : Next} (h : Plays Takes (next.toInteraction f, scene) replies (.done out, scene')) :
    edits replies = [] ∧ remembered replies = [] := by
  cases next with
  | goesOn j =>
    obtain ⟨rfl, -⟩ := of_plays_done h
    exact ⟨rfl, rfl⟩
  | leaves j status =>
    obtain ⟨-, saving, hsaves, rfl⟩ := exists_of_plays_leaves h
    obtain ⟨hedits, hremembered⟩ := hsaves.edits_and_remembered
    rw [edits_append, hedits, remembered_append, hremembered]
    exact ⟨rfl, rfl⟩

/-- **Whatever a session hears, there is an account of it.** -/
theorem exists_isAccount
    (h : Plays Takes ((Session.interactive i).rounds n, scene) replies (.done r, scene')) :
    ∃ rounds rest next, i.IsAccount n scene replies r rounds rest next := by
  obtain ⟨rounds, rest, next, middle, rfl, hrounds, hlength, hheard, hrest⟩ :=
    exists_rounds_of_plays h
  refine ⟨rounds, rest, next, ?_⟩
  obtain ⟨hedits, hremembered⟩ := edits_and_remembered_of_plays hrest
  constructor
  case heard => rfl
  case proceeds => exact hrounds
  case edits_eq =>
    rw [edits_append, hedits, List.append_nil]
    exact edits_of_plays hrounds
  case remembered_eq =>
    rw [remembered_append, hremembered, List.append_nil]
    exact remembered_of_plays hrounds
  case runner_eq => exact runner_of_plays hrounds
  case isFinal_iff => exact fun _ _ _ => isFinal_iff_of_plays hrounds
  case not_isParting => exact not_isParting_of_plays hrounds
  case goesOn =>
    rintro j rfl
    obtain ⟨rfl, rfl, -⟩ := of_plays_done hrest
    exact ⟨rfl, rfl, hlength id⟩
  case leaves =>
    rintro j status rfl
    exact exists_of_plays_leaves hrest
  case left => exact ⟨middle, hheard⟩

/-- **A session that goes on has a further turn, whatever is answered then**, as long as its texts
are shown. In it the line editor is asked once. -/
theorem exists_further
    (h : Plays Takes ((Session.interactive i).rounds n, scene) replies
      (.done (.inl (.interactive j)), scene'))
    (choose : (q : Request) → q.Answer) (hsettled : ∀ q, isInterruption (choose q) = false)
    (hshown : ∀ fd bytes, choose (.writeAll fd bytes) = .ok ()) :
    ∃ heard r' scene'', Plays Takes ((Session.interactive i).rounds (n + 1), scene)
        (replies ++ heard) (.done r', scene'') ∧
      (∀ e ∈ heard, e.2 = choose e.1) ∧ edits heard = [choose (.edit j.prompt)] := by
  obtain ⟨heard, out, scene'', hturn, hchosen⟩ :=
    exists_plays_answered j.speaks_turn choose hsettled hshown scene'
  refine ⟨heard, out.map .interactive id, scene'', ?_, hchosen, ?_⟩
  · have hlast : Plays Takes ((Session.interactive j).turn, scene') (heard ++ []) _ :=
      (plays_bind_iff hturn [] _).mpr (.nil _)
    rw [Session.rounds_succ_last, ← List.append_nil heard]
    exact (plays_bind_iff h _ _).mpr hlast
  · obtain ⟨round, rest, next, middle, rfl, hround, -, hrest⟩ := exists_proceeds_of_plays hturn
    rw [edits_append, hround.edits_eq, (edits_and_remembered_of_plays hrest).1]
    cases hround with
    | @meets j answer handled next handles =>
      obtain rfl : answer = choose (.edit j.prompt) := hchosen _ List.mem_cons_self
      rfl

/-- **A session at a terminal ends at exactly the first final round.** Of whatever a session hears
within some turns there is an account, whatever the operating system and the line editor answer: one
round follows the other by the table of events, each line that is not blank is offered to the
history and then run, the first round that is final gives the session its status, and behind it the
history is saved and the farewell is said, once each, and the status stays even if the history has
not been written. And as long as a session goes on, a further turn may be answered in every way, if
only its texts are shown. So this is about every sequence of lines and other events, with a request
to stop or without one behind each line. -/
theorem ends_at_first_final
    (h : Plays Takes ((Session.interactive i).rounds n, scene) replies (.done r, scene')) :
    (∃ rounds rest next, i.IsAccount n scene replies r rounds rest next) ∧
    ∀ j, r = .inl (.interactive j) →
      ∀ choose : (q : Request) → q.Answer, (∀ q, isInterruption (choose q) = false) →
        (∀ fd bytes, choose (.writeAll fd bytes) = .ok ()) →
        ∃ heard r' scene'', Plays Takes ((Session.interactive i).rounds (n + 1), scene)
            (replies ++ heard) (.done r', scene'') ∧
          (∀ e ∈ heard, e.2 = choose e.1) ∧ edits heard = [choose (.edit j.prompt)] := by
  refine ⟨exists_isAccount h, ?_⟩
  rintro j rfl choose hsettled hshown
  exact exists_further h choose hsettled hshown

/-! ### A session of three lines -/

theorem plays_edited (event : Event) {heard : List ShellReply}
    {t : Interaction (Interactive ⊕ Int) × Scene}
    (h : Plays Takes (i.handle event, scene) heard t) :
    Plays Takes (i.turn, scene) (⟨.edit i.prompt, .ok event⟩ :: heard) t :=
  .cons (.once (show (Request.edit i.prompt).Answer from .ok event)) h

theorem plays_rounds_succ {heard others : List ShellReply} {middle : Scene}
    {out : Interactive ⊕ Int} (hturn : Plays Takes (i.turn, scene) heard (.done out, middle))
    (hothers : Plays Takes (more n out, middle) others (.done r, scene')) :
    Plays Takes ((Session.interactive i).rounds (n + 1), scene) (heard ++ others)
      (.done r, scene') := by
  rw [rounds_succ]
  exact (plays_bind_iff hturn _ _).mpr hothers

/-- What is no text sets the status, a blank line leaves it, and a lone terminator is remembered and
ends the session with it, although the history cannot be written. -/
theorem ends_at_first_final_exit :
    let i : Interactive := { shell := { runner := { settings := { history := some "log" } } } }
    ∃ scene replies, Plays Takes ((Session.interactive i).rounds 3, scene) replies
        (.done (.inr 1), scene) ∧
      (∃ rounds rest next, i.IsAccount 3 scene replies (.inr 1) rounds rest next) ∧
      edits replies = [.ok (.noText "no text"), .ok (.line " "), .ok (.line "exit ")] ∧
      remembered replies = ["exit"] := by
  intro i
  let j : Interactive := { shell := { i.shell with last := 1 } }
  let scene : Scene := { table := {}, files := 0 }
  have hnoText : Plays Takes (i.turn, scene) _ (.done (.inl j), scene) :=
    plays_edited (.noText "no text") ((plays_bind_iff (plays_say _ _ _) [] _).mpr (.nil _))
  have hblank : j.handle (.line " ") = .done (.inl j) := by
    have hempty : (Text.trimmed " ").isEmpty = true := by decide
    rw [handle, if_pos hempty]
  have hgoesOn : Plays Takes (j.handle (.line " "), scene) [] (.done (.inl j), scene) := by
    rw [hblank]
    exact .nil _
  have hline : j.handle (.line "exit ") = .once (.remember "exit") fun _ =>
      (Next.leaves j 1).toInteraction id := by
    have hbusy : ¬(Text.trimmed "exit ").isEmpty = true := by decide
    have htrimmed : Text.trimmed "exit " = "exit" := by decide
    have hstop : IsStop j.shell.runner.settings "exit " none :=
      ⟨⟨0, "exit", ["exit"]⟩, by decide, by decide, by decide⟩
    have htrace : (parse j.shell.runner.settings "exit ").trace = [] := by decide
    rw [handle, if_neg hbusy, runLine_eq, Shell.runLine_of_isStop hstop, htrace, htrimmed]
    rfl
  have hsaves : j.Saves _ := @Saves.failed _ "log" _ (.error .eacces) rfl rfl
  have hexit : Plays Takes (j.handle (.line "exit "), scene)
      (⟨.remember "exit", .ok ()⟩ ::
        ([⟨.saveHistory "log", .error .eacces⟩,
          .ofText Fd.stderr (unwritable "log" (Errno.ioMessage .eacces))] ++
        [.ofText Fd.stdout farewell])) (.done (.inr 1), scene) := by
    rw [hline]
    exact .cons (.once (show (Request.remember "exit").Answer from .ok ()))
      (plays_of_saves_leaves id hsaves 1 scene)
  have hlast := plays_rounds_succ (n := 0) (plays_edited (.line "exit ") hexit) (.nil _)
  have hrest := plays_rounds_succ (n := 1) (plays_edited (.line " ") hgoesOn) hlast
  have hplays := plays_rounds_succ (n := 2) hnoText hrest
  obtain ⟨haccount, -⟩ := ends_at_first_final hplays
  exact ⟨scene, _, hplays, haccount, rfl, rfl⟩

end Ending

end Interactive

end PipeShell
