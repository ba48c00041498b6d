import PipeShell.Proofs.Session.Modes

/-!
# The loops as automata

Both loops do the same in every round: they listen until they have heard something; if that is a
line, they run it, and then they look whether a request to stop has come in. Where in a round a loop
stands matters when requests may come in at any moment, so the loops are presented here once more as
one automaton: a `Point` is a place in a round.

* `Loop.listen` is what comes before the line; `Loop.turn_eq` says that a round is listening and
  what is done then.
* `Point.toInteraction` is what is left of a round.
* `Loop.asks_listen` and its companions say that a loop looks for requests to stop in one place
  only.
-/

namespace PipeShell

/-- A loop over lines. -/
inductive Loop where
  /-- Lines come from a file. -/
  | batch (batch : Batch)
  /-- Lines come from a terminal. -/
  | interactive (interactive : Interactive)

/-- What has been heard in a round. -/
inductive Heard where
  /-- A line that is to be run. -/
  | line (text : String)
  /-- Nothing that is to be run. -/
  | nothing
  /-- The session is over. -/
  | ended (status : Int)

namespace Loop

/-- The session that a loop is. -/
def session : Loop → Session
  | batch b => .batch b
  | interactive i => .interactive i

/-- The shell of a loop. -/
def shell : Loop → Shell
  | batch b => b.shell
  | interactive i => i.shell

/-- The loop with another shell. -/
def behind (shell : Shell) : Loop → Loop
  | batch b => batch { b with shell }
  | interactive _ => interactive { shell }

/-- What is done at the end of a session. -/
def part : Loop → Interaction Unit
  | batch _ => .done ()
  | interactive i => i.save.bind fun _ => .print Interactive.farewell

@[simp] theorem shell_behind (shell : Shell) (l : Loop) : (l.behind shell).shell = shell := by
  cases l <;> rfl

end Loop

/-! ### Listening -/

/-- What a loop over a file does before it runs a line. -/
def Batch.listen (b : Batch) : Interaction (Loop × Heard) :=
  b.reader.next.bind fun
    | (reader, .line line) => .done (.batch { b with reader }, .line (Text.decodeLossy line))
    | (reader, .more) => .done (.batch { b with reader }, .nothing)
    | (reader, .ended) => .done (.batch { b with reader }, .ended b.shell.last)
    | (reader, .failed cause) =>
      (Interaction.complain (Runner.notice cause.ioMessage)).bind fun _ =>
        .done (.batch { b with reader }, .ended 1)

namespace Interactive

/-- What a loop over a terminal makes of an event before it runs a line. A line that is not blank is
remembered. -/
def hear (i : Interactive) : Event → Interaction (Loop × Heard)
  | .line text =>
    if (Text.trimmed text).isEmpty then .done (.interactive i, .nothing)
    else (Interaction.perform (.remember (Text.trimmed text))).bind fun _ =>
      .done (.interactive i, .line text)
  | .interrupted =>
    (Interaction.complain (Runner.notice "type 'exit' or Ctrl+d to quit")).bind fun _ =>
      .done (.interactive i, .nothing)
  | .ended => (Loop.interactive i).part.bind fun _ => .done (.interactive i, .ended i.shell.last)
  | .noText message =>
    (Interaction.complain (Runner.notice message)).bind fun _ =>
      .done (.interactive { shell := { i.shell with last := 1 } }, .nothing)
  | .failed message =>
    (Interaction.complain (Runner.notice s!"read error\n{message}")).bind fun _ =>
      (Loop.interactive i).part.bind fun _ => .done (.interactive i, .ended 1)

/-- What a loop over a terminal does before it runs a line. -/
def listen (i : Interactive) : Interaction (Loop × Heard) :=
  (Interaction.call (.edit i.prompt)).bind fun answer => i.hear (.ofAnswer answer)

end Interactive

namespace Loop

/-- What a loop does before it runs a line. -/
def listen : Loop → Interaction (Loop × Heard)
  | batch b => b.listen
  | interactive i => i.listen

/-- What a loop does behind a line: it ends if the line or a request asks for that. -/
def settle (l : Loop) : Option Int → Interaction (Loop ⊕ Int)
  | some status => l.part.bind fun _ => .done (.inr status)
  | none => takeStop.bind fun
    | true => l.part.bind fun _ => .done (.inr l.shell.last)
    | false => .done (.inl l)

/-- What a loop does with what it has heard. -/
def respond : Loop × Heard → Interaction (Loop ⊕ Int)
  | (l, .line text) => (l.shell.runLine text).bind fun (shell, stop) =>
    (l.behind shell).settle stop
  | (l, .nothing) => .done (.inl l)
  | (_, .ended status) => .done (.inr status)

/-- One round of a loop. -/
def round (l : Loop) : Interaction (Loop ⊕ Int) :=
  l.listen.bind respond

/-- A round of a loop over a file. -/
theorem batch_turn (b : Batch) :
    b.turn.bind (fun r => .done (r.map batch id)) = (batch b).round := by
  rw [Batch.turn, round, listen, Batch.listen, Interaction.bind_eq, Interaction.bind_assoc,
    Interaction.bind_assoc]
  refine congrArg _ (funext fun r => ?_)
  obtain ⟨reader, reading⟩ := r
  cases reading with
  | line bytes =>
    dsimp only
    rw [Interaction.done_bind, respond, Batch.runLine, Interaction.bind_eq, Interaction.bind_assoc]
    refine congrArg _ (funext fun r => ?_)
    obtain ⟨shell, stop⟩ := r
    cases stop with
    | some status => rfl
    | none =>
      change (takeStop.bind _).bind _ = takeStop.bind _
      rw [Interaction.bind_assoc]
      refine congrArg _ (funext fun asked => ?_)
      cases asked <;> rfl
  | more => rfl
  | ended => rfl
  | failed cause =>
    dsimp only
    rw [Interaction.bind_eq, Interaction.bind_assoc, Interaction.bind_assoc]
    rfl

theorem leave_eq (i : Interactive) (status : Int) :
    i.leave status = (interactive i).part.bind fun _ => .done (.inr status) := by
  rw [Interactive.leave, part, Interaction.bind_eq, Interaction.bind_assoc]
  rfl

/-- What a loop over a terminal does with an event. -/
theorem interactive_handle (i : Interactive) (event : Event) :
    (i.handle event).bind (fun r => .done (r.map interactive id)) =
      (i.hear event).bind respond := by
  cases event with
  | line text =>
    rw [Interactive.handle, Interactive.hear]
    split
    · rfl
    · rw [Interactive.runLine_eq, Interaction.bind_assoc, Interaction.bind_assoc,
        Interaction.bind_assoc]
      refine congrArg _ (funext fun _ => ?_)
      rw [Interaction.done_bind, respond]
      refine congrArg _ (funext fun result => ?_)
      obtain ⟨shell, stop⟩ := result
      -- in both cases the loop that leaves is the one behind the line
      cases stop with
      | some status =>
        change ((⟨shell⟩ : Interactive).leave status).bind _ = _
        rw [leave_eq, Interaction.bind_assoc]
        rfl
      | none =>
        change (takeStop.bind _).bind _ = takeStop.bind _
        rw [Interaction.bind_assoc]
        refine congrArg _ (funext fun asked => ?_)
        cases asked with
        | false => rfl
        | true =>
          change ((⟨shell⟩ : Interactive).leave shell.last).bind _ = _
          rw [leave_eq, Interaction.bind_assoc]
          rfl
  | interrupted =>
    rw [Interactive.handle, Interactive.hear, Interaction.bind_eq, Interaction.bind_assoc,
      Interaction.bind_assoc]
    rfl
  | ended =>
    rw [Interactive.handle, Interactive.hear, leave_eq, Interaction.bind_assoc,
      Interaction.bind_assoc]
    rfl
  | noText message =>
    rw [Interactive.handle, Interactive.hear, Interaction.bind_eq, Interaction.bind_assoc,
      Interaction.bind_assoc]
    rfl
  | failed message =>
    rw [Interactive.handle, Interactive.hear, leave_eq, Interaction.bind_eq, Interaction.bind_assoc,
      Interaction.bind_assoc]
    simp only [Interaction.bind_assoc]
    rfl

/-- A round of a loop over a terminal. -/
theorem interactive_turn (i : Interactive) :
    i.turn.bind (fun r => .done (r.map interactive id)) = (interactive i).round := by
  rw [Interactive.turn, round, listen, Interactive.listen, Interaction.bind_eq,
    Interaction.bind_assoc, Interaction.bind_assoc]
  exact congrArg _ (funext fun answer => interactive_handle i (.ofAnswer answer))

/-- **A round of a session is a round of its loop.** -/
theorem turn_eq (l : Loop) :
    l.session.turn = l.round.bind fun r => .done (r.map session id) := by
  cases l with
  | batch b =>
    rw [← batch_turn, Interaction.bind_assoc]
    refine congrArg (b.turn.bind ·) (funext fun r => ?_)
    cases r <;> rfl
  | interactive i =>
    rw [← interactive_turn, Interaction.bind_assoc]
    refine congrArg (i.turn.bind ·) (funext fun r => ?_)
    cases r <;> rfl

end Loop

/-! ### Places in a round -/

/-- Where a loop stands. -/
inductive Point where
  /-- Between two rounds. -/
  | between (l : Loop)
  /-- Before the line; `p` is left of listening. -/
  | listening (p : Interaction (Loop × Heard))
  /-- In a line; `p` is left of it. -/
  | running (l : Loop) (line : String) (p : Interaction (Shell × Option Int))
  /-- Behind a line that has not stopped the shell. -/
  | polling (l : Loop)
  /-- At the end of the session; `p` is left of it. -/
  | leaving (status : Int) (p : Interaction Unit)

namespace Point

/-- What is left of a round. -/
def toInteraction : Point → Interaction (Loop ⊕ Int)
  | between l => .done (.inl l)
  | listening p => p.bind Loop.respond
  | running l _ p => p.bind fun (shell, stop) => (l.behind shell).settle stop
  | polling l => l.settle none
  | leaving status p => p.bind fun _ => .done (.inr status)

end Point

/-! ### What a loop asks for -/

/-- Whether a request is not the one for requests to stop. -/
def Request.IsOther (r : Request) : Prop :=
  r ≠ .takeStop

namespace Loop

/-- A line does not look for requests to stop. -/
theorem asks_runLine (shell : Shell) (line : String) :
    (shell.runLine line).Asks Request.IsOther := by
  refine (shell.asks_runLine line).mono ?_
  rintro r hr rfl
  cases hr

theorem asks_complain (text : String) : (Interaction.complain text).Asks Request.IsOther :=
  Interaction.asks_say (by rintro ⟨⟩)

theorem asks_print (text : String) : (Interaction.print text).Asks Request.IsOther :=
  Interaction.asks_say (by rintro ⟨⟩)

/-- Nor does the end of a session. -/
theorem asks_part (l : Loop) : l.part.Asks Request.IsOther := by
  cases l with
  | batch b => exact .done ()
  | interactive i =>
    refine Interaction.Asks.bind ?_ fun _ => asks_print _
    rw [Interactive.save]
    split
    · exact .done ()
    · refine .once (by rintro ⟨⟩) fun answer => ?_
      split
      · exact .done ()
      · exact asks_complain _

theorem asks_next (r : LineReader) : r.next.Asks Request.IsOther := by
  rw [LineReader.next]
  split
  · exact .done _
  · refine .persist (by rintro ⟨⟩) fun answer => ?_
    split <;> exact .done _

theorem asks_hear (i : Interactive) (event : Event) : (i.hear event).Asks Request.IsOther := by
  cases event with
  | line text =>
    rw [Interactive.hear]
    split
    · exact .done _
    · exact .once (by rintro ⟨⟩) fun _ => .done _
  | interrupted => exact (asks_complain _).bind fun _ => .done _
  | ended => exact (asks_part _).bind fun _ => .done _
  | noText => exact (asks_complain _).bind fun _ => .done _
  | failed cause => exact (asks_complain _).bind fun _ => (asks_part _).bind fun _ => .done _

/-- **A loop that listens does not look for requests to stop.** -/
theorem asks_listen (l : Loop) : l.listen.Asks Request.IsOther := by
  cases l with
  | batch b =>
    refine (asks_next b.reader).bind fun (reader, reading) => ?_
    cases reading with
    | failed cause => exact (asks_complain _).bind fun _ => .done _
    | _ => exact .done _
  | interactive i => exact .once (by rintro ⟨⟩) fun answer => asks_hear i _

end Loop

end PipeShell
