import PipeShell.Proofs.Session.Status

/-!
# What a session is fed with

Where the lines of a session come from shows in some of its requests only: those for input, for
requests to stop, to the line editor, and for what is printed on standard output. A `Feed` is what
the surroundings answer to these, and `Interaction.feed` is what a computation asks for beyond them.
A statement about this rest is one about every behaviour of the operating system towards the lines
themselves.

* `Feed.answer?` is the answer to a request, if it is one of these.
* `Interaction.feed_bind` takes a computation apart.
* `Shell.feed_runLine` says that running a line asks for none of them.
-/

namespace PipeShell

/-- What the surroundings of a session have for it. -/
structure Feed where
  /-- Whether standard input is a terminal. -/
  terminal : Except Errno Bool := .ok false
  /-- The blocks of octets that the input comes in. -/
  blocks : List Bytes := []
  /-- The lines that the line editor hands over. -/
  edits : List String := []
  /-- What reading the file of the history comes to. -/
  loaded : Except Errno Unit := .error .enoent
  /-- What the line editor says when it is to remember a line. -/
  remembered : Except Errno Unit := .ok ()
  /-- What writing the file of the history comes to. -/
  stored : Except Errno (Option String) := .ok none

namespace Feed

/-- The answer to a request that concerns the surroundings of a session, and what they have for it
behind that. Nobody asks the session to stop, there is a line editor, and what is printed is shown.
-/
def answer? (f : Feed) : (r : Request) → Option (r.Answer × Feed)
  | .isTerminal _ => some (f.terminal, f)
  | .catchStops => some (.ok (), f)
  | .takeStop => some (.ok none, f)
  | .read _ _ =>
    match f.blocks with
    | [] => some (.ok [], f)
    | block :: blocks => some (.ok block, { f with blocks })
  | .edit _ =>
    match f.edits with
    | [] => some (.ok .ended, f)
    | line :: edits => some (.ok (.line line), { f with edits })
  | .openEditor _ => some (.ok none, f)
  | .loadHistory _ => some (f.loaded, f)
  | .remember _ => some (f.remembered, f)
  | .saveHistory _ => some (f.stored, f)
  | .writeAll fd _ => if fd = Fd.stdout then some (.ok (), f) else none
  | _ => none

end Feed

/-- Whether a request concerns the surroundings of a session. -/
def Request.isFed : Request → Bool
  | isTerminal _ => true
  | catchStops => true
  | takeStop => true
  | read _ _ => true
  | edit _ => true
  | openEditor _ => true
  | loadHistory _ => true
  | remember _ => true
  | saveHistory _ => true
  | writeAll fd _ => fd == Fd.stdout
  | _ => false

theorem Feed.isSome_answer? (f : Feed) (r : Request) : (f.answer? r).isSome = r.isFed := by
  cases r with
  | read fd size => cases hblocks : f.blocks <;> simp [answer?, Request.isFed, hblocks]
  | edit prompt => cases hedits : f.edits <;> simp [answer?, Request.isFed, hedits]
  | writeAll fd bytes =>
    by_cases hfd : fd = Fd.stdout
    · simp [answer?, Request.isFed, hfd]
    · simp [answer?, Request.isFed, hfd]
  | _ => rfl

theorem Feed.answer?_eq_none {r : Request} (f : Feed) (h : r.isFed = false) :
    f.answer? r = none := by
  rw [← Option.not_isSome_iff_eq_none, f.isSome_answer? r, h]
  exact Bool.false_ne_true

namespace Interaction

variable {α β : Type} (f : Feed)

/-- What a computation still asks for when the surroundings of the session answer. -/
def feed : Interaction α → Feed → Interaction (α × Feed)
  | done a, f => done (a, f)
  | aborted, _ => aborted
  | once r next, f =>
    match f.answer? r with
    | some (answer, f') => (next answer).feed f'
    | none => once r fun answer => (next answer).feed f
  | persist r next, f =>
    match f.answer? r with
    | some (answer, f') => (next answer).feed f'
    | none => persist r fun answer => (next answer).feed f

/-- The same without what the surroundings still have. -/
def answered (p : Interaction α) (f : Feed) : Interaction α :=
  (p.feed f).bind fun (a, _) => done a

@[simp] theorem feed_done (a : α) : (done a).feed f = done (a, f) := rfl

section Feed

variable {f f' : Feed} {r : Request} {answer : r.Answer}

theorem feed_once (next : r.Answer → Interaction α) (h : f.answer? r = some (answer, f')) :
    (once r next).feed f = (next answer).feed f' := by
  rw [feed, h]

theorem feed_persist (next : r.Answer → Interaction α) (h : f.answer? r = some (answer, f')) :
    (persist r next).feed f = (next answer).feed f' := by
  rw [feed, h]

theorem feed_once_of_none (next : r.Answer → Interaction α) (h : f.answer? r = none) :
    (once r next).feed f = once r fun answer => (next answer).feed f := by
  rw [feed, h]

theorem feed_persist_of_none (next : r.Answer → Interaction α) (h : f.answer? r = none) :
    (persist r next).feed f = persist r fun answer => (next answer).feed f := by
  rw [feed, h]

end Feed

/-- The second part of a computation goes on with what the first has left. -/
theorem feed_bind (p : Interaction α) (k : α → Interaction β) (f : Feed) :
    (p.bind k).feed f = (p.feed f).bind fun (a, f') => (k a).feed f' := by
  induction p generalizing f with
  | done a => rfl
  | aborted => rfl
  | once r next ih =>
    cases h : f.answer? r with
    | none =>
      rw [bind, feed_once_of_none _ h, feed_once_of_none _ h, bind]
      exact congrArg (once r) (funext fun answer => ih answer f)
    | some fed =>
      obtain ⟨answer, f'⟩ := fed
      rw [bind, feed_once _ h, feed_once _ h, ih]
  | persist r next ih =>
    cases h : f.answer? r with
    | none =>
      rw [bind, feed_persist_of_none _ h, feed_persist_of_none _ h, bind]
      exact congrArg (persist r) (funext fun answer => ih answer f)
    | some fed =>
      obtain ⟨answer, f'⟩ := fed
      rw [bind, feed_persist _ h, feed_persist _ h, ih]

end Interaction

/-! ### Computations that are fed nothing -/

namespace Interaction

variable {α β : Type} {P Q : Request → Prop} {p : Interaction α}

/-- Whether `P` holds of whatever a computation may ask for. -/
inductive Asks (P : Request → Prop) : Interaction α → Prop where
  | done (a : α) : Asks P (.done a)
  | aborted : Asks P .aborted
  | once {r : Request} {next : r.Answer → Interaction α} (holds : P r)
    (all : ∀ answer, Asks P (next answer)) : Asks P (.once r next)
  | persist {r : Request} {next : r.Answer → Interaction α} (holds : P r)
    (all : ∀ answer, Asks P (next answer)) : Asks P (.persist r next)

theorem Asks.mono (h : p.Asks P) (himp : ∀ r, P r → Q r) : p.Asks Q := by
  induction h with
  | done a => exact .done a
  | aborted => exact .aborted
  | once holds all ih => exact .once (himp _ holds) ih
  | persist holds all ih => exact .persist (himp _ holds) ih

theorem Asks.bind {k : α → Interaction β} (h : p.Asks P) (hk : ∀ a, (k a).Asks P) :
    (p.bind k).Asks P := by
  induction h with
  | done a => exact hk a
  | aborted => exact .aborted
  | once holds all ih => exact .once holds ih
  | persist holds all ih => exact .persist holds ih

/-- Whatever a computation hears, it has asked for. -/
theorem Asks.of_plays {s t : Interaction α × Scene} {replies : List ShellReply}
    (h : Plays Scene.Takes s replies t) (hp : s.1.Asks P) :
    (∀ e ∈ replies, P e.1) ∧ t.1.Asks P := by
  induction h with
  | nil s => exact ⟨nofun, hp⟩
  | cons first others ih =>
    rw [List.forall_mem_cons]
    cases first with
    | once answer =>
      cases hp with
      | once holds all =>
        obtain ⟨hrest, hend⟩ := ih (all answer)
        exact ⟨⟨holds, hrest⟩, hend⟩
    | @persist r next scene answer =>
      have hp' := hp
      cases hp with
      | persist holds all =>
        have hnext : (Interaction.resume r next answer).Asks P := by
          rw [Interaction.resume]
          split
          · exact hp'
          · exact all answer
        obtain ⟨hrest, hend⟩ := ih hnext
        exact ⟨⟨holds, hrest⟩, hend⟩

/-- Whoever says something asks for nothing but that. -/
theorem asks_say {fd : Fd} {text : String} (h : P (.writeAll fd (Text.encode text))) :
    (say fd text).Asks P := by
  refine .once h fun answer => ?_
  cases answer with
  | ok u => exact .done ()
  | error cause => exact .aborted

theorem asks_complainAll {texts : List String}
    (h : ∀ text ∈ texts, P (.writeAll Fd.stderr (Text.encode text))) :
    (complainAll texts).Asks P := by
  induction texts with
  | nil => exact .done ()
  | cons text rest ih =>
    rw [List.forall_mem_cons] at h
    exact (asks_say h.1).bind fun _ => ih h.2

/-- The surroundings keep what they have. -/
theorem Asks.feed_eq (h : p.Asks fun r => r.isFed = false) (f : Feed) :
    p.feed f = p.bind fun a => .done (a, f) := by
  induction h with
  | done a => rfl
  | aborted => rfl
  | once holds all ih =>
    rw [feed_once_of_none _ (f.answer?_eq_none holds), Interaction.bind]
    exact congrArg (Interaction.once _) (funext ih)
  | persist holds all ih =>
    rw [feed_persist_of_none _ (f.answer?_eq_none holds), Interaction.bind]
    exact congrArg (Interaction.persist _) (funext ih)

end Interaction

theorem Phase.Moves.isFed_eq_false {l : Launcher} {phase phase' : Phase} {r : Request}
    {answer : r.Answer} (h : phase.Moves l r answer phase') : r.isFed = false := by
  cases h <;> rfl

/-- No phase of a line asks for anything that concerns the surroundings of the session. -/
theorem Phase.asks_toInteraction (r : Runner) (phase : Phase) :
    (phase.toInteraction r).Asks fun r => r.isFed = false := by
  -- induction on what is still to be done, whatever phase that belongs to
  generalize hp : phase.toInteraction r = p
  induction p generalizing phase with
  | done result => exact .done result
  | aborted => exact .aborted
  | once request next ih =>
    obtain ⟨result, rfl⟩ | rfl | ⟨request', next', heq, hmoves⟩ := phase.toInteraction_cases r
    · cases hp
    · cases hp
    · rw [heq] at hp
      split at hp
      · cases hp
      · cases hp
        obtain ⟨_, hmove, -⟩ := hmoves (.error .einval)
        refine .once hmove.isFed_eq_false fun answer => ?_
        obtain ⟨phase', -, hnext⟩ := hmoves answer
        exact ih answer phase' hnext.symm
  | persist request next ih =>
    obtain ⟨result, rfl⟩ | rfl | ⟨request', next', heq, hmoves⟩ := phase.toInteraction_cases r
    · cases hp
    · cases hp
    · rw [heq] at hp
      split at hp
      · cases hp
        obtain ⟨_, hmove, -⟩ := hmoves (.error .einval)
        refine .persist hmove.isFed_eq_false fun answer => ?_
        obtain ⟨phase', -, hnext⟩ := hmoves answer
        exact ih answer phase' hnext.symm
      · cases hp

/-- Nor does any line. -/
theorem Shell.asks_runLine (shell : Shell) (line : String) :
    (shell.runLine line).Asks fun r => r.isFed = false := by
  rw [runLine_eq, ← Phase.toInteraction_phase]
  refine (Phase.asks_toInteraction _ _).bind fun result => ?_
  exact (Interaction.asks_complainAll fun _ _ => rfl).bind fun _ => .done _

/-- **Running a line is fed nothing**, wherever the line has come from. -/
theorem Shell.feed_runLine (shell : Shell) (line : String) (f : Feed) :
    (shell.runLine line).feed f = (shell.runLine line).bind fun a => .done (a, f) :=
  (shell.asks_runLine line).feed_eq f

end PipeShell
