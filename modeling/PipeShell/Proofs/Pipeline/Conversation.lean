import PipeShell.Proofs.Pipeline.Script

/-!
# Conversations

A conversation is the list of answers that a computation of the shell gets until it is over, each
with what it answers. What a computation of several parts hears is what its parts hear, one after
another, so a conversation is taken apart in the way the computation is put together.

* `exists_of_plays_bind`, `of_plays_once`, `of_plays_persist` and `of_plays_performAll` take one
  apart, and `plays_bind_iff` puts one together. Behind a call that is made again come any number of
  interruptions; `settled` leaves them out, and `plays_callAgain_iff` says what such a call comes
  to.
* `forks` and `waits` are what a conversation tells about processes: those that have been made, with
  their plans, and what the waits for them have told. `endsMade` and `endsClosed` are what it tells
  about pipes.
* `Interaction.Speaks` says that a computation is aborted where a text could not be shown, and
  nowhere else. `exists_plays_answered` says that it may come to its end, whatever else is answered.
-/

namespace PipeShell

/-! ### Answers that settle a call -/

theorem eq_of_isInterruption {α : Type} {answer : Except Errno α}
    (h : isInterruption answer = true) : answer = .error .eintr := by
  unfold isInterruption at h
  split at h
  · rfl
  · cases h

/-- Whether an answer settles a call: it is no interruption of a call that is made again. -/
def ShellReply.settles (e : ShellReply) : Bool :=
  !(e.1.isRetried && isInterruption e.2)

/-- The answers that settle a call. -/
def settled (replies : List ShellReply) : List ShellReply :=
  replies.filter ShellReply.settles

/-- The process that has been made, with its plan, if the answer tells of one. -/
def ShellReply.fork? : ShellReply → Option (Child × Pid)
  | ⟨.fork plan, .ok pid⟩ => some (plan, pid)
  | _ => none

/-- The process that has been waited for, with what the wait has come to, if the answer settles a
wait. -/
def ShellReply.wait? : ShellReply → Option (Pid × Except Errno Ending)
  | ⟨.wait pid, answer⟩ => if isInterruption answer then none else some (pid, answer)
  | _ => none

/-- The processes that have been made, with their plans, in that order. -/
def forks (replies : List ShellReply) : List (Child × Pid) :=
  replies.filterMap ShellReply.fork?

/-- What the waits for processes have come to, in that order. -/
def waits (replies : List ShellReply) : List (Pid × Except Errno Ending) :=
  replies.filterMap ShellReply.wait?

/-- The ends of the pipe that has been made, if the answer tells of one. -/
def ShellReply.endsMade : ShellReply → List Fd
  | ⟨.pipe, .ok (read, write)⟩ => [read, write]
  | _ => []

/-- The descriptor that has been closed, if the answer is one to that. -/
def ShellReply.endClosed? : ShellReply → Option Fd
  | ⟨.close fd, _⟩ => some fd
  | _ => none

/-- The ends of the pipes that have been made, in that order. -/
def endsMade (replies : List ShellReply) : List Fd :=
  replies.flatMap ShellReply.endsMade

/-- The descriptors that have been closed, in that order. -/
def endsClosed (replies : List ShellReply) : List Fd :=
  replies.filterMap ShellReply.endClosed?

section Lists

variable (replies replies' : List ShellReply)

@[simp] theorem endsMade_append :
    endsMade (replies ++ replies') = endsMade replies ++ endsMade replies' :=
  List.flatMap_append

@[simp] theorem endsClosed_append :
    endsClosed (replies ++ replies') = endsClosed replies ++ endsClosed replies' :=
  List.filterMap_append

@[simp] theorem settled_append :
    settled (replies ++ replies') = settled replies ++ settled replies' :=
  List.filter_append replies replies'

@[simp] theorem forks_append : forks (replies ++ replies') = forks replies ++ forks replies' :=
  List.filterMap_append

@[simp] theorem waits_append : waits (replies ++ replies') = waits replies ++ waits replies' :=
  List.filterMap_append

/-- Where an answer tells of no pipe, the ends are those that were made before. -/
theorem endsMade_snoc {e : ShellReply} (h : e.endsMade = []) :
    endsMade (replies ++ [e]) = endsMade replies := by
  have hone : endsMade [e] = [] := by simp [endsMade, h]
  rw [endsMade_append, hone, List.append_nil]

/-- Where an answer tells of no process, the processes are those that were made before. -/
theorem forks_snoc {e : ShellReply} (h : e.fork? = none) :
    forks (replies ++ [e]) = forks replies := by
  have hone : forks [e] = [] := by simp [forks, h]
  rw [forks_append, hone, List.append_nil]

/-- An interruption makes no process, and tells nothing about one. -/
theorem fork?_and_wait?_of_not_settles {e : ShellReply} (h : e.settles = false) :
    e.fork? = none ∧ e.wait? = none := by
  obtain ⟨request, answer⟩ := e
  have hinterrupted : request.isRetried = true ∧ isInterruption answer = true := by
    simpa [ShellReply.settles] using h
  cases request with
  | fork plan =>
    cases answer with
    | ok pid => exact absurd hinterrupted.2 (by simp [isInterruption])
    | error cause => exact ⟨rfl, rfl⟩
  | wait pid => exact ⟨rfl, if_pos hinterrupted.2⟩
  | _ => exact ⟨rfl, rfl⟩

/-- An interruption makes no pipe, and closes nothing. -/
theorem endsMade_and_endClosed?_of_not_settles {e : ShellReply} (h : e.settles = false) :
    e.endsMade = [] ∧ e.endClosed? = none := by
  obtain ⟨request, answer⟩ := e
  have hinterrupted : request.isRetried = true ∧ isInterruption answer = true := by
    simpa [ShellReply.settles] using h
  cases request with
  | pipe =>
    cases answer with
    | ok ends => exact absurd hinterrupted.2 (by simp [isInterruption])
    | error cause => exact ⟨rfl, rfl⟩
  | close fd => exact absurd hinterrupted.1 (by simp [Request.isRetried])
  | _ => exact ⟨rfl, rfl⟩

@[simp] theorem forks_settled : forks (settled replies) = forks replies := by
  rw [forks, settled, List.filterMap_filter]
  have hfork : (fun e : ShellReply => if e.settles then e.fork? else none) = ShellReply.fork? := by
    funext e
    cases h : e.settles with
    | true => rfl
    | false => exact (fork?_and_wait?_of_not_settles h).1.symm
  rw [hfork, forks]

@[simp] theorem waits_settled : waits (settled replies) = waits replies := by
  rw [waits, settled, List.filterMap_filter]
  have hwait : (fun e : ShellReply => if e.settles then e.wait? else none) = ShellReply.wait? := by
    funext e
    cases h : e.settles with
    | true => rfl
    | false => exact (fork?_and_wait?_of_not_settles h).2.symm
  rw [hwait, waits]

end Lists

/-- What is asked once is settled by any answer. -/
theorem settled_eq_self {replies : List ShellReply} (h : ∀ e ∈ replies, e.1.isRetried = false) :
    settled replies = replies := by
  refine List.filter_eq_self.mpr fun e he => ?_
  simp [ShellReply.settles, h e he]

/-- Nothing is known of processes from answers about other things. -/
theorem forks_eq_nil {replies : List ShellReply} (h : ∀ e ∈ replies, e.1.isRetried = false) :
    forks replies = [] := by
  refine List.filterMap_eq_nil_iff.mpr fun e he => ?_
  obtain ⟨request, answer⟩ := e
  cases request with
  | fork plan => exact absurd (h _ he) (by simp [Request.isRetried])
  | _ => rfl

theorem waits_eq_nil {replies : List ShellReply} (h : ∀ e ∈ replies, e.1.isRetried = false) :
    waits replies = [] := by
  refine List.filterMap_eq_nil_iff.mpr fun e he => ?_
  obtain ⟨request, answer⟩ := e
  cases request with
  | wait pid => exact absurd (h _ he) (by simp [Request.isRetried])
  | _ => rfl

/-- An answer that tells of a process is the one by which it has been made. -/
theorem eq_of_mem_forks {e : ShellReply} {made : Child × Pid} (h : made ∈ forks [e]) :
    e = ⟨.fork made.1, .ok made.2⟩ := by
  obtain ⟨request, answer⟩ := e
  cases request with
  | fork plan =>
    cases answer with
    | ok pid =>
      obtain rfl : made = (plan, pid) := List.mem_singleton.mp h
      rfl
    | error cause => cases h
  | _ => cases h

/-- What is told of a wait is an answer that has settled it. -/
theorem mem_of_mem_waits {replies : List ShellReply} {told : Pid × Except Errno Ending}
    (h : told ∈ waits replies) :
    ⟨.wait told.1, told.2⟩ ∈ replies ∧ isInterruption told.2 = false := by
  obtain ⟨⟨request, answer⟩, hmem, hwait⟩ := List.mem_filterMap.mp h
  cases request with
  | wait pid =>
    have hsettled : (if isInterruption answer then none else some (pid, answer)) = some told :=
      hwait
    split at hsettled
    · cases hsettled
    · rename_i hno
      obtain rfl := Option.some.inj hsettled
      exact ⟨hmem, Bool.eq_false_iff.mpr hno⟩
  | _ => cases hwait

/-! ### Texts -/

/-- Whether the answer is that a text could not be shown. -/
def ShellReply.isUnshown : ShellReply → Bool
  | ⟨.writeAll _ _, .error _⟩ => true
  | _ => false

/-- The answer that a text has been shown. -/
def ShellReply.ofText (fd : Fd) (text : String) : ShellReply :=
  ⟨.writeAll fd (Text.encode text), .ok ()⟩

/-- An answer that settles a request: texts are shown, and all else fails. -/
def Request.plainAnswer : (r : Request) → r.Answer
  | .writeAll _ _ => .ok ()
  | _ => .error .einval

theorem Request.isInterruption_plainAnswer (r : Request) :
    isInterruption r.plainAnswer = false := by
  cases r <;> rfl

theorem Request.isUnshown_plainAnswer (r : Request) :
    ShellReply.isUnshown ⟨r, r.plainAnswer⟩ = false := by
  cases r <;> rfl

namespace Interaction

/-- Whether a computation is aborted where a text could not be shown, and nowhere else. -/
inductive Speaks {α : Type} : Interaction α → Prop where
  | done (a : α) : Speaks (.done a)
  | once {r : Request} {next : r.Answer → Interaction α}
    (heard : ∀ answer, ShellReply.isUnshown ⟨r, answer⟩ = false → Speaks (next answer))
    (unheard : ∀ answer, ShellReply.isUnshown ⟨r, answer⟩ = true → next answer = .aborted) :
    Speaks (.once r next)
  | persist {r : Request} {next : r.Answer → Interaction α}
    (other : ∀ answer, ShellReply.isUnshown ⟨r, answer⟩ = false)
    (all : ∀ answer, Speaks (next answer)) : Speaks (.persist r next)

section Speaks

variable {α β : Type}

theorem Speaks.bind {p : Interaction α} {f : α → Interaction β} (h : p.Speaks)
    (hf : ∀ a, (f a).Speaks) : (p.bind f).Speaks := by
  induction h with
  | done a => exact hf a
  | once heard unheard ih =>
    exact .once ih fun answer hunshown => by rw [unheard answer hunshown]; rfl
  | persist other all ih => exact .persist other ih

theorem speaks_once {r : Request} {next : r.Answer → Interaction α}
    (other : ∀ answer, ShellReply.isUnshown ⟨r, answer⟩ = false)
    (all : ∀ answer, (next answer).Speaks) : (once r next).Speaks :=
  .once (fun answer _ => all answer) fun answer hunshown => by
    rw [other answer] at hunshown
    cases hunshown

theorem speaks_say (fd : Fd) (text : String) : (say fd text).Speaks := by
  refine .once (fun answer hshown => ?_) fun answer hunshown => ?_
  · cases answer with
    | ok u => exact .done ()
    | error cause => cases hshown
  · cases answer with
    | ok u => cases hunshown
    | error cause => rfl

theorem speaks_complainAll (texts : List String) : (complainAll texts).Speaks := by
  induction texts with
  | nil => exact .done ()
  | cons text rest ih => exact (speaks_say Fd.stderr text).bind fun _ => ih

end Speaks

end Interaction

/-! ### Taking conversations apart -/

theorem Plays.append {σ ε : Type} {takes : σ → ε → σ → Prop} {s t u : σ} {list list' : List ε}
    (h : Plays takes s list t) (h' : Plays takes t list' u) : Plays takes s (list ++ list') u := by
  induction h with
  | nil s => exact h'
  | cons first others ih => exact .cons first (ih h')

/-- Where an answer stands in a list, the list leads to a state that takes it. -/
theorem Plays.exists_takes {σ ε : Type} {takes : σ → ε → σ → Prop} {s u : σ} {before after : List ε}
    {e : ε} (h : Plays takes s (before ++ e :: after) u) :
    ∃ t t', Plays takes s before t ∧ takes t e t' ∧ Plays takes t' after u := by
  induction before generalizing s with
  | nil =>
    cases h with
    | cons first others => exact ⟨_, _, .nil _, first, others⟩
  | cons e' rest ih =>
    cases h with
    | cons first others =>
      obtain ⟨t, t', hbefore, htakes, hafter⟩ := ih others
      exact ⟨t, t', .cons first hbefore, htakes, hafter⟩

namespace Scene

variable {α β : Type} {scene scene' : Scene} {replies : List ShellReply}

/-- Nothing is heard behind the end. -/
theorem of_plays_done {a b : α}
    (h : Plays Takes (.done a, scene) replies (.done b, scene')) :
    replies = [] ∧ b = a ∧ scene' = scene := by
  cases h with
  | nil => exact ⟨rfl, rfl, rfl⟩
  | cons first others => cases first

theorem of_plays_once {r : Request} {next : r.Answer → Interaction α} {a : α}
    (h : Plays Takes (.once r next, scene) replies (.done a, scene')) :
    ∃ answer rest, replies = ⟨r, answer⟩ :: rest ∧
      Plays Takes (next answer, scene.after r answer) rest (.done a, scene') := by
  cases h with
  | cons first others =>
    cases first with
    | once answer => exact ⟨answer, _, rfl, others⟩

/-- An answer that is no interruption settles a call. -/
theorem takes_persist {r : Request} {next : r.Answer → Interaction α} {answer : r.Answer}
    (h : isInterruption answer = false) :
    Takes (.persist r next, scene) ⟨r, answer⟩ (next answer, scene.after r answer) := by
  have hsettled : Interaction.resume r next answer = next answer :=
    if_neg (Bool.eq_false_iff.mp h)
  rw [← hsettled]
  exact .persist answer

/-- A call that is made again is settled at last. -/
theorem of_plays_persist {r : Request} {next : r.Answer → Interaction α} {a : α}
    (hretried : r.isRetried = true)
    (h : Plays Takes (.persist r next, scene) replies (.done a, scene')) :
    ∃ answer rest, isInterruption answer = false ∧ settled replies = ⟨r, answer⟩ :: settled rest ∧
      Plays Takes (next answer, scene.after r answer) rest (.done a, scene') := by
  -- induction on the answers, the first of which may be interruptions
  induction replies with
  | nil => cases h
  | cons e rest ih =>
    cases h with
    | cons first others =>
      cases first with
      | persist answer =>
        rw [Interaction.resume] at others
        cases hinterrupted : isInterruption answer with
        | false =>
          have hsettles : ShellReply.settles ⟨r, answer⟩ = true := by
            simp [ShellReply.settles, hinterrupted]
          rw [if_neg (by simp [hinterrupted])] at others
          exact ⟨answer, rest, hinterrupted, List.filter_cons_of_pos hsettles, others⟩
        | true =>
          obtain rfl : answer = .error .eintr := eq_of_isInterruption hinterrupted
          have hsettles : ¬ShellReply.settles ⟨r, .error .eintr⟩ = true := by
            simp [ShellReply.settles, hretried, isInterruption]
          rw [if_pos hinterrupted, after_interruption scene hretried] at others
          obtain ⟨answer, rest', hsettled, hrest, hnext⟩ := ih others
          exact ⟨answer, rest', hsettled, (List.filter_cons_of_neg hsettles).trans hrest, hnext⟩

theorem plays_cons_persist_iff {r : Request} {next : r.Answer → Interaction α} {answer : r.Answer}
    {t : Interaction α × Scene} :
    Plays Takes (.persist r next, scene) (⟨r, answer⟩ :: replies) t ↔
      Plays Takes (Interaction.resume r next answer, scene.after r answer) replies t := by
  refine ⟨fun h => ?_, .cons (.persist answer)⟩
  cases h with
  | cons first others =>
    cases first with
    | persist => exact others

/-- **The repetition alone is the repetition in a computation.** A call that is made again is over
with an answer exactly if that is the first one that is no interruption, and nothing comes behind
it. -/
theorem plays_callAgain_iff {r : Request} {answers : List r.Answer} {answer : r.Answer} :
    (∃ scene', Plays Takes (Interaction.callAgain r, scene) (answers.map (Sigma.mk r))
        (.done answer, scene')) ↔ settled? answers = some (answer, answers.length) := by
  rw [Interaction.callAgain]
  induction answers generalizing scene with
  | nil =>
    refine iff_of_false ?_ nofun
    rintro ⟨scene', hplays⟩
    cases hplays
  | cons first rest ih =>
    rw [settled?, List.length_cons, List.map_cons]
    simp only [plays_cons_persist_iff, Interaction.resume]
    cases hinterrupted : isInterruption first with
    | true => simp [ih]
    | false =>
      simp only [Bool.false_eq_true, if_false]
      constructor
      · rintro ⟨scene', hplays⟩
        obtain ⟨hrest, rfl, -⟩ := of_plays_done hplays
        rw [List.map_eq_nil_iff.mp hrest]
        rfl
      · intro hsettled
        obtain ⟨rfl, hlength⟩ := Prod.mk.inj (Option.some.inj hsettled)
        obtain rfl : rest = [] := List.length_eq_zero_iff.mp (Nat.succ.inj hlength).symm
        exact ⟨_, .nil _⟩

/-- A call of the first part is a call of the whole. -/
theorem resume_bind (r : Request) (next : r.Answer → Interaction α) (f : α → Interaction β)
    (answer : r.Answer) : Interaction.resume r (fun answer => (next answer).bind f) answer =
      (Interaction.resume r next answer).bind f := by
  rw [Interaction.resume, Interaction.resume]
  split <;> rfl

/-- What a computation of two parts hears is what the first hears, and then the second. -/
theorem exists_of_plays_bind {p : Interaction α} {f : α → Interaction β} {b : β}
    (h : Plays Takes (p.bind f, scene) replies (.done b, scene')) :
    ∃ before after a middle, replies = before ++ after ∧
      Plays Takes (p, scene) before (.done a, middle) ∧
      Plays Takes (f a, middle) after (.done b, scene') := by
  -- induction on what is heard; the first part hears it until it is over
  induction replies generalizing p scene with
  | nil =>
    cases p with
    | done a => exact ⟨[], [], a, scene, rfl, .nil _, h⟩
    | aborted => cases h
    | once r next => cases h
    | persist r next => cases h
  | cons e rest ih =>
    cases p with
    | done a => exact ⟨[], e :: rest, a, scene, rfl, .nil _, h⟩
    | aborted =>
      cases h with
      | cons first others => cases first
    | once r next =>
      cases h with
      | cons first others =>
        cases first with
        | once answer =>
          obtain ⟨before, after, a, middle, rfl, hbefore, hafter⟩ := ih others
          exact ⟨_ :: before, after, a, middle, rfl, .cons (.once answer) hbefore, hafter⟩
    | persist r next =>
      cases h with
      | cons first others =>
        cases first with
        | persist answer =>
          rw [resume_bind] at others
          obtain ⟨before, after, a, middle, rfl, hbefore, hafter⟩ := ih others
          exact ⟨_ :: before, after, a, middle, rfl, .cons (.persist answer) hbefore, hafter⟩

/-- Behind the end of the first part, the second part goes on. -/
theorem plays_bind_iff {p : Interaction α} {f : α → Interaction β} {a : α} {middle : Scene}
    (h : Plays Takes (p, scene) replies (.done a, middle)) (others : List ShellReply)
    (t : Interaction β × Scene) :
    Plays Takes (p.bind f, scene) (replies ++ others) t ↔ Plays Takes (f a, middle) others t := by
  induction replies generalizing p scene with
  | nil =>
    cases h with
    | nil => exact Iff.rfl
  | cons e rest ih =>
    cases h with
    | cons first heard =>
      -- each answer is one for both computations
      cases first with
      | @once r next _ answer =>
        rw [← ih heard]
        constructor
        · intro hplays
          cases hplays with
          | cons first' others' =>
            cases first' with
            | once => exact others'
        · exact .cons (.once answer)
      | @persist r next _ answer =>
        rw [← ih heard, ← resume_bind]
        constructor
        · intro hplays
          cases hplays with
          | cons first' others' =>
            cases first' with
            | persist => exact others'
        · exact .cons (.persist answer)

/-- What the first part hears, the whole hears, with the second part still to come. -/
theorem plays_bind {p q : Interaction α} (h : Plays Takes (p, scene) replies (q, scene'))
    (f : α → Interaction β) : Plays Takes (p.bind f, scene) replies (q.bind f, scene') := by
  induction replies generalizing p scene with
  | nil =>
    cases h with
    | nil => exact .nil _
  | cons e rest ih =>
    cases h with
    | cons first heard =>
      cases first with
      | once answer => exact .cons (.once answer) (ih heard)
      | @persist r next _ answer =>
        have hrest := ih heard
        rw [← resume_bind] at hrest
        exact .cons (.persist answer) hrest

/-- Requests that are made one after another are answered one after another. -/
theorem of_plays_performAll {requests : List Request} {u : Unit}
    (h : Plays Takes (Interaction.performAll requests, scene) replies (.done u, scene')) :
    replies.map Sigma.fst = requests := by
  induction requests generalizing scene replies with
  | nil =>
    obtain ⟨rfl, -⟩ := of_plays_done h
    rfl
  | cons r rest ih =>
    obtain ⟨answer, replies', rfl, hrest⟩ := of_plays_once h
    rw [List.map_cons, ih hrest]

/-- What is heard when a text has been shown. -/
theorem of_plays_say {fd : Fd} {text : String} {u : Unit}
    (h : Plays Takes (Interaction.say fd text, scene) replies (.done u, scene')) :
    replies = [.ofText fd text] ∧ scene' = scene := by
  obtain ⟨answer, rest, rfl, hrest⟩ := of_plays_once h
  cases answer with
  | ok v =>
    obtain ⟨rfl, -, rfl⟩ := of_plays_done hrest
    exact ⟨rfl, rfl⟩
  | error cause =>
    cases hrest with
    | cons first => cases first

theorem plays_say (fd : Fd) (text : String) (scene : Scene) :
    Plays Takes (Interaction.say fd text, scene) [.ofText fd text] (.done (), scene) :=
  .cons (.once (show (Request.writeAll fd (Text.encode text)).Answer from .ok ())) (.nil _)

/-- Texts are shown one after another. -/
theorem of_plays_complainAll {texts : List String} {u : Unit}
    (h : Plays Takes (Interaction.complainAll texts, scene) replies (.done u, scene')) :
    replies = texts.map (.ofText Fd.stderr) ∧ scene' = scene := by
  induction texts generalizing scene replies with
  | nil =>
    obtain ⟨rfl, -, rfl⟩ := of_plays_done h
    exact ⟨rfl, rfl⟩
  | cons text rest ih =>
    obtain ⟨before, after, v, middle, rfl, hfirst, hrest⟩ := exists_of_plays_bind h
    obtain ⟨rfl, rfl⟩ := of_plays_say hfirst
    obtain ⟨rfl, rfl⟩ := ih hrest
    exact ⟨rfl, rfl⟩

theorem plays_complainAll (texts : List String) (scene : Scene) :
    Plays Takes (Interaction.complainAll texts, scene) (texts.map (.ofText Fd.stderr))
      (.done (), scene) := by
  induction texts with
  | nil => exact .nil _
  | cons text rest ih => exact (plays_bind_iff (plays_say Fd.stderr text scene) _ _).mpr ih

/-- **A computation that speaks may come to its end**, whatever each call is answered, as long as
its texts are taken and none of its calls is interrupted for ever. -/
theorem exists_plays_answered {p : Interaction α} (hp : p.Speaks)
    (choose : (r : Request) → r.Answer) (hsettled : ∀ r, isInterruption (choose r) = false)
    (hshown : ∀ fd bytes, choose (.writeAll fd bytes) = .ok ()) (scene : Scene) :
    ∃ replies a scene', Plays Takes (p, scene) replies (.done a, scene') ∧
      ∀ e ∈ replies, e.2 = choose e.1 := by
  have hheard : ∀ r, ShellReply.isUnshown ⟨r, choose r⟩ = false := by
    intro r
    cases r with
    | writeAll fd bytes => rw [hshown fd bytes]; rfl
    | _ => rfl
  induction hp generalizing scene with
  | done a => exact ⟨[], a, scene, .nil _, List.forall_mem_nil _⟩
  | @once r next heard unheard ih =>
    obtain ⟨replies, a, scene', hnext, hchosen⟩ :=
      ih (choose r) (hheard r) (scene.after r (choose r))
    exact ⟨⟨r, choose r⟩ :: replies, a, scene', .cons (.once _) hnext,
      List.forall_mem_cons.mpr ⟨rfl, hchosen⟩⟩
  | @persist r next other all ih =>
    obtain ⟨replies, a, scene', hnext, hchosen⟩ := ih (choose r) (scene.after r (choose r))
    exact ⟨⟨r, choose r⟩ :: replies, a, scene', .cons (takes_persist (hsettled r)) hnext,
      List.forall_mem_cons.mpr ⟨rfl, hchosen⟩⟩

theorem exists_plays_done {p : Interaction α} (hp : p.Speaks) (scene : Scene) :
    ∃ replies a scene', Plays Takes (p, scene) replies (.done a, scene') := by
  obtain ⟨replies, a, scene', hplays, -⟩ :=
    exists_plays_answered hp Request.plainAnswer Request.isInterruption_plainAnswer
      (fun _ _ => rfl) scene
  exact ⟨replies, a, scene', hplays⟩

/-- One answer later a computation still speaks, or a text could not be shown and it is aborted. -/
theorem speaks_of_takes {s t : Interaction α × Scene} {e : ShellReply} (hs : s.1.Speaks)
    (h : Takes s e t) : e.isUnshown = false ∧ t.1.Speaks ∨ e.isUnshown = true ∧ t.1 = .aborted := by
  cases h with
  | @once r next scene answer =>
    cases hs with
    | once heard unheard =>
      cases hshown : ShellReply.isUnshown ⟨r, answer⟩ with
      | false => exact .inl ⟨rfl, heard answer hshown⟩
      | true => exact .inr ⟨rfl, unheard answer hshown⟩
  | @persist r next scene answer =>
    cases hs with
    | persist other all =>
      refine .inl ⟨other answer, ?_⟩
      change (Interaction.resume r next answer).Speaks
      rw [Interaction.resume]
      split
      · exact .persist other all
      · exact all answer

/-- **What a computation that speaks may come to**: it still speaks and all texts have been shown,
or the last answer is that a text could not be shown. -/
theorem speaks_of_plays {s t : Interaction α × Scene} (hs : s.1.Speaks)
    (h : Plays Takes s replies t) :
    (t.1.Speaks ∧ ∀ e ∈ replies, e.isUnshown = false) ∨
      t.1 = .aborted ∧ ∃ before e, replies = before ++ [e] ∧ e.isUnshown = true := by
  induction h with
  | nil s => exact .inl ⟨hs, List.forall_mem_nil _⟩
  | @cons s t u e rest first others ih =>
    obtain ⟨hshown, ht⟩ | ⟨hunshown, ht⟩ := speaks_of_takes hs first
    · obtain ⟨hu, hall⟩ | ⟨hu, before, e', rfl, he'⟩ := ih ht
      · exact .inl ⟨hu, List.forall_mem_cons.mpr ⟨hshown, hall⟩⟩
      · exact .inr ⟨hu, e :: before, e', rfl, he'⟩
    · -- nothing comes behind an abortion
      obtain ⟨p, scene⟩ := t
      obtain rfl : p = .aborted := ht
      cases others with
      | nil => exact .inr ⟨rfl, [], e, rfl, hunshown⟩
      | cons first' => cases first'

/-- What an answer adds to the processes: one with a copy of the table, if it tells of one. -/
theorem after_workers (scene : Scene) (e : ShellReply) :
    (scene.after e.1 e.2).workers =
      scene.workers ++ (forks [e]).map fun made => ⟨made.2, scene.table, .preparing made.1⟩ := by
  obtain ⟨request, answer⟩ := e
  cases request with
  | pipe => cases answer <;> exact (List.append_nil _).symm
  | fork plan =>
    cases answer with
    | ok pid => rfl
    | error cause => exact (List.append_nil _).symm
  | _ => exact (List.append_nil _).symm

/-- What one answer adds to the processes. -/
theorem workers_after (scene : Scene) (e : ShellReply) :
    (scene.after e.1 e.2).workers.map (fun w => (w.life, w.pid)) =
      scene.workers.map (fun w => (w.life, w.pid)) ++
        (forks [e]).map fun made => (.preparing made.1, made.2) := by
  rw [after_workers, List.map_append, List.map_map]
  rfl

/-- The processes that a conversation has made, each with its plan before it. -/
theorem workers_of_plays {s t : Interaction α × Scene} (h : Plays Takes s replies t) :
    t.2.workers.map (fun w => (w.life, w.pid)) = s.2.workers.map (fun w => (w.life, w.pid)) ++
      (forks replies).map fun made => (.preparing made.1, made.2) := by
  induction h with
  | nil s => exact (List.append_nil _).symm
  | @cons s t u e rest first others ih =>
    have hone : t.2.workers.map (fun w => (w.life, w.pid)) =
        s.2.workers.map (fun w => (w.life, w.pid)) ++
          (forks [e]).map fun made => (.preparing made.1, made.2) := by
      cases first with
      | @once r next scene answer => exact workers_after scene ⟨r, answer⟩
      | @persist r next scene answer => exact workers_after scene ⟨r, answer⟩
    rw [ih, hone, ← List.singleton_append (l := rest), forks_append, List.map_append,
      List.append_assoc]

end Scene

end PipeShell
