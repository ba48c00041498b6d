import PipeShell.Proofs.Session.Requests

/-!
# The runs of a session are those of its loop

A session is a computation, and what it asks for is answered one request after the other. Its loop
says more: where in a round it stands, which line it has started, which one is over. Here the two
are compared over whole runs, with requests to stop that may come in at any moment.

* `Occurs` is what may happen to any computation among requests to stop.
* `Point.left` is what is left of a session when its loop stands at a point.
* `Loop.plays_rounds_iff` says that a session and its loop are brought from one thing to the next by
  the same answers and requests, and `Loop.exists_steps_of_rounds` what that means for a session of
  some rounds that is over.
-/

namespace PipeShell

/-- What may happen to a computation among requests to stop: one comes in, or an answer does. -/
inductive Occurs {α : Type} : Interaction α × List Signal → Loop.Happening →
    Interaction α × List Signal → Prop where
  | request {p : Interaction α} {requests : List Signal} (signal : Signal) :
    Occurs (p, requests) (.request signal) (p, requests ++ [signal])
  | answer {p p' : Interaction α} {requests requests' : List Signal} {e : ShellReply}
    (hears : Hears (p, requests) e (p', requests')) :
    Occurs (p, requests) (.answer e) (p', requests')

section Hears

variable {α β : Type} {p p' : Interaction α} {q : Interaction β} {f : α → Interaction β}
  {requests requests' : List Signal} {e : ShellReply}

theorem Hears.bind (h : Hears (p, requests) e (p', requests')) (f : α → Interaction β) :
    Hears (p.bind f, requests) e (p'.bind f, requests') := by
  cases h with
  | poll => exact .poll requests
  | once other answer => exact .once other answer
  | @persist r next _ other answer =>
    rw [← Scene.resume_bind]
    exact .persist other answer

/-- What a computation of two parts hears is for the first, unless that is over. -/
theorem exists_of_hears_bind (h : Hears (p.bind f, requests) e (q, requests'))
    (hp : ∀ a, p ≠ .done a) : ∃ p', Hears (p, requests) e (p', requests') ∧ p'.bind f = q := by
  cases p with
  | done a => exact absurd rfl (hp a)
  | aborted => cases h
  | once r next =>
    cases h with
    | poll => exact ⟨_, .poll requests, rfl⟩
    | once other answer => exact ⟨_, .once other answer, rfl⟩
  | persist r next =>
    cases h with
    | persist other answer =>
      exact ⟨_, .persist other answer, (Scene.resume_bind r next f answer).symm⟩

/-- A computation of two parts is over when both are. -/
theorem exists_of_bind_eq_done {b : β} (h : p.bind f = .done b) :
    ∃ a, p = .done a ∧ f a = .done b := by
  cases p with
  | done a => exact ⟨a, rfl, h⟩
  | _ => cases h

end Hears

/-! ### What is left of a session -/

namespace Loop

/-- What a session does behind a round, if `n` more are to come. -/
def goOn (n : Nat) : Loop ⊕ Int → Interaction (Session ⊕ Int)
  | .inl l => l.session.rounds n
  | .inr status => .done (.inr status)

theorem rounds_succ (l : Loop) (n : Nat) : l.session.rounds (n + 1) = l.round.bind (goOn n) := by
  rw [Session.rounds, turn_eq, Interaction.bind_assoc]
  refine congrArg _ (funext fun r => ?_)
  cases r <;> rfl

/-- Whether something happens to the session, and not only in its loop. -/
def Happening.isOutward : Happening → Bool
  | request _ => true
  | answer _ => true
  | _ => false

/-- How many rounds begin. -/
def Happening.begins : Happening → Nat
  | round => 1
  | _ => 0

theorem Happening.begins_eq_zero {e : Happening} (he : e.isOutward = true) : e.begins = 0 := by
  cases e with
  | round => cases he
  | _ => rfl

/-- How many rounds have begun. -/
def begun (happenings : List Happening) : Nat :=
  (happenings.map Happening.begins).sum

@[simp] theorem begun_nil : begun [] = 0 := rfl

@[simp] theorem begun_cons (e : Happening) (rest : List Happening) :
    begun (e :: rest) = e.begins + begun rest := List.sum_cons

theorem begun_append (list list' : List Happening) :
    begun (list ++ list') = begun list + begun list' := by
  rw [begun, List.map_append, List.sum_append, begun, begun]

end Loop

namespace Point

/-- What is left of a session whose loop stands at a point, with `n` more rounds behind this one. -/
def left (pt : Point) (n : Nat) : Interaction (Session ⊕ Int) :=
  pt.toInteraction.bind (Loop.goOn n)

theorem left_listening (p : Interaction (Loop × Heard)) (n : Nat) :
    (listening p).left n = p.bind fun heard => (Loop.respond heard).bind (Loop.goOn n) :=
  Interaction.bind_assoc _ _ _

theorem left_running (l : Loop) (line : String) (p : Interaction (Shell × Option Int)) (n : Nat) :
    (running l line p).left n =
      p.bind fun (shell, stop) => ((l.behind shell).settle stop).bind (Loop.goOn n) :=
  Interaction.bind_assoc _ _ _

theorem left_leaving (status : Int) (p : Interaction Unit) (n : Nat) :
    (leaving status p).left n = p.bind fun _ => .done (.inr status) :=
  Interaction.bind_assoc _ _ _

/-- Whether nothing happens without an answer: the part of the round that a loop is in is not over,
and there is no further round to begin. -/
def IsAwake : Point → Nat → Prop
  | between _, n => n = 0
  | listening p, _ => ∀ a, p ≠ .done a
  | running _ _ p, _ => ∀ a, p ≠ .done a
  | _, _ => True

/-- Where a loop stands when its session has come to `r`. -/
inductive IsBehind : Session ⊕ Int → Point → Prop where
  | goesOn (l : Loop) : IsBehind (.inl l.session) (.between l)
  | ended (status : Int) : IsBehind (.inr status) (.leaving status (.done ()))

end Point

namespace Loop

variable {s t : Point × List Signal} {pt pt' : Point} {requests requests' : List Signal}
  {e : Happening} {happenings : List Happening} {q : Interaction (Session ⊕ Int)} {n : Nat}

/-! ### From the loop to the session -/

/-- What a loop hears, its session hears. -/
theorem Steps.hears {reply : ShellReply}
    (h : Steps (pt, requests) (.answer reply) (pt', requests')) :
    Hears (pt.toInteraction, requests) reply (pt'.toInteraction, requests') := by
  cases h with
  | listen hears => exact hears.bind respond
  | run hears => exact hears.bind _
  | @pollNothing l => exact .poll []
  | @pollRequest l signal => exact .poll (signal :: requests')
  | leave hears => exact hears.bind _

/-- What happens to a session when it happens to its loop. -/
theorem Steps.occurs (h : Steps (pt, requests) e (pt', requests')) (he : e.isOutward = true)
    (n : Nat) : Occurs (pt.left n, requests) e (pt'.left n, requests') := by
  cases e with
  | request signal =>
    cases h with
    | request => exact .request signal
  | answer reply => exact .answer (h.hears.bind _)
  | _ => cases he

/-- Anything else leaves alone what is left of the session, unless a round begins, and then there is
one round less to come. -/
theorem Steps.left_eq (h : Steps (pt, requests) e (pt', requests')) (he : e.isOutward = false)
    (n : Nat) : pt.left (n + e.begins) = pt'.left n ∧ requests' = requests := by
  have hleft : ∀ {pt pt' : Point}, pt.toInteraction = pt'.toInteraction → pt.left n = pt'.left n :=
    fun heq => congrArg (Interaction.bind · (goOn n)) heq
  cases h with
  | @round l => exact ⟨l.rounds_succ n, rfl⟩
  | idle => exact ⟨hleft rfl, rfl⟩
  | ended => exact ⟨hleft rfl, rfl⟩
  | start => exact ⟨hleft rfl, rfl⟩
  | stop => exact ⟨hleft rfl, rfl⟩
  | resolve => exact ⟨hleft rfl, rfl⟩
  | _ => cases he

/-- **Every run of a loop is one of its session**, with the same answers and requests. -/
theorem occurs_of_plays (h : Plays Steps s happenings t) (n : Nat) :
    Plays Occurs (s.1.left (n + begun happenings), s.2)
      (happenings.filter Happening.isOutward) (t.1.left n, t.2) := by
  induction h with
  | nil s => exact .nil _
  | @cons s middle t e rest first others ih =>
    obtain ⟨pt, requests⟩ := s
    obtain ⟨pt', requests'⟩ := middle
    cases he : e.isOutward with
    | true =>
      rw [List.filter_cons_of_pos he, begun_cons, Happening.begins_eq_zero he, Nat.zero_add]
      exact .cons (first.occurs he _) ih
    | false =>
      obtain ⟨hleft, rfl⟩ := first.left_eq he (n + begun rest)
      rw [List.filter_cons_of_neg (Bool.eq_false_iff.mp he), begun_cons, Nat.add_comm e.begins,
        ← Nat.add_assoc, hleft]
      exact ih

/-! ### From the session to the loop -/

/-- Whether a loop can go on by itself until it waits for an answer, or there is nothing left. -/
def Wakes (pt : Point) (requests : List Signal) (n : Nat) : Prop :=
  ∃ silent pt' m, Plays Steps (pt, requests) silent (pt', requests) ∧
    silent.filter Happening.isOutward = [] ∧ m + begun silent = n ∧ pt'.left m = pt.left n ∧
    pt'.IsAwake m

theorem wakes_of_isAwake (h : pt.IsAwake n) : Wakes pt requests n :=
  ⟨[], pt, n, .nil _, rfl, rfl, rfl, h⟩

theorem Steps.wakes (h : Steps (pt, requests) e (pt', requests)) (he : e.isOutward = false)
    (hpt : Wakes pt' requests n) : Wakes pt requests (n + e.begins) := by
  obtain ⟨silent, last, m, hplays, hsilent, rfl, hleft, hawake⟩ := hpt
  refine ⟨e :: silent, last, m, .cons h hplays, ?_, ?_, ?_, hawake⟩
  · rw [List.filter_cons_of_neg (Bool.eq_false_iff.mp he), hsilent]
  · rw [begun_cons]
    omega
  · rw [hleft, (h.left_eq he _).1]

theorem wakes_running (l : Loop) (line : String) (p : Interaction (Shell × Option Int)) :
    Wakes (.running l line p) requests n := by
  cases p with
  | done a =>
    obtain ⟨shell, stop⟩ := a
    cases stop with
    | some status =>
      have hleaves : Wakes (.leaving status (l.behind shell).part) requests n :=
        wakes_of_isAwake trivial
      exact Steps.stop.wakes rfl hleaves
    | none =>
      have hpolls : Wakes (.polling (l.behind shell)) requests n := wakes_of_isAwake trivial
      exact Steps.resolve.wakes rfl hpolls
  | _ => exact wakes_of_isAwake (by rintro a ⟨⟩)

theorem wakes_listening (hbetween : ∀ l : Loop, Wakes (.between l) requests n)
    (p : Interaction (Loop × Heard)) : Wakes (.listening p) requests n := by
  cases p with
  | done a =>
    obtain ⟨l, heard⟩ := a
    cases heard with
    | line line => exact Steps.start.wakes rfl (wakes_running l line _)
    | nothing => exact Steps.idle.wakes rfl (hbetween l)
    | ended status =>
      have hleaves : Wakes (.leaving status (.done ())) requests n := wakes_of_isAwake trivial
      exact Steps.ended.wakes rfl hleaves
  | _ => exact wakes_of_isAwake (by rintro a ⟨⟩)

/-- Between two rounds the next one begins, and if nothing is heard in it, the one behind it. -/
theorem wakes_between (l : Loop) : Wakes (.between l) requests n := by
  induction n generalizing l with
  | zero => exact wakes_of_isAwake rfl
  | succ n ih => exact Steps.round.wakes rfl (wakes_listening ih l.listen)

/-- **A loop always wakes up.** -/
theorem wakes (pt : Point) (requests : List Signal) (n : Nat) : Wakes pt requests n := by
  cases pt with
  | between l => exact wakes_between l
  | listening p => exact wakes_listening wakes_between p
  | running l line p => exact wakes_running l line p
  | polling l => exact wakes_of_isAwake trivial
  | leaving status p => exact wakes_of_isAwake trivial

/-- What a session hears, its loop hears when it is awake. -/
theorem exists_step_of_hears {reply : ShellReply} (hpt : pt.IsAwake n)
    (h : Hears (pt.left n, requests) reply (q, requests')) :
    ∃ pt', Steps (pt, requests) (.answer reply) (pt', requests') ∧ pt'.left n = q := by
  cases pt with
  | between l =>
    obtain rfl := hpt
    cases h
  | listening p =>
    rw [Point.left_listening] at h
    obtain ⟨p', hears, rfl⟩ := exists_of_hears_bind h hpt
    exact ⟨_, .listen hears, Point.left_listening _ _⟩
  | running l line p =>
    rw [Point.left_running] at h
    obtain ⟨p', hears, rfl⟩ := exists_of_hears_bind h hpt
    exact ⟨_, .run hears, Point.left_running _ _ _ _⟩
  | polling l =>
    cases h with
    | poll =>
      cases requests with
      | nil => exact ⟨_, .pollNothing, rfl⟩
      | cons signal rest => exact ⟨_, .pollRequest, rfl⟩
    | once other answer => exact absurd rfl other
  | leaving status p =>
    have hp : ∀ u, p ≠ .done u := by
      rintro u rfl
      cases h
    rw [Point.left_leaving] at h
    obtain ⟨p', hears, rfl⟩ := exists_of_hears_bind h hp
    exact ⟨_, .leave hears, Point.left_leaving _ _ _⟩

/-- A loop that is awake when its session is over stands behind it. -/
theorem isBehind_of_left_eq {r : Session ⊕ Int} (hpt : pt.IsAwake n) (h : pt.left n = .done r) :
    pt.IsBehind r := by
  cases pt with
  | between l =>
    obtain rfl := hpt
    cases h
    exact .goesOn l
  | listening p =>
    rw [Point.left_listening] at h
    obtain ⟨a, rfl, -⟩ := exists_of_bind_eq_done h
    exact absurd rfl (hpt a)
  | running l line p =>
    rw [Point.left_running] at h
    obtain ⟨a, rfl, -⟩ := exists_of_bind_eq_done h
    exact absurd rfl (hpt a)
  | polling l => cases h
  | leaving status p =>
    rw [Point.left_leaving] at h
    obtain ⟨u, rfl, hdone⟩ := exists_of_bind_eq_done h
    cases hdone
    exact .ended status

/-- **Every run of a session is one of its loop**, with the same answers and requests. -/
theorem exists_steps_of_plays {u v : Interaction (Session ⊕ Int) × List Signal}
    (h : Plays Occurs u happenings v) (hu : u = (pt.left n, requests)) :
    ∃ all pt' m, Plays Steps (pt, requests) all (pt', v.2) ∧
      all.filter Happening.isOutward = happenings ∧ m + begun all = n ∧ pt'.left m = v.1 := by
  induction h generalizing pt n requests with
  | nil u =>
    obtain rfl := hu
    exact ⟨[], pt, n, .nil _, rfl, rfl, rfl⟩
  | @cons u middle v e rest first others ih =>
    obtain rfl := hu
    cases first with
    | request signal =>
      obtain ⟨all, pt', m, hplays, rfl, rfl, hleft⟩ := ih rfl
      refine ⟨_ :: all, pt', m, .cons (.request signal) hplays, rfl, ?_, hleft⟩
      rw [begun_cons, Happening.begins_eq_zero rfl, Nat.zero_add]
    | @answer _ p' _ requests' reply hears =>
      obtain ⟨silent, awake, k, hsilent, hfilter, rfl, hawakes, hawake⟩ := wakes pt requests n
      rw [← hawakes] at hears
      obtain ⟨next, hstep, rfl⟩ := exists_step_of_hears hawake hears
      obtain ⟨all, pt', m, hplays, rfl, rfl, hleft⟩ := ih rfl
      refine ⟨silent ++ .answer reply :: all, pt', m, hsilent.append (.cons hstep hplays), ?_, ?_,
        hleft⟩
      · rw [List.filter_append, hfilter, List.nil_append]
        rfl
      · rw [begun_append, begun_cons, Happening.begins_eq_zero rfl]
        omega

/-- **A session and its loop have the same runs.** Whatever answers are heard and whenever requests
come in, what they bring a session of some rounds to is what is left of it at a point that they
bring its loop to. -/
theorem plays_rounds_iff {l : Loop} {n : Nat} :
    Plays Occurs (l.session.rounds n, requests) happenings (q, requests') ↔
      ∃ all pt m, Plays Steps (.between l, requests) all (pt, requests') ∧
        all.filter Happening.isOutward = happenings ∧ m + begun all = n ∧ pt.left m = q := by
  constructor
  · intro h
    exact exists_steps_of_plays h rfl
  · rintro ⟨all, pt, m, hplays, rfl, rfl, rfl⟩
    exact occurs_of_plays hplays m

/-- **A session that is over has been a run of its loop.** In it the loop has heard the same answers
and requests, and it stands between two rounds if the session goes on, and else at its end, with the
status of the session. -/
theorem exists_steps_of_rounds {l : Loop} {n : Nat} {r : Session ⊕ Int}
    (h : Plays Occurs (l.session.rounds n, requests) happenings (.done r, requests')) :
    ∃ all pt, Plays Steps (.between l, requests) all (pt, requests') ∧
      all.filter Happening.isOutward = happenings ∧ pt.IsBehind r := by
  obtain ⟨all, pt, m, hplays, rfl, -, hleft⟩ := plays_rounds_iff.mp h
  obtain ⟨silent, pt', k, hsilent, hfilter, -, hawakes, hawake⟩ := wakes pt requests' m
  refine ⟨all ++ silent, pt', hplays.append hsilent, ?_, ?_⟩
  · rw [List.filter_append, hfilter, List.append_nil]
  · exact isBehind_of_left_eq hawake (hawakes.trans hleft)

end Loop

end PipeShell
