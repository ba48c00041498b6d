import PipeShell.Proofs.Pipeline.OuterStreams

/-!
# What falls to a process

A new process installs the streams of its stage and starts its program, and each of these may fail.
What comes of it is the *lot* of the process: a stream that cannot be installed, a program that
cannot be started, or a program that runs until it ends. Where something fails, the process says so,
and part of the lot is whether anybody can read it. A process that has only to leave has no lot:
nothing that it does can fail.

* `Lot.Allows` is what the system may answer to a process with a lot, and `Lot.Takes` what may
  happen to such a process, the end of its program included.
* `Lot.Fares` is the invariant: how far a process may have come that is to end in a given way.
  `Lot.Fares.next` is the step, `Lot.Fares.exists_takes` says that the process can always go on, and
  `Worker.weight_lt` that it cannot do so for ever; `Worker.weights_set_lt` is this for many.
* `Lot.started_of_plays` says that a lot has no part in the table with which a program starts.
-/

namespace PipeShell

/-- What falls to the process of a stage. -/
inductive Lot where
  /-- A stream cannot be installed; `heard` says whether the message about it can be read. -/
  | noStream (stream : Stream) (cause : Errno) (heard : Bool)
  /-- The program cannot be started; `heard` says whether the message about it can be read. -/
  | noProgram (cause : Errno) (heard : Bool)
  /-- The program runs, and ends. -/
  | runs (how : Ending)

/-- What happens to a process. -/
inductive Worker.Event where
  /-- It does something, and gets an answer. -/
  | tries (reply : WorkerReply)
  /-- Its program ends. -/
  | ends (how : Ending)

/-- Whether what a process has tried is only to be tried again. -/
def Worker.Event.isIdle : Worker.Event → Bool
  | tries reply => reply.1.isRetried && isInterruption reply.2
  | ends _ => false

/-- Whether a thing on a list belongs before the program: it neither starts one nor leaves. -/
def ChildStep.isPreparing : ChildStep → Bool
  | restorePipeSignal => true
  | install _ _ => true
  | close _ => true
  | _ => false

/-- What a plan has before the program. -/
def Child.preparation (stdin stdout : Option Fd) (foreign : List Fd) : Child :=
  .restorePipeSignal :: installs stdin stdout ++
    (foreign.filter fun fd => Fd.stderr < fd).map .close

section Preparation

variable {stdin stdout : Option Fd} {foreign : List Fd} {argv : List String}

theorem Child.plan_eq_preparation :
    plan stdin stdout foreign argv = preparation stdin stdout foreign ++ [.exec argv] := by
  simp [plan, preparation, installs]

theorem Child.isPreparing_of_mem_preparation {s : ChildStep}
    (h : s ∈ preparation stdin stdout foreign) : s.isPreparing = true := by
  cases s with
  | exec argv => simp [preparation, installs] at h
  | complain message => simp [preparation, installs] at h
  | exit status => simp [preparation, installs] at h
  | _ => rfl

end Preparation

namespace Lot

/-! ### What may happen to a process -/

/-- Whether what a process with a lot has to say can be read. -/
def isHeard : Lot → Bool
  | noStream _ _ heard => heard
  | noProgram _ heard => heard
  | runs _ => true

/-- The answer that settles what a process with a lot tries. -/
def answer : Lot → ChildStep → Except Errno Unit
  | noStream stream cause _, .install _ stream' => if stream = stream' then .error cause else .ok ()
  | noProgram cause _, .exec _ => .error cause
  | lot, .complain _ => if lot.isHeard then .ok () else .error .epipe
  | _, _ => .ok ()

/-- What may be answered to a process with a lot. The installation of a stream may be interrupted,
a message goes to a pipe without readers or does not, and what else may fail without consequence may
do so. -/
def Allows (lot : Lot) : WorkerReply → Prop
  | (.install fd stream, given) => given = .error .eintr ∨ given = lot.answer (.install fd stream)
  | (.exec argv, given) => given = lot.answer (.exec argv)
  | (.complain _, given) => given = .error .epipe ↔ lot.isHeard = false
  | _ => True

/-- **What may happen to a process with a lot.** Only a program that has such a lot ends, and then
as the lot says. -/
inductive Takes (lot : Lot) : Worker → Worker.Event → Worker → Prop where
  | tries {w w' : Worker} {reply : WorkerReply} (takes : w.Takes reply w')
    (allowed : lot.Allows reply) : Takes lot w (.tries reply) w'
  | ends {w : Worker} {argv : List String} {how : Ending} (life : w.life = .running argv)
    (own : lot = runs how) : Takes lot w (.ends how) { w with table := {}, life := .ended how }

/-- How a process with a lot ends. -/
def ending : Lot → Ending
  | noStream _ _ true => .exited 1
  | noProgram cause true => .exited cause.execStatus
  | noStream _ _ false => .killed Signal.pipe.number
  | noProgram _ false => .killed Signal.pipe.number
  | runs how => how

/-- How the stage is reported whose process has a lot: with one status if a stream could not be
installed, with another if there is no such program, with a third if the program could not be
started for another cause, with the signal of a broken pipe if nobody could be told of any of these,
and else with what the program has come to. -/
def status : Lot → StageStatus
  | noStream _ _ true => .exited 1
  | noProgram .enoent true => .exited 127
  | noProgram _ true => .exited 126
  | noStream _ _ false => .signaled .pipe
  | noProgram _ false => .signaled .pipe
  | runs (.exited status) => .exited status
  | runs (.killed number) => (Signal.ofNumber? number).elim .lost .signaled

theorem ofWait_ending (lot : Lot) : StageStatus.ofWait (.ok lot.ending) = lot.status := by
  cases lot with
  | noStream stream cause heard => cases heard <;> rfl
  | noProgram cause heard => cases heard <;> cases cause <;> rfl
  | runs how =>
    cases how with
    | exited status => rfl
    | killed number =>
      rw [ending, status, StageStatus.ofWait]
      cases hsignal : Signal.ofNumber? number <;> simp [Except.bind, StageStatus.ofEnding, hsignal]

variable {lot : Lot} {w w' : Worker} {event : Worker.Event}

theorem allows_answer (lot : Lot) (s : ChildStep) : lot.Allows (s, lot.answer s) := by
  cases s with
  | install fd stream => exact .inr rfl
  | exec argv => rfl
  | complain message =>
    rw [Allows, answer]
    cases lot.isHeard <;> simp
  | _ => trivial

/-- A stream that can be installed is not the one that is refused. -/
theorem ne_noStream_of_answer_eq_ok {fd : Fd} {stream : Stream}
    (h : lot.answer (.install fd stream) = .ok ()) (cause : Errno) (heard : Bool) :
    lot ≠ noStream stream cause heard := by
  rintro rfl
  rw [answer, if_pos rfl] at h
  cases h

/-- A stream that cannot be installed is the one that is refused. -/
theorem eq_noStream_of_answer_eq_error {fd : Fd} {stream : Stream} {cause : Errno}
    (h : lot.answer (.install fd stream) = .error cause) :
    ∃ heard, lot = noStream stream cause heard := by
  cases lot with
  | noStream stream' cause' heard =>
    rw [answer] at h
    split at h
    · rename_i hsame
      exact ⟨heard, by rw [hsame, Except.error.inj h]⟩
    · cases h
  | noProgram cause' heard => cases h
  | runs how => cases h

theorem Takes.pid_eq (h : lot.Takes w event w') : w'.pid = w.pid := by
  cases h with
  | ends => rfl
  | tries takes allowed =>
    obtain @⟨step, rest, life, given⟩ := takes
    have hgoes := Worker.goes_after life given
    generalize w.after step rest given = w' at hgoes
    cases hgoes <;> rfl

/-- An interruption leaves a process as it is. -/
theorem Takes.eq_of_isIdle (h : lot.Takes w event w') (hidle : event.isIdle = true) : w' = w := by
  cases h with
  | ends => cases hidle
  | tries takes allowed =>
    obtain @⟨step, rest, life, given⟩ := takes
    obtain ⟨hretried, hinterrupted⟩ := (Bool.and_eq_true _ _).mp hidle
    obtain rfl : given = .error .eintr := eq_of_isInterruption hinterrupted
    exact Worker.after_interruption life hretried

/-- A process that has ended has ended for good. -/
theorem Takes.ne_ended (h : lot.Takes w event w') (how : Ending) : w.life ≠ .ended how := by
  intro hended
  cases h with
  | ends life => cases life.symm.trans hended
  | tries takes =>
    obtain ⟨life, -⟩ := takes
    cases life.symm.trans hended

/-! ### How far a process may have come -/

/-- Whether a lot can fall to a process that prepares in a given way: it does install the stream
that is refused, and not because of an interruption. -/
structure Suits (lot : Lot) (prep : Child) : Prop where
  plain : ∀ s ∈ prep, s.isPreparing = true
  refused : ∀ stream cause heard, lot = noStream stream cause heard →
    cause ≠ .eintr ∧ ∃ fd, .install fd stream ∈ prep

/-- **How far a process may have come** that prepares in a given way, is then to run a program, and
is to end in a given way. -/
inductive Fares (lot : Lot) (prep : Child) (argv : List String) (how : Ending) :
    Life (List String) → Prop where
  /-- It prepares, and no stream has been refused so far. -/
  | prepares {past todo} (suits : lot.Suits prep) (whole : past ++ todo = prep)
    (granted : ∀ fd stream cause heard, lot = noStream stream cause heard →
      .install fd stream ∉ past)
    (own : how = lot.ending) : Fares lot prep argv how (.preparing (todo ++ [.exec argv]))
  /-- It is to say what has failed. -/
  | complains {message : Bytes} {status : Nat}
    (own : how = if lot.isHeard then .exited (status % 256) else .killed Signal.pipe.number) :
    Fares lot prep argv how (.preparing [.complain message, .exit status])
  /-- It takes its leave. -/
  | leaves {status : Nat} (own : how = .exited (status % 256)) :
    Fares lot prep argv how (.preparing [.exit status])
  /-- Its program runs. -/
  | runs (own : lot = .runs how) : Fares lot prep argv how (.running argv)
  /-- It has ended. -/
  | ended : Fares lot prep argv how (.ended how)

namespace Fares

variable {prep : Child} {argv : List String} {how : Ending}

/-- A process that leaves does nothing else. -/
theorem next_of_leaves {rest : Child} {status : Nat} {s : ChildStep} {given : Except Errno Unit}
    (own : how = .exited (status % 256)) (life : w.life = .preparing [.exit status])
    (hnext : w.life = .preparing (s :: rest)) :
    Fares lot prep argv how (w.after s rest given).life := by
  obtain ⟨rfl, rfl⟩ := List.cons.inj (Life.preparing.inj (life.symm.trans hnext))
  rw [own, Worker.after_exit]
  exact .ended

/-- A process that says what has failed leaves then, or ends by it. -/
theorem next_of_complains {rest : Child} {message : Bytes} {status : Nat} {s : ChildStep}
    {given : Except Errno Unit}
    (own : how = if lot.isHeard then .exited (status % 256) else .killed Signal.pipe.number)
    (life : w.life = .preparing [.complain message, .exit status])
    (hnext : w.life = .preparing (s :: rest)) (allowed : lot.Allows (s, given)) :
    Fares lot prep argv how (w.after s rest given).life := by
  obtain ⟨rfl, rfl⟩ := List.cons.inj (Life.preparing.inj (life.symm.trans hnext))
  have hallowed : given = .error .epipe ↔ lot.isHeard = false := allowed
  rcases Worker.after_complain w message [.exit status] given with ⟨hheard, hon⟩ | ⟨hunheard, hends⟩
  · have hgiven : given ≠ .error .epipe := by
      rintro rfl
      exact hheard ⟨message, List.mem_singleton_self _⟩
    have htold : lot.isHeard = true := by
      simpa using fun hnot => hgiven (hallowed.mpr hnot)
    rw [hon]
    exact .leaves (own.trans (if_pos htold))
  · obtain ⟨message', hmem⟩ := hunheard
    have hgiven : given = .error .epipe := (congrArg Prod.snd (List.mem_singleton.mp hmem)).symm
    rw [hends, own, hallowed.mp hgiven]
    exact .ended

/-- What a process does at last that prepares: it starts its program, or says that it cannot. -/
theorem next_of_exec {given : Except Errno Unit} (hsuits : lot.Suits prep)
    (granted : ∀ fd stream cause heard, lot = noStream stream cause heard →
      .install fd stream ∉ prep)
    (own : how = lot.ending) (hgiven : given = lot.answer (.exec argv)) :
    Fares lot prep argv how (w.after (.exec argv) [] given).life := by
  cases hlot : lot with
  | noStream stream cause heard =>
    obtain ⟨-, fd, hmem⟩ := hsuits.refused stream cause heard hlot
    exact absurd hmem (granted fd stream cause heard hlot)
  | noProgram cause heard =>
    obtain rfl : given = .error cause := by rw [hgiven, hlot]; rfl
    refine .complains ?_
    rw [own, hlot]
    cases heard with
    | false => rfl
    | true => cases cause <;> rfl
  | runs how' =>
    obtain rfl : given = .ok () := by rw [hgiven, hlot]; rfl
    rw [own, hlot]
    exact .runs rfl

/-- What a process does while it prepares: it goes on, or says that a stream is refused. -/
theorem next_of_preparing {past todo : Child} {s : ChildStep} {given : Except Errno Unit}
    (hsuits : lot.Suits prep) (whole : past ++ s :: todo = prep)
    (granted : ∀ fd stream cause heard, lot = noStream stream cause heard →
      .install fd stream ∉ past)
    (own : how = lot.ending) (life : w.life = .preparing (s :: (todo ++ [.exec argv])))
    (allowed : lot.Allows (s, given)) :
    Fares lot prep argv how (w.after s (todo ++ [.exec argv]) given).life := by
  have hpreparing : s.isPreparing = true :=
    hsuits.plain s (whole ▸ List.mem_append_right _ List.mem_cons_self)
  have hgoes := Worker.goes_after life given
  generalize w.after s (todo ++ [.exec argv]) given = w' at hgoes
  cases hgoes with
  | again =>
    rw [life]
    exact .prepares hsuits whole granted own
  | on stays succeeds =>
    have whole' : past ++ [s] ++ todo = prep := by simpa using whole
    refine .prepares hsuits whole' ?_ own
    intro fd stream cause heard hlot hmem
    rcases List.mem_append.mp hmem with hpast | hlast
    · exact granted fd stream cause heard hlot hpast
    · obtain rfl := (List.mem_singleton.mp hlast).symm
      have hok := succeeds fd stream rfl
      rcases allowed with hinterrupted | hanswer
      · cases hok.symm.trans hinterrupted
      · exact ne_noStream_of_answer_eq_ok (hanswer.symm.trans hok) cause heard hlot
  | @fails cause told may =>
    obtain ⟨fd, stream, rfl, hcause⟩ | ⟨argv', rfl⟩ := may
    · obtain ⟨heard, hlot⟩ : ∃ heard, lot = noStream stream cause heard := by
        rcases allowed with hinterrupted | hanswer
        · exact absurd (Except.error.inj (told.symm.trans hinterrupted)) hcause
        · exact eq_noStream_of_answer_eq_error (hanswer.symm.trans told)
      refine .complains ?_
      rw [own, hlot]
      cases heard <;> rfl
    · cases hpreparing
  | @runs argv' starts =>
    subst starts
    cases hpreparing
  | @leaves status exits =>
    subst exits
    cases hpreparing
  | @unheard message complains =>
    subst complains
    cases hpreparing

/-- **The step.** -/
theorem next (h : Fares lot prep argv how w.life) (htakes : lot.Takes w event w') :
    Fares lot prep argv how w'.life := by
  cases htakes with
  | @ends argv' how' life own =>
    generalize w.life = l at h life
    subst life
    cases h with
    | runs own' =>
      obtain rfl : how = how' := Lot.runs.inj (own'.symm.trans own)
      exact .ended
  | tries takes allowed =>
    obtain @⟨s, rest, life, given⟩ := takes
    generalize hlife : w.life = l at h
    cases h with
    | runs => cases life.symm.trans hlife
    | ended => cases life.symm.trans hlife
    | complains own => exact next_of_complains own hlife life allowed
    | leaves own => exact next_of_leaves own hlife life
    | @prepares past todo suits whole granted own =>
      have hlist := Life.preparing.inj (life.symm.trans hlife)
      cases todo with
      | nil =>
        obtain ⟨rfl, rfl⟩ := List.cons.inj hlist
        rw [List.append_nil] at whole
        exact next_of_exec suits (whole ▸ granted) own allowed
      | cons s' todo =>
        obtain ⟨rfl, rfl⟩ := List.cons.inj hlist
        exact next_of_preparing suits whole granted own life allowed

/-- **The run.** -/
theorem of_plays {events : List Worker.Event} (h : Fares lot prep argv how w.life)
    (hplays : Plays lot.Takes w events w') : Fares lot prep argv how w'.life :=
  hplays.keeps (fun w => Fares lot prep argv how w.life) (fun hs htakes => hs.next htakes) h

/-- What is next on the list of a process may be answered as its lot demands. -/
theorem exists_takes_of_preparing {s : ChildStep} {rest : Child}
    (life : w.life = .preparing (s :: rest))
    (hinstall : ∀ fd stream heard, s = .install fd stream →
      lot ≠ noStream stream .eintr heard) :
    ∃ event w', lot.Takes w event w' ∧ event.isIdle = false := by
  refine ⟨.tries (s, lot.answer s), _, .tries (.step life _) (lot.allows_answer s), ?_⟩
  rw [Bool.eq_false_iff]
  intro hidle
  obtain ⟨hretried, hinterrupted⟩ := (Bool.and_eq_true _ _).mp hidle
  have hanswer : lot.answer s = .error .eintr := eq_of_isInterruption hinterrupted
  cases s with
  | install fd stream =>
    obtain ⟨heard, hlot⟩ := eq_noStream_of_answer_eq_error hanswer
    exact hinstall fd stream heard rfl hlot
  | _ => cases hretried

/-- A process that has not ended can go on, and not only be interrupted. -/
theorem exists_takes (h : Fares lot prep argv how w.life) :
    w.life = .ended how ∨ ∃ event w', lot.Takes w event w' ∧ event.isIdle = false := by
  generalize hlife : w.life = l at h
  cases h with
  | @prepares past todo suits =>
    have hlot : ∀ stream heard, lot ≠ noStream stream .eintr heard := fun stream heard hlot =>
      (suits.refused stream .eintr heard hlot).1 rfl
    cases todo with
    | nil => exact .inr (exists_takes_of_preparing hlife nofun)
    | cons s todo =>
      exact .inr (exists_takes_of_preparing hlife fun _ stream heard _ => hlot stream heard)
  | complains => exact .inr (exists_takes_of_preparing hlife nofun)
  | leaves => exact .inr (exists_takes_of_preparing hlife nofun)
  | runs own => exact .inr ⟨.ends how, _, .ends hlife own, rfl⟩
  | ended => exact .inl rfl

/-- **No process runs off its list.** It always has something left to do, and last of all to start
the program of its stage or to leave; or it runs this program, or it has ended. -/
theorem isAway (h : Fares lot prep argv how w.life) :
    (∃ todo, w.life = .preparing (todo ++ [.exec argv])) ∨
      (∃ todo status, w.life = .preparing (todo ++ [.exit status])) ∨
      w.life = .running argv ∨ w.life = .ended how := by
  generalize w.life = l at h ⊢
  cases h with
  | prepares => exact .inl ⟨_, rfl⟩
  | complains => exact .inr (.inl ⟨[.complain _], _, rfl⟩)
  | leaves => exact .inr (.inl ⟨[], _, rfl⟩)
  | runs => exact .inr (.inr (.inl rfl))
  | ended => exact .inr (.inr (.inr rfl))

end Fares

end Lot

/-! ### No process goes on for ever -/

/-- How many things may come of one on a list: one that may fail may be followed by a message and
the leave. -/
def ChildStep.weight (s : ChildStep) : Nat :=
  if s.isParting then 1 else 3

/-- How many things may come of a list. -/
def Child.weight : Child → Nat
  | [] => 0
  | s :: rest => s.weight + Child.weight rest

/-- How long a process can go on. -/
def Worker.weight (w : Worker) : Nat :=
  match w.life with
  | .preparing todo => todo.weight + 2
  | .running _ => 1
  | _ => 0

/-- How long processes can go on together. -/
def Worker.weights : List Worker → Nat
  | [] => 0
  | w :: rest => w.weight + Worker.weights rest

/-- Whatever happens to a process, other than an interruption, brings it nearer to its end. -/
theorem Worker.weight_lt {lot : Lot} {w w' : Worker} {event : Worker.Event}
    (h : lot.Takes w event w') (hmoves : event.isIdle = false) : w'.weight < w.weight := by
  cases h with
  | ends life =>
    rw [weight, weight, life]
    exact Nat.zero_lt_one
  | tries takes allowed =>
    obtain @⟨s, rest, life, given⟩ := takes
    have hgoes := goes_after life given
    generalize w.after s rest given = w' at hgoes
    have hweight : w.weight = s.weight + Child.weight rest + 2 := by
      rw [weight, life]
      rfl
    have hpos : 0 < s.weight := by
      rw [ChildStep.weight]
      split <;> decide
    rw [hweight]
    cases hgoes with
    | again installs interrupted =>
      subst installs interrupted
      cases hmoves
    | on =>
      change Child.weight rest + 2 < _
      omega
    | @fails cause told may =>
      -- a message and the leave itself
      have hparts : Child.weight (s.onFailure cause) = 2 ∧ s.weight = 3 := by
        obtain ⟨fd, stream, rfl, -⟩ | ⟨argv, rfl⟩ := may
        · exact ⟨rfl, rfl⟩
        · exact ⟨rfl, rfl⟩
      change Child.weight (s.onFailure cause) + 2 < _
      omega
    | runs =>
      change 1 < _
      omega
    | leaves =>
      change 0 < _
      omega
    | unheard =>
      change 0 < _
      omega

/-- What brings one process nearer to its end does so for all of them. -/
theorem Worker.weights_set_lt {workers : List Worker} {place : Nat} {w w' : Worker}
    (there : workers[place]? = some w) (hlt : w'.weight < w.weight) :
    weights (workers.set place w') < weights workers := by
  induction workers generalizing place with
  | nil => cases there
  | cons first rest ih =>
    cases place with
    | zero =>
      obtain rfl : first = w := Option.some.inj there
      exact Nat.add_lt_add_right hlt _
    | succ place => exact Nat.add_lt_add_left (ih (show rest[place]? = some w from there)) _

/-! ### The table of a program -/

/-- **A lot has no part in the table with which a program starts**: this is what the plan of the
process has made of the table with which the process has started. -/
theorem Lot.started_of_plays {lot : Lot} {pid : Pid} {table : DescriptorTable} {plan : Child}
    {events : List Worker.Event} {w : Worker}
    (h : Plays lot.Takes ⟨pid, table, .preparing plan⟩ events w) : w.Started table plan := by
  have hall : w.Follows table plan ∧ w.Started table plan := by
    refine h.keeps (fun w => w.Follows table plan ∧ w.Started table plan) ?_ ⟨?_, nofun⟩
    · rintro w event w' ⟨hfollows, hstarted⟩ htakes
      cases htakes with
      | tries takes =>
        exact ⟨Worker.follows_of_takes hfollows takes,
          Worker.started_of_takes hfollows hstarted takes⟩
      | ends => exact ⟨nofun, nofun⟩
    · intro todo htodo
      exact .inr ⟨[], (Life.preparing.inj htodo).symm, rfl⟩
  exact hall.2

end PipeShell
