import PipeShell.Proofs.Machine.Plan
import PipeShell.Proofs.Pipeline.Conversation

/-!
# What a program inherits

A new process starts with a copy of the shell's descriptors, and its plan changes this copy before
the program of its stage takes over. Two questions are settled here for every wiring, all outer
streams and every table: which table the plan leaves to the program, and what the process does if a
stream that its stage wants is not open.

* `Inherits` says which table a program is to have: that of the shell without the descriptors of
  the line, with the error stream and every stream that is not replaced as they were.
* `Worker.Hears` is an answer of a system that makes a descriptor a stream exactly if it is open.
* `Child.Departs` says of a list that the process that follows it has no choice: it does certain
  things, one after another, and leaves with a status. `Ends.lacked` is the stream for which this
  happens, `Child.refusal` what is done then.
* `Launcher.table_at_exec` is the theorem, for a process from its launch on.
-/

namespace PipeShell

/-! ### The table of a program -/

/-- Whether a program of a stage with these ends has the right descriptors: above the error stream
those of the shell without `foreign`, and of the standard streams those that nothing replaces. -/
structure Inherits (shell : DescriptorTable) (foreign : List Fd) (ends : Ends)
    (table : DescriptorTable) : Prop where
  above : ∀ fd, Fd.stderr < fd → table.get? fd = if fd ∈ foreign then none else shell.get? fd
  stderr : table.get? Fd.stderr = shell.get? Fd.stderr
  stdin : ends.stdin = none → table.get? Fd.stdin = shell.get? Fd.stdin
  stdout : ends.stdout = none → table.get? Fd.stdout = shell.get? Fd.stdout

namespace Child

variable {table : DescriptorTable} {stdin stdout : Option Fd} {foreign : List Fd}
  {argv : List String}

/-- A stream that no installation is for stays what it is. -/
theorem get?_tableAfter_installs_of_stream (stream : Stream)
    (h : ∀ fd, .install fd stream ∉ installs stdin stdout) :
    (tableAfter table (installs stdin stdout)).get? stream.fd = table.get? stream.fd := by
  refine get?_tableAfter_of_forall (fun s hs table' => ?_) table
  cases s with
  | install source other =>
    refine ChildStep.get?_apply_install_of_ne _ _ _ fun hfd => ?_
    have hsame : stream = other := by
      cases stream <;> cases other <;> first | rfl | cases hfd
    exact h source (hsame ▸ hs)
  | close fd => simp [installs] at hs
  | _ => rfl

/-- A plan leaves the right descriptors to its program. -/
theorem inherits_plan (ends : Ends) :
    Inherits table foreign ends (tableAfter table (plan ends.stdin ends.stdout foreign argv)) where
  above fd habove := by
    have hin : fd ≠ Fd.stdin := by rintro rfl; exact absurd habove (by decide)
    have hout : fd ≠ Fd.stdout := by rintro rfl; exact absurd habove (by decide)
    rw [get?_tableAfter_plan, get?_tableAfter_installs_of_ne hin hout]
    simp only [habove, and_true]
  stderr := get?_tableAfter_stderr (List.append_nil _)
  stdin hnone := by
    have hlow : ¬(Fd.stdin ∈ foreign ∧ Fd.stderr < Fd.stdin) := fun h => absurd h.2 (by decide)
    rw [get?_tableAfter_plan, if_neg hlow]
    refine get?_tableAfter_installs_of_stream .stdin fun fd hfd => ?_
    simp [installs, hnone] at hfd
  stdout hnone := by
    have hlow : ¬(Fd.stdout ∈ foreign ∧ Fd.stderr < Fd.stdout) := fun h => absurd h.2 (by decide)
    rw [get?_tableAfter_plan, if_neg hlow]
    refine get?_tableAfter_installs_of_stream .stdout fun fd hfd => ?_
    simp [installs, hnone] at hfd

/-- A plan starts its program last of all, and a program changes nothing before it runs. -/
theorem of_append_exec_eq_plan (table : DescriptorTable) {past rest : Child}
    {argv' : List String} (h : past ++ .exec argv' :: rest = plan stdin stdout foreign argv) :
    argv' = argv ∧ tableAfter table past = tableAfter table (plan stdin stdout foreign argv) := by
  have hlast : plan stdin stdout foreign argv =
      (.restorePipeSignal :: installs stdin stdout ++
        (foreign.filter fun fd => Fd.stderr < fd).map .close) ++ [.exec argv] := by
    simp [plan, installs]
  obtain rfl : rest = [] := by
    -- nothing before the end starts a program
    rw [hlast] at h
    obtain ⟨more, hbefore, hexec⟩ | ⟨more, hbefore, hexec⟩ := List.append_eq_append_iff.mp h
    · cases more with
      | nil => exact (List.cons.inj hexec).2
      | cons s more =>
        obtain rfl : ChildStep.exec argv' = s := (List.cons.inj hexec).1
        have hmem : ChildStep.exec argv' ∈ .restorePipeSignal :: installs stdin stdout ++
            (foreign.filter fun fd => Fd.stderr < fd).map .close :=
          hbefore ▸ List.mem_append_right _ List.mem_cons_self
        simp [installs] at hmem
    · cases more with
      | nil => exact (List.cons.inj hexec).2.symm
      | cons s more => cases more <;> cases hexec
  rw [hlast] at h
  obtain ⟨rfl, hexec⟩ := List.append_inj' h rfl
  refine ⟨ChildStep.exec.inj (List.cons.inj hexec).1, ?_⟩
  rw [hlast, tableAfter_append _ _ [.exec argv]]
  rfl

end Child

/-! ### What an answer does to a process -/

theorem Plays.map {σ ε : Type} {takes takes' : σ → ε → σ → Prop}
    (h : ∀ {s e t}, takes s e t → takes' s e t) {s t : σ} {list : List ε}
    (hplays : Plays takes s list t) : Plays takes' s list t := by
  induction hplays with
  | nil s => exact .nil s
  | cons first others ih => exact .cons (h first) ih

namespace Worker

/-- What becomes of a process that does `step` with `rest` behind it, case by case. -/
inductive Goes (w : Worker) (step : ChildStep) (rest : Child) (answer : Except Errno Unit) :
    Worker → Prop where
  /-- An installation has been interrupted. -/
  | again {fd stream} (installs : step = .install fd stream)
    (interrupted : answer = .error .eintr) : Goes w step rest answer w
  /-- The list is followed. -/
  | on (stays : ∀ argv status, step ≠ .exec argv ∧ step ≠ .exit status)
    (succeeds : ∀ fd stream, step = .install fd stream → answer = .ok ()) :
    Goes w step rest answer { w with table := step.apply w.table, life := .preparing rest }
  /-- An installation or a start has failed. -/
  | fails {cause} (told : answer = .error cause)
    (may : (∃ fd stream, step = .install fd stream ∧ cause ≠ .eintr) ∨ ∃ argv, step = .exec argv) :
    Goes w step rest answer { w with life := .preparing (step.onFailure cause) }
  /-- The program starts. -/
  | runs {argv} (starts : step = .exec argv) (succeeds : answer = .ok ()) :
    Goes w step rest answer { w with table := w.table.afterExec, life := .running argv }
  /-- The process leaves. -/
  | leaves {status} (exits : step = .exit status) :
    Goes w step rest answer { w with table := {}, life := .ended (.exited (status % 256)) }
  /-- Nobody can read what the process says. -/
  | unheard {message} (complains : step = .complain message) (told : answer = .error .epipe) :
    Goes w step rest answer { w with table := {}, life := .ended (.killed Signal.pipe.number) }

variable {w w' : Worker} {table : DescriptorTable} {plan : Child}

theorem goes_after {step : ChildStep} {rest : Child} (life : w.life = .preparing (step :: rest))
    (answer : Except Errno Unit) : w.Goes step rest answer (w.after step rest answer) := by
  have hstays : ∀ {step : ChildStep}, (∀ fd stream, step ≠ .install fd stream) →
      ∀ fd stream, step = .install fd stream → answer = .ok () :=
    fun h fd stream hstep => absurd hstep (h fd stream)
  cases step with
  | restorePipeSignal => cases answer <;> exact .on (fun _ _ => ⟨nofun, nofun⟩) (hstays nofun)
  | close fd => cases answer <;> exact .on (fun _ _ => ⟨nofun, nofun⟩) (hstays nofun)
  | exit status =>
    rw [after_exit]
    exact .leaves rfl
  | complain message =>
    rw [after_of_isParting rfl]
    rcases ChildStep.answered_complain message answer with hon | ⟨htold, -, hends⟩
    · rw [hon]
      exact .on (fun _ _ => ⟨nofun, nofun⟩) (hstays nofun)
    · rw [hends]
      exact .unheard rfl htold
  | exec argv =>
    cases answer with
    | ok done => exact .runs rfl rfl
    | error cause => exact .fails rfl (.inr ⟨argv, rfl⟩)
  | install fd stream =>
    cases answer with
    | ok done => exact .on (fun _ _ => ⟨nofun, nofun⟩) fun _ _ _ => rfl
    | error cause =>
      by_cases hcause : cause = .eintr
      · subst hcause
        rw [after_interruption life rfl]
        exact .again rfl rfl
      · rw [after.eq_def]
        dsimp only
        rw [ChildStep.answered_install_error fd stream hcause]
        exact .fails rfl (.inl ⟨fd, stream, rfl, hcause⟩)

/-! ### Following a plan -/

/-- Whether a process that still prepares is somewhere in its plan, with the table that the plan has
made so far, or takes its leave. -/
def Follows (table : DescriptorTable) (plan : Child) (w : Worker) : Prop :=
  ∀ todo, w.life = .preparing todo → todo.all ChildStep.isParting = true ∨
    ∃ past, past ++ todo = plan ∧ w.table = Child.tableAfter table past

theorem follows_of_takes {e : WorkerReply} (h : w.Follows table plan) (htakes : Takes w e w') :
    w'.Follows table plan := by
  obtain @⟨step, rest, life, answer⟩ := htakes
  have hgoes := goes_after life answer
  generalize w.after step rest answer = w' at hgoes
  intro todo htodo
  cases hgoes with
  | again => exact h todo htodo
  | runs => cases htodo
  | leaves => cases htodo
  | unheard => cases htodo
  | @fails cause => exact .inl (Life.preparing.inj htodo ▸ step.isParting_onFailure cause)
  | on stays succeeds =>
    obtain rfl : rest = todo := Life.preparing.inj htodo
    obtain hparts | ⟨past, rfl, htable⟩ := h _ life
    · exact .inl ((Bool.and_eq_true _ _).mp (List.all_cons ▸ hparts)).2
    · refine .inr ⟨past ++ [step], List.append_assoc .., ?_⟩
      rw [Child.tableAfter_append, ← htable]
      rfl

/-- At the start of its program, a process has done all of its plan. -/
theorem inherits_of_plays {ends : Ends} {foreign : List Fd} {argv argv' : List String}
    {pid : Pid} {rest : Child} {replies : List WorkerReply}
    (h : Plays Takes ⟨pid, table, .preparing (.plan ends.stdin ends.stdout foreign argv)⟩ replies w)
    (hlife : w.life = .preparing (.exec argv' :: rest)) :
    argv' = argv ∧ Inherits table foreign ends w.table := by
  have hfollows : w.Follows table (.plan ends.stdin ends.stdout foreign argv) := by
    refine h.keeps (Follows table _) (fun hs htakes => follows_of_takes hs htakes) ?_
    intro todo htodo
    exact .inr ⟨[], (Life.preparing.inj htodo).symm, rfl⟩
  obtain hparts | ⟨past, hpast, htable⟩ := hfollows _ hlife
  · cases hparts
  · obtain ⟨hargv, hall⟩ := Child.of_append_exec_eq_plan table hpast
    rw [htable, hall]
    exact ⟨hargv, Child.inherits_plan ends⟩

/-! ### Leaving without a choice -/

/-- An answer of a system that makes a descriptor a stream exactly if it is open, and that may
interrupt the attempt. -/
structure Hears (w : Worker) (e : WorkerReply) (w' : Worker) : Prop where
  takes : Takes w e w'
  honest : ∀ fd stream, e.1 = .install fd stream → isInterruption e.2 = false →
    (e.2 = .ok () ↔ (w.table.get? fd).isSome)

/-- What a process has done by its answers: what has been interrupted, it has only tried. -/
def deeds (replies : List WorkerReply) : Child :=
  (replies.filter fun e => !(e.1.isRetried && isInterruption e.2)).map Prod.fst

/-- Whether something that a process has said could not be read by anybody. -/
def Unheard (replies : List WorkerReply) : Prop :=
  ∃ message, (.complain message, .error .epipe) ∈ replies

end Worker

/-- Whether a process with these descriptors that has the first list left to do will do what is on
the second, and leave with a status, if what it says can be read. -/
inductive Child.Departs : DescriptorTable → Child → Child → Nat → Prop where
  /-- It leaves. -/
  | exit {table rest} (status : Nat) : Departs table (.exit status :: rest) [.exit status]
    (status % 256)
  /-- It does what cannot fail. -/
  | sure {table s rest deeds status} (stays : ∀ argv status, s ≠ .exec argv ∧ s ≠ .exit status)
    (plain : ∀ fd stream, s ≠ .install fd stream) (quiet : ∀ message, s ≠ .complain message)
    (others : Departs (s.apply table) rest deeds status) :
    Departs table (s :: rest) (s :: deeds) status
  /-- It says something. -/
  | complains {table message rest deeds status} (others : Departs table rest deeds status) :
    Departs table (.complain message :: rest) (.complain message :: deeds) status
  /-- It installs what is open. -/
  | installed {table fd stream rest deeds status} (isOpen : (table.get? fd).isSome)
    (others : Departs ((ChildStep.install fd stream).apply table) rest deeds status) :
    Departs table (.install fd stream :: rest) (.install fd stream :: deeds) status
  /-- It tries to install what is not open. -/
  | refused {table fd stream rest deeds status} (isClosed : table.get? fd = none)
    (others : ∀ cause, Departs table ((ChildStep.install fd stream).onFailure cause) deeds status) :
    Departs table (.install fd stream :: rest) (.install fd stream :: deeds) status

/-- What such a process does next is on both lists, and starts no program. -/
theorem Child.Departs.head {table : DescriptorTable} {todo deeds : Child} {status : Nat}
    (h : Departs table todo deeds status) :
    ∃ s rest left, todo = s :: rest ∧ deeds = s :: left ∧ ∀ argv, s ≠ .exec argv := by
  cases h with
  | exit => exact ⟨_, _, _, rfl, rfl, nofun⟩
  | sure stays => exact ⟨_, _, _, rfl, rfl, fun argv => (stays argv 0).1⟩
  | complains => exact ⟨_, _, _, rfl, rfl, nofun⟩
  | installed => exact ⟨_, _, _, rfl, rfl, nofun⟩
  | refused => exact ⟨_, _, _, rfl, rfl, nofun⟩

namespace Worker

variable {w w' : Worker} {status : Nat}

/-- Whether a process will do what is on a list, and leave with a status, or has done so. -/
def Departs (w : Worker) (list : Child) (status : Nat) : Prop :=
  (list = [] ∧ w.life = .ended (.exited status)) ∨
    ∃ todo, w.life = .preparing todo ∧ Child.Departs w.table todo list status

/-- What an answer to an installation comes to: it is to be tried again, or the descriptor is open
and becomes the stream, or it is not open and the process takes its leave. -/
theorem hears_install {fd : Fd} {stream : Stream} {answer : Except Errno Unit}
    (h : Hears w (.install fd stream, answer) w') :
    ∃ rest, w.life = .preparing (.install fd stream :: rest) ∧
      (deeds [(.install fd stream, answer)] = [] ∧ w' = w ∨
        deeds [(.install fd stream, answer)] = [.install fd stream] ∧
          ((w.table.get? fd).isSome ∧ w'.life = .preparing rest ∧
              w'.table = (ChildStep.install fd stream).apply w.table ∨
            w.table.get? fd = none ∧ w'.table = w.table ∧
              ∃ cause, w'.life = .preparing ((ChildStep.install fd stream).onFailure cause))) := by
  obtain ⟨htakes, hhonest⟩ := h
  have htold := hhonest fd stream rfl
  obtain @⟨_, rest, life, _⟩ := htakes
  have hgoes := goes_after life answer
  generalize w.after (.install fd stream) rest answer = w' at hgoes
  refine ⟨rest, life, ?_⟩
  have hdone : isInterruption answer = false →
      deeds [(.install fd stream, answer)] = [.install fd stream] := fun hno => by simp [deeds, hno]
  cases hgoes with
  | again _ interrupted =>
    subst interrupted
    exact .inl ⟨rfl, rfl⟩
  | on _ succeeds =>
    have hok := succeeds fd stream rfl
    have hno : isInterruption answer = false := by rw [hok]; rfl
    exact .inr ⟨hdone hno, .inl ⟨(htold hno).mp hok, rfl, rfl⟩⟩
  | @fails cause told may =>
    have hno : isInterruption answer = false := by
      obtain ⟨_, _, -, hcause⟩ | ⟨_, hexec⟩ := may
      · rw [told, Bool.eq_false_iff]
        exact fun h => hcause (Except.error.inj (eq_of_isInterruption h))
      · cases hexec
    have hclosed : ¬(w.table.get? fd).isSome := by
      intro hopen
      have hok : answer = .ok () := (htold hno).mpr hopen
      cases told.symm.trans hok
    exact .inr ⟨hdone hno, .inr ⟨Option.not_isSome_iff_eq_none.mp hclosed, rfl, cause, rfl⟩⟩
  | runs starts => cases starts
  | leaves exits => cases exits
  | unheard complains => cases complains

/-- Nothing more happens to a process that has ended. -/
theorem not_takes_of_ended {how : Ending} (hended : w.life = .ended how) (e : WorkerReply) :
    ¬w.Takes e w' := by
  intro htakes
  obtain @⟨step, rest, life, answer⟩ := htakes
  cases life.symm.trans hended

/-- An answer to what is not said is heard. -/
theorem not_unheard_singleton {step : ChildStep} (h : ∀ message, step ≠ .complain message)
    (answer : Except Errno Unit) : ¬Unheard [(step, answer)] := by
  rintro ⟨message, hmem⟩
  exact h message (congrArg Prod.fst (List.mem_singleton.mp hmem)).symm

/-- What is said is heard, or it ends the process. -/
theorem after_complain (w : Worker) (message : Bytes) (rest : Child) (answer : Except Errno Unit) :
    ¬Unheard [(.complain message, answer)] ∧
        w.after (.complain message) rest answer = { w with life := .preparing rest } ∨
      Unheard [(.complain message, answer)] ∧
        (w.after (.complain message) rest answer).life = .ended (.killed Signal.pipe.number) := by
  by_cases htold : answer = .error .epipe
  · subst htold
    exact .inr ⟨⟨message, List.mem_singleton_self _⟩, rfl⟩
  · refine .inl ⟨?_, ?_⟩
    · rintro ⟨message', hmem⟩
      exact htold (congrArg Prod.snd (List.mem_singleton.mp hmem)).symm
    · rcases ChildStep.answered_complain message answer with hon | ⟨hepipe, -⟩
      · rw [after_of_isParting rfl, hon]
        rfl
      · exact absurd hepipe htold

/-- One answer leaves such a process where it is, or takes it one deed further, or the deed is
something that nobody can read. -/
theorem departs_of_hears {list : Child} {e : WorkerReply} (h : w.Departs list status)
    (hhears : Hears w e w') : ∃ left, list = deeds [e] ++ left ∧
      (¬Unheard [e] ∧ w'.Departs left status ∨
        Unheard [e] ∧ w'.life = .ended (.killed Signal.pipe.number)) := by
  obtain ⟨-, hended⟩ | ⟨todo, htodo, hdeparts⟩ := h
  · exact absurd hhears.takes (not_takes_of_ended hended e)
  have hfirst : ∃ rest, todo = e.1 :: rest ∧ w' = w.after e.1 rest e.2 := by
    obtain @⟨step, rest, life, answer⟩ := hhears.takes
    exact ⟨rest, Life.preparing.inj (htodo.symm.trans life), rfl⟩
  obtain ⟨step, answer⟩ := e
  obtain ⟨rest, rfl, hafter⟩ := hfirst
  cases hdeparts with
  | exit status =>
    have hheard : ¬Unheard [(ChildStep.exit status, answer)] :=
      not_unheard_singleton (by simp) answer
    refine ⟨[], rfl, .inl ⟨hheard, .inl ⟨rfl, ?_⟩⟩⟩
    rw [hafter, after_exit]
  | complains others =>
    refine ⟨_, rfl, ?_⟩
    subst hafter
    rcases after_complain w _ rest answer with ⟨hheard, hon⟩ | hunheard
    · exact .inl ⟨hheard, .inr ⟨rest, congrArg Worker.life hon,
        (congrArg Worker.table hon).symm ▸ others⟩⟩
    · exact .inr hunheard
  | sure stays plain quiet others =>
    have hdone : deeds [(step, answer)] = [step] ∧
        w' = { w with table := step.apply w.table, life := .preparing rest } := by
      subst hafter
      cases step with
      | install fd stream => exact absurd rfl (plain fd stream)
      | exec argv => exact absurd rfl (stays argv 0).1
      | exit status => exact absurd rfl (stays [] status).2
      | complain message => exact absurd rfl (quiet message)
      | _ => cases answer <;> exact ⟨rfl, rfl⟩
    rw [hdone.1, hdone.2]
    exact ⟨_, rfl, .inl ⟨not_unheard_singleton quiet answer, .inr ⟨rest, rfl, others⟩⟩⟩
  | @installed _ fd stream _ list _ isOpen others =>
    have hheard : ¬Unheard [(ChildStep.install fd stream, answer)] :=
      not_unheard_singleton (by simp) answer
    obtain ⟨rest', hrest, htried⟩ := hears_install hhears
    obtain rfl : rest = rest' := (List.cons.inj (Life.preparing.inj (htodo.symm.trans hrest))).2
    obtain ⟨hdeeds, rfl⟩ | ⟨hdeeds, ⟨-, hlife, htable⟩ | ⟨hclosed, -⟩⟩ := htried
    · rw [hdeeds]
      exact ⟨_, rfl, .inl ⟨hheard, .inr ⟨_, htodo, .installed isOpen others⟩⟩⟩
    · rw [hdeeds]
      exact ⟨list, rfl, .inl ⟨hheard, .inr ⟨rest, hlife, htable ▸ others⟩⟩⟩
    · rw [hclosed] at isOpen
      cases isOpen
  | @refused _ fd stream _ list _ isClosed others =>
    have hheard : ¬Unheard [(ChildStep.install fd stream, answer)] :=
      not_unheard_singleton (by simp) answer
    obtain ⟨rest', hrest, htried⟩ := hears_install hhears
    obtain ⟨hdeeds, rfl⟩ | ⟨hdeeds, ⟨hopen, -⟩ | ⟨-, htable, cause, hlife⟩⟩ := htried
    · rw [hdeeds]
      exact ⟨_, rfl, .inl ⟨hheard, .inr ⟨_, htodo, .refused isClosed others⟩⟩⟩
    · rw [isClosed] at hopen
      cases hopen
    · rw [hdeeds]
      exact ⟨list, rfl, .inl ⟨hheard, .inr ⟨_, hlife, htable ▸ others cause⟩⟩⟩

theorem deeds_cons (e : WorkerReply) (replies : List WorkerReply) :
    deeds (e :: replies) = deeds [e] ++ deeds replies := by
  rw [deeds, deeds, deeds, ← List.map_append, ← List.filter_append]
  rfl

theorem unheard_cons {e : WorkerReply} {replies : List WorkerReply} :
    Unheard (e :: replies) ↔ Unheard [e] ∨ Unheard replies := by
  simp only [Unheard, List.mem_cons, List.not_mem_nil, or_false, exists_or]

/-- What such a process has done at any moment is the first part of what it will do; unless somebody
could not be told, and then this was its end. -/
theorem departs_of_plays {list : Child} {replies : List WorkerReply} (h : w.Departs list status)
    (hplays : Plays Hears w replies w') : ∃ left, list = deeds replies ++ left ∧
      (¬Unheard replies ∧ w'.Departs left status ∨
        Unheard replies ∧ w'.life = .ended (.killed Signal.pipe.number)) := by
  induction hplays generalizing list with
  | nil w => exact ⟨list, rfl, .inl ⟨fun ⟨_, hmem⟩ => List.not_mem_nil hmem, h⟩⟩
  | @cons w _ _ e rest first others ih =>
    obtain ⟨next, rfl, ⟨hheard, hnext⟩ | ⟨hunheard, hended⟩⟩ := departs_of_hears h first
    · obtain ⟨left, rfl, hleft⟩ := ih hnext
      refine ⟨left, by rw [deeds_cons e rest, List.append_assoc], ?_⟩
      simpa only [unheard_cons, hheard, false_or] using hleft
    · cases others with
      | nil => exact ⟨next, rfl, .inr ⟨hunheard, hended⟩⟩
      | cons first _ => exact absurd first.takes (not_takes_of_ended hended _)

/-- Such a process never comes to a program. As long as it has something left to do, it can go on,
and otherwise it has left. -/
theorem Departs.cases {left : Child} (h : w.Departs left status) :
    (∀ argv rest, w.life ≠ .preparing (.exec argv :: rest)) ∧ (∀ argv, w.life ≠ .running argv) ∧
      (left = [] ↔ w.life = .ended (.exited status)) ∧
      (left ≠ [] → ∃ s rest, w.life = .preparing (s :: rest)) := by
  obtain ⟨rfl, hended⟩ | ⟨todo, htodo, hdeparts⟩ := h
  · simp [hended]
  · obtain ⟨s, rest, left, rfl, rfl, hexec⟩ := hdeparts.head
    rw [htodo]
    refine ⟨fun argv _ h => hexec argv (List.cons.inj (Life.preparing.inj h)).1, nofun, ?_,
      fun _ => ⟨s, rest, rfl⟩⟩
    exact iff_of_false (List.cons_ne_nil s left) nofun

/-- Whether a process that has heard these answers is on its way through a list of deeds to its end
with a status, and never starts a program. If it has said something that nobody can read, a signal
has ended it on the way. -/
structure IsDeparting (list : Child) (status : Nat) (replies : List WorkerReply) (w : Worker) :
    Prop where
  idle : ∀ argv rest, w.life ≠ .preparing (.exec argv :: rest) ∧ w.life ≠ .running argv
  onTheWay : ∃ left, list = deeds replies ++ left ∧
    (¬Unheard replies → (left = [] ↔ w.life = .ended (.exited status)) ∧
      (left ≠ [] → ∃ s rest, w.life = .preparing (s :: rest)))
  unheard : Unheard replies → w.life = .ended (.killed Signal.pipe.number)

theorem isDeparting_of_plays {pid : Pid} {table : DescriptorTable} {todo list : Child}
    {replies : List WorkerReply} (h : Child.Departs table todo list status)
    (hplays : Plays Hears ⟨pid, table, .preparing todo⟩ replies w) :
    w.IsDeparting list status replies := by
  obtain ⟨left, hleft, ⟨hheard, hdeparts⟩ | ⟨hunheard, hkilled⟩⟩ :=
    departs_of_plays (.inr ⟨todo, rfl, h⟩) hplays
  · obtain ⟨hexec, hrun, hended, hgoes⟩ := hdeparts.cases
    exact ⟨fun argv rest => ⟨hexec argv rest, hrun argv⟩, ⟨left, hleft, fun _ => ⟨hended, hgoes⟩⟩,
      fun hunheard => absurd hunheard hheard⟩
  · refine ⟨fun argv rest => ?_, ⟨left, hleft, fun hheard => absurd hunheard hheard⟩,
      fun _ => hkilled⟩
    rw [hkilled]
    exact ⟨nofun, nofun⟩

end Worker

/-! ### A stream that is not open -/

/-- The first of the streams that a stage wants replaced by what is not open. -/
def Ends.lacked (ends : Ends) (table : DescriptorTable) : Option Stream :=
  if ends.stdin.any fun fd => (table.get? fd).isNone then some .stdin
  else if ends.stdout.any fun fd => (table.get? fd).isNone then some .stdout
  else none

/-- A stage lacks no stream exactly if all that it wants is open. -/
theorem Ends.lacked_eq_none_iff (ends : Ends) (table : DescriptorTable) :
    ends.lacked table = none ↔
      ∀ fd, ends.stdin = some fd ∨ ends.stdout = some fd → (table.get? fd).isSome := by
  have hopen : ∀ wanted : Option Fd, (wanted.any fun fd => (table.get? fd).isNone) = false ↔
      ∀ fd, wanted = some fd → (table.get? fd).isSome := by
    intro wanted
    cases wanted <;> simp [Option.isSome_iff_ne_none]
  have hnone : ends.lacked table = none ↔
      (ends.stdin.any fun fd => (table.get? fd).isNone) = false ∧
        (ends.stdout.any fun fd => (table.get? fd).isNone) = false := by
    rw [lacked]
    split <;> simp_all
  rw [hnone, hopen, hopen]
  exact ⟨fun h fd hfd => hfd.elim (h.1 fd) (h.2 fd), fun h => ⟨fun fd hfd => h fd (.inl hfd),
    fun fd hfd => h fd (.inr hfd)⟩⟩

/-- What is done for a stage that lacks a stream. Standard input comes first, and the attempt that
fails is the last. -/
def Child.refusal (ends : Ends) (lacked : Stream) : Child :=
  .restorePipeSignal :: installs ends.stdin (if lacked = .stdout then ends.stdout else none) ++
    [.complain (Text.encode s!"pipesh: cannot redirect {lacked.name}\n"), .exit 1]

/-- What is wanted as a stream and is not open is refused. -/
theorem Child.departs_install {table : DescriptorTable} {fd : Fd} (h : table.get? fd = none)
    (stream : Stream) (rest : Child) :
    Departs table (.install fd stream :: rest) [.install fd stream,
      .complain (Text.encode s!"pipesh: cannot redirect {stream.name}\n"), .exit 1] 1 :=
  .refused h fun _ => .complains (.exit 1)

/-- A stage that lacks a stream has no choice. -/
theorem Child.departs_plan {ends : Ends} {table : DescriptorTable} {stream : Stream}
    (h : ends.lacked table = some stream) (hstdin : (table.get? Fd.stdin).isSome)
    (foreign : List Fd) (argv : List String) :
    Departs table (plan ends.stdin ends.stdout foreign argv) (refusal ends stream) 1 := by
  obtain ⟨stdin, stdout⟩ := ends
  have hrestored : ∀ {rest deeds : Child}, Departs table rest deeds 1 →
      Departs table (.restorePipeSignal :: rest) (.restorePipeSignal :: deeds) 1 :=
    fun h => .sure (fun _ _ => ⟨nofun, nofun⟩) nofun nofun h
  have hbehind : ∀ {fd : Fd}, table.get? fd = none → ∀ source,
      ((ChildStep.install source .stdin).apply table).get? fd = none := by
    -- standard input is open, so it is not what is wanted
    intro fd hnone source
    rw [ChildStep.get?_apply_install_of_ne, hnone]
    rintro rfl
    exact absurd hnone (Option.isSome_iff_ne_none.mp hstdin)
  cases stdin with
  | none =>
    cases stdout with
    | none => cases h
    | some fd' =>
      have hnone : table.get? fd' = none ∧ .stdout = stream := by simpa [Ends.lacked] using h
      obtain ⟨hnone, rfl⟩ := hnone
      exact hrestored (departs_install hnone .stdout _)
  | some fd =>
    by_cases hfd : table.get? fd = none
    · obtain rfl : .stdin = stream := by simpa [Ends.lacked, hfd] using h
      exact hrestored (departs_install hfd .stdin _)
    · cases stdout with
      | none => simp [Ends.lacked, hfd] at h
      | some fd' =>
        have hnone : table.get? fd' = none ∧ .stdout = stream := by simpa [Ends.lacked, hfd] using h
        obtain ⟨hnone, rfl⟩ := hnone
        exact hrestored (.installed (Option.isSome_iff_ne_none.mpr hfd)
          (departs_install (hbehind hnone fd) .stdout _))

/-! ### From the launch on -/

namespace Launcher

variable {l : Launcher} {w : Wiring} {stage : Stage} {scene scene' : Scene}
  {replies : List ShellReply} {handle : Handle}

/-- A stage that is started has a process with a copy of the shell's descriptors and its plan. -/
theorem workers_of_plays
    (h : Plays Scene.Takes (l.launch w stage, scene) replies
      (.done (.ok (.started handle)), scene')) :
    handle.index = stage.index ∧ scene'.workers =
      scene.workers ++ [⟨handle.pid, scene.table, .preparing (l.plan w stage)⟩] := by
  rw [launch] at h
  by_cases hempty : stage.words.isEmpty = true
  · rw [if_pos hempty] at h
    cases (Scene.of_plays_done h).2.1
  rw [if_neg hempty] at h
  by_cases hlone : (stage.isTerminator l.terminator && w.stages == 1) = true
  · rw [if_pos hlone] at h
    cases (Scene.of_plays_done h).2.1
  rw [if_neg hlone] at h
  obtain ⟨answer, rest, -, -, hnext⟩ := Scene.of_plays_persist rfl h
  cases answer with
  | error cause => cases (Scene.of_plays_done hnext).2.1
  | ok pid =>
    obtain ⟨-, hhandle, rfl⟩ := Scene.of_plays_done hnext
    obtain rfl : handle = ⟨stage.index, pid⟩ := Launched.started.inj (Except.ok.inj hhandle)
    exact ⟨rfl, rfl⟩

/-- **The descriptors at the start of a program.** Whatever wiring, outer streams and descriptors
there are, if only the standard streams of the shell are open: the process of a stage is made with a
copy of the shell's table. If it comes to the start of its program, above the error stream exactly
the `2 * (n - 1)` pipe ends and the outer streams have been removed from it, the error stream is
what it was, and so is every standard stream that the stage has nothing in place of. If something
that the stage wants as a stream is not open, the process never comes to its program: it says which
stream cannot be had, standard input before standard output, and leaves with status one, unless what
it says goes to a pipe without readers: then the signal for that ends it. The process of a
terminator wants no streams, and leaves with status zero. -/
theorem table_at_exec (l : Launcher) (w : Wiring) (stage : Stage) {scene scene' : Scene}
    {replies : List ShellReply} {handle : Handle} (hwired : w.pipes.length + 1 = w.stages)
    (hopen : ∀ fd, Fd.stdin ≤ fd → fd ≤ Fd.stderr → (scene.table.get? fd).isSome)
    (hlaunch : Plays Scene.Takes (l.launch w stage, scene) replies
      (.done (.ok (.started handle)), scene')) :
    w.fds.length = 2 * (w.stages - 1) ∧ ∃ child : Worker,
      scene'.workers = scene.workers ++ [child] ∧ child.pid = handle.pid ∧
      child.table = scene.table ∧
      ∀ answers worker, Plays Worker.Hears child answers worker →
        (stage.isTerminator l.terminator = false →
          (∀ argv rest, worker.life = .preparing (.exec argv :: rest) → argv = stage.words ∧
            Inherits scene.table (w.fds ++ l.outer.toList) (w.endsWithin l.outer stage.index)
              worker.table) ∧
          ∀ fd, (w.endsWithin l.outer stage.index).stdin = some fd ∨
              (w.endsWithin l.outer stage.index).stdout = some fd →
            scene.table.get? fd = none →
              ∃ stream, (w.endsWithin l.outer stage.index).lacked scene.table = some stream ∧
                worker.IsDeparting (.refusal (w.endsWithin l.outer stage.index) stream) 1
                  answers) ∧
        (stage.isTerminator l.terminator = true → worker.IsDeparting [.exit 0] 0 answers) := by
  have hlength : w.fds.length = 2 * w.pipes.length := by
    simp [Wiring.fds, PipeEnds.toList, List.length_flatMap, List.map_const', Nat.mul_comm]
  refine ⟨by omega, _, (workers_of_plays hlaunch).2, rfl, rfl, ?_⟩
  intro answers worker hplays
  constructor
  · intro hproper
    have hplan : l.plan w stage = .plan (w.endsWithin l.outer stage.index).stdin
        (w.endsWithin l.outer stage.index).stdout (w.fds ++ l.outer.toList) stage.words :=
      if_neg (Bool.eq_false_iff.mp hproper)
    rw [hplan] at hplays
    constructor
    · intro argv rest hlife
      exact Worker.inherits_of_plays (hplays.map fun h => h.takes) hlife
    · intro fd hwanted hclosed
      have hstdin := hopen Fd.stdin (by decide) (by decide)
      have hlacks : (w.endsWithin l.outer stage.index).lacked scene.table ≠ none := by
        intro hnone
        have hsome := (Ends.lacked_eq_none_iff _ _).mp hnone fd hwanted
        rw [hclosed] at hsome
        cases hsome
      obtain ⟨stream, hlacked⟩ := Option.ne_none_iff_exists'.mp hlacks
      exact ⟨stream, hlacked,
        Worker.isDeparting_of_plays (Child.departs_plan hlacked hstdin _ _) hplays⟩
  · intro hterminator
    have hplan : l.plan w stage = [.exit 0] := if_pos hterminator
    rw [hplan] at hplays
    exact Worker.isDeparting_of_plays (.exit 0) hplays

/-! ### A pipe of two stages -/

section TwoStages

/-- A shell with its standard streams that has made one pipe. -/
def pipedShell : Scene where
  table := ((DescriptorTable.ofList [⟨0, false⟩, ⟨1, false⟩, ⟨2, false⟩]).put 3 ⟨3, true⟩).put 4
    ⟨4, true⟩
  files := 5

/-- The wiring of two stages with this pipe. -/
def pipedWiring : Wiring := ⟨2, [⟨3, 4⟩]⟩

theorem isSome_get?_pipedShell :
    ∀ fd, Fd.stdin ≤ fd → fd ≤ Fd.stderr → (pipedShell.table.get? fd).isSome := by
  intro fd hlow hhigh
  obtain rfl | rfl | rfl := Fd.eq_stdin_or_stdout_or_stderr hlow hhigh <;> decide

/-- One answer, and no interruption, launches a stage. -/
theorem plays_launch (l : Launcher) (w : Wiring) (stage : Stage) (scene : Scene)
    (hwords : stage.words.isEmpty = false)
    (hproper : (stage.isTerminator l.terminator && w.stages == 1) = false) (pid : Pid) :
    Plays Scene.Takes (l.launch w stage, scene) [⟨.fork (l.plan w stage), .ok pid⟩]
      (.done (.ok (.started ⟨stage.index, pid⟩)),
        scene.after (.fork (l.plan w stage)) (.ok pid)) := by
  rw [launch, hwords, hproper]
  exact .cons (.persist _) (.nil _)

/-- A launcher with an outer source that is not open. -/
def starved : Launcher := ⟨"exit", { source := some 9 }⟩

/-- Answers to the second stage of the pipe, up to its program. -/
def readerAnswers : List WorkerReply :=
  [(.restorePipeSignal, .ok ()), (.install 3 .stdin, .error .eintr), (.install 3 .stdin, .ok ()),
    (.close 3, .ok ()), (.close 4, .ok ()), (.close 9, .error .ebadf)]

/-- Answers to the first stage of the pipe, which lacks its standard input. -/
def starvedAnswers : List WorkerReply :=
  [(.restorePipeSignal, .ok ()), (.install 9 .stdin, .error .ebadf),
    (.complain (Text.encode "pipesh: cannot redirect stdin\n"), .ok ()), (.exit 1, .ok ())]

/-- Answers to the first stage of the pipe if nobody can read what it says. -/
def unreadAnswers : List WorkerReply :=
  [(.restorePipeSignal, .ok ()), (.install 9 .stdin, .error .ebadf),
    (.complain (Text.encode "pipesh: cannot redirect stdin\n"), .error .epipe)]

/-- Whatever is not the installation of a stream may be answered in every way. -/
theorem hears_of_plain {w : Worker} {s : ChildStep} {rest : Child} (answer : Except Errno Unit)
    (hs : ∀ fd stream, s ≠ .install fd stream) (life : w.life = .preparing (s :: rest)) :
    Worker.Hears w (s, answer) (w.after s rest answer) :=
  ⟨.step life answer, fun _ _ h => absurd h (hs _ _)⟩

/-- Of a pipe of two stages with an outer source that is not open, the second one comes to its
program without the ends of the pipe, and the first one leaves once it has said what it lacks. -/
theorem table_at_exec_two_stages :
    (∃ worker : Worker, Plays Worker.Hears
        ⟨7, pipedShell.table, .preparing (starved.plan pipedWiring ⟨1, "b", ["b"]⟩)⟩ readerAnswers
        worker ∧
      worker.table.get? 3 = none ∧ worker.table.get? 4 = none ∧
      worker.table.get? Fd.stdout = some ⟨1, false⟩) ∧
    ∃ worker : Worker, Plays Worker.Hears
        ⟨8, pipedShell.table, .preparing (starved.plan pipedWiring ⟨0, "a", ["a"]⟩)⟩ starvedAnswers
        worker ∧
      worker.life = .ended (.exited 1) := by
  have hreader := plays_launch starved pipedWiring ⟨1, "b", ["b"]⟩ pipedShell rfl (by decide) 7
  have hwriter := plays_launch starved pipedWiring ⟨0, "a", ["a"]⟩ pipedShell rfl (by decide) 8
  constructor
  · obtain ⟨-, child, hchild, -, -, hall⟩ :=
      table_at_exec _ _ _ rfl isSome_get?_pipedShell hreader
    obtain rfl := (List.cons.inj hchild).1
    have hplays : Plays Worker.Hears ⟨7, pipedShell.table,
        .preparing (starved.plan pipedWiring ⟨1, "b", ["b"]⟩)⟩ readerAnswers _ :=
      .cons (hears_of_plain _ nofun rfl) (.cons ⟨.step rfl _, nofun⟩
        (.cons ⟨.step rfl _, fun _ _ h _ => by cases h; decide⟩
        (.cons (hears_of_plain _ nofun rfl) (.cons (hears_of_plain _ nofun rfl)
          (.cons (hears_of_plain _ nofun rfl) (.nil _))))))
    obtain ⟨hexec, -⟩ := (hall _ _ hplays).1 (by decide)
    obtain ⟨-, hinherits⟩ := hexec _ _ rfl
    exact ⟨_, hplays, hinherits.above 3 (by decide), hinherits.above 4 (by decide),
      hinherits.stdout (by decide)⟩
  · obtain ⟨-, child, hchild, -, -, hall⟩ :=
      table_at_exec _ _ _ rfl isSome_get?_pipedShell hwriter
    obtain rfl := (List.cons.inj hchild).1
    have hplays : Plays Worker.Hears ⟨8, pipedShell.table,
        .preparing (starved.plan pipedWiring ⟨0, "a", ["a"]⟩)⟩ starvedAnswers _ :=
      .cons (hears_of_plain _ nofun rfl) (.cons ⟨.step rfl _, fun _ _ h _ => by cases h; decide⟩
        (.cons (hears_of_plain _ nofun rfl) (.cons (hears_of_plain _ nofun rfl) (.nil _))))
    obtain ⟨-, hlacks⟩ := (hall _ _ hplays).1 (by decide)
    obtain ⟨stream, hstream, hdeparting⟩ := hlacks 9 (.inl (by decide)) (by decide)
    obtain rfl : .stdin = stream := Option.some.inj hstream
    have hheard : ¬Worker.Unheard starvedAnswers := by
      rintro ⟨message, hmem⟩
      simp [starvedAnswers] at hmem
    obtain ⟨left, hleft, hends⟩ := hdeparting.onTheWay
    obtain ⟨hended, -⟩ := hends hheard
    have hlengths : 4 = 4 + left.length := (congrArg List.length hleft).trans List.length_append
    have hnone : left = [] := List.length_eq_zero_iff.mp (by omega)
    exact ⟨_, hplays, hended.mp hnone⟩

/-- **Not every process without its stream leaves with status one.** Take the first of two stages,
with an outer source that is not open. If it is a terminator, it leaves with status zero; and if
nobody can read what its process says, the signal of a broken pipe ends it. -/
theorem not_always_leaves_with_one :
    (pipedWiring.endsWithin starved.outer 0).stdin = some 9 ∧ pipedShell.table.get? 9 = none ∧
    (∃ scene' child worker, Plays Scene.Takes
        (starved.launch pipedWiring ⟨0, "exit", ["exit"]⟩, pipedShell)
        [⟨.fork [.exit 0], .ok (7 : Pid)⟩] (.done (.ok (.started ⟨0, 7⟩)), scene') ∧
      scene'.workers = [child] ∧
      Plays Worker.Hears child [(.exit 0, .ok ())] worker ∧ worker.life = .ended (.exited 0)) ∧
    ∃ scene' child worker, Plays Scene.Takes
        (starved.launch pipedWiring ⟨0, "a", ["a"]⟩, pipedShell)
        [⟨.fork (starved.plan pipedWiring ⟨0, "a", ["a"]⟩), .ok (8 : Pid)⟩]
        (.done (.ok (.started ⟨0, 8⟩)), scene') ∧
      scene'.workers = [child] ∧
      Plays Worker.Hears child unreadAnswers worker ∧
      worker.life = .ended (.killed Signal.pipe.number) := by
  refine ⟨rfl, by decide, ?_, ?_⟩
  · exact ⟨_, _, _, plays_launch _ _ _ pipedShell rfl (by decide) 7, rfl,
      .cons (hears_of_plain _ nofun rfl) (.nil _), rfl⟩
  · exact ⟨_, _, _, plays_launch _ _ _ pipedShell rfl (by decide) 8, rfl,
      .cons (hears_of_plain _ nofun rfl) (.cons ⟨.step rfl _, fun _ _ h _ => by cases h; decide⟩
        (.cons (hears_of_plain _ nofun rfl) (.nil _))), rfl⟩

end TwoStages

end Launcher

end PipeShell
