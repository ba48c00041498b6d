import PipeShell.Proofs.Session.Events

/-!
# The rounds of a session at a terminal

A session at a terminal is a list of rounds. One round that is final ends it, whatever came before,
and nothing but that does. Behind the final round the history is saved and the farewell is said, in
that order, once each, and whatever comes of it the status stays.

* `edits` is what the line editor has given back, and `remembered` what it has been offered for the
  history.
* `Round.IsFinal` says which rounds end a session.
* `Proceeds` is one round, by the table of `Interactive.Handles`; its lemmas say what a round
  keeps.
* `isFinal_iff_of_plays` says that the first final round is the last one.
* `exists_rounds_of_plays` says that a session proceeds so, by induction on the rounds.
-/

namespace PipeShell

open Scene

/-! ### What is heard of the line editor -/

/-- What the line editor has given back, if the answer is one to that. -/
def ShellReply.edit? : ShellReply → Option (Except Errno Event)
  | ⟨.edit _, answer⟩ => some answer
  | _ => none

/-- What has been offered to the history, if the answer is one to that. -/
def ShellReply.entry? : ShellReply → Option String
  | ⟨.remember entry, _⟩ => some entry
  | _ => none

/-- What the line editor has given back, in that order. -/
def edits (replies : List ShellReply) : List (Except Errno Event) :=
  replies.filterMap ShellReply.edit?

/-- What has been offered to the history, in that order. -/
def remembered (replies : List ShellReply) : List String :=
  replies.filterMap ShellReply.entry?

section Lists

variable (replies replies' : List ShellReply)

@[simp] theorem edits_append : edits (replies ++ replies') = edits replies ++ edits replies' :=
  List.filterMap_append

@[simp] theorem remembered_append :
    remembered (replies ++ replies') = remembered replies ++ remembered replies' :=
  List.filterMap_append

end Lists

/-- What is not fed with anything concerns no line editor. -/
theorem ShellReply.edit?_and_entry?_of_not_isFed {e : ShellReply} (h : e.1.isFed = false) :
    e.edit? = none ∧ e.entry? = none := by
  obtain ⟨request, answer⟩ := e
  cases request with
  | edit prompt => cases h
  | remember entry => cases h
  | _ => exact ⟨rfl, rfl⟩

/-- Nothing is heard of the line editor while a line is run. -/
theorem edits_and_remembered_of_not_isFed {replies : List ShellReply}
    (h : ∀ e ∈ replies, e.1.isFed = false) : edits replies = [] ∧ remembered replies = [] :=
  ⟨List.filterMap_eq_nil_iff.mpr fun e he => (e.edit?_and_entry?_of_not_isFed (h e he)).1,
    List.filterMap_eq_nil_iff.mpr fun e he => (e.edit?_and_entry?_of_not_isFed (h e he)).2⟩

/-! ### Rounds -/

/-- The line that an event is, unless it is blank. -/
def Event.line? : Event → Option String
  | .line text => if (Text.trimmed text).isEmpty then none else some text
  | _ => none

theorem Event.line?_of_isWhite {text : String} (h : Text.IsWhite text) :
    (Event.line text).line? = none := by
  rw [line?, if_pos (Text.isEmpty_trimmed_iff.mpr h)]

theorem Event.line?_of_not_isWhite {text : String} (h : ¬Text.IsWhite text) :
    (Event.line text).line? = some text := by
  rw [line?, if_neg (h ∘ Text.isEmpty_trimmed_iff.mp)]

/-- A round of a session at a terminal, as it is heard. -/
structure Round where
  /-- The prompt that the line editor has been asked to show. -/
  prompt : String
  /-- What the line editor has given back. -/
  answer : Except Errno Event
  /-- What is heard while this is handled. The end of the session is left out. -/
  handled : List ShellReply

namespace Round

/-- What is heard in a round. -/
def replies (round : Round) : List ShellReply :=
  ⟨.edit round.prompt, round.answer⟩ :: round.handled

/-- The event that is handled. -/
def event (round : Round) : Event :=
  .ofAnswer round.answer

/-- Whether a request to stop has been found. -/
def FindsStop (round : Round) : Prop :=
  ∃ signal, ⟨.takeStop, .ok (some signal)⟩ ∈ round.handled

/-- **Which rounds end a session**: those with a lone terminator, with a line that is not blank and
behind which a request to stop has been found, with the end of the input, and with a failure to
read. -/
def IsFinal (settings : Settings) (round : Round) : Prop :=
  match round.event with
  | .line text => (∃ status, IsStop settings text status) ∨
      (¬Text.IsWhite text ∧ round.FindsStop)
  | .ended => True
  | .failed _ => True
  | _ => False

end Round

namespace Interactive

/-- **One round**: the line editor is asked under the prompt of the session, and what it gives back
is handled. -/
inductive Proceeds : Next → Round → Next → Prop where
  | meets {i : Interactive} {answer : Except Errno Event} {handled : List ShellReply} {next : Next}
    (handles : Handles i (.ofAnswer answer) handled next) :
    Proceeds (.goesOn i) ⟨i.prompt, answer, handled⟩ next

/-! ### One round -/

section Step

variable {i j : Interactive} {event : Event} {answer : Except Errno Event} {prompt : String}
  {heard : List ShellReply} {s next : Next} {round : Round} {settings : Settings}

namespace Handles

/-- While an event is handled, nothing is heard but what is offered to the history, what concerns a
line or the error stream, and the requests to stop. -/
theorem request_cases (h : i.Handles event heard next) :
    ∀ e ∈ heard, e.1.isFed = false ∨ e.1 = .takeStop ∨ ∃ entry, e.1 = .remember entry := by
  have hran : ∀ {line ran shell stop entry} {kept : (Request.remember entry).Answer},
      i.shell.Runs line ran shell stop → ∀ e ∈ (⟨_, kept⟩ : ShellReply) :: ran,
        e.1.isFed = false ∨ e.1 = .takeStop ∨ ∃ entry, e.1 = .remember entry := by
    intro line ran shell stop entry kept runs e he
    obtain rfl | hmem := List.mem_cons.mp he
    · exact .inr (.inr ⟨entry, rfl⟩)
    · exact .inl (runs.isFed_eq_false e hmem)
  have hpolled : ∀ {line ran shell entry answer} {kept : (Request.remember entry).Answer},
      i.shell.Runs line ran shell none → ∀ e ∈ ⟨_, kept⟩ :: (ran ++ [⟨.takeStop, answer⟩]),
        e.1.isFed = false ∨ e.1 = .takeStop ∨ ∃ entry, e.1 = .remember entry := by
    intro line ran shell entry answer kept runs e he
    rw [← List.cons_append] at he
    obtain hmem | hlast := List.mem_append.mp he
    · exact hran runs e hmem
    · rw [List.mem_singleton.mp hlast]
      exact .inr (.inl rfl)
  cases h with
  | blank => exact List.forall_mem_nil _
  | stops kept asks runs => exact hran runs
  | asked kept busy goes runs => exact hpolled runs
  | unasked kept busy goes runs => exact hpolled runs
  | ended => exact List.forall_mem_nil _
  | _ =>
    intro e he
    rw [List.mem_singleton.mp he]
    exact .inl rfl

theorem edits_eq_nil (h : i.Handles event heard next) : edits heard = [] := by
  refine List.filterMap_eq_nil_iff.mpr fun e he => ?_
  obtain hfed | hpoll | ⟨entry, hentry⟩ := h.request_cases e he
  · exact (e.edit?_and_entry?_of_not_isFed hfed).1
  · obtain ⟨request, answer⟩ := e
    subst hpoll
    rfl
  · obtain ⟨request, answer⟩ := e
    subst hentry
    rfl

/-- A line that is not blank is offered to the history, without the white space around it, and
nothing else is. -/
theorem remembered_eq (h : i.Handles event heard next) :
    remembered heard = event.line?.toList.map Text.trimmed := by
  have hran : ∀ {line ran shell stop}, i.shell.Runs line ran shell stop → remembered ran = [] :=
    fun runs => (edits_and_remembered_of_not_isFed runs.isFed_eq_false).2
  have hoffered : ∀ {text ran} {kept : (Request.remember (Text.trimmed text)).Answer},
      remembered ran = [] → remembered (⟨_, kept⟩ :: ran) = [Text.trimmed text] := by
    intro text ran kept hnone
    rw [← List.singleton_append, remembered_append, hnone]
    rfl
  have hpolled : ∀ {line ran shell answer}, i.shell.Runs line ran shell none →
      remembered (ran ++ [⟨.takeStop, answer⟩]) = [] := by
    intro line ran shell answer runs
    rw [remembered_append, hran runs]
    rfl
  cases h with
  | blank white => rw [Event.line?_of_isWhite white]; rfl
  | stops kept asks runs =>
    rw [Event.line?_of_not_isWhite asks.not_isWhite]
    exact hoffered (hran runs)
  | asked kept busy goes runs =>
    rw [Event.line?_of_not_isWhite busy]
    exact hoffered (hpolled runs)
  | unasked kept busy goes runs =>
    rw [Event.line?_of_not_isWhite busy]
    exact hoffered (hpolled runs)
  | _ => rfl

theorem runner_eq (h : i.Handles event heard next) :
    next.session.shell.runner = i.shell.runner := by
  cases h with
  | asked kept busy goes runs => exact runs.runner_eq
  | unasked kept busy goes runs => exact runs.runner_eq
  | _ => rfl

/-- A round ends the session exactly if it is final. -/
theorem isLeaving_iff (h : i.Handles (.ofAnswer answer) heard next) :
    next.IsLeaving ↔ Round.IsFinal i.shell.runner.settings ⟨prompt, answer, heard⟩ := by
  rw [Round.IsFinal, Round.event]
  generalize Event.ofAnswer answer = event at h
  cases h with
  | blank white =>
    refine iff_of_false id ?_
    rintro (⟨status, hstop⟩ | ⟨hbusy, -⟩)
    · exact hstop.not_isWhite white
    · exact hbusy white
  | stops kept asks runs => exact iff_of_true trivial (.inl ⟨_, asks⟩)
  | @asked text shell ran signal kept busy goes runs =>
    refine iff_of_true trivial (.inr ⟨busy, signal, List.mem_cons_of_mem _ ?_⟩)
    exact List.mem_append_right _ (List.mem_singleton_self _)
  | unasked kept busy goes runs quiet =>
    refine iff_of_false id ?_
    rintro (⟨status, hstop⟩ | ⟨-, signal, hfound⟩)
    · exact goes status hstop
    · obtain hkept | hrest := List.mem_cons.mp hfound
      · cases hkept
      obtain hran | hlast := List.mem_append.mp hrest
      · cases runs.isFed_eq_false _ hran
      · cases List.mem_singleton.mp hlast
        exact quiet signal rfl
  | _ => exact Iff.rfl

end Handles

namespace Proceeds

theorem runner_eq (h : Proceeds s round next) :
    next.session.shell.runner = s.session.shell.runner := by
  cases h with
  | meets handles => exact handles.runner_eq

theorem isLeaving_iff (h : Proceeds s round next) :
    next.IsLeaving ↔ round.IsFinal s.session.shell.runner.settings := by
  cases h with
  | meets handles => exact handles.isLeaving_iff

theorem not_isParting (h : Proceeds s round next) : ∀ e ∈ round.replies, ¬e.1.IsParting := by
  intro e he
  cases h with
  | meets handles =>
    obtain rfl | hhandled := List.mem_cons.mp he
    · exact id
    · obtain hfed | hpoll | ⟨entry, hentry⟩ := handles.request_cases e hhandled
      · exact Request.not_isParting_of_isFed hfed
      · rw [hpoll]
        exact id
      · rw [hentry]
        exact id

/-- The line editor is asked once. -/
theorem edits_eq (h : Proceeds s round next) : edits round.replies = [round.answer] := by
  cases h with
  | @meets i answer handled next handles =>
    have hone : edits (⟨.edit i.prompt, answer⟩ :: handled) = answer :: edits handled :=
      List.filterMap_cons_some rfl
    rw [Round.replies, hone, handles.edits_eq_nil]

theorem remembered_eq (h : Proceeds s round next) :
    remembered round.replies = round.event.line?.toList.map Text.trimmed := by
  cases h with
  | meets handles => exact handles.remembered_eq

/-- Behind its end a session does not go on. -/
theorem not_of_isLeaving (hs : s.IsLeaving) : ¬Proceeds s round next := by
  intro h
  cases h
  exact hs

end Proceeds

end Step

/-! ### All rounds -/

section Run

variable {i j : Interactive} {n : Nat} {s next : Next} {rounds : List Round}
  {scene scene' : Scene} {replies rest : List ShellReply}

theorem runner_of_plays (h : Plays Proceeds s rounds next) :
    next.session.shell.runner = s.session.shell.runner :=
  h.keeps (fun t => t.session.shell.runner = s.session.shell.runner)
    (fun hs hround => hround.runner_eq.trans hs) rfl

theorem not_isParting_of_plays (h : Plays Proceeds s rounds next) :
    ∀ e ∈ rounds.flatMap Round.replies, ¬e.1.IsParting := by
  induction h with
  | nil s => exact List.forall_mem_nil _
  | cons first others ih =>
    rw [List.flatMap_cons, List.forall_mem_append]
    exact ⟨first.not_isParting, ih⟩

/-- In every round the line editor is asked once. -/
theorem edits_of_plays (h : Plays Proceeds s rounds next) :
    edits (rounds.flatMap Round.replies) = rounds.map Round.answer := by
  induction h with
  | nil s => rfl
  | cons first others ih =>
    rw [List.flatMap_cons, edits_append, first.edits_eq, ih]
    rfl

/-- The lines that are not blank, and they alone, are offered to the history. -/
theorem remembered_of_plays (h : Plays Proceeds s rounds next) :
    remembered (rounds.flatMap Round.replies) =
      ((rounds.map Round.event).filterMap Event.line?).map Text.trimmed := by
  induction h with
  | nil s => rfl
  | @cons s t u round others first _ ih =>
    rw [List.flatMap_cons, remembered_append, first.remembered_eq, ih, List.map_cons]
    cases hline : round.event.line? with
    | none =>
      rw [List.filterMap_cons_none hline]
      rfl
    | some line =>
      rw [List.filterMap_cons_some hline]
      rfl

/-- Behind its end a session has no rounds. -/
theorem eq_of_plays_of_isLeaving (h : Plays Proceeds s rounds next) (hs : s.IsLeaving) :
    rounds = [] ∧ next = s := by
  cases h with
  | nil => exact ⟨rfl, rfl⟩
  | cons first others => exact absurd first (Proceeds.not_of_isLeaving hs)

/-- **The first final round is the last one**, and a session ends with no other. -/
theorem isFinal_iff_of_plays (h : Plays Proceeds s rounds next) {before after : List Round}
    {round : Round} (hrounds : rounds = before ++ round :: after) :
    round.IsFinal s.session.shell.runner.settings ↔ after = [] ∧ next.IsLeaving := by
  subst hrounds
  obtain ⟨t, t', hbefore, hround, hafter⟩ := h.exists_takes
  have hleaving := hround.isLeaving_iff
  rw [runner_of_plays hbefore] at hleaving
  rw [← hleaving]
  constructor
  · intro hfinal
    obtain ⟨rfl, rfl⟩ := eq_of_plays_of_isLeaving hafter hfinal
    exact ⟨rfl, hfinal⟩
  · rintro ⟨rfl, hnext⟩
    cases hafter
    exact hnext

/-! ### What a session hears -/

/-- Behind the last round the history is saved and the farewell is said. -/
theorem exists_of_plays_leaves {α : Type} {f : Interactive → α} {out : α ⊕ Int} {status : Int}
    (h : Plays Takes ((Next.leaves i status).toInteraction f, scene) replies (.done out, scene')) :
    out = .inr status ∧ ∃ saving, i.Saves saving ∧
      replies = saving ++ [.ofText Fd.stdout farewell] := by
  obtain ⟨saving, others, _, _, rfl, hsaving, hothers⟩ := exists_of_plays_bind h
  obtain ⟨said, rest, _, _, rfl, hsaid, hend⟩ := exists_of_plays_bind hothers
  obtain ⟨rfl, rfl⟩ := of_plays_say hsaid
  obtain ⟨rfl, rfl, -⟩ := of_plays_done hend
  exact ⟨rfl, saving, saves_of_plays hsaving, rfl⟩

/-- Both may be heard, whatever comes of the history. -/
theorem plays_of_saves_leaves {α : Type} (f : Interactive → α) {saving : List ShellReply}
    (h : i.Saves saving) (status : Int) (scene : Scene) :
    Plays Takes ((Next.leaves i status).toInteraction f, scene)
      (saving ++ [.ofText Fd.stdout farewell]) (.done (.inr status), scene) :=
  (plays_bind_iff (plays_of_saves h scene) _ _).mpr
    ((plays_bind_iff (plays_say Fd.stdout farewell scene) [] _).mpr (.nil _))

/-- What goes on only if the session does, does not go on behind its end. -/
theorem toInteraction_leaves_bind {α β : Type} (i : Interactive) {status : Int}
    (f : Interactive → α) (g : Interactive → β) {k : α ⊕ Int → Interaction (β ⊕ Int)}
    (hk : k (.inr status) = .done (.inr status)) :
    ((Next.leaves i status).toInteraction f).bind k = (Next.leaves i status).toInteraction g := by
  rw [Next.toInteraction, Next.toInteraction, Interaction.bind_assoc]
  refine congrArg _ (funext fun _ => ?_)
  rw [Interaction.bind_assoc]
  exact congrArg _ (funext fun _ => hk)

/-- **A turn is a round**, and behind it nothing is left to do, or the end of the session. -/
theorem exists_proceeds_of_plays {out : Interactive ⊕ Int}
    (h : Plays Takes (i.turn, scene) replies (.done out, scene')) :
    ∃ round rest next middle, replies = round.replies ++ rest ∧ Proceeds (.goesOn i) round next ∧
      Plays Takes (i.turn, scene) round.replies (next.toInteraction id, middle) ∧
      Plays Takes (next.toInteraction id, middle) rest (.done out, scene') := by
  obtain ⟨answer, others, rfl, hothers⟩ := of_plays_once h
  obtain ⟨handled, rest, next, middle, rfl, hhandles, hheard, hrest⟩ :=
    exists_handles_of_plays hothers
  exact ⟨⟨i.prompt, answer, handled⟩, rest, next, middle, rfl, .meets hhandles,
    .cons (.once answer) hheard, hrest⟩

/-- What is done behind a turn: further rounds, or nothing behind the end. -/
def more (n : Nat) : Interactive ⊕ Int → Interaction (Session ⊕ Int)
  | .inl i => (Session.interactive i).rounds n
  | .inr status => .done (.inr status)

theorem rounds_succ (i : Interactive) (n : Nat) :
    (Session.interactive i).rounds (n + 1) = i.turn.bind (more n) := by
  have hturn : (Session.interactive i).turn = i.turn.bind fun r => .done (r.map .interactive id) :=
    rfl
  rw [Session.rounds, hturn, Interaction.bind_assoc]
  refine congrArg _ (funext fun r => ?_)
  cases r <;> rfl

/-- **Many turns are rounds**, and behind them nothing is left to do, or the end of the session. -/
theorem exists_rounds_of_plays {r : Session ⊕ Int}
    (h : Plays Takes ((Session.interactive i).rounds n, scene) replies (.done r, scene')) :
    ∃ rounds rest next middle, replies = rounds.flatMap Round.replies ++ rest ∧
      Plays Proceeds (.goesOn i) rounds next ∧ (¬next.IsLeaving → rounds.length = n) ∧
      Plays Takes ((Session.interactive i).rounds n, scene) (rounds.flatMap Round.replies)
        (next.toInteraction .interactive, middle) ∧
      Plays Takes (next.toInteraction .interactive, middle) rest (.done r, scene') := by
  induction n generalizing i scene replies with
  | zero => exact ⟨[], replies, .goesOn i, scene, rfl, .nil _, fun _ => rfl, .nil _, h⟩
  | succ n ih =>
    rw [rounds_succ] at h ⊢
    obtain ⟨before, after, out, middle, rfl, hbefore, hafter⟩ := exists_of_plays_bind h
    obtain ⟨round, last, next, inner, rfl, hround, hheard, hlast⟩ :=
      exists_proceeds_of_plays hbefore
    have hfirst := plays_bind hheard (more n)
    cases next with
    | goesOn j =>
      obtain ⟨rfl, rfl, rfl⟩ := of_plays_done hlast
      obtain ⟨rounds, rest, next, middle', rfl, hrounds, hlength, hplays, hrest⟩ := ih hafter
      refine ⟨round :: rounds, rest, next, middle', ?_, .cons hround hrounds, ?_, ?_, hrest⟩
      · rw [List.flatMap_cons, List.append_nil, List.append_assoc]
      · intro hgoes
        rw [List.length_cons, hlength hgoes]
      · rw [List.flatMap_cons]
        exact hfirst.append hplays
    | leaves j status =>
      obtain ⟨rfl, -⟩ := exists_of_plays_leaves hlast
      obtain ⟨rfl, rfl, rfl⟩ := of_plays_done hafter
      have hmore : more n (.inr status) = .done (.inr status) := rfl
      have hend := toInteraction_leaves_bind j id Session.interactive hmore
      have hsecond := plays_bind hlast (more n)
      rw [hend] at hfirst hsecond
      refine ⟨[round], last, .leaves j status, inner, ?_, .cons hround (.nil _),
        fun hgoes => absurd trivial hgoes, ?_, hsecond⟩
      · rw [List.flatMap_singleton, List.append_nil]
      · rw [List.flatMap_singleton]
        exact hfirst

end Run

end Interactive

end PipeShell
