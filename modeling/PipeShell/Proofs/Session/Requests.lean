import PipeShell.Proofs.Session.Aborted
import PipeShell.Proofs.Session.Loop

/-!
# Requests to stop

A request to stop may come in at any moment: it is put behind those that wait already, and it waits
until the loop looks for it. That happens in one place of a round, behind a line that has not
stopped the shell. So a loop goes on for a while when a request waits, and here it is shown for how
long: until the line that is being run is over, or, if none is, until the next one is.

* `Loop.Steps` is the loop among requests, one step at a time.
* `Steps.pressed` says that a request waits until it is looked at, `Steps.room_le` how many lines
  are started meanwhile, and `Steps.endsWith` how the session ends, each for one step.
* `Loop.one_line_after_request` puts the steps together.
-/

namespace PipeShell

/-! ### The steps of a loop -/

/-- What one answer does to a computation and to the requests that wait. Whoever looks for requests
gets the oldest. -/
inductive Hears {α : Type} : Interaction α × List Signal → ShellReply →
    Interaction α × List Signal → Prop where
  | poll {next : Request.takeStop.Answer → Interaction α} (requests : List Signal) :
    Hears (.once .takeStop next, requests) ⟨.takeStop, .ok requests.head?⟩
      (next (.ok requests.head?), requests.tail)
  | once {r : Request} {next : r.Answer → Interaction α} {requests : List Signal}
    (other : r.IsOther) (answer : r.Answer) :
    Hears (.once r next, requests) ⟨r, answer⟩ (next answer, requests)
  | persist {r : Request} {next : r.Answer → Interaction α} {requests : List Signal}
    (other : r.IsOther) (answer : r.Answer) :
    Hears (.persist r next, requests) ⟨r, answer⟩ (Interaction.resume r next answer, requests)

namespace Loop

/-- What may happen to a loop. -/
inductive Happening where
  /-- A request to stop comes in. -/
  | request (signal : Signal)
  /-- The operating system answers. -/
  | answer (reply : ShellReply)
  /-- A round begins. -/
  | round
  /-- Nothing that is to be run has been heard. -/
  | idle
  /-- A line is started. -/
  | start (line : String)
  /-- A line is over. -/
  | resolve (shell : Shell) (stop : Option Int)
  /-- The session is over without a line. -/
  | ended (status : Int)

/-- The steps of a loop, with the requests that wait. -/
inductive Steps : Point × List Signal → Happening → Point × List Signal → Prop where
  | request {pt : Point} {requests : List Signal} (signal : Signal) :
    Steps (pt, requests) (.request signal) (pt, requests ++ [signal])
  | round {l : Loop} {requests : List Signal} :
    Steps (.between l, requests) .round (.listening l.listen, requests)
  | listen {p p' : Interaction (Loop × Heard)} {requests requests' : List Signal} {e : ShellReply}
    (hears : Hears (p, requests) e (p', requests')) :
    Steps (.listening p, requests) (.answer e) (.listening p', requests')
  | idle {l : Loop} {requests : List Signal} :
    Steps (.listening (.done (l, .nothing)), requests) .idle (.between l, requests)
  | ended {l : Loop} {status : Int} {requests : List Signal} :
    Steps (.listening (.done (l, .ended status)), requests) (.ended status)
      (.leaving status (.done ()), requests)
  | start {l : Loop} {line : String} {requests : List Signal} :
    Steps (.listening (.done (l, .line line)), requests) (.start line)
      (.running l line (l.shell.runLine line), requests)
  | run {l : Loop} {line : String} {p p' : Interaction (Shell × Option Int)}
    {requests requests' : List Signal} {e : ShellReply}
    (hears : Hears (p, requests) e (p', requests')) :
    Steps (.running l line p, requests) (.answer e) (.running l line p', requests')
  | stop {l : Loop} {line : String} {shell : Shell} {status : Int} {requests : List Signal} :
    Steps (.running l line (.done (shell, some status)), requests) (.resolve shell (some status))
      (.leaving status (l.behind shell).part, requests)
  | resolve {l : Loop} {line : String} {shell : Shell} {requests : List Signal} :
    Steps (.running l line (.done (shell, none)), requests) (.resolve shell none)
      (.polling (l.behind shell), requests)
  | pollNothing {l : Loop} :
    Steps (.polling l, []) (.answer ⟨.takeStop, .ok none⟩) (.between l, [])
  | pollRequest {l : Loop} {signal : Signal} {requests : List Signal} :
    Steps (.polling l, signal :: requests) (.answer ⟨.takeStop, .ok (some signal)⟩)
      (.leaving l.shell.last l.part, requests)
  | leave {status : Int} {p p' : Interaction Unit} {requests requests' : List Signal}
    {e : ShellReply} (hears : Hears (p, requests) e (p', requests')) :
    Steps (.leaving status p, requests) (.answer e) (.leaving status p', requests')

end Loop

/-! ### Hearing -/

section Hears

variable {α : Type} {p p' : Interaction α} {requests requests' : List Signal} {e : ShellReply}

/-- Where nothing looks for requests, they wait on. -/
theorem Hears.of_asks (h : Hears (p, requests) e (p', requests')) (hp : p.Asks Request.IsOther) :
    p'.Asks Request.IsOther ∧ requests' = requests := by
  cases h with
  | poll =>
    cases hp with
    | once other all => exact absurd rfl other
  | once other answer =>
    cases hp with
    | once other all => exact ⟨all answer, rfl⟩
  | persist other answer =>
    refine ⟨?_, rfl⟩
    rw [Interaction.resume]
    split
    · exact hp
    · cases hp with
      | persist other all => exact all answer

/-- What a computation hears among requests to stop it hears anyway. -/
theorem Hears.takes (h : Hears (p, requests) e (p', requests')) (scene : Scene) :
    Scene.Takes (p, scene) e (p', scene.after e.1 e.2) := by
  cases h with
  | poll => exact .once _
  | once other answer => exact .once answer
  | persist other answer => exact .persist answer

/-- Whatever speaks goes on speaking, or is aborted. -/
theorem Hears.speaks_or_aborted (h : Hears (p, requests) e (p', requests'))
    (hp : p.Speaks ∨ p = .aborted) : p'.Speaks ∨ p' = .aborted := by
  obtain hspeaks | rfl := hp
  · exact (Scene.speaks_of_takes hspeaks (h.takes ⟨{}, 0, []⟩)).imp And.right And.right
  · cases h

end Hears

/-! ### While requests wait -/

namespace Point

/-- Whether nothing but the place behind a line looks for requests, and the end of the session is at
most aborted because something could not be said. -/
def Sound : Point → Prop
  | between _ => True
  | listening p => p.Asks Request.IsOther
  | running _ _ p => p.Asks Request.IsOther
  | polling _ => True
  | leaving _ p => p.Asks Request.IsOther ∧ (p.Speaks ∨ p = .aborted)

/-- Whether the session is about to be over. -/
def IsLeaving : Point → Prop
  | leaving _ _ => True
  | _ => False

/-- Whether a line is being run. -/
def Runs (line : String) : Point → Prop
  | running _ line' _ => line' = line
  | _ => False

/-- How many lines are still started when a request waits. -/
def room : Point → Nat
  | between _ => 1
  | listening _ => 1
  | _ => 0

/-- Whether the session ends with a status: it is about to be over, or behind its last line, with a
request that waits. -/
def EndsWith (status : Int) : Point → List Signal → Prop
  | polling l, requests => l.shell.last = status ∧ requests ≠ []
  | leaving status' _, _ => status' = status
  | _, _ => False

end Point

namespace Loop

variable {pt pt' : Point} {requests requests' : List Signal} {e : Happening}

/-- The lines that are started. -/
def started (happenings : List Happening) : List String :=
  happenings.filterMap fun
    | .start line => some line
    | _ => none

@[simp] theorem started_nil : started [] = [] := rfl

theorem length_started_cons (e : Happening) (rest : List Happening) :
    (started (e :: rest)).length = (started [e]).length + (started rest).length := by
  rw [started, started, started, ← List.length_append, ← List.filterMap_append,
    List.singleton_append]

theorem speaks_part (l : Loop) : l.part.Speaks := by
  cases l with
  | batch b => exact .done ()
  | interactive i => exact i.speaks_save.bind fun _ => Interaction.speaks_say _ _

/-- The end of a session is sound. -/
theorem sound_leaving_part (status : Int) (l : Loop) : (Point.leaving status l.part).Sound :=
  ⟨l.asks_part, .inl l.speaks_part⟩

/-- A step of a sound point leads to a sound point. -/
theorem Steps.sound (h : Steps (pt, requests) e (pt', requests')) (hpt : pt.Sound) : pt'.Sound := by
  cases h with
  | request signal => exact hpt
  | @round l => exact l.asks_listen
  | listen hears => exact (hears.of_asks hpt).1
  | idle => trivial
  | ended => exact ⟨.done (), .inl (.done ())⟩
  | start => exact asks_runLine _ _
  | run hears => exact (hears.of_asks hpt).1
  | stop => exact sound_leaving_part _ _
  | resolve => trivial
  | pollNothing => trivial
  | pollRequest => exact sound_leaving_part _ _
  | leave hears => exact ⟨(hears.of_asks hpt.1).1, hears.speaks_or_aborted hpt.2⟩

/-- Whether a loop is pressed to stop: a request waits, or the session is already about to be
over. -/
structure Pressed (pt : Point) (requests : List Signal) : Prop where
  sound : pt.Sound
  waits : pt.IsLeaving ∨ requests ≠ []

/-- **A loop that is pressed stays pressed**: requests wait until the session is about to be
over. -/
theorem Steps.pressed (h : Steps (pt, requests) e (pt', requests')) (hpt : Pressed pt requests) :
    Pressed pt' requests' := by
  obtain ⟨hsound, hwaits⟩ := hpt
  refine ⟨h.sound hsound, ?_⟩
  -- only `pollRequest` takes a request away, and it leaves; `pollNothing` needs that none waits
  cases h with
  | request signal =>
    exact .inr (List.append_ne_nil_of_right_ne_nil _ (List.cons_ne_nil _ _))
  | listen hears =>
    obtain ⟨-, rfl⟩ := hears.of_asks hsound
    exact .inr (hwaits.resolve_left id)
  | run hears =>
    obtain ⟨-, rfl⟩ := hears.of_asks hsound
    exact .inr (hwaits.resolve_left id)
  | ended => exact .inl trivial
  | stop => exact .inl trivial
  | pollNothing => exact absurd rfl (hwaits.resolve_left id)
  | pollRequest => exact .inl trivial
  | leave hears => exact .inl trivial
  | _ => exact .inr (hwaits.resolve_left id)

/-- **Every line that a pressed loop starts takes up room.** -/
theorem Steps.room_le (h : Steps (pt, requests) e (pt', requests')) (hpt : Pressed pt requests) :
    (started [e]).length + pt'.room ≤ pt.room := by
  cases h with
  | request signal => simp [started]
  | ended => exact Nat.zero_le _
  | pollNothing => exact absurd rfl (hpt.waits.resolve_left id)
  | _ => exact le_rfl

/-- A line that is being run is run to its end, and so is a line that is started. -/
theorem Steps.runs {line : String} (h : Steps (pt, requests) e (pt', requests'))
    (hruns : pt.Runs line ∨ e = .start line) :
    pt'.Runs line ∨ ∃ shell stop, e = .resolve shell stop := by
  cases h with
  | request signal => exact .inl (hruns.resolve_right nofun)
  | start =>
    obtain hnone | hstart := hruns
    · exact absurd hnone id
    · exact .inl (Happening.start.inj hstart)
  | run hears => exact .inl (hruns.resolve_right nofun)
  | stop => exact .inr ⟨_, _, rfl⟩
  | resolve => exact .inr ⟨_, _, rfl⟩
  | _ => exact absurd (hruns.resolve_right nofun) id

/-- How a line is over says how the session ends, if a request waits. -/
theorem Steps.endsWith_of_resolve {shell : Shell} {stop : Option Int}
    (h : Steps (pt, requests) (.resolve shell stop) (pt', requests')) (hpt : Pressed pt requests) :
    pt'.EndsWith (stop.getD shell.last) requests' := by
  cases h with
  | stop => rfl
  | resolve => exact ⟨congrArg Shell.last (shell_behind _ _), hpt.waits.resolve_left id⟩

/-- And nothing changes that. -/
theorem Steps.endsWith {status : Int} (h : Steps (pt, requests) e (pt', requests'))
    (hends : pt.EndsWith status requests) : pt'.EndsWith status requests' := by
  cases h with
  | @request pt requests signal =>
    cases pt with
    | polling l =>
      exact ⟨hends.1, List.append_ne_nil_of_right_ne_nil _ (List.cons_ne_nil _ _)⟩
    | leaving status' p => exact hends
    | _ => exact absurd hends id
  | pollNothing => exact absurd rfl hends.2
  | pollRequest => exact hends.1
  | leave hears => exact hends
  | _ => exact absurd hends id

/-! ### Runs -/

section Runs

variable {happenings : List Happening}

theorem sound_of_plays (h : Plays Steps (pt, requests) happenings (pt', requests'))
    (hpt : pt.Sound) : pt'.Sound :=
  h.keeps (fun s => s.1.Sound) (fun hs hstep => hstep.sound hs) hpt

/-- While requests wait, no more lines are started than there is room for. -/
theorem room_of_plays (h : Plays Steps (pt, requests) happenings (pt', requests'))
    (hpt : Pressed pt requests) : (started happenings).length + pt'.room ≤ pt.room := by
  induction happenings generalizing pt requests with
  | nil =>
    cases h
    rw [started_nil, List.length_nil, Nat.zero_add]
  | cons e rest ih =>
    cases h with
    | cons first others =>
      have hfirst := first.room_le hpt
      have hothers := ih others (first.pressed hpt)
      rw [length_started_cons]
      omega

/-- What is being run or is started is, at the end, still being run, or it is over. -/
theorem runs_of_plays {line : String}
    (h : Plays Steps (pt, requests) happenings (pt', requests'))
    (hruns : pt.Runs line ∨ .start line ∈ happenings) :
    pt'.Runs line ∨ ∃ shell stop, .resolve shell stop ∈ happenings := by
  induction happenings generalizing pt requests with
  | nil =>
    cases h
    exact .inl (hruns.resolve_right (List.not_mem_nil))
  | cons e rest ih =>
    cases h with
    | @cons _ middle _ _ _ first others =>
      have hlater : (middle.1.Runs line ∨ .start line ∈ rest) ∨
          ∃ shell stop, e = .resolve shell stop := by
        obtain hnow | hstart := hruns
        · exact (first.runs (.inl hnow)).imp_left .inl
        · obtain rfl | hrest := List.mem_cons.mp hstart
          · exact (first.runs (.inr rfl)).imp_left .inl
          · exact .inl (.inr hrest)
      obtain hlater | ⟨shell, stop, rfl⟩ := hlater
      · obtain hend | ⟨shell, stop, hmem⟩ := ih others hlater
        · exact .inl hend
        · exact .inr ⟨shell, stop, List.mem_cons_of_mem _ hmem⟩
      · exact .inr ⟨shell, stop, List.mem_cons_self⟩

/-- Behind the line that is over, a session in which a request waits ends with the status that the
line says. -/
theorem endsWith_of_mem {shell : Shell} {stop : Option Int}
    (h : Plays Steps (pt, requests) happenings (pt', requests')) (hpt : Pressed pt requests)
    (hover : .resolve shell stop ∈ happenings) : pt'.EndsWith (stop.getD shell.last) requests' := by
  induction happenings generalizing pt requests with
  | nil => exact absurd hover List.not_mem_nil
  | cons e rest ih =>
    cases h with
    | cons first others =>
      obtain rfl | hrest := List.mem_cons.mp hover
      · exact others.keeps (fun s => s.1.EndsWith (stop.getD shell.last) s.2)
          (fun hs hstep => hstep.endsWith hs) (first.endsWith_of_resolve hpt)
      · exact ih others (first.pressed hpt) hrest

/-- The end of a session does come to its end. -/
theorem exists_end_of_leaving {p : Interaction Unit} (status : Int) (requests : List Signal)
    (hp : p.Asks Request.IsOther) (hspeaks : p.Speaks) :
    ∃ rest, Plays Steps (.leaving status p, requests) rest
      (.leaving status (.done ()), requests) := by
  -- any answer will do here, as long as the texts are shown
  induction hspeaks with
  | done a => exact ⟨[], .nil _⟩
  | @once r next heard unheard ih =>
    cases hp with
    | once other all =>
      obtain ⟨rest, hrest⟩ := ih r.plainAnswer r.isUnshown_plainAnswer (all r.plainAnswer)
      exact ⟨_ :: rest, .cons (.leave (.once other r.plainAnswer)) hrest⟩
  | @persist r next heard all ih =>
    cases hp with
    | persist other asks =>
      obtain ⟨rest, hrest⟩ := ih r.plainAnswer (asks r.plainAnswer)
      have hfirst : Hears (.persist r next, requests) ⟨r, r.plainAnswer⟩
          (Interaction.resume r next r.plainAnswer, requests) := .persist other r.plainAnswer
      rw [Interaction.resume, r.isInterruption_plainAnswer, if_neg Bool.false_ne_true] at hfirst
      exact ⟨_ :: rest, .cons (.leave hfirst) hrest⟩

theorem exists_end_of_endsWith {status : Int} (hpt : pt.Sound)
    (hends : pt.EndsWith status requests) :
    pt = .leaving status .aborted ∨
      ∃ rest requests', Plays Steps (pt, requests) rest
        (.leaving status (.done ()), requests') := by
  cases pt with
  | polling l =>
    obtain ⟨rfl, hwaits⟩ := hends
    obtain ⟨signal, others, rfl⟩ := List.exists_cons_of_ne_nil hwaits
    obtain ⟨rest, hrest⟩ := exists_end_of_leaving l.shell.last others l.asks_part l.speaks_part
    exact .inr ⟨_ :: rest, others, .cons .pollRequest hrest⟩
  | leaving status' p =>
    obtain rfl : status' = status := hends
    obtain ⟨hasks, hspeaks | rfl⟩ := hpt
    · obtain ⟨rest, hrest⟩ := exists_end_of_leaving status' requests hasks hspeaks
      exact .inr ⟨rest, requests, hrest⟩
    · exact .inl rfl
  | _ => exact absurd hends id

end Runs

/-- **A request to stop ends a session behind one line at most.** Whatever the operating system
answers and whenever requests come in, from the moment on at which one waits at most one line is
started, and none if one is being run. A line that is being run or is started is run to its end. And
once it is over, the session can only end, with the status that the line has stopped the shell with,
or else with the status of the shell behind the line, and it does come to its end, unless it is
aborted there because its last words cannot be shown. Blank lines of a terminal are never started.
-/
theorem one_line_after_request {l : Loop} {before after : List Happening} {pt pt' : Point}
    {requests₀ requests requests' : List Signal}
    (hbefore : Plays Steps (.between l, requests₀) before (pt, requests)) (hwaits : requests ≠ [])
    (hafter : Plays Steps (pt, requests) after (pt', requests')) :
    (started after).length ≤ 1 ∧
    (∀ line, pt.Runs line → started after = []) ∧
    (∀ line, pt.Runs line ∨ .start line ∈ after →
      pt'.Runs line ∨ ∃ shell stop, .resolve shell stop ∈ after) ∧
    ∀ shell stop, .resolve shell stop ∈ after →
      pt'.EndsWith (stop.getD shell.last) requests' ∧
        (pt' = .leaving (stop.getD shell.last) .aborted ∨
          ∃ rest requests'', Plays Steps (pt', requests') rest
            (.leaving (stop.getD shell.last) (.done ()), requests'')) := by
  have hpt : Pressed pt requests := ⟨sound_of_plays hbefore trivial, .inr hwaits⟩
  have hroom := room_of_plays hafter hpt
  refine ⟨?_, ?_, fun line => runs_of_plays hafter, ?_⟩
  · have hone : pt.room ≤ 1 := by cases pt <;> simp [Point.room]
    omega
  · intro line hruns
    have hnone : pt.room = 0 := by
      cases pt with
      | running l line p => rfl
      | _ => exact absurd hruns id
    exact List.eq_nil_of_length_eq_zero (by omega)
  · intro shell stop hover
    have hends := endsWith_of_mem hafter hpt hover
    exact ⟨hends, exists_end_of_endsWith (sound_of_plays hafter hpt.sound) hends⟩

/-- A loop over a file that has read a line already starts it in the next round. -/
theorem exists_plays_pending : ∃ b : Batch, ∀ requests,
    Plays Steps (.between (batch b), requests) [.round, .start "exit 7\n"]
      (.running (batch { shell := {} }) "exit 7\n" (Shell.runLine {} "exit 7\n"), requests) := by
  have hread : Text.decodeLossy [101, 120, 105, 116, 32, 55, 10] = "exit 7\n" := by decide
  let b : Batch := { shell := {}, reader := ⟨[101, 120, 105, 116, 32, 55, 10]⟩ }
  have hlisten : (batch b).listen = .done (batch { shell := {} }, .line "exit 7\n") := by
    rw [← hread]
    rfl
  refine ⟨b, fun requests => .cons .round ?_⟩
  rw [hlisten]
  exact .cons .start (.nil _)

/-- A loop over a terminal hears what the line editor hands over. -/
theorem plays_edit (i : Interactive) (event : Event) (requests : List Signal) :
    Plays Steps (.between (interactive i), requests)
      [.round, .answer ⟨.edit i.prompt, .ok event⟩] (.listening (i.hear event), requests) := by
  have hhears : Hears ((interactive i).listen, requests) ⟨.edit i.prompt, .ok event⟩
      (i.hear event, requests) :=
    .once (by rintro ⟨⟩) (show (Request.edit i.prompt).Answer from .ok event)
  exact .cons .round (.cons (.listen hhears) (.nil _))

/-- A lone terminator that is run although a request waits ends the session with its own status. -/
theorem one_line_after_request_exit :
    ∃ (l : Loop) (after : List Happening),
      Plays Steps (.between l, []) [.request .term] (.between l, [.term]) ∧
      Plays Steps (.between l, [.term]) after (.leaving 7 (.done ()), [.term]) ∧
      (started after).length = 1 ∧
      ∀ shell stop, .resolve shell stop ∈ after → 7 = stop.getD shell.last := by
  have hstop : IsStop {} "exit 7\n" (some 7) :=
    ⟨⟨0, "exit 7", ["exit", "7"]⟩, by decide, by decide, by decide⟩
  have hran : Shell.runLine {} "exit 7\n" = .done ({}, some 7) := by
    have htrace : (parse {} "exit 7\n").trace = [] := by decide
    rw [Shell.runLine_of_isStop hstop, htrace]
    rfl
  obtain ⟨b, hpending⟩ := exists_plays_pending
  have hbefore : Plays Steps (.between (batch b), []) [.request .term]
      (.between (batch b), [.term]) := .cons (.request .term) (.nil _)
  have hafter := hpending [.term]
  rw [hran] at hafter
  have hall := hafter.append (.cons .stop (.nil _))
  obtain ⟨-, -, -, hends⟩ := one_line_after_request hbefore (List.cons_ne_nil _ _) hall
  exact ⟨_, _, hbefore, hall, rfl, fun shell stop hover => (hends shell stop hover).1⟩

/-- **A request that waits already does not keep a line from being run.** It may have come in before
the line has been read, and at a terminal blank lines may have been read since. -/
theorem line_started_after_request :
    (∃ (b : Batch) (pt : Point), Plays Steps (.between (batch b), [])
      [.request .term, .round, .start "exit 7\n"] (pt, [.term])) ∧
    ∃ (i : Interactive) (pt : Point), Plays Steps (.between (interactive i), [])
      [.request .term, .round, .answer ⟨.edit i.prompt, .ok (.line "")⟩, .idle,
        .round, .answer ⟨.edit i.prompt, .ok (.line "exit 7")⟩,
        .answer ⟨.remember "exit 7", .ok ()⟩, .start "exit 7"] (pt, [.term]) := by
  obtain ⟨b, hpending⟩ := exists_plays_pending
  refine ⟨⟨b, _, .cons (.request .term) (hpending [.term])⟩, ?_⟩
  let i : Interactive := { shell := {} }
  have hline : i.hear (.line "exit 7") = .once (.remember "exit 7") fun _ =>
      .done (interactive i, .line "exit 7") := by
    have hbusy : ¬(Text.trimmed "exit 7").isEmpty = true := by decide
    have htrimmed : Text.trimmed "exit 7" = "exit 7" := by decide
    rw [Interactive.hear, if_neg hbusy, htrimmed]
    rfl
  have hblank : Plays Steps (.between (interactive i), [.term])
      [.round, .answer ⟨.edit i.prompt, .ok (.line "")⟩, .idle]
      (.between (interactive i), [.term]) :=
    (plays_edit i (.line "") [.term]).append (.cons .idle (.nil _))
  have hremembers : Hears (i.hear (.line "exit 7"), [.term]) ⟨.remember "exit 7", .ok ()⟩
      (.done (interactive i, .line "exit 7"), [.term]) := by
    have hother : (Request.remember "exit 7").IsOther := by rintro ⟨⟩
    rw [hline]
    exact .once hother (.ok ())
  have hstart := (plays_edit i (.line "exit 7") [.term]).append
    (.cons (.listen hremembers) (.cons .start (.nil _)))
  exact ⟨i, _, .cons (.request .term) (hblank.append hstart)⟩

end Loop

end PipeShell
