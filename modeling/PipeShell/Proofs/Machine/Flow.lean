import PipeShell.Proofs.Machine.Service
import PipeShell.Proofs.Pipeline.Completion

/-!
# Data flows through a line

If the program of every stage computes a function, a line that is completed has put the input
through these functions in their order, whoever stepped when and however small the pipes are.

* `Machine.shown` and `Machine.Spares` say what else the shell has done: it has shown the trace on
  its error stream, and that is all.
* `Machine.Flows` is the invariant. `Flows.shell` and `Flows.process` keep it.
* `Machine.flows_in_order` is the theorem. It also says what the report tells: the line is a success
  unless the system loses how processes end.
-/

namespace PipeShell

variable {σ : Type}

namespace Machine

/-- What appears in an open file when texts are shown on the shell's error stream. -/
def shown (m₀ : Machine σ) (k : Nat) (texts : List String) : Bytes :=
  if (m₀.table.get? Fd.stderr).any fun e => e.file == k then texts.flatMap Text.encode else []

@[simp] theorem shown_nil (m₀ : Machine σ) (k : Nat) : m₀.shown k [] = [] := by
  rw [shown]
  split <;> rfl

/-- **What a line leaves alone.** Nothing is read from the terminal, and nothing happens to the
open files of the shell but to the source and the sink, and to the error stream if there is a
trace. -/
structure Spares (m₀ : Machine σ) (source sink : Nat) (texts : List String) (m : Machine σ) :
    Prop where
  terminal : m.terminal = m₀.terminal
  files : ∀ k < m₀.files.size, k ≠ source → k ≠ sink →
    (texts ≠ [] → ∀ e, m₀.table.get? Fd.stderr = some e → ¬ m₀.Shares k e.file) →
    m₀.Untouched m k

/-- **What is asked of a line whose data flows.** The shell has been given a source and a sink, and
every stage has a program that can be started whenever it comes to that, and that computes its
function. -/
structure Relays (rep : Repertoire σ) (f : Nat → Bytes → Bytes) (r : Runner) (line : String)
    (m₀ : Machine σ) (source sink : Nat) : Prop where
  ready : m₀.IsReady r.outer
  outer : m₀.HasOuter r.outer source sink
  plain : rep.IsPlain
  alive : m₀.shellKilledBy = none
  idle : m₀.taken = 0
  proper : ∀ stage ∈ stagesOf r.settings line, stage.isTerminator r.settings.terminator = false
  loads : ∀ p m, Reaches rep (r.execute line, m₀) (p, m) → ∀ (i : Nat) (stage : Stage),
    (stagesOf r.settings line)[i]? = some stage → ∃ program,
      rep.load m.tree m.environment (stage.words.map Text.encode) = .ok program ∧
        rep.Computes (f i) program

section Flow

variable {rep : Repertoire σ} {r : Runner} {line : String} {f : Nat → Bytes → Bytes}
  {m₀ m m' : Machine σ} {outer : Outer} {source sink : Nat} {phase phase' : Phase} {s : Progress}
  {t : Traffic}

/-- One more step that leaves all that alone. -/
theorem Spares.step {texts : List String} (h : Spares m₀ source sink texts m)
    (hterminal : m'.terminal = m.terminal)
    (hfiles : ∀ k < m₀.files.size, k ≠ source → k ≠ sink →
      (texts ≠ [] → ∀ e, m₀.table.get? Fd.stderr = some e → ¬ m₀.Shares k e.file) →
      m.Untouched m' k) : Spares m₀ source sink texts m' :=
  ⟨hterminal.trans h.terminal, fun k hk hsource hsink hshares =>
    (h.files k hk hsource hsink hshares).trans (hfiles k hk hsource hsink hshares)⟩

theorem Spares.of_eq {texts : List String} (h : Spares m₀ source sink texts m)
    (hterminal : m'.terminal = m.terminal) (hfiles : m'.files = m.files)
    (hpipes : m'.pipes = m.pipes) : Spares m₀ source sink texts m' :=
  h.step hterminal fun k _ _ _ _ => .of_eq hfiles hpipes k

/-! ### The trace -/

theorem untouched_setTaken (m : Machine σ) (taken k : Nat) : m.Untouched { m with taken } k :=
  .of_eq (show ({ m with taken } : Machine σ).files = m.files from rfl) rfl k

namespace Shows

variable {fd : Fd} {e : Entry} (h : m.Shows fd m')

include h

theorem terminal : m'.terminal = m.terminal := by
  cases h with
  | nothing taken => rfl
  | writes taken write =>
    have hterminal := terminal_of_writeTo write
    exact hterminal

variable (he : m.table.get? fd = some e)

include he

/-- Showing a text touches nothing but the file that it is shown in. -/
theorem untouched {k : Nat} (hshares : ¬ m.Shares k e.file) : m.Untouched m' k := by
  cases h with
  | nothing taken => exact untouched_setTaken m taken k
  | writes taken write =>
    exact (untouched_of_writeTo he write hshares).trans (untouched_setTaken _ taken k)

/-- Nothing can be written to a source. -/
theorem untouched_source {k : Nat} {content : Bytes} {offset : Nat}
    (hfile : m.files[k]? = some (.source content offset)) : m.Untouched m' k := by
  rcases eq_or_ne k e.file with rfl | hne
  · cases h with
    | nothing taken => exact untouched_setTaken m taken _
    | writes taken write =>
      rw [writeTo, file?_eq he hfile] at write
      cases write
  · refine h.untouched he (not_shares_of_ne hne fun pipe side hend => ?_)
    rw [hfile] at hend
    cases hend

end Shows

/-- Nothing is left of a text that has been shown. -/
theorem taken_of_answer {fd : Fd} {bytes : Bytes}
    (h : m.answer (.writeAll fd bytes) = some (.ok (), m')) : m'.taken = 0 := by
  obtain ⟨count, after, -, -, -, rfl⟩ | ⟨-, -, rfl⟩ | ⟨cause, herror, -⟩ :=
    answer_writeAll_eq_some h
  · rfl
  · rfl
  · cases herror

/-- What a text is shown in is spared only if it is not the error stream. -/
theorem Spares.show_text {w : Wiring} {texts : List String} (h : Spares m₀ source sink texts m)
    (hready : m₀.IsReady outer) (hwired : Wired m₀ w m)
    (hstderr : m.table.get? Fd.stderr = m₀.table.get? Fd.stderr) (htexts : texts ≠ [])
    (hshows : m.Shows Fd.stderr m') : Spares m₀ source sink texts m' := by
  obtain ⟨e, he⟩ := Option.isSome_iff_exists.mp (hready.standard Fd.stderr (by decide) (by decide))
  have hlt : e.file < m₀.files.size := hready.entries _ e he
  refine h.step hshows.terminal fun k hk _ _ hshares => ?_
  refine hshows.untouched (hstderr.trans he) fun hshare => ?_
  -- what shares a pipe with the error stream has shared it from the beginning
  refine hshares htexts e he (hshare.imp_right ?_)
  rintro ⟨pipe, side, side', hfile, hfile'⟩
  exact ⟨pipe, side, side', (hwired.old k hk _ _).mp hfile, (hwired.old _ hlt _ _).mp hfile'⟩

/-- Whether texts on the shell's error stream appear in an open file. -/
def IsShownIn (m₀ : Machine σ) (k : Nat) : Prop :=
  ∃ e, m₀.table.get? Fd.stderr = some e ∧ e.file = k

theorem IsShownIn.shown_eq {k : Nat} (h : m₀.IsShownIn k) (texts : List String) :
    m₀.shown k texts = texts.flatMap Text.encode := by
  obtain ⟨e, he, rfl⟩ := h
  simp [shown, he]

theorem shown_eq_nil {k : Nat} (h : ¬ m₀.IsShownIn k) (texts : List String) :
    m₀.shown k texts = [] := by
  rw [shown, if_neg fun hany => ?_]
  obtain ⟨e, he, heq⟩ := (Option.any_eq_true _ _).mp hany
  exact h ⟨e, he, beq_iff_eq.mp heq⟩

section ShowText

variable {w : Wiring} {count : Nat} {input ground : Bytes} (hready : m₀.IsReady outer)
  (houter : m₀.HasOuter outer source sink) (hwired : Wired m₀ w m) (hbare : Bare m₀ w m)
  (hnone : w.pipes = []) (hstderr : m.table.get? Fd.stderr = m₀.table.get? Fd.stderr)

include hready houter hwired hbare hnone hstderr

/-- While there is no pipe, showing a text leaves the source and the places of the pipes alone. -/
theorem Carries.untouched_of_shows {due : Bytes}
    (h : Carries m₀ source sink count input ground due t m) (hshows : m.Shows Fd.stderr m') :
    m.Untouched m' source ∧
      ∀ j, m'.backlog (m₀.front source j) = m.backlog (m₀.front source j) := by
  obtain ⟨e, he₀⟩ := Option.isSome_iff_exists.mp (hready.standard Fd.stderr (by decide) (by decide))
  have he : m.table.get? Fd.stderr = some e := hstderr.trans he₀
  have hlt : e.file < m₀.files.size := hready.entries _ e he₀
  have hsize : m.files.size = m₀.files.size := by
    rw [hbare.files, hnone]
    rfl
  have hsource : m.Untouched m' source := by
    cases h.inlet with
    | source hfile => exact hshows.untouched_source he hfile
    | pipe hfile => exact absurd hfile (houter.source_ne_pipeEnd hwired _ _)
  refine ⟨hsource, fun j => ?_⟩
  cases j with
  | zero => exact hsource.backlog_eq
  | succ j =>
    have hle : m.files.size ≤ m₀.endFile j .read := hsize ▸ m₀.files_size_le_endFile j .read
    refine (hshows.untouched he (not_shares_of_ne ?_ ?_)).backlog_eq
    · exact (hlt.trans_le (hsize ▸ hle)).ne'
    · exact fun pipe side hend => (files_lt hend).not_ge hle

/-- What is shown elsewhere does not reach the sink. -/
theorem Carries.show_elsewhere (hshown : ¬ m₀.IsShownIn sink) {due : Bytes}
    (h : Carries m₀ source sink count input ground due t m) (hshows : m.Shows Fd.stderr m') :
    Carries m₀ source sink count input ground due t m' := by
  obtain ⟨e, he₀⟩ := Option.isSome_iff_exists.mp (hready.standard Fd.stderr (by decide) (by decide))
  obtain ⟨hsource, hfront⟩ := h.untouched_of_shows hready houter hwired hbare hnone hstderr hshows
  have hne : sink ≠ e.file := fun heq => hshown ⟨e, he₀, heq.symm⟩
  exact h.of_untouched hsource (hshows.untouched (hstderr.trans he₀)
    (not_shares_of_ne hne (houter.sink_ne_pipeEnd hwired))) fun j _ => hfront j

/-- **A text is shown**, before there is any pipe. -/
theorem Carries.show_text {text : String} (rest : List String)
    (h : Carries m₀ source sink count input ground (m₀.shown sink (text :: rest)) t m)
    (htaken : m₀.IsShownIn sink → m.taken = 0)
    (hanswer : m.answer (.writeAll Fd.stderr (Text.encode text)) = some (.ok (), m')) :
    Carries m₀ source sink count input ground (m₀.shown sink rest) t m' := by
  have hshows := shows_of_answer hanswer
  by_cases hshown : m₀.IsShownIn sink
  · -- the error stream is the sink, so what was owed to it has now been written
    obtain ⟨hsource, hfront⟩ :=
      h.untouched_of_shows hready houter hwired hbare hnone hstderr hshows
    cases h.outlet with
    | pipe hfile => exact absurd hfile (houter.sink_ne_pipeEnd hwired _ _)
    | sink hfile =>
      have hzero := htaken hshown
      obtain ⟨e, he₀, rfl⟩ := id hshown
      have he : m.table.get? Fd.stderr = some e := hstderr.trans he₀
      obtain ⟨n, after, hwrite, hall, -, rfl⟩ | ⟨hfailed, -, -⟩ | ⟨cause, herror, -⟩ :=
        answer_writeAll_eq_some hanswer
      · rw [hzero, List.drop_zero] at hwrite
        rw [hzero, Nat.zero_add] at hall
        have haccepts := accepts_of_writeTo he (.sink hfile) hwrite
        have hsink := untouched_setTaken after 0 e.file
        refine ⟨hsource.inlet h.inlet, hsink.outlet haccepts.outlet, fun j hj => ?_, ?_,
          fun j hj hdrained => ?_⟩
        · rw [hfront j, h.passes j hj]
        · have hlands := h.lands
          rw [hshown.shown_eq, List.flatMap_cons, ← List.append_assoc] at hlands
          rw [hshown.shown_eq, hsink.backlog_eq, haccepts.backlog_eq,
            List.take_of_length_le hall, hlands]
        · rw [hfront j, h.empty j hj hdrained]
      · rw [writeTo, file?_eq he hfile] at hfailed
        cases hfailed
      · cases herror
  · rw [shown_eq_nil hshown] at h ⊢
    exact h.show_elsewhere hready houter hwired hbare hnone hstderr hshown hshows

end ShowText

/-! ### The invariant -/

/-- **How far a line has come** that may still be completed, if its programs compute `f`: what its
files carry, where its processes stand, and what the shell knows. -/
structure Flows (rep : Repertoire σ) (f : Nat → Bytes → Bytes) (r : Runner) (line : String)
    (m₀ : Machine σ) (source sink : Nat) (phase : Phase) (s : Progress) (t : Traffic)
    (m : Machine σ) : Prop where
  carries : Carries m₀ source sink (stagesOf r.settings line).length (m₀.backlog source)
    (m₀.backlog sink ++ m₀.shown sink (parse r.settings line).trace)
    (m₀.shown sink phase.untraced) t m
  attends : Attends rep f m₀ r.launcher (stagesOf r.settings line) s t m
  spares : Spares m₀ source sink (parse r.settings line).trace m
  untraces : phase.Untraces (parse r.settings line).trace
  idle : phase.untraced ≠ [] → m₀.IsShownIn sink → m.taken = 0
  tells : phase.Tells m₀.discardsEnded m₀.children.size (stagesOf r.settings line).length s

section Flows

variable (hready : m₀.IsReady r.outer) (houter : m₀.HasOuter r.outer source sink)

include houter in
theorem flows_start (htaken : m₀.taken = 0) : Flows rep f r line m₀ source sink (r.phase line)
    (.start (stagesOf r.settings line).length) .start m₀ := by
  obtain ⟨content, offset, hsource⟩ := houter.reads
  obtain ⟨reversed, hsink⟩ := houter.writes
  have huntraced : (r.phase line).untraced = (parse r.settings line).trace :=
    Phase.untraced_tracing _ _
  refine ⟨⟨.source hsource, .sink hsink, fun j _ => ?_, ?_, fun j _ h => by cases h⟩,
    ⟨nofun, fun i _ => ⟨rfl, rfl, rfl⟩, fun i h => by cases h⟩,
    ⟨rfl, fun k _ _ _ _ => .refl m₀ k⟩, Phase.untraces_phase r line, fun _ _ => htaken,
    Phase.tells_tracing rfl⟩
  · cases j with
    | zero => rfl
    | succ j =>
      have hle := m₀.files_size_le_endFile j .read
      rw [front, backlog_eq_nil (Array.getElem?_eq_none hle)]
      rfl
  · rw [huntraced]
    exact (List.append_nil _).symm

section Behind

variable (h : Flows rep f r line m₀ source sink phase s t m) {s' : Progress}
  (huntraced : phase'.untraced = phase.untraced)
  (huntraces : phase'.Untraces (parse r.settings line).trace)
  (htaken : phase.untraced ≠ [] → m'.taken = m.taken)
  (hattends : Attends rep f m₀ r.launcher (stagesOf r.settings line) s' t m')
  (htells : phase'.Tells m₀.discardsEnded m₀.children.size (stagesOf r.settings line).length s')
  (hterminal : m'.terminal = m.terminal)

include houter h huntraced huntraces htaken hattends htells hterminal

/-- A step that shows nothing of the trace and leaves all files alone keeps it. -/
theorem Flows.of_untouched (huntouched : ∀ k < m₀.files.size, m.Untouched m' k)
    (hfront : ∀ j, m'.backlog (m₀.front source j) = m.backlog (m₀.front source j)) :
    Flows rep f r line m₀ source sink phase' s' t m' := by
  refine ⟨?_, hattends, h.spares.step hterminal fun k hk _ _ _ => huntouched k hk, huntraces,
    fun hleft hshown => ?_, htells⟩
  · rw [huntraced]
    exact h.carries.of_untouched (huntouched _ houter.source_lt) (huntouched _ houter.sink_lt)
      fun j _ => hfront j
  · rw [huntraced] at hleft
    exact (htaken hleft).trans (h.idle hleft hshown)

theorem Flows.of_eq (hfiles : m'.files = m.files) (hpipes : m'.pipes = m.pipes) :
    Flows rep f r line m₀ source sink phase' s' t m' :=
  h.of_untouched houter huntraced huntraces htaken hattends htells hterminal
    (fun k _ => .of_eq hfiles hpipes k) fun _ => (Untouched.of_eq hfiles hpipes _).backlog_eq

end Behind

include hready houter in
/-- **The shell's steps keep it**, as long as the line may be completed. -/
theorem Flows.shell (h : Flows rep f r line m₀ source sink phase s t m)
    (hmoment : Moment rep r line m₀ Eq phase s m) {request : Request} {answer : request.Answer}
    (hmoves : phase.Moves r.launcher request answer phase')
    (hanswer : m.answer request = some (answer, m')) (hserving : phase'.isServing = true) :
    Flows rep f r line m₀ source sink phase' (s.next request answer) t m' := by
  have hlayout := hmoment.layout
  have hstands := hmoment.stands
  have htells := h.tells.next hstands hmoves hserving
  have hmoves' := hmoves
  cases hmoves with
  | @traced text rest read =>
    obtain ⟨hread, rfl⟩ := hstands
    have htexts : (parse r.settings line).trace ≠ [] := fun hnil =>
      List.cons_ne_nil _ _ (List.suffix_nil.mp (hnil ▸ h.untraces.1))
    have hstderr := hlayout.holds.outside Fd.stderr List.not_mem_nil
    have hcarries := h.carries.show_text hready houter hlayout.wired (hlayout.bare rfl) rfl
      hstderr rest (h.idle (List.cons_ne_nil _ _)) hanswer
    have hspares := h.spares.show_text hready hlayout.wired hstderr htexts (shows_of_answer hanswer)
    have huntraced := Phase.untraced_tracing (l := r.launcher) read rest
    refine ⟨huntraced.symm ▸ hcarries, ⟨fun i hi => absurd hi (Nat.not_lt_zero i),
      h.attends.later, fun i hdrained => ?_⟩, hspares, h.untraces.next hmoves',
      fun _ _ => taken_of_answer hanswer, htells trivial⟩
    rw [(h.attends.later (i + 1) (Nat.zero_le _)).2.2] at hdrained
    cases hdrained
  | untraced cause => cases hserving
  | @wired w left rest read write =>
    have hpipe : m.makePipe = (.ok (read, write), m') := Option.some.inj hanswer
    obtain ⟨-, -, -, rfl⟩ := hstands
    have hbare := hlayout.bare rfl
    have hchildren : m'.children = m.children ∧ m'.terminal = m.terminal := by
      obtain ⟨table, rfl, -⟩ := makePipe_eq_ok hpipe
      exact ⟨rfl, rfl⟩
    have hle := (Nat.le_add_right ..).trans hlayout.wired.files_le
    exact h.of_untouched houter (Phase.untraced_eq_nil (Phase.isTraced_wiring _ _))
      (h.untraces.next hmoves') (absurd rfl) ⟨nofun, h.attends.later,
      fun i hdrained c hc => h.attends.alone i hdrained c (hchildren.1 ▸ hc)⟩ (htells trivial)
      hchildren.2 (fun k hk => untouched_of_makePipe hbare.bound hpipe (hk.trans_le hle))
      fun j => backlog_of_makePipe hbare.bound hpipe _
  | @launched w handles stage rest pid =>
    obtain ⟨-, hdrop, -, hs⟩ := hstands
    have hstage : (stagesOf r.settings line)[s.made]? = some stage := by
      rw [← List.head?_drop, hdrop]
      rfl
    have hfork : m.makeChild _ = (.ok pid, m') := Option.some.inj hanswer
    have hattends := h.attends.fork hlayout hstage
      ((congrArg (fun w => m.makeChild (r.launcher.plan w stage))
        (congrArg Progress.wiring hs)).trans hfork)
    obtain ⟨-, c, rfl, -⟩ := makeChild_eq_ok hfork
    exact h.of_eq houter (Phase.untraced_eq_nil (Phase.isTraced_launching _ _ _))
      (h.untraces.next hmoves') (absurd rfl) hattends (htells trivial) rfl rfl rfl
  | @closed fd rest next answer =>
    obtain ⟨table, rfl, -⟩ := answer_close_eq_some hanswer
    exact h.of_eq houter (Phase.untraced_eq_nil (Phase.isTraced_closing _ _))
      (h.untraces.next hmoves') (absurd rfl)
      ⟨h.attends.stage, h.attends.later, h.attends.alone⟩ (htells trivial) rfl rfl rfl
  | @waited report handle rest answer =>
    obtain ⟨hopened, hmade, hdrop⟩ := hstands
    obtain ⟨rfl, hlt, -⟩ := of_drop_handlesFrom hdrop
    obtain ⟨hattends, hending⟩ := h.attends.collect hlayout hlt hanswer
    have hfiles : m'.files = m.files ∧ m'.pipes = m.pipes ∧ m'.terminal = m.terminal := by
      have hcollect : m.collect _ = some (answer, m') := hanswer
      obtain ⟨-, rfl, -⟩ | ⟨c, how, -, -, -, rfl⟩ := collect_eq_some hcollect
      · exact ⟨rfl, rfl, rfl⟩
      · exact ⟨rfl, rfl, rfl⟩
    obtain ⟨hfiles, hpipes, hterminal⟩ := hfiles
    refine h.of_eq houter ?_ (h.untraces.next hmoves') (absurd rfl) ?_ (htells hending) hterminal
      hfiles hpipes
    · cases rest <;> rfl
    · change Attends rep f m₀ r.launcher _ { s with gone := min (s.gone + 1) s.made } t m'
      rw [Nat.min_eq_left hlt]
      exact hattends
  | unwired cause =>
    obtain ⟨handles, hcollect⟩ := Phase.isServing_closing hserving
    cases hcollect
  | unlaunched cause =>
    obtain ⟨handles, hcollect⟩ := Phase.isServing_closing hserving
    cases hcollect
  | @killed handle rest handles error answer => cases (hmoves'.isServing hserving)
  | @reaped handle rest error answer => cases (hmoves'.isServing hserving)

include hready houter in
/-- **Showing a part of a text keeps it**: a sink takes texts whole. -/
theorem Flows.part {text : String} {rest : List String} {read : Except LineError (List Stage)}
    (h : Flows rep f r line m₀ source sink (.trace text rest read) s t m)
    (hmoment : Moment rep r line m₀ Eq (.trace text rest read) s m)
    (hpart : m.takePart (.writeAll Fd.stderr (Text.encode text)) = some m') :
    Flows rep f r line m₀ source sink (.trace text rest read) s t m' := by
  have hlayout := hmoment.layout
  obtain ⟨-, rfl⟩ := hmoment.stands
  have htexts : (parse r.settings line).trace ≠ [] := fun hnil =>
    List.cons_ne_nil _ _ (List.suffix_nil.mp (hnil ▸ h.untraces.1))
  have hstderr := hlayout.holds.outside Fd.stderr List.not_mem_nil
  have hshows := shows_of_takePart hpart
  have helsewhere : ¬ m₀.IsShownIn sink := by
    rintro ⟨e, he₀, rfl⟩
    cases h.carries.outlet with
    | pipe hfile => exact houter.sink_ne_pipeEnd hlayout.wired _ _ hfile
    | sink hfile =>
      obtain ⟨fd, bytes, count, after, heq, hwrite, hlt, -⟩ := takePart_eq_some hpart
      cases heq
      rw [writeTo, file?_eq (hstderr.trans he₀) hfile] at hwrite
      cases hwrite
      rw [List.length_drop] at hlt
      omega
  have hchildren : m'.children = m.children := hshows.transfer.children
  refine ⟨?_, ⟨fun i hi => absurd hi (Nat.not_lt_zero i), h.attends.later,
    fun i hdrained c hc => h.attends.alone i hdrained c (hchildren ▸ hc)⟩,
    h.spares.show_text hready hlayout.wired hstderr htexts hshows, h.untraces,
    fun _ hshown => absurd hshown helsewhere, h.tells⟩
  exact h.carries.show_elsewhere hready houter hlayout.wired (hlayout.bare rfl) rfl hstderr
    helsewhere hshows

section Process

variable (h : Flows rep f r line m₀ source sink phase s t m)
  (hmoment : Moment rep r line m₀ Eq phase s m) (hserving : phase.isServing = true)
  (hproper : ∀ stage ∈ stagesOf r.settings line,
    stage.isTerminator r.settings.terminator = false)
  {i : Nat} {c : Process σ} (hc : m.children[m₀.children.size + i]? = some c)

include hready houter h hmoment hserving hproper hc

/-- No write of a stage is refused. -/
theorem Flows.not_refused {program : σ} {bytes : Bytes}
    (hlife : c.life = .running program) (hrefused : m.writeTo c.table Fd.stdout bytes = .broken ∨
      ∃ cause, m.writeTo c.table Fd.stdout bytes = .failed cause) : False := by
  have hlayout := hmoment.layout
  have hi := (hlayout.process hc).1
  obtain ⟨-, hlength⟩ := hlayout.full (Nat.zero_lt_of_lt hi)
  obtain ⟨e, he, hfile⟩ :=
    hlayout.stdout_of_running hready index_of_getElem?_stagesOf houter hc hlife
  have hout : m.IsOutlet e.file := hfile ▸ h.carries.isOutlet_back hlayout.wired hlength
  obtain ⟨pipe, hpipe, hheld⟩ := of_writeTo_refused he hout hrefused
  rw [hfile, back] at hpipe
  split at hpipe
  · rename_i hinner
    rw [hlayout.wired.ends i (by omega)] at hpipe
    cases hpipe
    have hreader := h.attends.isHeld_of_running hlayout hready index_of_getElem?_stagesOf
      hproper (hmoment.stands.opened_eq_fds hserving h.tells (Nat.zero_lt_of_lt hi)) hinner hc
      (by rw [hlife]; rfl)
    rw [hreader] at hheld
    cases hheld
  · exact houter.sink_ne_pipeEnd hlayout.wired _ _ hpipe

/-- **The steps of a process keep it.** -/
theorem Flows.process
    (hloads : ∀ stage, (stagesOf r.settings line)[i]? = some stage → ∃ program,
      rep.load m.tree m.environment (stage.words.map Text.encode) = .ok program ∧
        rep.Computes (f i) program)
    (hacts : c.Acts rep m (m₀.children.size + i) m') :
    ∃ t', Flows rep f r line m₀ source sink phase s t' m' := by
  have hlayout := hmoment.layout
  have hwired := hlayout.wired
  obtain ⟨hi, hmaker, stage, -, hstage, -⟩ := hlayout.process hc
  obtain ⟨-, hlength⟩ := hlayout.full (Nat.zero_lt_of_lt hi)
  have hlt := (List.getElem?_eq_some_iff.mp hstage).1
  have huntraced := hmoment.stands.untraced_eq_nil (Nat.zero_lt_of_lt hi)
  have hcarries := h.carries
  rw [huntraced, shown_nil] at hcarries
  -- other files of the shell are out of reach
  have hfar : ∀ p k', Place m₀ source sink (stagesOf r.settings line).length p k' →
      ∀ k < m₀.files.size, k ≠ source → k ≠ sink → ¬ m.Shares k k' :=
    fun p k' hplace k hk hsource hsink =>
      hplace.not_shares houter hwired hlength hready hk hsource hsink
  have hplanned : ∀ todo, c.life = .preparing todo → ∃ s' rest, todo = s' :: rest ∧
      s'.isParting = false := by
    intro todo hlife
    have hserves := h.attends.stage i hi stage c hstage hc
    rw [hlife] at hserves
    cases hserves with
    | preparing plan_eq taken_eq given_eq drained_eq =>
      exact ⟨_, _, rfl, Launcher.isParting_eq_false (hproper stage (List.mem_of_getElem? hstage))
        (plan_eq ▸ List.mem_append_right _ List.mem_cons_self)⟩
  cases hacts with
  | follows step maker calm active prepares eq =>
    obtain ⟨todo, hlife⟩ := prepares
    subst eq
    have hattends := h.attends.prepare hlayout hready hproper hloads hc hlife step
    exact ⟨t, h.of_eq houter rfl h.untraces (absurd huntraced) hattends h.tells rfl rfl rfl⟩
  | complains life write todo_eq eq =>
    obtain ⟨s', rest, heq, hparting⟩ := hplanned _ life
    cases heq
    cases hparting
  | leaves life parts eq =>
    obtain ⟨s', rest, rfl, hparting⟩ := hplanned _ life
    obtain hnil | ⟨s'', rest', heq, hparts⟩ := parts
    · cases hnil
    · cases heq
      rw [hparting] at hparts
      cases hparts
  | @reads program size answer after life act read eq =>
    obtain ⟨e, he, hfile⟩ :=
      hlayout.stdin_of_running hready index_of_getElem?_stagesOf houter hc life
    have hin : m.IsInlet e.file := hfile ▸ hcarries.isInlet_front hwired hlength hlt
    obtain ⟨data, rfl, hdelivers⟩ := delivers_of_readFrom he hin read
    rw [hfile] at hdelivers
    have hcarries' := hcarries.read houter hwired hlength hlt hdelivers
    have hattends := h.attends.read hlayout hc life act (transfer_readFrom read).children
      hdelivers.fits (hcarries.data_eq_nil hlt hdelivers) (by
        rintro hnil hpos j rfl d' hd'
        obtain ⟨-, hheld⟩ := hdelivers.nothing hnil hpos
        exact h.attends.inactive_of_not_held hlayout hready index_of_getElem?_stagesOf hproper
          (by omega) (hheld _ (hwired.ends j (by omega) .read)) hd')
    have hspares := h.spares.step hdelivers.terminal fun k hk hsource hsink _ =>
      hdelivers.others k (hfar _ _ (place_front hlt) k hk hsource hsink)
    subst eq
    refine ⟨_, ?_, hattends, hspares.of_eq rfl rfl rfl, h.untraces,
      fun hleft => absurd huntraced hleft, h.tells⟩
    rw [huntraced, shown_nil]
    exact hcarries'.of_eq rfl rfl
  | @writes program bytes count after life act write eq =>
    obtain ⟨e, he, hfile⟩ :=
      hlayout.stdout_of_running hready index_of_getElem?_stagesOf houter hc life
    have hout : m.IsOutlet e.file := hfile ▸ hcarries.isOutlet_back hwired hlength
    have haccepts := accepts_of_writeTo he hout write
    have hothers : ∀ k, ¬ m.Shares k e.file → m.Untouched after k :=
      fun k hshares => untouched_of_writeTo he write hshares
    rw [hfile] at haccepts hothers
    have htransfer := transfer_writeTo write
    have hcarries' := hcarries.write houter hwired hlength (hwired.drift htransfer.drift) hlt
      haccepts hothers (fun _ => Bool.eq_false_iff.mpr fun hdrained => by
        have hinactive := h.attends.alone i hdrained c hc
        rw [life] at hinactive
        cases hinactive)
    have hattends := h.attends.write hlayout hc life act htransfer.children haccepts.fits
      haccepts.progress
    have hspares := h.spares.step (terminal_of_writeTo write) fun k hk hsource hsink _ =>
      hothers k (hfar _ _ (place_back hlt) k hk hsource hsink)
    subst eq
    refine ⟨_, ?_, hattends, hspares.of_eq rfl rfl rfl, h.untraces,
      fun hleft => absurd huntraced hleft, h.tells⟩
    rw [huntraced, shown_nil]
    exact hcarries'.of_eq rfl rfl
  | fails life act write eq =>
    exact (h.not_refused hready houter hmoment hserving hproper hc life
      (write.imp_right fun h => ⟨_, h⟩)).elim
  | breaks life act write eq =>
    exact (h.not_refused hready houter hmoment hserving hproper hc life (.inl write)).elim
  | exits life act eq =>
    have hattends := h.attends.leave hlayout hc life act
    obtain ⟨children, heq, -⟩ := finish_of_shell (.exited (_ % 256)) hc hmaker
    rw [heq] at eq hattends
    subst eq
    exact ⟨t, h.of_eq houter rfl h.untraces (absurd huntraced) hattends h.tells rfl rfl rfl⟩

end Process

end Flows

/-! ### All orders of steps -/

/-- Every moment from which a line may still be completed is one of a flow. -/
theorem exists_flows_of_reaches {p : Interaction (Except PipelineError Execution)}
    (hrelays : Relays rep f r line m₀ source sink)
    (h : Reaches rep (r.execute line, m₀) (p, m)) : ∃ phase s, p = phase.toInteraction r ∧
      Moment rep r line m₀ Eq phase s m ∧
      (phase.isServing = true → ∃ t, Flows rep f r line m₀ source sink phase s t m) := by
  obtain ⟨hready, houter, hplain, halive, htaken, hproper, hloads⟩ := hrelays
  obtain ⟨phase, s, hp, hmoment, -, hflows⟩ := plain_induction
    (J := fun phase s m => phase.isServing = true →
      ∃ t, Flows rep f r line m₀ source sink phase s t m) hready hplain halive
    (fun _ => ⟨.start, flows_start houter htaken⟩)
    (fun phase s m request answer phase' m' hmoment _ hflows hmoves hanswer _ hserving => by
      obtain ⟨t, hflows⟩ := hflows (hmoves.isServing hserving)
      exact ⟨t, hflows.shell hready houter hmoment hmoves hanswer hserving⟩)
    (fun text rest read s m m' hmoment hflows hpart _ _ => by
      obtain ⟨t, hflows⟩ := hflows rfl
      exact ⟨t, hflows.part hready houter hmoment hpart⟩)
    (fun phase s m i c m' hmoment _ hflows hi hc _ hacts _ hserving => by
      obtain ⟨t, hflows⟩ := hflows hserving
      exact hflows.process hready houter hmoment hserving hproper hc
        (hloads _ m hmoment.reaches i) hacts)
    (fun phase s m time _ hflows hserving => by
      obtain ⟨t, hflows⟩ := hflows hserving
      exact ⟨t, hflows.of_eq houter rfl hflows.untraces (fun _ => rfl)
        ⟨hflows.attends.stage, hflows.attends.later, hflows.attends.alone⟩ hflows.tells
        rfl rfl rfl⟩) h
  exact ⟨phase, s, hp, hmoment, hflows⟩

/-- A sink that is still one holds what is left in it. -/
theorem HasOuter.written_sink {w : Wiring} (houter : m₀.HasOuter outer source sink)
    (hwired : Wired m₀ w m) (hout : m.IsOutlet sink) : m.written sink = m.backlog sink := by
  cases hout with
  | sink hfile => exact written_eq_backlog hfile
  | pipe hfile => exact absurd hfile (houter.sink_ne_pipeEnd hwired _ _)

/-- **Data flows through a line in its order.** If the program of stage `i` computes `f i` and the
line is completed, the sink has got `f (n - 1) (… (f 1 (f 0 input)))` and nothing else, behind the
trace if that is shown there too; nothing has been taken from any other open file of the shell, nor
from its terminal; and the outcome is a success, unless the system loses how processes end. -/
theorem flows_in_order {report : Report} (hrelays : Relays rep f r line m₀ source sink)
    (h : Reaches rep (r.execute line, m₀) (.done (.ok (.completed report)), m)) :
    m.written sink = m₀.written sink ++ m₀.shown sink (parse r.settings line).trace ++
        through f (stagesOf r.settings line).length (m₀.backlog source) ∧
      Spares m₀ source sink (parse r.settings line).trace m ∧
      report = .told m₀.discardsEnded
        (handlesFrom m₀.children.size (stagesOf r.settings line).length) ∧
      report.outcome = if m₀.discardsEnded then .failure else .success := by
  obtain ⟨phase, s, hp, hmoment, hflows⟩ := exists_flows_of_reaches hrelays h
  obtain rfl := Phase.eq_finished_of_toInteraction hp.symm
  obtain ⟨t, hflows⟩ := hflows rfl
  obtain ⟨hpos, hmade, hreport⟩ := hflows.tells
  obtain ⟨-, hgone⟩ := hmoment.stands
  -- every stage has been waited for, so it has read everything
  have hdone : ∀ i < (stagesOf r.settings line).length,
      t.drained i = true ∧ t.given i = f i (t.taken i) := by
    intro i hi
    obtain ⟨stage, c, hstage, hc, -⟩ := hmoment.layout.stage i (hmade ▸ hi)
    exact (hflows.attends.stage i (hmade ▸ hi) stage c hstage hc).of_inactive
      (hmoment.layout.gone i (by omega) c hc)
  have hcarries := hflows.carries
  rw [show (Phase.finished (.ok (.completed report))).untraced = [] from rfl, shown_nil] at hcarries
  have htold : report = .told m₀.discardsEnded
      (handlesFrom m₀.children.size (stagesOf r.settings line).length) := by
    rw [hreport, hgone, hmade, List.take_of_length_le (length_handlesFrom _ _).le]
  refine ⟨?_, hflows.spares, htold, ?_⟩
  · obtain ⟨reversed, hsink⟩ := hrelays.outer.writes
    rw [hrelays.outer.written_sink hmoment.layout.wired hcarries.outlet,
      hcarries.backlog_sink hpos hdone, written_eq_backlog hsink]
  · rw [htold]
    refine Report.outcome_told (List.ne_nil_of_length_pos ?_)
    rwa [length_handlesFrom]

end Flow

/-! ### Two stages -/

/-- What a program computes that puts its name and its arguments in front of what it reads. -/
def naming (argv : List Bytes) (bytes : Bytes) : Bytes := argv.flatten ++ bytes

theorem isPlain_gathering (g : List Bytes → Bytes → Bytes) : (gathering g).IsPlain := by
  intro program
  cases program with
  | reads argv held => rfl
  | writes left => cases left <;> rfl

/-- A machine whose shell has a source with one octet and an empty sink, and the open file `error`
for its error stream. -/
def relaying (error : Nat) (lost : Bool) : Machine Gathering :=
  let m : Machine Gathering := fresh [.source [] 0, .sink [], .sink [], .source [7] 0, .sink []]
  { m with table := m.table.insert 2 ⟨error, false⟩, discardsEnded := lost }

/-- A shell on that machine. -/
def relay (trace : Bool) : Runner := { settings := { trace }, outer := ⟨some 3, some 4⟩ }

/-- What the programs of the two stages compute, each with its own name. -/
def named (i : Nat) : Bytes → Bytes :=
  naming (((stagesOf {} "a|b")[i]?.map fun stage => stage.words.map Text.encode).getD [])

theorem relays_relaying {error : Nat} (herror : error < 5) (trace lost : Bool) :
    Relays (gathering naming) named (relay trace) "a|b" (relaying error lost) 3 4 where
  ready :=
    have h : (fresh [.source [] 0, .sink [], .sink [], .source [7] 0, .sink []] :
        Machine Gathering).IsReady ⟨some 3, some 4⟩ :=
      isReady_fresh (by simp) (by decide) (by decide)
    have h' := h.insert 2 (e := ⟨error, false⟩) herror
    ⟨h'.entries, h'.ends, h'.standard, h'.outer, h'.others⟩
  outer := ⟨⟨3, ⟨3, false⟩, rfl, rfl, rfl⟩, ⟨4, ⟨4, false⟩, rfl, rfl, rfl⟩, ⟨[7], 0, rfl⟩,
    ⟨[], rfl⟩⟩
  plain := isPlain_gathering naming
  alive := rfl
  idle := rfl
  proper := by
    cases trace <;> decide +kernel
  loads := by
    intro p m _ i stage hstage
    refine ⟨_, rfl, ?_⟩
    have hstages : stagesOf (relay trace).settings "a|b" = stagesOf {} "a|b" := by
      cases trace <;> decide +kernel
    rw [named, ← hstages, hstage]
    exact computes_gathering naming _

/-- A run along a given schedule that completes its line. -/
private theorem exists_completed (r : Runner) (line : String) (m₀ : Machine Gathering)
    (schedule : List (Option Pid)) (good : Report → Machine Gathering → Bool)
    (hrun : (follow (gathering naming) schedule (r.execute line, m₀)).any (fun t => match t.1 with
      | .done (.ok (.completed report)) => good report t.2
      | _ => false) = true) : ∃ report m, Reaches (gathering naming) (r.execute line, m₀)
        (.done (.ok (.completed report)), m) ∧ good report m = true := by
  obtain ⟨⟨p, m⟩, hfollow, hrun⟩ := (Option.any_eq_true _ _).mp hrun
  split at hrun
  · rename_i report hp
    refine ⟨report, m, ?_, hrun⟩
    rw [← show p = .done (.ok (.completed report)) from hp]
    exact reaches_of_follow hfollow
  · cases hrun

/-- The shell goes first, then the first stage, then the second one. -/
private def inTurn (first : Nat) : List (Option Pid) :=
  .replicate first none ++ .replicate 12 (some 0) ++ .replicate 12 (some 1) ++ .replicate 2 none

/-- The octet comes out behind the names of both programs, the second one first. -/
theorem flows_in_order_two_stages : ∃ report m, Reaches (gathering naming)
    ((relay false).execute "a|b", relaying 2 false) (.done (.ok (.completed report)), m) ∧
    m.written 4 = [98, 97, 7] ∧ m.files[0]? = some (.source [] 0) ∧ report.outcome = .success := by
  obtain ⟨report, m, hreaches, -⟩ := exists_completed (relay false) "a|b" (relaying 2 false)
    (inTurn 5) (fun _ _ => true) (by decide +kernel)
  obtain ⟨hsink, hspares, -, houtcome⟩ :=
    flows_in_order (relays_relaying (by decide) false false) hreaches
  refine ⟨report, m, hreaches, hsink.trans ?_, ?_, houtcome⟩
  · decide +kernel
  · have hstdin := hspares.files 0 (by decide) (by decide) (by decide) fun htrace =>
      absurd (by decide +kernel) htrace
    exact hstdin.file

/-- Neither is every line a success that is completed, nor does its sink always get the output
alone: the system may lose how the programs end, and the error stream may lead to the sink. -/
theorem not_always_success_nor_alone :
    (¬ ∀ (rep : Repertoire Gathering) (f : Nat → Bytes → Bytes) (r : Runner) (line : String)
      (m₀ m : Machine Gathering) (source sink : Nat) (report : Report),
      Relays rep f r line m₀ source sink →
      Reaches rep (r.execute line, m₀) (.done (.ok (.completed report)), m) →
      report.outcome = .success) ∧
    ¬ ∀ (rep : Repertoire Gathering) (f : Nat → Bytes → Bytes) (r : Runner) (line : String)
      (m₀ m : Machine Gathering) (source sink : Nat) (report : Report),
      Relays rep f r line m₀ source sink →
      Reaches rep (r.execute line, m₀) (.done (.ok (.completed report)), m) →
      m.written sink = m₀.written sink ++
        through f (stagesOf r.settings line).length (m₀.backlog source) := by
  refine ⟨fun hall => ?_, fun hall => ?_⟩
  · obtain ⟨report, m, hreaches, hgood⟩ := exists_completed (relay false) "a|b" (relaying 2 true)
      (inTurn 5) (fun report _ => report.outcome == .failure) (by decide +kernel)
    have hsuccess := hall _ _ _ _ _ _ _ _ _ (relays_relaying (by decide) false true) hreaches
    rw [hsuccess] at hgood
    cases hgood
  · obtain ⟨report, m, hreaches, hgood⟩ := exists_completed (relay true) "a|b" (relaying 4 false)
      (inTurn 7) (fun _ m => m.written 4 != [98, 97, 7]) (by decide +kernel)
    have halone := hall _ _ _ _ _ _ _ _ _ (relays_relaying (by decide) true false) hreaches
    refine absurd (halone.trans ?_) (bne_iff_ne.mp hgood)
    decide +kernel

end Machine

end PipeShell
