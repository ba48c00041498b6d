import PipeShell.Proofs.Session.Requests
import PipeShell.Proofs.Text.LineByLine

/-!
# What a file hands over

A session that takes its lines from a file reads blocks, and hands over what it has read line by
line, each line as a text. Here it is shown that the lines that it starts depend on the input and on
nothing else: neither on the blocks that the input comes in nor on what becomes of the lines.

* `upToStop` are the lines up to the first one that stops the shell.
* `Gives` says how a file answers what is read from it, one answer at a time.
* `Coming` is the invariant: at every point of a round, the lines that are still to be started are
  those of what has been read and not handed over, and of what the file still has.
* `Coming.step` is one step, `started_of_plays` a run, and `Loop.handed_over` the theorem.
-/

namespace PipeShell

open Loop

/-! ### Lines that stop the shell -/

/-- Whether a line stops the shell: it is the terminator alone. -/
def stops (settings : Settings) (line : String) : Bool :=
  match (parse settings line).stages with
  | .ok [stage] => stage.isTerminator settings.terminator
  | _ => false

theorem stops_iff {settings : Settings} {line : String} :
    stops settings line = true ↔ ∃ status, IsStop settings line status := by
  constructor
  · intro hstops
    rw [stops] at hstops
    split at hstops
    · exact isStop_of_parse ‹_› hstops
    · cases hstops
  · rintro ⟨status, stage, hread, hterminator, -⟩
    rw [stops, hread]
    exact hterminator

/-- The lines up to the first one that stops the shell, with this one. -/
def upToStop (settings : Settings) : List String → List String
  | [] => []
  | line :: rest => line :: if stops settings line then [] else upToStop settings rest

theorem upToStop_eq_self {settings : Settings} {lines : List String}
    (h : ∀ line ∈ lines, stops settings line = false) : upToStop settings lines = lines := by
  induction lines with
  | nil => rfl
  | cons line rest ih =>
    rw [List.forall_mem_cons] at h
    rw [upToStop, h.1, if_neg Bool.false_ne_true, ih h.2]

theorem upToStop_prefix (settings : Settings) (lines : List String) :
    upToStop settings lines <+: lines := by
  induction lines with
  | nil => exact List.nil_prefix
  | cons line rest ih =>
    rw [upToStop, List.prefix_cons_inj]
    split
    · exact List.nil_prefix
    · exact ih

namespace Shell

variable {shell shell' : Shell} {line : String} {stop : Option Int} {scene scene' : Scene}
  {replies : List ShellReply}

/-- A line has stopped the shell exactly if it is one that does. -/
theorem stop_eq_none_iff_of_plays
    (h : Plays Scene.Takes (shell.runLine line, scene) replies (.done (shell', stop), scene')) :
    stop = none ↔ stops shell.runner.settings line = false := by
  obtain ⟨result, htakes⟩ := exists_takes_of_runLine h
  have hstop := htakes.stop_eq_some_iff
  rw [← Bool.not_eq_true, stops_iff]
  cases stop with
  | none =>
    refine iff_of_true rfl ?_
    rintro ⟨status, hasks⟩
    cases (hstop _).mpr ⟨status, hasks, rfl⟩
  | some s =>
    obtain ⟨status, hasks, -⟩ := (hstop s).mp rfl
    exact iff_of_false nofun fun hnone => hnone ⟨status, hasks⟩

/-- A line leaves the settings as they are. -/
theorem runner_eq_of_plays
    (h : Plays Scene.Takes (shell.runLine line, scene) replies (.done (shell', stop), scene')) :
    shell'.runner = shell.runner := by
  obtain ⟨result, htakes⟩ := exists_takes_of_runLine h
  exact htakes.runner_eq

end Shell

/-- Where no request waits, none does later. -/
theorem Hears.requests_eq_nil {α : Type} {p p' : Interaction α} {requests' : List Signal}
    {e : ShellReply} (h : Hears (p, []) e (p', requests')) : requests' = [] := by
  cases h <;> rfl

/-- What a computation asks for, it asks for before it is over. -/
theorem Hears.asks {α : Type} {p p' : Interaction α} {requests requests' : List Signal}
    {e : ShellReply} {P : Request → Prop} (h : Hears (p, requests) e (p', requests'))
    (hp : p.Asks P) : P e.1 ∧ p'.Asks P := by
  cases h with
  | poll =>
    cases hp with
    | once holds all => exact ⟨holds, all _⟩
  | once other answer =>
    cases hp with
    | once holds all => exact ⟨holds, all answer⟩
  | persist other answer =>
    rw [Interaction.resume]
    cases hp with
    | persist holds all =>
      refine ⟨holds, ?_⟩
      split
      · exact .persist holds all
      · exact all answer

/-! ### The file -/

namespace Loop

/-- Whether something that happens has nothing to do with reading, and is no request to stop. -/
def Happening.IsUnread : Happening → Prop
  | request _ => False
  | answer ⟨.read _ _, _⟩ => False
  | _ => True

/-- **What becomes of a file** in what happens to a loop. Whoever reads gets a block of what the
file still has, whatever its size, and nothing when the file has nothing. A call may be interrupted.
No request to stop comes in. -/
inductive Gives : Bytes → Happening → Bytes → Prop where
  | block {fd : Fd} {size : Nat} {block : Bytes} (left : Bytes) (ne : block ≠ []) :
    Gives (block ++ left) (.answer ⟨.read fd size, .ok block⟩) left
  | ended {fd : Fd} {size : Nat} : Gives [] (.answer ⟨.read fd size, .ok ([] : Bytes)⟩) []
  | interrupted {fd : Fd} {size : Nat} {left : Bytes} :
    Gives left (.answer ⟨.read fd size, .error .eintr⟩) left
  | other {e : Happening} {left : Bytes} (unread : e.IsUnread) : Gives left e left

theorem Gives.left_eq {left left' : Bytes} {e : Happening} (h : Gives left e left')
    (he : e.IsUnread) : left' = left := by
  cases h with
  | other => rfl
  | _ => exact absurd he id

theorem isUnread_of_not_isFed {e : ShellReply} (h : e.1.isFed = false) :
    (Happening.answer e).IsUnread := by
  obtain ⟨r, answer⟩ := e
  cases r with
  | read fd size => cases h
  | _ => trivial

/-- The lines of octets as texts. -/
def linesOf (bytes : Bytes) : List String :=
  (Text.lines bytes).map Text.decodeLossy

theorem linesOf_nil : linesOf [] = [] := by
  rw [linesOf, Text.lines_nil, List.map_nil]

/-! ### Listening -/

/-- What a loop over a file does with what reading a block comes to. -/
def heardOf (b : Batch) : (Request.read Fd.stdin LineReader.blockSize).Answer →
    Interaction (Loop × Heard)
  | .ok [] => .done (batch { b with reader := {} },
      if b.reader.pending.isEmpty then .ended b.shell.last
      else .line (Text.decodeLossy b.reader.pending))
  | .ok (block : Bytes) =>
    .done (batch { b with reader := ⟨b.reader.pending ++ block⟩ }, .nothing)
  | .error cause =>
    (Interaction.complain (Runner.notice cause.ioMessage)).bind fun _ =>
      .done (batch { b with reader := {} }, .ended 1)

/-- A line that is complete is handed over. -/
theorem listen_of_cutLine {b : Batch} {line rest : Bytes}
    (h : Text.cutLine b.reader.pending = some (line, rest)) :
    b.listen = .done (batch { b with reader := ⟨rest⟩ }, .line (Text.decodeLossy line)) := by
  rw [Batch.listen, LineReader.next, h]
  rfl

/-- Otherwise a block is read. -/
theorem listen_of_cutLine_none {b : Batch} (h : Text.cutLine b.reader.pending = none) :
    b.listen = .persist (.read Fd.stdin LineReader.blockSize) (heardOf b) := by
  rw [Batch.listen, LineReader.next, h, Interaction.bind]
  refine congrArg _ (funext fun answer => ?_)
  rcases answer with cause | (_ | ⟨first, block⟩)
  · rfl
  · by_cases hempty : b.reader.pending.isEmpty = true
    · simp only [heardOf, hempty, if_true]
      rfl
    · simp only [heardOf, hempty]
      rfl
  · rfl

/-! ### The lines that are still to be started -/

/-- **What is still to be started**, at every point of a round over a file, when the file still has
so much: the lines of what has been read and not handed over, together with what the file has. -/
inductive Coming (settings : Settings) : Point → Bytes → List String → Prop where
  | between {b : Batch} {left : Bytes} (settled : b.shell.runner.settings = settings) :
    Coming settings (.between (batch b)) left
      (upToStop settings (linesOf (b.reader.pending ++ left)))
  | awaiting {b : Batch} {left : Bytes} (settled : b.shell.runner.settings = settings)
    (cut : Text.cutLine b.reader.pending = none) :
    Coming settings
      (.listening (.persist (.read Fd.stdin LineReader.blockSize) (heardOf b))) left
      (upToStop settings (linesOf (b.reader.pending ++ left)))
  | nothing {b : Batch} {left : Bytes} (settled : b.shell.runner.settings = settings) :
    Coming settings (.listening (.done (batch b, .nothing))) left
      (upToStop settings (linesOf (b.reader.pending ++ left)))
  | line {b : Batch} {line : String} {left : Bytes} (settled : b.shell.runner.settings = settings) :
    Coming settings (.listening (.done (batch b, .line line))) left
      (upToStop settings (line :: linesOf (b.reader.pending ++ left)))
  | ended {b : Batch} {status : Int} {left : Bytes} :
    Coming settings (.listening (.done (batch b, .ended status))) left []
  | running {b : Batch} {line : String} {p : Interaction (Shell × Option Int)} {left : Bytes}
    {scene scene' : Scene} {replies : List ShellReply}
    (settled : b.shell.runner.settings = settings)
    (begun : Plays Scene.Takes (b.shell.runLine line, scene) replies (p, scene'))
    (unread : p.Asks fun r => r.isFed = false) :
    Coming settings (.running (batch b) line p) left
      (if stops settings line then [] else upToStop settings (linesOf (b.reader.pending ++ left)))
  | polling {b : Batch} {left : Bytes} (settled : b.shell.runner.settings = settings) :
    Coming settings (.polling (batch b)) left
      (upToStop settings (linesOf (b.reader.pending ++ left)))
  | leaving {status : Int} {p : Interaction Unit} {left : Bytes} :
    Coming settings (.leaving status p) left []

namespace Coming

variable {settings : Settings} {pt pt' : Point} {left left' : Bytes} {coming : List String}
  {e : Happening} {requests' : List Signal} {b : Batch}

/-- When a round begins, a line is complete already, or a block is to be read. -/
theorem listen (settled : b.shell.runner.settings = settings) (left : Bytes) :
    Coming settings (.listening (batch b).listen) left
      (upToStop settings (linesOf (b.reader.pending ++ left))) := by
  cases hcut : Text.cutLine b.reader.pending with
  | none =>
    have hlisten : (batch b).listen = _ := listen_of_cutLine_none hcut
    rw [hlisten]
    exact .awaiting settled hcut
  | some cut =>
    obtain ⟨line, rest⟩ := cut
    have hlisten : (batch b).listen = _ := listen_of_cutLine hcut
    rw [hlisten, linesOf, Text.lines_of_cutLine hcut]
    exact .line (b := { b with reader := ⟨rest⟩ }) settled

/-- What reading a block comes to. -/
theorem heard (settled : b.shell.runner.settings = settings)
    (cut : Text.cutLine b.reader.pending = none)
    {answer : (Request.read Fd.stdin LineReader.blockSize).Answer}
    (hgives : Gives left (.answer ⟨.read Fd.stdin LineReader.blockSize, answer⟩) left') :
    Coming settings (.listening (Interaction.resume _ (heardOf b) answer)) left'
      (upToStop settings (linesOf (b.reader.pending ++ left))) := by
  generalize he : Happening.answer ⟨.read Fd.stdin LineReader.blockSize, answer⟩ = e at hgives
  cases hgives with
  | @block fd size block left ne =>
    cases he
    obtain ⟨c, rest, rfl⟩ := List.exists_cons_of_ne_nil ne
    rw [← List.append_assoc]
    exact .nothing (b := { b with reader := ⟨b.reader.pending ++ c :: rest⟩ }) settled
  | ended =>
    cases he
    change Coming settings (.listening (heardOf b (.ok []))) _ _
    rw [List.append_nil, linesOf, Text.lines_of_notMem (Text.lineFeed_notMem_of_cutLine cut),
      heardOf]
    split
    · exact .ended
    · have hline : Coming settings (.listening (.done (batch { b with reader := {} },
          .line (Text.decodeLossy b.reader.pending)))) []
          (upToStop settings (Text.decodeLossy b.reader.pending :: linesOf [])) := .line settled
      rw [linesOf_nil] at hline
      exact hline
  | interrupted =>
    cases he
    exact .awaiting settled cut
  | other unread =>
    subst he
    exact absurd unread id

/-- **One step** starts the next of the lines that are to be started, or none. -/
theorem step (h : Coming settings pt left coming) (hstep : Steps (pt, []) e (pt', requests'))
    (hgives : Gives left e left') :
    requests' = [] ∧ ∃ coming', coming = started [e] ++ coming' ∧
      Coming settings pt' left' coming' := by
  -- what is no answer to a call leaves the file as it is, and no request comes in
  have hother : e.IsUnread → left' = left := hgives.left_eq
  have hrequest : ∀ signal, e ≠ .request signal := by
    rintro signal rfl
    cases hgives with
    | other unread => exact unread
  cases h with
  | between settled =>
    cases hstep with
    | request signal => exact absurd rfl (hrequest signal)
    | round =>
      obtain rfl := hother trivial
      exact ⟨rfl, _, rfl, .listen settled left'⟩
  | awaiting settled cut =>
    cases hstep with
    | request signal => exact absurd rfl (hrequest signal)
    | listen hears =>
      cases hears with
      | persist other answer => exact ⟨rfl, _, rfl, .heard settled cut hgives⟩
  | nothing settled =>
    cases hstep with
    | request signal => exact absurd rfl (hrequest signal)
    | listen hears => cases hears
    | idle =>
      obtain rfl := hother trivial
      exact ⟨rfl, _, rfl, .between settled⟩
  | @line b line left settled =>
    cases hstep with
    | request signal => exact absurd rfl (hrequest signal)
    | listen hears => cases hears
    | start =>
      obtain rfl := hother trivial
      exact ⟨rfl, _, rfl, .running settled (.nil (_, ⟨{}, 0, []⟩)) (b.shell.asks_runLine line)⟩
  | ended =>
    cases hstep with
    | request signal => exact absurd rfl (hrequest signal)
    | listen hears => cases hears
    | ended => exact ⟨rfl, [], rfl, .leaving⟩
  | @running b line p left scene scene' replies settled begun unread =>
    cases hstep with
    | request signal => exact absurd rfl (hrequest signal)
    | @run _ _ _ _ _ _ e hears =>
      -- a line does not read from the file
      obtain ⟨hfed, hasks⟩ := hears.asks unread
      obtain rfl := hother (isUnread_of_not_isFed hfed)
      obtain rfl := hears.requests_eq_nil
      have hbegun := begun.append (.cons (hears.takes scene') (.nil _))
      exact ⟨rfl, _, rfl, .running settled hbegun hasks⟩
    | stop =>
      have hstop := Shell.stop_eq_none_iff_of_plays begun
      rw [settled] at hstop
      have hstops : stops settings line = true := by simpa using hstop
      rw [if_pos hstops]
      exact ⟨rfl, [], rfl, .leaving⟩
    | @resolve _ _ shell =>
      have hstops := (Shell.stop_eq_none_iff_of_plays begun).mp rfl
      rw [settled] at hstops
      obtain rfl := hother trivial
      have hrunner : shell.runner.settings = settings := by
        rw [Shell.runner_eq_of_plays begun, settled]
      rw [hstops, if_neg Bool.false_ne_true]
      exact ⟨rfl, _, rfl, .polling (b := { b with shell }) hrunner⟩
  | polling settled =>
    cases hstep with
    | request signal => exact absurd rfl (hrequest signal)
    | pollNothing =>
      obtain rfl := hother trivial
      exact ⟨rfl, _, rfl, .between settled⟩
  | leaving =>
    cases hstep with
    | request signal => exact absurd rfl (hrequest signal)
    | leave hears => exact ⟨hears.requests_eq_nil, [], rfl, .leaving⟩

end Coming

variable {settings : Settings} {pt pt' : Point} {input left : Bytes} {requests' : List Signal}
  {happenings : List Happening} {coming : List String}

theorem started_cons (e : Happening) (rest : List Happening) :
    started (e :: rest) = started [e] ++ started rest := by
  rw [started, started, started, ← List.filterMap_append, List.singleton_append]

/-- **A run** starts lines from the front of those that are to be started. -/
theorem started_of_plays (h : Coming settings pt input coming)
    (hplays : Plays Steps (pt, []) happenings (pt', requests'))
    (hgives : Plays Gives input happenings left) :
    ∃ coming', coming = started happenings ++ coming' ∧ Coming settings pt' left coming' := by
  induction happenings generalizing pt input coming with
  | nil =>
    cases hplays
    cases hgives
    exact ⟨coming, rfl, h⟩
  | cons e rest ih =>
    cases hplays with
    | @cons _ middle _ _ _ first others =>
      obtain ⟨middle, requests⟩ := middle
      cases hgives with
      | cons gives givesOthers =>
        obtain ⟨rfl, coming', rfl, hcoming⟩ := h.step first gives
        obtain ⟨coming'', rfl, hend⟩ := ih hcoming others givesOthers
        exact ⟨coming'', by rw [started_cons e rest, List.append_assoc], hend⟩

/-- Nothing is to be started at the end of a session. -/
theorem Coming.eq_nil_of_isLeaving (h : Coming settings pt left coming) (hpt : pt.IsLeaving) :
    coming = [] := by
  cases h with
  | leaving => rfl
  | _ => exact absurd hpt id

/-! ### The theorem -/

/-- **A file hands over every octet once, and in order.** Whatever octets the input is, whatever
blocks it comes in and whatever becomes of its lines, if no request to stop comes in and nothing but
the shell reads from the input: the input is cut behind each line feed and nowhere else, and the
lines that are started are these pieces as texts, one after another, up to the first one that stops
the shell; at the end of the session all of them have been started. None of them is empty, and a
line feed is the last character of its line. Without a line that stops the shell, they make up the
text of the whole input. Every other session that has read the same input has started the same
lines. Whether a line stops the shell is seen when it is read. -/
theorem handed_over (shell : Shell) {input left : Bytes} {happenings : List Happening}
    {pt : Point} {requests : List Signal}
    (hplays : Plays Steps (.between (batch { shell }), []) happenings (pt, requests))
    (hgives : Plays Gives input happenings left) :
    ∃ pieces, (∀ pieces', Text.IsCut input pieces' ↔ pieces' = pieces) ∧
      (∃ coming, upToStop shell.runner.settings (pieces.map Text.decodeLossy) =
        started happenings ++ coming ∧ (pt.IsLeaving → coming = [])) ∧
      (∀ text ∈ started happenings, text ≠ "" ∧ ∀ a b, text.toList = a ++ '\n' :: b → b = []) ∧
      (pt.IsLeaving →
        (∀ text ∈ pieces.map Text.decodeLossy, stops shell.runner.settings text = false) →
          String.join (started happenings) = Text.decodeLossy input) ∧
      (∀ (shell' : Shell) happenings' pt' requests' left',
        shell'.runner.settings = shell.runner.settings →
        Plays Steps (.between (batch { shell := shell' }), []) happenings' (pt', requests') →
        Plays Gives input happenings' left' → pt.IsLeaving → pt'.IsLeaving →
          started happenings' = started happenings) ∧
      ∀ (shell' shell'' : Shell) line replies stop scene scene',
        Plays Scene.Takes (shell'.runLine line, scene) replies (.done (shell'', stop), scene') →
          (stop = none ↔ stops shell'.runner.settings line = false) := by
  have hall : ∀ (shell' : Shell) happenings' pt' requests' left',
      shell'.runner.settings = shell.runner.settings →
      Plays Steps (.between (batch { shell := shell' }), []) happenings' (pt', requests') →
      Plays Gives input happenings' left' →
        ∃ coming, upToStop shell.runner.settings (linesOf input) = started happenings' ++ coming ∧
          (pt'.IsLeaving → coming = []) := by
    intro shell' happenings' pt' requests' left' hsettings hplays' hgives'
    have hstart : Coming shell.runner.settings (.between (batch { shell := shell' })) input _ :=
      .between hsettings
    obtain ⟨coming, hcoming, hend⟩ := started_of_plays hstart hplays' hgives'
    exact ⟨coming, hcoming, hend.eq_nil_of_isLeaving⟩
  obtain ⟨coming, hcoming, hend⟩ := hall shell happenings pt requests left rfl hplays hgives
  have hfront : started happenings <+: linesOf input := by
    have hbegun := upToStop_prefix shell.runner.settings (linesOf input)
    rw [hcoming] at hbegun
    exact (List.prefix_append _ _).trans hbegun
  refine ⟨Text.lines input, fun _ => Text.isCut_iff, ⟨coming, hcoming, hend⟩,
    fun text htext => Text.of_mem_decodeLossy_lines (hfront.subset htext), ?_, ?_,
    fun _ _ _ _ _ _ _ hran => Shell.stop_eq_none_iff_of_plays hran⟩
  · intro hleaving hgoes
    have hstarted : linesOf input = started happenings ++ coming :=
      (upToStop_eq_self hgoes).symm.trans hcoming
    rw [hend hleaving, List.append_nil] at hstarted
    rw [← hstarted, linesOf, Text.join_decodeLossy_lines]
  · intro shell' happenings' pt' requests' left' hsettings hplays' hgives' hleaving hleaving'
    obtain ⟨coming', hcoming', hend'⟩ :=
      hall shell' happenings' pt' requests' left' hsettings hplays' hgives'
    rw [hcoming, hend hleaving, hend' hleaving', List.append_nil, List.append_nil] at hcoming'
    exact hcoming'.symm

/-- A round that reads a block. -/
theorem plays_block {b : Batch} (cut : Text.cutLine b.reader.pending = none) {block : Bytes}
    (ne : block ≠ []) :
    Plays Steps (.between (batch b), [])
      [.round, .answer ⟨.read Fd.stdin LineReader.blockSize, .ok block⟩, .idle]
      (.between (batch { b with reader := ⟨b.reader.pending ++ block⟩ }), []) := by
  obtain ⟨c, rest, rfl⟩ := List.exists_cons_of_ne_nil ne
  have hlisten : (batch b).listen = _ := listen_of_cutLine_none cut
  have hhears : Hears ((batch b).listen, [])
      ⟨.read Fd.stdin LineReader.blockSize, .ok (c :: rest)⟩
      (.done (batch { b with reader := ⟨b.reader.pending ++ c :: rest⟩ }, .nothing), []) := by
    rw [hlisten]
    exact .persist (by rintro ⟨⟩) _
  exact .cons .round (.cons (.listen hhears) (.cons .idle (.nil _)))

/-- A round that starts a line. -/
theorem plays_start {b : Batch} {line rest : Bytes} {text : String}
    (cut : Text.cutLine b.reader.pending = some (line, rest))
    (htext : Text.decodeLossy line = text) :
    Plays Steps (.between (batch b), []) [.round, .start text]
      (.running (batch { b with reader := ⟨rest⟩ }) text (b.shell.runLine text), []) := by
  subst htext
  have hlisten : (batch b).listen = _ := listen_of_cutLine cut
  refine .cons .round ?_
  rw [hlisten]
  exact .cons .start (.nil _)

/-- A blank line with a character that has been torn apart, a line that stops the shell, and
something behind it that is never started. -/
theorem handed_over_torn :
    ∃ happenings, Plays Steps (.between (batch { shell := {} }), []) happenings
        (.leaving 0 (.done ()), []) ∧
      Plays Gives [0xc2, 0x85, 10, 101, 120, 105, 116, 10, 0xff] happenings [] ∧
      ∃ pieces, (∀ pieces', Text.IsCut [0xc2, 0x85, 10, 101, 120, 105, 116, 10, 0xff] pieces' ↔
          pieces' = pieces) ∧
        upToStop {} (pieces.map Text.decodeLossy) = ["\u0085\n", "exit\n"] := by
  let read (block : Bytes) : Happening :=
    .answer ⟨.read Fd.stdin LineReader.blockSize, .ok block⟩
  have hblank : Shell.runLine {} "\u0085\n" = .done ({}, none) :=
    Shell.runLine_of_blank {} (by decide)
  have hexit : Shell.runLine {} "exit\n" = .done ({}, some 0) := by
    have hstop : IsStop {} "exit\n" none :=
      ⟨⟨0, "exit", ["exit"]⟩, by decide, by decide, by decide⟩
    have htrace : (parse {} "exit\n").trace = [] := by decide
    rw [Shell.runLine_of_isStop hstop, htrace]
    rfl
  have hcut : Text.cutLine [0xc2, 0x85, 10, 101] = some ([0xc2, 0x85, 10], [101]) := by decide
  have hcut' : Text.cutLine [101, 120, 105, 116, 10, 0xff] =
      some ([101, 120, 105, 116, 10], [0xff]) := by decide
  have hfirst := plays_start (b := { shell := {}, reader := ⟨[0xc2, 0x85, 10, 101]⟩ }) hcut
    (by decide : _ = "\u0085\n")
  have hsecond := plays_start (b := { shell := {}, reader := ⟨[101, 120, 105, 116, 10, 0xff]⟩ })
    hcut' (by decide : _ = "exit\n")
  rw [hblank] at hfirst
  rw [hexit] at hsecond
  have hplays : Plays Steps (.between (batch { shell := {} }), [])
      ([.round, read [0xc2], .idle] ++ ([.round, read [0x85, 10, 101], .idle] ++
        ([.round, .start "\u0085\n"] ++ ([.resolve {} none, .answer ⟨.takeStop, .ok none⟩] ++
          ([.round, read [120, 105, 116, 10, 0xff], .idle] ++
            ([.round, .start "exit\n"] ++ [.resolve {} (some 0)]))))))
      (.leaving 0 (.done ()), []) :=
    (plays_block (by decide) (by decide)).append ((plays_block (by decide) (by decide)).append
      (hfirst.append (Plays.append (.cons .resolve (.cons .pollNothing (.nil _)))
        ((plays_block (by decide) (by decide)).append
          (hsecond.append (.cons .stop (.nil _)))))))
  have hgives : Plays Gives
      ([0xc2] ++ ([0x85, 10, 101] ++ ([120, 105, 116, 10, 0xff] ++ [])))
      [.round, read [0xc2], .idle, .round, read [0x85, 10, 101], .idle,
        .round, .start "\u0085\n", .resolve {} none, .answer ⟨.takeStop, .ok none⟩,
        .round, read [120, 105, 116, 10, 0xff], .idle,
        .round, .start "exit\n", .resolve {} (some 0)] [] :=
    .cons (.other trivial) (.cons (.block _ (by decide)) (.cons (.other trivial)
      (.cons (.other trivial) (.cons (.block _ (by decide)) (.cons (.other trivial)
        (.cons (.other trivial) (.cons (.other trivial) (.cons (.other trivial)
          (.cons (.other trivial) (.cons (.other trivial) (.cons (.block _ (by decide))
            (.cons (.other trivial) (.cons (.other trivial) (.cons (.other trivial)
              (.cons (.other trivial) (.nil _))))))))))))))))
  obtain ⟨pieces, hpieces, ⟨coming, hcoming, hend⟩, -⟩ := handed_over {} hplays hgives
  refine ⟨_, hplays, hgives, pieces, hpieces, ?_⟩
  rw [hend trivial] at hcoming
  exact hcoming

end Loop

end PipeShell
