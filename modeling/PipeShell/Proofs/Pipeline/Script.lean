import PipeShell.Proofs.Machine.ProcessStep
import PipeShell.Proofs.Pipeline.Phase

/-!
# Scripts

A script says beforehand what an operating system answers, call by call: one list of answers for the
shell, and one for every process that it makes. Shell and processes share nothing but the copy of
the descriptors that a new process starts with, so each list is followed on its own.

* `Scene.Takes` and `Worker.Takes` say what one answer does, to the shell and to a process; `Plays`
  follows a list of answers, and `Script.Leads` a whole script.
* `Inserts` puts further answers into a list, each in front of one that it may stand in front of. If
  such an answer changes nothing, the list leads where it led before (`Inserts.plays_iff`).
* `Interaction.Endures` says of a computation that it asks again whatever may be interrupted, and of
  what it ends with that it comes of other answers.
* `Script.leads_iff_of_interrupted` puts these together: interruptions change nothing.
-/

namespace PipeShell

/-! ### Lists of answers -/

section Plays

variable {σ ε : Type} {takes : σ → ε → σ → Prop} {front : ε → ε → Prop}

/-- What a list of answers leads to, if `takes` says what one answer does. -/
inductive Plays (takes : σ → ε → σ → Prop) : σ → List ε → σ → Prop where
  | nil (s : σ) : Plays takes s [] s
  | cons {s t u : σ} {e : ε} {rest : List ε} (first : takes s e t) (others : Plays takes t rest u) :
    Plays takes s (e :: rest) u

/-- A list with further answers in it: where `front x e` holds, `x` may come right before `e`. -/
inductive Inserts (front : ε → ε → Prop) : List ε → List ε → Prop where
  | nil : Inserts front [] []
  | keep (e : ε) {list list' : List ε} (rest : Inserts front list list') :
    Inserts front (e :: list) (e :: list')
  | insert {x e : ε} {list list' : List ε} (before : front x e)
    (rest : Inserts front (e :: list) list') : Inserts front (e :: list) (x :: list')

/-- **Answers that change nothing may come any number of times.** The condition `Sound` holds all
along; a state that can take an answer can take what may come before it, and that leaves it as it
is. -/
theorem Inserts.plays_iff (Sound : σ → Prop) (keeps : ∀ {s e t}, Sound s → takes s e t → Sound t)
    (waits : ∀ {s x e t}, Sound s → front x e → takes s x t → t = s)
    (asks : ∀ {s x e t}, Sound s → front x e → takes s e t → takes s x s)
    {list list' : List ε} (h : Inserts front list list') {s t : σ} (hs : Sound s) :
    Plays takes s list t ↔ Plays takes s list' t := by
  induction h generalizing s with
  | nil => exact Iff.rfl
  | keep e rest ih =>
    constructor
    · rintro (_ | ⟨first, others⟩)
      exact .cons first ((ih (keeps hs first)).mp others)
    · rintro (_ | ⟨first, others⟩)
      exact .cons first ((ih (keeps hs first)).mpr others)
  | insert before rest ih =>
    constructor
    · intro hplays
      obtain _ | ⟨first, others⟩ := hplays
      exact .cons (asks hs before first) ((ih hs).mp (.cons first others))
    · rintro (_ | ⟨first, others⟩)
      obtain rfl := waits hs before first
      exact (ih hs).mpr others

theorem Plays.keeps (Sound : σ → Prop) (keeps : ∀ {s e t}, Sound s → takes s e t → Sound t)
    {s t : σ} {list : List ε} (h : Plays takes s list t) (hs : Sound s) : Sound t := by
  induction h with
  | nil => exact hs
  | cons first _ ih => exact ih (keeps hs first)

/-- A condition on a state and on all answers so far that every answer keeps. -/
theorem Plays.records (Sound : List ε → σ → Prop)
    (records : ∀ {past s e t}, Sound past s → takes s e t → Sound (past ++ [e]) t) {s t : σ}
    {past list : List ε} (h : Plays takes s list t) (hs : Sound past s) :
    Sound (past ++ list) t := by
  induction h generalizing past with
  | nil => rwa [List.append_nil]
  | cons first _ ih =>
    rw [List.append_cons]
    exact ih (records hs first)

end Plays

/-! ### Processes -/

/-- A process that the shell has made. When it runs a program, it keeps the words of its command. -/
structure Worker where
  /-- Its number. -/
  pid : Pid
  /-- Its descriptors. -/
  table : DescriptorTable
  /-- How far it has come. -/
  life : Life (List String)

/-- An answer to what a process does, with what it does. -/
abbrev WorkerReply : Type := ChildStep × Except Errno Unit

namespace Worker

/-- Lets a process go on with what is left of its list, or end. -/
def become (w : Worker) : Except Ending Child → Worker
  | .ok todo => { w with life := .preparing todo }
  | .error how => { w with table := {}, life := .ended how }

/-- What an answer makes of a process that does one thing and has `rest` left to do. A descriptor is
closed whatever the answer is. Nothing spares a process from broken pipes: its list begins with
their usual effect, and what it says comes later. -/
def after (w : Worker) (step : ChildStep) (rest : Child) (answer : Except Errno Unit) : Worker :=
  match step, answer with
  | .exec argv, .ok () => { w with table := w.table.afterExec, life := .running argv }
  | .close fd, _ =>
    { w with table := w.table.erase fd }.become ((ChildStep.close fd).answered false rest answer)
  | step, .ok () => { w with table := step.apply w.table }.become (step.answered false rest answer)
  | step, .error _ => w.become (step.answered false rest answer)

/-- What one answer does to a process. -/
inductive Takes : Worker → WorkerReply → Worker → Prop where
  | step {w : Worker} {step : ChildStep} {rest : Child} (life : w.life = .preparing (step :: rest))
    (answer : Except Errno Unit) : Takes w (step, answer) (w.after step rest answer)

end Worker

/-- Whether an answer to a process is an interruption that may come before another answer: both
answer the same thing, and that is tried again. -/
def WorkerReply.Interrupts (x e : WorkerReply) : Prop :=
  e.1.isRetried = true ∧ x = (e.1, .error .eintr)

namespace Worker

/-- What a process does when something has failed leaves its descriptors alone. -/
theorem after_of_isParting {step : ChildStep} (h : step.isParting = true) (w : Worker)
    (rest : Child) (answer : Except Errno Unit) :
    w.after step rest answer = w.become (step.answered false rest answer) := by
  cases step with
  | complain message => cases answer <;> rfl
  | exit status => cases answer <;> rfl
  | _ => cases h

/-- A process leaves whatever is answered. -/
@[simp] theorem after_exit (w : Worker) (status : Nat) (rest : Child)
    (answer : Except Errno Unit) : w.after (.exit status) rest answer =
      { w with table := {}, life := .ended (.exited (status % 256)) } :=
  after_of_isParting rfl w rest answer

/-- A process that is interrupted stays what it is. -/
theorem after_interruption {w : Worker} {step : ChildStep} {rest : Child}
    (life : w.life = .preparing (step :: rest)) (h : step.isRetried = true) :
    w.after step rest (.error .eintr) = w := by
  obtain ⟨pid, table, life'⟩ := w
  cases step with
  | install fd stream =>
    obtain rfl : life' = .preparing (.install fd stream :: rest) := life
    rfl
  | _ => cases h

theorem plays_iff_of_interrupted {list list' : List WorkerReply}
    (h : Inserts WorkerReply.Interrupts list list') (w w' : Worker) :
    Plays Takes w list w' ↔ Plays Takes w list' w' := by
  refine h.plays_iff (fun _ => True) (fun _ _ => trivial) ?_ ?_ trivial
  · rintro w _ ⟨step, answer⟩ w' - ⟨hretried, rfl⟩ (⟨life, _⟩)
    exact after_interruption life hretried
  · rintro w _ ⟨step, answer⟩ w' - ⟨hretried, rfl⟩ (⟨life, _⟩)
    have htakes := Takes.step life (.error .eintr)
    rwa [after_interruption life hretried] at htakes

end Worker

/-! ### The shell -/

/-- An answer to the shell, with what it has asked for. -/
abbrev ShellReply : Type := Σ r : Request, r.Answer

/-- What the shell has to do with: its descriptors, how many files have been opened, and the
processes that it has made, in that order. -/
structure Scene where
  /-- The descriptors of the shell. -/
  table : DescriptorTable
  /-- How many files have been opened. -/
  files : Nat
  /-- The processes that the shell has made. -/
  workers : List Worker := []

/-- Gives a descriptor an entry; a negative number is none. -/
def DescriptorTable.put (table : DescriptorTable) (fd : Fd) (e : Entry) : DescriptorTable :=
  match fd with
  | .ofNat n => table.insert n e
  | .negSucc _ => table

namespace Scene

/-- What an answer changes. The ends of a pipe are closed when a program starts, a new process has a
copy of the descriptors, and a descriptor is closed whatever the answer is. -/
def after (scene : Scene) : (r : Request) → r.Answer → Scene
  | .pipe, .ok (read, write) =>
    { scene with
      table := (scene.table.put read ⟨scene.files, true⟩).put write ⟨scene.files + 1, true⟩
      files := scene.files + 2 }
  | .fork child, .ok pid =>
    { scene with workers := scene.workers ++ [⟨pid, scene.table, .preparing child⟩] }
  | .close fd, _ => { scene with table := scene.table.erase fd }
  | _, _ => scene

variable {α : Type}

/-- What one answer does to a computation of the shell. -/
inductive Takes : Interaction α × Scene → ShellReply → Interaction α × Scene → Prop where
  | once {r : Request} {next : r.Answer → Interaction α} {scene : Scene} (answer : r.Answer) :
    Takes (.once r next, scene) ⟨r, answer⟩ (next answer, scene.after r answer)
  | persist {r : Request} {next : r.Answer → Interaction α} {scene : Scene} (answer : r.Answer) :
    Takes (.persist r next, scene) ⟨r, answer⟩
      (Interaction.resume r next answer, scene.after r answer)

end Scene

/-- Whether an answer to the shell is an interruption that may come before another answer: both
answer the same request, and that is made again. -/
def ShellReply.Interrupts (x e : ShellReply) : Prop :=
  e.1.isRetried = true ∧ x = ⟨e.1, .error .eintr⟩

namespace Interaction

variable {α β : Type} {P : α → Prop} {Q : β → Prop}

/-- Whether a computation asks again whatever may be interrupted, and ends with something of which
`P` holds whenever all that it goes on with is no interruption. -/
inductive Endures (P : α → Prop) : Interaction α → Prop where
  | done {a : α} (holds : P a) : Endures P (.done a)
  | aborted : Endures P .aborted
  | once {r : Request} {next : r.Answer → Interaction α} (lasting : r.isRetried = false)
    (all : ∀ answer, Endures P (next answer)) : Endures P (.once r next)
  | persist {r : Request} {next : r.Answer → Interaction α}
    (all : ∀ answer, isInterruption answer = false → Endures P (next answer)) :
    Endures P (.persist r next)

theorem Endures.bind {p : Interaction α} {f : α → Interaction β} (h : p.Endures P)
    (hf : ∀ a, P a → (f a).Endures Q) : (p.bind f).Endures Q := by
  induction h with
  | done holds => exact hf _ holds
  | aborted => exact .aborted
  | once lasting _ ih => exact .once lasting ih
  | persist _ ih => exact .persist ih

/-- What a computation ends with. -/
theorem Endures.holds {a : α} (h : (Interaction.done a).Endures P) : P a := by
  cases h with
  | done holds => exact holds

/-- An answer leads to a computation that endures as well. -/
theorem Endures.takes {s t : Interaction α × Scene} {e : ShellReply} (h : s.1.Endures P)
    (htakes : Scene.Takes s e t) : t.1.Endures P := by
  cases htakes with
  | once answer =>
    cases h with
    | once _ all => exact all answer
  | persist answer =>
    change (resume _ _ answer).Endures P
    rw [resume]
    by_cases hinterrupted : isInterruption answer = true
    · rw [if_pos hinterrupted]
      exact h
    · rw [if_neg hinterrupted]
      cases h with
      | persist all => exact all answer (Bool.eq_false_iff.mpr hinterrupted)

end Interaction

namespace Scene

variable {α : Type} {P : α → Prop}

/-- Nothing is changed by an interruption. -/
theorem after_interruption (scene : Scene) {r : Request} (h : r.isRetried = true) :
    scene.after r (.error .eintr) = scene := by
  cases r with
  | pipe | fork | wait => rfl
  | _ => cases h

/-- A computation that endures is left as it is by an interruption. -/
theorem takes_interruption {p : Interaction α} (h : p.Endures P) {r : Request}
    (hretried : r.isRetried = true) {scene : Scene} {t : Interaction α × Scene}
    (htakes : Takes (p, scene) ⟨r, .error .eintr⟩ t) : t = (p, scene) := by
  cases htakes with
  | once =>
    cases h with
    | once lasting => simp [hretried] at lasting
  | persist => rw [after_interruption scene hretried]; rfl

/-- What can be answered can be interrupted, if it is made again. -/
theorem interruption_of_takes {p : Interaction α} (h : p.Endures P) {r : Request}
    (hretried : r.isRetried = true) {answer : r.Answer} {scene : Scene}
    {t : Interaction α × Scene} (htakes : Takes (p, scene) ⟨r, answer⟩ t) :
    Takes (p, scene) ⟨r, .error .eintr⟩ (p, scene) := by
  cases htakes with
  | once =>
    cases h with
    | once lasting => simp [hretried] at lasting
  | @persist _ next =>
    have hagain : Takes (.persist r next, scene) ⟨r, .error .eintr⟩
        (.persist r next, scene.after r (.error .eintr)) := .persist (.error .eintr)
    rwa [after_interruption scene hretried] at hagain

theorem plays_iff_of_interrupted {p : Interaction α} (hp : p.Endures P)
    {list list' : List ShellReply} (h : Inserts ShellReply.Interrupts list list') (scene : Scene)
    (t : Interaction α × Scene) :
    Plays Takes (p, scene) list t ↔ Plays Takes (p, scene) list' t := by
  refine h.plays_iff (fun s => s.1.Endures P) (fun hs htakes => hs.takes htakes) ?_ ?_ hp
  · rintro ⟨p, scene⟩ _ ⟨r, answer⟩ t hs ⟨hretried, rfl⟩ htakes
    exact takes_interruption hs hretried htakes
  · rintro ⟨p, scene⟩ _ ⟨r, answer⟩ t hs ⟨hretried, rfl⟩ htakes
    exact interruption_of_takes hs hretried htakes

/-- What a computation that endures ends with. -/
theorem holds_of_plays {p : Interaction α} (hp : p.Endures P) {list : List ShellReply}
    {scene scene' : Scene} {a : α} (h : Plays Takes (p, scene) list (.done a, scene')) : P a := by
  have hdone := h.keeps (fun s : Interaction α × Scene => s.1.Endures P)
    (fun hs htakes => hs.takes htakes) hp
  exact hdone.holds

end Scene

/-! ### The whole -/

/-- What an operating system answers to the shell and to the processes that it makes. -/
structure Script where
  /-- The answers to the shell. -/
  shell : List ShellReply
  /-- The answers to each process, by how many have been made before it. -/
  workers : Nat → List WorkerReply

namespace Script

variable {α : Type} {P : α → Prop}

/-- Where a script leads a computation of the shell that has made no process yet, with all that it
has to do with. -/
def Leads (script : Script) (p : Interaction α) (table : DescriptorTable) (files : Nat)
    (p' : Interaction α) (scene : Scene) : Prop :=
  ∃ forked : Scene, Plays Scene.Takes (p, ⟨table, files, []⟩) script.shell (p', forked) ∧
    scene.table = forked.table ∧ scene.files = forked.files ∧
    scene.workers.length = forked.workers.length ∧
    ∀ i w w', forked.workers[i]? = some w → scene.workers[i]? = some w' →
      Plays Worker.Takes w (script.workers i) w'

/-- A script with any number of interruptions in it, each before an answer to what is made again. -/
structure Interrupted (script script' : Script) : Prop where
  shell : Inserts ShellReply.Interrupts script.shell script'.shell
  workers : ∀ i, Inserts WorkerReply.Interrupts (script.workers i) (script'.workers i)

/-- **Interruptions change nothing** for a computation that endures. -/
theorem leads_iff_of_interrupted {script script' : Script} (h : script.Interrupted script')
    {p : Interaction α} (hp : p.Endures P) (table : DescriptorTable) (files : Nat)
    (p' : Interaction α) (scene : Scene) :
    script.Leads p table files p' scene ↔ script'.Leads p table files p' scene := by
  refine exists_congr fun forked => ?_
  rw [Scene.plays_iff_of_interrupted hp h.shell]
  simp only [Worker.plays_iff_of_interrupted (h.workers _)]

/-- What a computation that endures ends with, whatever the script says. -/
theorem holds_of_leads {script : Script} {p : Interaction α} (hp : p.Endures P)
    {table : DescriptorTable} {files : Nat} {a : α} {scene : Scene}
    (h : script.Leads p table files (.done a) scene) : P a := by
  obtain ⟨forked, hplays, -⟩ := h
  exact Scene.holds_of_plays hp hplays

end Script

end PipeShell
