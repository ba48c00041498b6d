import Mathlib.Logic.Relation
import PipeShell.Proofs.Machine.PlainStep
import PipeShell.Proofs.Pipeline.Conversation

/-!
# Processes of a machine as workers

A process of a machine follows its list by what the machine has to say to each thing on it, a
`Worker` follows a list by any answers. Both go on with what `ChildStep.answered` leaves. So what is
said of workers for all answers is said of the processes of every machine, up to the start of their
programs.

* `Worker.Mirrors` says that a process is where a worker is.
* `Machine.meets_of_prepareStep` is the step, `Launcher.exists_plays_of_undisturbed` the run,
  whatever else happens on the machine in the meantime.
-/

namespace PipeShell

variable {σ : Type}

/-- Whether a process of a machine is where a worker is: at the same list with the same descriptors,
where part of what it says may have been taken already, at its program, or at its end. -/
inductive Worker.Mirrors (w : Worker) (c : Process σ) : Prop where
  | prepares {todo} (life : w.life = .preparing todo) (life' : c.life = .preparing todo)
    (table : c.table = w.table)
  | complains {message left rest} (life : w.life = .preparing (.complain message :: rest))
    (life' : c.life = .preparing (.complain left :: rest)) (table : c.table = w.table)
  | runs {argv program} (life : w.life = .running argv) (life' : c.life = .running program)
    (table : c.table = w.table)
  | ended {how} (life : w.life = .ended how) (life' : c.life = .ended how ∨ c.life = .collected)
    (table : c.table = w.table)

/-- Whether a broken pipe ends a process as soon as it has something to say: it is not spared, or
will not be, or it has nothing to say. -/
def Worker.IsExposed (w : Worker) (c : Process σ) : Prop :=
  c.ignored.contains Signal.pipe.number = false ∨
    (∃ rest, w.life = .preparing (.restorePipeSignal :: rest)) ∨
    (∃ status, w.life = .preparing [.exit status]) ∨ ∀ todo, w.life ≠ .preparing todo

theorem Worker.IsExposed.of_not_preparing {w : Worker} {c : Process σ}
    (h : ∀ todo, w.life ≠ .preparing todo) : w.IsExposed c :=
  .inr (.inr (.inr h))

namespace Machine

variable {rep : Repertoire σ} {m m' : Machine σ} {pid : Pid} {w : Worker} {c c₁ : Process σ}

/-- What is left of a list, or the end, is the same for both. -/
theorem mirrors_become (hc : m.children[pid]? = some c) (hmaker : c.maker = .shell)
    (hmaker₁ : c₁.maker = .shell) (table : c₁.table = w.table) (left : Except Ending Child) :
    ∃ c', (m.become pid c₁ left).children[pid]? = some c' ∧ (w.become left).Mirrors c' ∧
      c'.maker = .shell ∧ ∀ todo, left = .ok todo → c'.ignored = c₁.ignored := by
  cases left with
  | ok todo =>
    refine ⟨_, getElem?_setChild_self hc, .prepares rfl rfl table, hmaker₁, fun _ _ => rfl⟩
  | error how =>
    obtain ⟨children, hfinish, hself, -⟩ := finish_of_shell how hc hmaker
    refine ⟨m.withEnding c how, ?_, .ended rfl ?_ rfl, hmaker, nofun⟩
    · rw [become, hfinish]
      exact hself
    · cases hleaves : m.leavesEnding c with
      | true => exact .inl (by simp [withEnding, hleaves])
      | false => exact .inr (by simp [withEnding, hleaves])

/-- Whether some answers lead a worker to where a process of the shell is. -/
def Meets (m : Machine σ) (pid : Pid) (w : Worker) : Prop :=
  ∃ c, m.children[pid]? = some c ∧ c.maker = .shell ∧
    ∃ answers w', Plays Worker.Takes w answers w' ∧ w'.Mirrors c ∧ w'.IsExposed c

/-- **What the machine says to one thing on a list is an answer to the worker.** The process is not
spared from broken pipes, if the thing is a message. -/
theorem meets_of_become {s : ChildStep} {rest : Child} (answer : Except Errno Unit)
    (life : w.life = .preparing (s :: rest)) (hc : m.children[pid]? = some c)
    (hmaker : c.maker = .shell) (hmaker₁ : c₁.maker = .shell)
    (exposed : c₁.ignored.contains Signal.pipe.number = false)
    (hafter : w.after s rest answer = { w with table := c₁.table }.become
      (s.answered false rest answer)) :
    (m.become pid c₁ (s.answered false rest answer)).Meets pid w := by
  obtain ⟨c', hc', hmirrors, hmaker', hignored⟩ :=
    mirrors_become (w := { w with table := c₁.table }) hc hmaker hmaker₁ rfl
      (s.answered false rest answer)
  refine ⟨c', hc', hmaker', [(s, answer)], w.after s rest answer,
    .cons (.step life answer) (.nil _), hafter ▸ hmirrors, ?_⟩
  cases hleft : s.answered false rest answer with
  | ok todo =>
    refine .inl ?_
    rw [hignored todo hleft]
    exact exposed
  | error how =>
    refine .of_not_preparing fun todo htodo => ?_
    rw [hafter, hleft] at htodo
    cases htodo

/-- A message of which the machine takes part, or all, or nothing. -/
theorem meets_of_complain {message left : Bytes} {rest : Child}
    (life : w.life = .preparing (.complain message :: rest)) (table : c.table = w.table)
    (hc : m.children[pid]? = some c) (hmaker : c.maker = .shell)
    (exposed : c.ignored.contains Signal.pipe.number = false)
    (h : m.prepareStep rep pid c (.complain left :: rest) = some m') : m'.Meets pid w := by
  have hanswered : ∀ answer, (ChildStep.complain left).answered false rest answer =
      (ChildStep.complain message).answered false rest answer := by
    intro answer
    cases answer with
    | ok done => rfl
    | error cause => cases cause <;> rfl
  have hafter : ∀ answer, w.after (.complain message) rest answer =
      { w with table := c.table }.become
        ((ChildStep.complain message).answered false rest answer) := by
    intro answer
    rw [table]
    exact Worker.after_of_isParting rfl w rest answer
  rw [prepareStep.eq_def] at h
  dsimp only at h
  rw [exposed] at h
  split at h
  · rename_i count after hwrite
    obtain ⟨-, hsame, -⟩ := transfer_writeTo hwrite
    have hc' : after.children[pid]? = some c := hsame ▸ hc
    split at h
    · cases h
      rw [hanswered]
      exact meets_of_become (.ok ()) life hc' hmaker hmaker exposed (hafter _)
    · cases h
      exact ⟨_, getElem?_setChild_self hc', hmaker, [], w, .nil w, .complains life rfl table,
        .inl exposed⟩
  · cases h
    rw [hanswered]
    exact meets_of_become (.error .epipe) life hc hmaker hmaker exposed (hafter _)
  · cases h
  · cases h
    rw [hanswered]
    exact meets_of_become (.error _) life hc hmaker hmaker exposed (hafter _)

/-- A stream that is put in its place, or is not open. -/
theorem meets_of_install {fd : Fd} {stream : Stream} {rest : Child}
    (life : w.life = .preparing (.install fd stream :: rest)) (table : c.table = w.table)
    (hc : m.children[pid]? = some c) (hmaker : c.maker = .shell)
    (exposed : c.ignored.contains Signal.pipe.number = false)
    (h : m.prepareStep rep pid c (.install fd stream :: rest) = some m') : m'.Meets pid w := by
  have hinstalled : ∀ table', (ChildStep.install fd stream).apply c.table = table' →
      w.after (.install fd stream) rest (.ok ()) = { w with table := table' }.become
        ((ChildStep.install fd stream).answered false rest (.ok ())) := by
    rintro table' rfl
    rw [table]
    rfl
  rw [prepareStep.eq_def] at h
  dsimp only at h
  rcases hget : c.table.get? fd with _ | entry
  · simp only [hget] at h
    cases h
    refine meets_of_become (.error .ebadf) life hc hmaker hmaker exposed ?_
    rw [table]
    rfl
  · simp only [hget] at h
    split at h
    · rename_i hsame
      cases h
      refine meets_of_become (.ok ()) life hc hmaker hmaker exposed (hinstalled _ ?_)
      rw [ChildStep.apply, hget]
      exact if_pos hsame
    · rename_i hother
      cases h
      refine meets_of_become (.ok ()) life hc hmaker hmaker exposed (hinstalled _ ?_)
      rw [ChildStep.apply, hget]
      exact if_neg hother

/-- A program that is started, or cannot be. -/
theorem meets_of_exec {argv : List String} {rest : Child}
    (life : w.life = .preparing (.exec argv :: rest)) (table : c.table = w.table)
    (hc : m.children[pid]? = some c) (hmaker : c.maker = .shell)
    (exposed : c.ignored.contains Signal.pipe.number = false)
    (h : m.prepareStep rep pid c (.exec argv :: rest) = some m') : m'.Meets pid w := by
  rw [prepareStep.eq_def] at h
  dsimp only at h
  split at h
  · cases h
    exact ⟨_, getElem?_setChild_self hc, hmaker, [_], _, .cons (.step life (.ok ())) (.nil _),
      .runs rfl rfl (congrArg DescriptorTable.afterExec table),
      .of_not_preparing (by rintro todo ⟨⟩)⟩
  · cases h
    refine meets_of_become (.error _) life hc hmaker hmaker exposed ?_
    rw [table]
    rfl

/-- **The step.** What a process of a machine does with its list, a worker does by some answers. -/
theorem meets_of_prepareStep {s : ChildStep} {rest : Child} (hmirrors : w.Mirrors c)
    (hexposed : w.IsExposed c) (hc : m.children[pid]? = some c) (hmaker : c.maker = .shell)
    (hlife : c.life = .preparing (s :: rest))
    (h : m.prepareStep rep pid c (s :: rest) = some m') : m'.Meets pid w := by
  have hdeaf : ∀ {s : ChildStep} {rest : Child}, w.life = .preparing (s :: rest) →
      s ≠ .restorePipeSignal → (∀ status, s ≠ .exit status) →
        c.ignored.contains Signal.pipe.number = false := by
    intro s rest life hrestores hexits
    obtain hdeaf | ⟨rest', hfirst⟩ | ⟨status, hlast⟩ | hnone := hexposed
    · exact hdeaf
    · exact absurd (List.cons.inj (Life.preparing.inj (life.symm.trans hfirst))).1 hrestores
    · exact absurd (List.cons.inj (Life.preparing.inj (life.symm.trans hlast))).1 (hexits status)
    · exact absurd life (hnone _)
  cases hmirrors with
  | runs _ life' => cases hlife.symm.trans life'
  | ended _ life' =>
    obtain life' | life' := life'
    · cases hlife.symm.trans life'
    · cases hlife.symm.trans life'
  | complains life life' table =>
    obtain ⟨rfl, rfl⟩ := List.cons.inj (Life.preparing.inj (hlife.symm.trans life'))
    exact meets_of_complain life table hc hmaker (hdeaf life (by simp) (by simp)) h
  | prepares life life' table =>
    obtain rfl := Life.preparing.inj (hlife.symm.trans life')
    cases s with
    | complain message =>
      exact meets_of_complain life table hc hmaker (hdeaf life (by simp) (by simp)) h
    | install fd stream =>
      exact meets_of_install life table hc hmaker (hdeaf life (by simp) (by simp)) h
    | exec argv => exact meets_of_exec life table hc hmaker (hdeaf life (by simp) (by simp)) h
    | close fd =>
      cases h
      refine meets_of_become (.ok ()) life hc hmaker hmaker (hdeaf life (by simp) (by simp)) ?_
      rw [table]
      rfl
    | restorePipeSignal =>
      cases h
      refine meets_of_become (.ok ()) life hc hmaker hmaker ?_ (by rw [table]; rfl)
      simp
    | exit status =>
      -- who leaves may still be spared from broken pipes, so `meets_of_become` does not apply
      cases h
      obtain ⟨c', hc', hmirrors, hmaker', -⟩ :=
        mirrors_become hc hmaker hmaker table (.error (.exited (status % 256)))
      have htakes := Worker.Takes.step life (.ok ())
      rw [Worker.after_exit] at htakes
      exact ⟨c', hc', hmaker', [_], _, .cons htakes (.nil _), hmirrors,
        .of_not_preparing (by rintro todo ⟨⟩)⟩

/-- What happens on a machine while a process follows its list: it does the next thing on the list,
or something happens that leaves it as it is. -/
inductive Undisturbed (rep : Repertoire σ) (pid : Pid) (m m' : Machine σ) : Prop where
  | own {c : Process σ} {s : ChildStep} {rest : Child} (child : m.children[pid]? = some c)
    (life : c.life = .preparing (s :: rest))
    (step : m.prepareStep rep pid c (s :: rest) = some m')
  | others (same : m'.children[pid]? = m.children[pid]?)

/-- A worker that comes to where a process is comes to where it is next. -/
theorem Meets.next (h : m.Meets pid w) (step : Undisturbed rep pid m m') : m'.Meets pid w := by
  obtain ⟨c, hc, hmaker, answers, w', hplays, hmirrors, hexposed⟩ := h
  cases step with
  | others same => exact ⟨c, same.trans hc, hmaker, answers, w', hplays, hmirrors, hexposed⟩
  | own child life step =>
    obtain rfl := Option.some.inj (child.symm.trans hc)
    obtain ⟨c', hc', hmaker', more, w'', hmore, hmirrors', hexposed'⟩ :=
      meets_of_prepareStep hmirrors hexposed hc hmaker life step
    exact ⟨c', hc', hmaker', _, w'', hplays.append hmore, hmirrors', hexposed'⟩

end Machine

/-- **A process of a machine follows its list as a worker does.** Take the process of a stage that
the shell of any machine has made, and anything that happens there while the process does what is on
its list, as long as nobody else changes the process itself: there are answers that lead a worker
with the same descriptors and the same plan to where the process is. -/
theorem Launcher.exists_plays_of_undisturbed (l : Launcher) (wiring : Wiring) (stage : Stage)
    {rep : Repertoire σ} {m m' : Machine σ} {pid : Pid} {c : Process σ}
    (hc : m.children[pid]? = some c) (hmaker : c.maker = .shell)
    (hplan : c.life = .preparing (l.plan wiring stage))
    (h : Relation.ReflTransGen (Machine.Undisturbed rep pid) m m') :
    ∃ c' answers w', m'.children[pid]? = some c' ∧
      Plays Worker.Takes ⟨pid, c.table, .preparing (l.plan wiring stage)⟩ answers w' ∧
      w'.Mirrors c' := by
  have hexposed : Worker.IsExposed ⟨pid, c.table, .preparing (l.plan wiring stage)⟩ c := by
    rw [Launcher.plan]
    split
    · exact .inr (.inr (.inl ⟨0, rfl⟩))
    · exact .inr (.inl ⟨_, rfl⟩)
  have hmeets : m'.Meets pid ⟨pid, c.table, .preparing (l.plan wiring stage)⟩ := by
    induction h with
    | refl => exact ⟨c, hc, hmaker, [], _, .nil _, .prepares rfl hplan rfl, hexposed⟩
    | tail _ step ih => exact ih.next step
  obtain ⟨c', hc', -, answers, w', hplays, hmirrors, -⟩ := hmeets
  exact ⟨c', answers, w', hc', hplays, hmirrors⟩

end PipeShell
