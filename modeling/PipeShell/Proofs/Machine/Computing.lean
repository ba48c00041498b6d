import PipeShell.Machine.Program

/-!
# Programs that compute a function

A program that reads its standard input to the end, writes the value of a function at what it has
read, and leaves with status zero. It may read and write in pieces of any size and in any order,
and it has no say in the size of the pieces that it gets.

* `Repertoire.Runs` says what a program may have come to, with what it has read and written.
* `Repertoire.Computes` is the property above.
* `gathering` is a repertoire with such a program for every function, `computes_gathering` says so.
-/

namespace PipeShell

variable {σ : Type}

/-- What the functions `f 0`, `f 1`, … make of the input, `count` of them one after another. -/
def through (f : Nat → Bytes → Bytes) : Nat → Bytes → Bytes
  | 0, input => input
  | count + 1, input => f count (through f count input)

namespace Repertoire

/-- **What a program may have come to** that was started as `start`: what it has read, what it has
written, and whether it has been told that there is nothing left to read. -/
inductive Runs (rep : Repertoire σ) (start : σ) : σ → Bytes → Bytes → Bool → Prop where
  | start : Runs rep start start [] [] false
  | read {program taken given drained size} (data : Bytes)
    (before : Runs rep start program taken given drained)
    (act : rep.act program = .read Fd.stdin size) (fits : data.length ≤ size)
    (nothing : drained = true → data = []) :
    Runs rep start (rep.resume program (.data data)) (taken ++ data) given
      (drained || (data.isEmpty && decide (0 < size)))
  | write {program taken given drained bytes} (count : Nat)
    (before : Runs rep start program taken given drained)
    (act : rep.act program = .write Fd.stdout bytes) (fits : count ≤ bytes.length)
    (progress : bytes ≠ [] → 0 < count) :
    Runs rep start (rep.resume program (.written count)) taken (given ++ bytes.take count) drained

/-- **A program computes a function**: whenever it leaves, it has read everything, has written the
value of the function at what it has read, and leaves with status zero. -/
def Computes (rep : Repertoire σ) (f : Bytes → Bytes) (start : σ) : Prop :=
  ∀ program taken given drained status, rep.Runs start program taken given drained →
    rep.act program = .exit status → drained = true ∧ given = f taken ∧ status % 256 = 0

end Repertoire

/-! ### A program for every function -/

/-- A program that reads everything before it writes. -/
inductive Gathering where
  /-- Reading, with the name and the arguments of the program and what has been read. -/
  | reads (argv : List Bytes) (held : Bytes)
  /-- Writing, with what is left to be written. -/
  | writes (left : Bytes)

/-- Programs that compute `f`, which may look at the name and the arguments. They read four octets
at a time. -/
def gathering (f : List Bytes → Bytes → Bytes) : Repertoire Gathering where
  load _ _ argv := .ok (.reads argv [])
  act
    | .reads _ _ => .read Fd.stdin 4
    | .writes [] => .exit 0
    | .writes left => .write Fd.stdout left
  resume
    | .reads argv held, .data [] => .writes (f argv held)
    | .reads argv held, .data bytes => .reads argv (held ++ bytes)
    | .writes left, .written count => .writes (left.drop count)
    | program, _ => program

section Gathering

variable {f : List Bytes → Bytes → Bytes} {argv : List Bytes}

/-- What a gathering program has come to: it has written nothing until it has been told that there
is nothing left, and what is left to be written then completes the value of the function. -/
private theorem gathering_runs {program : Gathering} {taken given : Bytes} {drained : Bool}
    (h : (gathering f).Runs (.reads argv []) program taken given drained) :
    (program = .reads argv taken ∧ given = [] ∧ drained = false) ∨
      ∃ left, program = .writes left ∧ given ++ left = f argv taken ∧ drained = true := by
  induction h with
  | start => exact .inl ⟨rfl, rfl, rfl⟩
  | @read program taken given drained size data before act fits nothing ih =>
    obtain ⟨rfl, rfl, rfl⟩ | ⟨left, rfl, -, -⟩ := ih
    · cases act
      cases data with
      | nil => exact .inr ⟨_, rfl, by simp, rfl⟩
      | cons byte rest => exact .inl ⟨rfl, rfl, rfl⟩
    · cases left <;> cases act
  | @write program taken given drained bytes count before act fits progress ih =>
    obtain ⟨rfl, rfl, rfl⟩ | ⟨left, rfl, hleft, rfl⟩ := ih
    · cases act
    · cases left with
      | nil => cases act
      | cons byte rest =>
        cases act
        refine .inr ⟨_, rfl, ?_, rfl⟩
        rw [List.append_assoc, List.take_append_drop, hleft]

/-- **There is a program for every function.** -/
theorem computes_gathering (f : List Bytes → Bytes → Bytes) (argv : List Bytes) :
    (gathering f).Computes (f argv) (.reads argv []) := by
  intro program taken given drained status hruns hact
  obtain ⟨rfl, -, -⟩ | ⟨left, rfl, hleft, hdrained⟩ := gathering_runs hruns
  · cases hact
  · cases left with
    | nil =>
      cases hact
      exact ⟨hdrained, by rwa [List.append_nil] at hleft, rfl⟩
    | cons byte rest => cases hact

end Gathering

end PipeShell
