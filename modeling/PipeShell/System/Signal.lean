/-!
# Signals

The signals that have a name, numbered from 1 to 31, and what a signal does to a process that
has not asked for anything else. Numbers above 31 are signals too, but have no name.
-/

namespace PipeShell

/-- A signal with a name; its number is one more than `index`. -/
structure Signal where
  /-- The position among the named signals. -/
  index : Fin 31
  deriving DecidableEq, Repr

namespace Signal

/-- The names in the order of the numbers, without their common beginning. -/
def names : Vector String 31 :=
  #v["HUP", "INT", "QUIT", "ILL", "TRAP", "ABRT", "BUS", "FPE", "KILL", "USR1", "SEGV", "USR2",
    "PIPE", "ALRM", "TERM", "STKFLT", "CHLD", "CONT", "STOP", "TSTP", "TTIN", "TTOU", "URG",
    "XCPU", "XFSZ", "VTALRM", "PROF", "WINCH", "IO", "PWR", "SYS"]

/-- The number of a signal. -/
def number (s : Signal) : Nat :=
  s.index + 1

/-- The name without its beginning. -/
def shortName (s : Signal) : String :=
  names[s.index]

/-- The name of a signal. -/
def name (s : Signal) : String :=
  "SIG" ++ s.shortName

/-- The signal with a number, if it has a name. -/
def ofNumber? : Nat → Option Signal
  | 0 => none
  | n + 1 => if h : n < 31 then some ⟨n, h⟩ else none

/-- The signal with a name, given without its beginning. -/
def ofShortName? (name : String) : Option Signal :=
  (List.finRange 31).findSome? fun i => if names[i] = name then some ⟨i⟩ else none

/-- Asks a program at the keyboard to stop. -/
def int : Signal := ⟨1⟩

/-- Asks a program at the keyboard to leave at once. -/
def quit : Signal := ⟨2⟩

/-- Ends a process that aborts itself. -/
def abrt : Signal := ⟨5⟩

/-- Ends a process in any case. -/
def kill : Signal := ⟨8⟩

/-- Tells of an access to memory that cannot be made. -/
def bus : Signal := ⟨6⟩

/-- Tells of an access to memory that is not allowed. -/
def segv : Signal := ⟨10⟩

/-- Ends a process that writes to a pipe without readers. -/
def pipe : Signal := ⟨12⟩

/-- Asks a program to stop. -/
def term : Signal := ⟨14⟩

/-- Tells that a process is over. -/
def chld : Signal := ⟨16⟩

/-- Lets a process that has been stopped go on. -/
def cont : Signal := ⟨17⟩

@[simp] theorem ofNumber?_number (s : Signal) : ofNumber? s.number = some s := by
  simp [ofNumber?, number, s.index.isLt]

end Signal

/-- What a signal does to a process that has not asked for anything else. -/
inductive SignalEffect where
  /-- The process ends. -/
  | ends
  /-- The process stops until it is continued. -/
  | stops
  /-- Nothing happens. -/
  | nothing
  deriving DecidableEq, Repr

/-- The effect of the signal with a number; zero is no signal. -/
def SignalEffect.ofNumber (n : Nat) : SignalEffect :=
  if n = 0 ∨ n = 17 ∨ n = 18 ∨ n = 23 ∨ n = 28 then .nothing
  else if 19 ≤ n ∧ n ≤ 22 then .stops
  else .ends

/-- How a process ended, as the kernel tells it. -/
inductive Ending where
  /-- The process left with a status. -/
  | exited (status : Nat)
  /-- A signal, given by its number, ended the process. -/
  | killed (signal : Nat)
  deriving DecidableEq, Repr

end PipeShell
