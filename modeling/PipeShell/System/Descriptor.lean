/-!
# Descriptor tables

A process refers to open files by descriptors, small numbers that its table maps to entries. An
entry names an open file of the machine and says whether it is closed when the process starts a
program.

* `DescriptorTable.get?` is the view: which entry a number has, if it is open.
* `insert`, `erase` and `afterExec` change the table; `lowestFree` is where a new entry goes.
-/

namespace PipeShell

/-- The number of a descriptor. Negative numbers are never open. -/
abbrev Fd := Int

/-- The standard input stream. -/
def Fd.stdin : Fd := 0

/-- The standard output stream. -/
def Fd.stdout : Fd := 1

/-- The error stream. -/
def Fd.stderr : Fd := 2

/-- What a descriptor refers to. -/
structure Entry where
  /-- The open file, by its number in the machine. -/
  file : Nat
  /-- Whether the descriptor is closed when a program starts. -/
  closeOnExec : Bool
  deriving DecidableEq, Repr

/-- The descriptors of a process. -/
structure DescriptorTable where
  /-- The entries by number. -/
  slots : Array (Option Entry) := #[]
  deriving Repr

namespace DescriptorTable

/-- The entry of a descriptor, if it is open. -/
def get? (t : DescriptorTable) : Fd → Option Entry
  | .ofNat n => t.slots[n]?.join
  | .negSucc _ => none

/-- Makes room for the number `n`. -/
def widen (t : DescriptorTable) (n : Nat) : Array (Option Entry) :=
  t.slots ++ Array.replicate (n + 1 - t.slots.size) none

/-- Gives a number an entry, instead of the one that it had. -/
def insert (t : DescriptorTable) (n : Nat) (e : Entry) : DescriptorTable :=
  ⟨(t.widen n).setIfInBounds n (some e)⟩

/-- Closes a descriptor. Nothing changes if it is not open. -/
def erase (t : DescriptorTable) : Fd → DescriptorTable
  | .ofNat n => ⟨t.slots.setIfInBounds n none⟩
  | .negSucc _ => t

/-- The least number that is not open. -/
def lowestFree (t : DescriptorTable) : Nat :=
  (t.slots.findIdx? Option.isNone).getD t.slots.size

/-- The least number from `least` on that is not open. -/
def freeFrom (t : DescriptorTable) (least : Nat) : Nat :=
  least + ((t.slots.extract least t.slots.size).findIdx? Option.isNone).getD (t.slots.size - least)

/-- The table of a program that has just been started: entries that ask for it are closed. -/
def afterExec (t : DescriptorTable) : DescriptorTable :=
  ⟨t.slots.map fun slot => slot.filter fun e => !e.closeOnExec⟩

/-- The open descriptors, ascending. -/
def opened (t : DescriptorTable) : List Nat :=
  (List.range t.slots.size).filter fun n => (t.slots[n]?.join).isSome

/-- Whether a descriptor refers to a file with a property. -/
def anyFile (t : DescriptorTable) (p : Nat → Bool) : Bool :=
  t.slots.any fun
    | some e => p e.file
    | none => false

/-- A table whose descriptors from zero on have the given entries. -/
def ofList (entries : List Entry) : DescriptorTable :=
  ⟨(entries.map some).toArray⟩

theorem get?_insert (t : DescriptorTable) (n : Nat) (e : Entry) (fd : Fd) :
    (t.insert n e).get? fd = if fd = (n : Int) then some e else t.get? fd := by
  cases fd with
  | negSucc m => simp [get?]
  | ofNat m =>
    simp only [insert, widen, get?, Int.ofNat_eq_natCast, Int.natCast_inj]
    by_cases h : m = n
    · subst h
      have : m < t.slots.size + (m + 1 - t.slots.size) := by omega
      simp [this]
    · simp only [h, if_false]
      rw [Array.getElem?_setIfInBounds]
      simp only [show ¬ n = m from fun e => h e.symm, if_false]
      rw [Array.getElem?_append]
      split
      · rfl
      · rename_i hm
        have hnone : t.slots[m]? = none := Array.getElem?_eq_none (by omega)
        rw [hnone, Array.getElem?_replicate]
        split <;> rfl

theorem get?_erase (t : DescriptorTable) (fd fd' : Fd) :
    (t.erase fd).get? fd' = if fd' = fd then none else t.get? fd' := by
  cases fd with
  | negSucc m => cases fd' <;> simp [get?, erase]
  | ofNat m =>
    cases fd' with
    | negSucc k => simp [get?]
    | ofNat k =>
      simp only [get?, erase, Int.ofNat_eq_natCast, Int.natCast_inj]
      rw [Array.getElem?_setIfInBounds]
      by_cases h : k = m
      · subst h
        by_cases hk : k < t.slots.size <;> simp [hk]
      · simp [h, show ¬ m = k from fun e => h e.symm]

theorem get?_afterExec (t : DescriptorTable) (fd : Fd) :
    t.afterExec.get? fd = (t.get? fd).filter fun e => !e.closeOnExec := by
  cases fd with
  | negSucc m => rfl
  | ofNat m =>
    simp only [afterExec, get?, Array.getElem?_map]
    cases t.slots[m]? <;> rfl

/-- The least free number is not open. -/
theorem get?_lowestFree (t : DescriptorTable) : t.get? t.lowestFree = none := by
  have key : t.slots[t.lowestFree]?.join = none := by
    unfold lowestFree
    cases h : t.slots.findIdx? Option.isNone with
    | none => simp
    | some i =>
      obtain ⟨hi, hnone, -⟩ := Array.findIdx?_eq_some_iff_getElem.1 h
      simp [Array.getElem?_eq_getElem hi, Option.isNone_iff_eq_none.1 hnone]
  exact key

end DescriptorTable

end PipeShell
