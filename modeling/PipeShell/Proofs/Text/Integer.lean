import Mathlib.Tactic.NormNum
import PipeShell.Text.Integer

/-!
# Which texts are integers

`Denotes` says what an integer looks like: digits, with or without one sign before them. The reader
of numbers of 32 bits goes from left to right and gives up as soon as a number leaves the range;
`readInt32_eq_ok_iff` says that it nevertheless accepts exactly the texts that denote a number of
the range.
-/

namespace PipeShell.Text

/-- The number that a row of digits stands for, behind the digits of another number. -/
def valueFrom (value : Nat) (digits : List Char) : Nat :=
  digits.foldl (fun n c => 10 * n + (c.toNat - '0'.toNat)) value

/-- What an integer looks like, and which one it is: digits, with or without one sign. -/
inductive Denotes : List Char → Int → Prop where
  | unsigned {digits : List Char} (ne : digits ≠ []) (all : ∀ c ∈ digits, c.isDigit = true) :
    Denotes digits (valueFrom 0 digits)
  | plus {digits : List Char} (ne : digits ≠ []) (all : ∀ c ∈ digits, c.isDigit = true) :
    Denotes ('+' :: digits) (valueFrom 0 digits)
  | minus {digits : List Char} (ne : digits ≠ []) (all : ∀ c ∈ digits, c.isDigit = true) :
    Denotes ('-' :: digits) (-(valueFrom 0 digits : Int))

/-- Whether a text denotes a number of 32 bits. -/
def IsInt32 (text : List Char) : Prop :=
  ∃ n, Denotes text n ∧ -2147483648 ≤ n ∧ n ≤ 2147483647

theorem le_valueFrom (value : Nat) (digits : List Char) : value ≤ valueFrom value digits := by
  induction digits generalizing value with
  | nil => exact Nat.le_refl value
  | cons c rest ih =>
    have h := ih (10 * value + (c.toNat - '0'.toNat))
    exact Nat.le_trans (by omega) h

theorem digitValue?_of_isDigit {c : Char} (h : c.isDigit = true) :
    digitValue? c = some (c.toNat - '0'.toNat) := by
  have hrange : '0' ≤ c ∧ c ≤ '9' := by simpa [Char.isDigit, Char.le_def] using h
  rw [digitValue?, if_pos hrange]

theorem digitValue?_of_not_isDigit {c : Char} (h : c.isDigit = false) : digitValue? c = none := by
  have hrange : ¬('0' ≤ c ∧ c ≤ '9') := by
    rintro hrange
    have hdigit : c.isDigit = true := by simpa [Char.isDigit, Char.le_def] using hrange
    simp [h] at hdigit
  rw [digitValue?, if_neg hrange]

/-- Digits are read exactly if the number that they end in does not pass the bound. -/
theorem readDigits_eq_ok_iff {bound value n : Nat} {beyond : IntegerFault} (hvalue : value ≤ bound)
    (digits : List Char) : readDigits bound beyond value digits = .ok n ↔
      (∀ c ∈ digits, c.isDigit = true) ∧ valueFrom value digits = n ∧ n ≤ bound := by
  induction digits generalizing value with
  | nil => simp only [readDigits, valueFrom]; grind
  | cons c rest ih =>
    rw [readDigits]
    by_cases hc : c.isDigit = true
    · rw [digitValue?_of_isDigit hc]
      have hle := le_valueFrom (10 * value + (c.toNat - '0'.toNat)) rest
      by_cases hbound : 10 * value + (c.toNat - '0'.toNat) ≤ bound
      · simp only [hbound, if_true, ih hbound, List.forall_mem_cons, hc, true_and]
        rfl
      · simp only [hbound, if_false]
        constructor
        · rintro ⟨⟩
        · rintro ⟨-, hn, hle'⟩
          refine absurd (hle.trans ?_) hbound
          exact hn ▸ hle'
    · have hnone := digitValue?_of_not_isDigit (Bool.not_eq_true _ ▸ hc)
      simp [hnone, hc]

theorem readSomeDigits_eq_ok_iff (bound : Nat) (beyond : IntegerFault) {n : Nat}
    {digits : List Char} :
    readSomeDigits bound beyond digits = .ok n ↔
      digits ≠ [] ∧ (∀ c ∈ digits, c.isDigit = true) ∧ valueFrom 0 digits = n ∧ n ≤ bound := by
  rcases digits with _ | ⟨c, rest⟩
  · simp [readSomeDigits]
  · rw [readSomeDigits, readDigits_eq_ok_iff (Nat.zero_le bound)]
    · simp
    · simp

theorem map_eq_ok_iff {ε α β : Type} {x : Except ε α} {f : α → β} {b : β} :
    x.map f = .ok b ↔ ∃ a, x = .ok a ∧ f a = b := by
  rcases x with e | a <;> simp [Except.map]

/-- **The reader of numbers of 32 bits accepts exactly those numbers**, and gives the number that
the text denotes. -/
theorem readInt32_eq_ok_iff {text : List Char} {n : Int} :
    readInt32 text = .ok n ↔ Denotes text n ∧ -2147483648 ≤ n ∧ n ≤ 2147483647 := by
  have hmax : Nat.pow 2 31 - 1 = 2147483647 := rfl
  have hmin : Nat.pow 2 31 = 2147483648 := rfl
  constructor
  · intro h
    rw [readInt32.eq_def] at h
    split at h
    · cases h
    · obtain ⟨m, hm, rfl⟩ := map_eq_ok_iff.mp h
      obtain ⟨hne, hall, rfl, hle⟩ := (readSomeDigits_eq_ok_iff _ _).mp hm
      exact ⟨.plus hne hall, by simp; omega⟩
    · rename_i digits
      rcases hm : readSomeDigits (Nat.pow 2 31) .tooSmall digits with e | m
      · rw [hm] at h
        cases h
      · rw [hm] at h
        obtain ⟨hne, hall, rfl, hle⟩ := (readSomeDigits_eq_ok_iff _ _).mp hm
        cases h
        exact ⟨.minus hne hall, by dsimp only; omega⟩
    · rename_i hne _ _
      obtain ⟨m, hm, rfl⟩ := map_eq_ok_iff.mp h
      obtain ⟨hall, rfl, hle⟩ := (readDigits_eq_ok_iff (Nat.zero_le _) _).mp hm
      exact ⟨.unsigned hne hall, by simp; omega⟩
  · rintro ⟨hdenotes, hlow, hhigh⟩
    cases hdenotes with
    | unsigned hne hall =>
      obtain ⟨c, rest, rfl⟩ := List.exists_cons_of_ne_nil hne
      have hread : readDigits (Nat.pow 2 31 - 1) .tooLarge 0 (c :: rest) =
          .ok (valueFrom 0 (c :: rest)) :=
        (readDigits_eq_ok_iff (Nat.zero_le _) (c :: rest)).mpr ⟨hall, rfl, by omega⟩
      -- a digit is no sign
      have hplus : c ≠ '+' := by
        rintro rfl
        exact absurd (hall '+' List.mem_cons_self) (by decide)
      have hminus : c ≠ '-' := by
        rintro rfl
        exact absurd (hall '-' List.mem_cons_self) (by decide)
      rw [readInt32, hread]
      · rfl
      · exact List.cons_ne_nil c rest
      · simpa using hplus
      · simpa using hminus
    | plus hne hall =>
      have hread := (readSomeDigits_eq_ok_iff (Nat.pow 2 31 - 1) .tooLarge).mpr
        ⟨hne, hall, rfl, by omega⟩
      rw [readInt32, hread]
      rfl
    | minus hne hall =>
      have hread := (readSomeDigits_eq_ok_iff (Nat.pow 2 31) .tooSmall).mpr
        ⟨hne, hall, rfl, by omega⟩
      rw [readInt32, hread]
      rfl

end PipeShell.Text
