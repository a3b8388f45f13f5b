import ClusterWatch.Text.Digits
import Mathlib.Data.List.Basic

/-!
# Runs of digits

What a reader of digits makes of those that a number is written with, and that different numbers
have different digits.
-/

namespace ClusterWatch.Text

/-- The digits in front of other text are all that a reader takes. -/
theorem takeWhile_isDigit_append {digits rest : List Char}
    (all : ∀ c ∈ digits, c.isDigit = true) (ends : ∀ c ∈ rest.head?, c.isDigit = false) :
    (digits ++ rest).takeWhile Char.isDigit = digits := by
  rw [List.takeWhile_append_of_pos all]
  cases rest with
  | nil => simp
  | cons c rest => simp [ends c rfl]

theorem dropWhile_isDigit_append {digits rest : List Char}
    (all : ∀ c ∈ digits, c.isDigit = true) (ends : ∀ c ∈ rest.head?, c.isDigit = false) :
    (digits ++ rest).dropWhile Char.isDigit = rest := by
  rw [List.dropWhile_append_of_pos all]
  cases rest with
  | nil => rfl
  | cons c rest => simp [ends c rfl]

/-- A number other than zero has no zero in front. -/
theorem head?_toDigits_ne_zero {n : Nat} (pos : n ≠ 0) :
    (Nat.toDigits 10 n).head? ≠ some '0' := by
  induction n using Nat.strongRecOn with
  | ind n ih =>
      rw [Nat.toDigits_eq_if (by decide)]
      split
      · simpa using pos
      · next large =>
          have front : n / 10 ≠ 0 := by omega
          rw [List.head?_append_of_ne_nil _ Nat.toDigits_ne_nil]
          exact ih (n / 10) (by omega) front

/-- More digits make no smaller number. -/
theorem le_foldl_digits (digits : List Char) (n : Nat) :
    n ≤ digits.foldl (fun value c => value * 10 + digitValue c) n := by
  induction digits generalizing n with
  | nil => exact Nat.le_refl _
  | cons c digits ih => exact Nat.le_trans (by omega) (ih (n * 10 + digitValue c))

/-- Zeros in front do not count. -/
@[simp]
theorem ofDigits_replicate_append (k : Nat) (digits : List Char) :
    ofDigits (List.replicate k '0' ++ digits) = ofDigits digits := by
  induction k with
  | zero => rfl
  | succ k ih =>
      rw [List.replicate_succ, List.cons_append, ← ih]
      rfl

theorem digitChar_inj {m n : Nat} (small : m < 16) (small' : n < 16)
    (same : m.digitChar = n.digitChar) : m = n := by
  have all : ∀ i j : Fin 16, i.val.digitChar = j.val.digitChar → i = j := by decide
  exact congrArg Fin.val (all ⟨m, small⟩ ⟨n, small'⟩ same)

/-- Numbers with the same digits are the same. -/
theorem toDigits_inj {base m n : Nat} (large : 1 < base) (few : base ≤ 16)
    (same : Nat.toDigits base m = Nat.toDigits base n) : m = n := by
  have positive : 0 < base := Nat.lt_of_succ_lt large
  induction m using Nat.strongRecOn generalizing n with
  | ind m ih =>
      rw [Nat.toDigits_eq_if large, Nat.toDigits_eq_if (n := n) large] at same
      split at same <;> split at same
      · next small small' =>
          exact digitChar_inj (by omega) (by omega) (List.singleton_inj.mp same)
      · exact absurd (List.append_eq_singleton_iff.mp same.symm) (by simp [Nat.toDigits_ne_nil])
      · exact absurd (List.append_eq_singleton_iff.mp same) (by simp [Nat.toDigits_ne_nil])
      · next long _ =>
          obtain ⟨front, last⟩ := List.append_inj' same rfl
          have quotients : m / base = n / base :=
            ih (m / base) (Nat.div_lt_self (by omega) large) front
          have remainders : m % base = n % base :=
            digitChar_inj (Nat.lt_of_lt_of_le (Nat.mod_lt m positive) few)
              (Nat.lt_of_lt_of_le (Nat.mod_lt n positive) few) (List.singleton_inj.mp last)
          rw [← Nat.div_add_mod m base, quotients, remainders, Nat.div_add_mod]

end ClusterWatch.Text
