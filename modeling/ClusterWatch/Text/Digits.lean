/-!
# Digits

Numbers as runs of digits.
-/

namespace ClusterWatch.Text

/-- The value of a decimal digit. -/
def digitValue (c : Char) : Nat :=
  c.toNat - '0'.toNat

/-- The value of decimal digits, the most significant first. -/
def ofDigits (digits : List Char) : Nat :=
  digits.foldl (fun value c => value * 10 + digitValue c) 0

/-- The value of a hexadecimal digit in either case. -/
def hexValue? (c : Char) : Option Nat :=
  if c.isDigit then some (digitValue c)
  else if 'a' ≤ c ∧ c ≤ 'f' then some (c.toNat - 'a'.toNat + 10)
  else if 'A' ≤ c ∧ c ≤ 'F' then some (c.toNat - 'A'.toNat + 10)
  else none

/-- The decimal digits of a number, without leading zeros. -/
def decimal (n : Nat) : String :=
  String.ofList (Nat.toDigits 10 n)

theorem ofDigits_append (digits : List Char) (c : Char) :
    ofDigits (digits ++ [c]) = ofDigits digits * 10 + digitValue c := by
  simp [ofDigits]

theorem digitValue_digitChar {n : Nat} (small : n < 10) : digitValue n.digitChar = n := by
  match n, small with
  | 0, _ | 1, _ | 2, _ | 3, _ | 4, _ | 5, _ | 6, _ | 7, _ | 8, _ | 9, _ => rfl
  | n + 10, small => omega

/-- Digits have the value of the number that they are written for. -/
@[simp]
theorem ofDigits_toDigits (n : Nat) : ofDigits (Nat.toDigits 10 n) = n := by
  induction n using Nat.strongRecOn with
  | ind n inductionHypothesis =>
      by_cases small : n < 10
      · rw [Nat.toDigits_of_lt_base small]
        simp [ofDigits, digitValue_digitChar small]
      · have split : n = 10 * (n / 10) + n % 10 := by omega
        have digits : Nat.toDigits 10 n = Nat.toDigits 10 (n / 10) ++ [(n % 10).digitChar] := by
          conv => lhs; rw [split]
          rw [← Nat.toDigits_append_toDigits (by decide) (by omega) (by omega),
            Nat.toDigits_of_lt_base (Nat.mod_lt n (by decide))]
        rw [digits, ofDigits_append, inductionHypothesis (n / 10) (by omega),
          digitValue_digitChar (by omega)]
        omega

end ClusterWatch.Text
