/-!
# Finite binary64 numbers

The finite non-negative numbers of the binary64 format, as exact values
`mantissa * 2 ^ exponent`, and the operations that round to them: a quotient of
natural numbers goes to the nearest such number, and a tie goes to the one with
an even mantissa.
-/

namespace ClusterWatch.Decimal

/-- The number `mantissa * 2 ^ exponent`.  The numbers made by `ofRatio` have the
mantissa in `2 ^ 52 ≤ mantissa < 2 ^ 53` or, below the smallest normal number, the
exponent `-1074`. -/
structure Binary64 where
  mantissa : Nat
  exponent : Int
  deriving DecidableEq, Repr

namespace Binary64

/-- The number zero. -/
def zero : Binary64 := ⟨0, 0⟩

/-- The numerator and the denominator of the value. -/
def toRatio (x : Binary64) : Nat × Nat :=
  (x.mantissa * Nat.pow 2 x.exponent.toNat, Nat.pow 2 (-x.exponent).toNat)

/-- The quotient rounded to a natural number, to even where two are equally near. -/
def roundQuotient (numerator denominator : Nat) : Nat :=
  let quotient := numerator / denominator
  let remainder := numerator % denominator
  if 2 * remainder < denominator then quotient
  else if 2 * remainder = denominator then quotient + quotient % 2
  else quotient + 1

/-- The exponent of the binary64 numbers around the value: the one that leaves
53 binary digits before the point, but at least `-1074`. -/
def exponentFor (numerator denominator : Nat) : Int :=
  let guess : Int := (numerator.log2 : Int) - denominator.log2 - 52
  let exact :=
    if numerator * Nat.pow 2 (-guess).toNat <
        Nat.pow 2 52 * (denominator * Nat.pow 2 guess.toNat) then
      guess - 1
    else guess
  max exact (-1074)

/-- The number nearest to `numerator / denominator`, or nothing when that is
beyond the largest finite one. -/
def ofRatio (numerator denominator : Nat) : Option Binary64 :=
  if numerator = 0 then some zero
  else
    let exponent := exponentFor numerator denominator
    let mantissa := roundQuotient (numerator * Nat.pow 2 (-exponent).toNat)
      (denominator * Nat.pow 2 exponent.toNat)
    let rounded : Binary64 :=
      if mantissa = Nat.pow 2 53 then ⟨Nat.pow 2 52, exponent + 1⟩ else ⟨mantissa, exponent⟩
    if rounded.mantissa = 0 then some zero
    else if rounded.exponent ≤ 971 then some rounded
    else none

/-- The number nearest to a natural number. -/
def ofNat (n : Nat) : Option Binary64 :=
  ofRatio n 1

/-- The product, rounded. -/
def mul (x y : Binary64) : Option Binary64 :=
  ofRatio (x.toRatio.1 * y.toRatio.1) (x.toRatio.2 * y.toRatio.2)

/-- The quotient by a number that is not zero, rounded. -/
def div (x y : Binary64) : Option Binary64 :=
  ofRatio (x.toRatio.1 * y.toRatio.2) (x.toRatio.2 * y.toRatio.1)

@[simp]
theorem ofRatio_zero (denominator : Nat) : ofRatio 0 denominator = some zero := by
  simp [ofRatio]

end Binary64

end ClusterWatch.Decimal
