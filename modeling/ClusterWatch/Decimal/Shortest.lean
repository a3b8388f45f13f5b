import ClusterWatch.Decimal.Binary64
import ClusterWatch.Text.Split

/-!
# Shortest decimal text

A binary64 number is written with the fewest decimal digits from which it is
read back, and with those nearest to it where several have that length.
-/

namespace ClusterWatch.Decimal

/-- The decimal `digits * 10 ^ exponent`. -/
structure Numeral where
  digits : Nat
  exponent : Int
  deriving DecidableEq, Repr

namespace Numeral

/-- The numerator and the denominator of the value. -/
def toRatio (d : Numeral) : Nat × Nat :=
  (d.digits * Nat.pow 10 d.exponent.toNat, Nat.pow 10 (-d.exponent).toNat)

/-- The binary64 number nearest to the decimal. -/
def toBinary64 (d : Numeral) : Option Binary64 :=
  Binary64.ofRatio d.toRatio.1 d.toRatio.2

end Numeral

/-- The exponent `p` with `10 ^ p ≤ numerator / denominator < 10 ^ (p + 1)`, for a
positive quotient, found by steps upwards from a lower bound. -/
def decimalExponent (numerator denominator : Nat) : Int :=
  let below : Int := ((numerator.log2 : Int) - denominator.log2 - 1) * 30103 / 100000 - 1
  go 4 below
where
  /-- Steps upwards while the next power of ten is not above the quotient. -/
  go : Nat → Int → Int
    | 0, p => p
    | steps + 1, p =>
        if denominator * Nat.pow 10 (p + 1).toNat ≤ numerator * Nat.pow 10 (-(p + 1)).toNat then
          go steps (p + 1)
        else p

/-- Of the two decimals with `count` digits around the number, the one that is
read back as the number; the nearer one if both are, and the one that ends in an
even digit if they are equally near. -/
def decimalOfLength? (x : Binary64) (leading : Int) (count : Nat) : Option Numeral :=
  let exponent := leading + 1 - count
  let numerator := x.toRatio.1 * Nat.pow 10 (-exponent).toNat
  let denominator := x.toRatio.2 * Nat.pow 10 exponent.toNat
  let lower : Numeral := ⟨numerator / denominator, exponent⟩
  let upper : Numeral := ⟨numerator / denominator + 1, exponent⟩
  let nearest : Numeral := ⟨Binary64.roundQuotient numerator denominator, exponent⟩
  if nearest.toBinary64 = some x then some nearest
  else if lower.toBinary64 = some x then some lower
  else if upper.toBinary64 = some x then some upper
  else none

/-- The shortest decimal that is read back as the number, for a number that is
not zero.  Seventeen digits always suffice. -/
def shortest (x : Binary64) : Numeral :=
  let leading := decimalExponent x.toRatio.1 x.toRatio.2
  ((List.range 17).findSome? fun n => decimalOfLength? x leading (n + 1)).getD ⟨0, 0⟩

/-- How a decimal is laid out: it is written in place for the exponents of its
first digit between two limits, and otherwise with an exponent. -/
structure Layout where
  lowestInPlace : Int
  highestInPlace : Int

/-- A fraction without trailing zeros, and `0` if nothing is left. -/
private def fraction (digits : List Char) : List Char :=
  match Text.dropTrailing (· = '0') digits with
  | [] => ['0']
  | c :: rest => c :: rest

/-- The digits with a point after the first digit, the letter `e`, a sign and the
exponent. -/
private def scientific (digits : List Char) (exponent : Int) : List Char :=
  let mantissa :=
    match digits with
    | [] => []
    | [c] => [c]
    | c :: rest => c :: '.' :: rest
  let sign := if exponent < 0 then '-' else '+'
  mantissa ++ ['e', sign] ++ Nat.toDigits 10 exponent.natAbs

/-- The text of the decimal whose digits are `digits` and whose first digit has
the place value `10 ^ leading`.  In place it always has a point and a digit after
it. -/
def layOut (layout : Layout) (digits : List Char) (leading : Int) : List Char :=
  if layout.lowestInPlace ≤ leading ∧ leading ≤ layout.highestInPlace then
    if leading < 0 then
      ['0', '.'] ++ List.replicate (-leading - 1).toNat '0' ++ digits
    else
      let whole := leading.toNat + 1
      digits.take whole ++ List.replicate (whole - digits.length) '0' ++
        ['.'] ++ fraction (digits.drop whole)
  else
    scientific digits leading

/-- The text of a number, without trailing zeros in its digits. -/
def Binary64.toChars (layout : Layout) (x : Binary64) : List Char :=
  if x.mantissa = 0 then ['0', '.', '0']
  else
    let digits := Text.dropTrailing (· = '0') (Nat.toDigits 10 (shortest x).digits)
    layOut layout digits (decimalExponent (shortest x).toRatio.1 (shortest x).toRatio.2)

end ClusterWatch.Decimal
