/-!
# Base64

The standard alphabet with padding.  `decode?` is strict: the text is a whole
number of groups of four characters, padding stands only at its end, and the
bits that no byte uses are zero, so each byte sequence has one written form.
`decodeLoose?` also takes text without its padding, and any unused bits.
-/

namespace ClusterWatch.Text.Base64

/-- The character of a value below 64. -/
def digit (value : Nat) : Char :=
  if value < 26 then Char.ofNat ('A'.toNat + value)
  else if value < 52 then Char.ofNat ('a'.toNat + (value - 26))
  else if value < 62 then Char.ofNat ('0'.toNat + (value - 52))
  else if value = 62 then '+'
  else '/'

/-- The value of a character of the alphabet. -/
def value? (c : Char) : Option Nat :=
  if 'A' ≤ c ∧ c ≤ 'Z' then some (c.toNat - 'A'.toNat)
  else if 'a' ≤ c ∧ c ≤ 'z' then some (c.toNat - 'a'.toNat + 26)
  else if '0' ≤ c ∧ c ≤ '9' then some (c.toNat - '0'.toNat + 52)
  else if c = '+' then some 62
  else if c = '/' then some 63
  else none

/-- The written form of a byte sequence, three bytes at a time. -/
def encode : List UInt8 → List Char
  | [] => []
  | [a] => [digit (a.toNat / 4), digit (a.toNat % 4 * 16), '=', '=']
  | [a, b] =>
      [digit (a.toNat / 4), digit (a.toNat % 4 * 16 + b.toNat / 16),
        digit (b.toNat % 16 * 4), '=']
  | a :: b :: c :: rest =>
      digit (a.toNat / 4) :: digit (a.toNat % 4 * 16 + b.toNat / 16) ::
        digit (b.toNat % 16 * 4 + c.toNat / 64) :: digit (c.toNat % 64) :: encode rest

/-- The byte of which `high` holds the upper bits and `low` the others. -/
private def joined (high low : Nat) : UInt8 :=
  UInt8.ofNat (high + low)

/-- The byte sequence of a written form. -/
def decode? : List Char → Option (List UInt8)
  | [] => some []
  | [a, b, '=', '='] => do
      let x ← value? a
      let y ← value? b
      if y % 16 = 0 then some [joined (x * 4) (y / 16)] else none
  | [a, b, c, '='] => do
      let x ← value? a
      let y ← value? b
      let z ← value? c
      if z % 4 = 0 then
        some [joined (x * 4) (y / 16), joined (y % 16 * 16) (z / 4)]
      else none
  | a :: b :: c :: d :: rest => do
      let x ← value? a
      let y ← value? b
      let z ← value? c
      let w ← value? d
      let bytes ← decode? rest
      some (joined (x * 4) (y / 16) :: joined (y % 16 * 16) (z / 4) ::
        joined (z % 4 * 64) w :: bytes)
  | _ => none

/-- The bytes of the values of characters, of which the bits that fill no byte do
not count.  One character after a whole number of groups has too few of them. -/
def bytesOf? : List Nat → Option (List UInt8)
  | [] => some []
  | [_] => none
  | [x, y] => some [joined (x * 4) (y / 16)]
  | [x, y, z] => some [joined (x * 4) (y / 16), joined (y % 16 * 16) (z / 4)]
  | x :: y :: z :: w :: rest =>
      (bytesOf? rest).map fun bytes =>
        joined (x * 4) (y / 16) :: joined (y % 16 * 16) (z / 4) :: joined (z % 4 * 64) w :: bytes

/-- The byte sequence of a text that may lack its padding; padding that is there
fills the last group. -/
def decodeLoose? (text : List Char) : Option (List UInt8) :=
  let digits := text.takeWhile (· ≠ '=')
  let padding := text.drop digits.length
  if padding.all (· = '=') ∧
      (padding = [] ∨ padding.length ≤ 2 ∧ (digits.length + padding.length) % 4 = 0) then
    (digits.mapM value?).bind bytesOf?
  else none

@[simp]
theorem encode_nil : encode [] = [] :=
  rfl

@[simp]
theorem decode?_nil : decode? [] = some [] :=
  rfl

theorem value?_digit {value : Nat} (small : value < 64) : value? (digit value) = some value := by
  have all : ∀ value : Fin 64, value? (digit value) = some value.val := by decide
  exact all ⟨value, small⟩

theorem digit_ne_padding {value : Nat} (small : value < 64) : digit value ≠ '=' := by
  intro padding
  have none : value? '=' = none := by decide
  rw [← padding, value?_digit small] at none
  cases none

private theorem joined_eq {high low : Nat} (byte : UInt8) (sum : high + low = byte.toNat) :
    joined high low = byte := by
  rw [joined, sum]
  exact UInt8.ofNat_toNat

/-- The written form of a byte sequence is read as that sequence. -/
theorem decode?_encode (bytes : List UInt8) : decode? (encode bytes) = some bytes := by
  induction bytes using encode.induct with
  | case1 => rfl
  | case2 a =>
      have bound := a.toNat_lt
      have first : value? (digit (a.toNat / 4)) = some (a.toNat / 4) := value?_digit (by omega)
      have second : value? (digit (a.toNat % 4 * 16)) = some (a.toNat % 4 * 16) :=
        value?_digit (by omega)
      simp only [encode, decode?, first, second, Option.bind_eq_bind, Option.bind_some,
        Nat.mul_mod_left, if_true]
      rw [joined_eq a (by omega)]
  | case3 a b =>
      have bound := a.toNat_lt
      have bound' := b.toNat_lt
      have first : value? (digit (a.toNat / 4)) = some (a.toNat / 4) := value?_digit (by omega)
      have second : value? (digit (a.toNat % 4 * 16 + b.toNat / 16)) =
          some (a.toNat % 4 * 16 + b.toNat / 16) := value?_digit (by omega)
      have third : value? (digit (b.toNat % 16 * 4)) = some (b.toNat % 16 * 4) :=
        value?_digit (by omega)
      have solid : digit (b.toNat % 16 * 4) ≠ '=' := digit_ne_padding (by omega)
      have unused : b.toNat % 16 * 4 % 4 = 0 := by omega
      simp only [encode, decode?, first, second, third, unused, Option.bind_eq_bind,
        Option.bind_some, if_true]
      rw [joined_eq a (by omega), joined_eq b (by omega)]
  | case4 a b c rest ih =>
      have bound := a.toNat_lt
      have bound' := b.toNat_lt
      have bound'' := c.toNat_lt
      have first : value? (digit (a.toNat / 4)) = some (a.toNat / 4) := value?_digit (by omega)
      have second : value? (digit (a.toNat % 4 * 16 + b.toNat / 16)) =
          some (a.toNat % 4 * 16 + b.toNat / 16) := value?_digit (by omega)
      have third : value? (digit (b.toNat % 16 * 4 + c.toNat / 64)) =
          some (b.toNat % 16 * 4 + c.toNat / 64) := value?_digit (by omega)
      have fourth : value? (digit (c.toNat % 64)) = some (c.toNat % 64) := value?_digit (by omega)
      have solid : digit (c.toNat % 64) ≠ '=' := digit_ne_padding (by omega)
      simp only [encode, decode?, first, second, third, fourth, solid, ih, Option.bind_eq_bind,
        Option.bind_some, false_implies, implies_true]
      rw [joined_eq a (by omega), joined_eq b (by omega), joined_eq c (by omega)]

end ClusterWatch.Text.Base64
