import ClusterWatch.Text.Digits

/-!
# Numbers in settings

A number in a setting is written in decimal digits after an optional plus sign,
and has to fit in 64 bits.
-/

namespace ClusterWatch.Operator

/-- Why a text is no number. -/
inductive NumberFailure where
  /-- It is empty. -/
  | empty
  /-- Some character is no digit. -/
  | invalidDigit
  /-- The number needs more than 64 bits. -/
  | tooLarge
  deriving DecidableEq, Repr

namespace Number

/-- The numbers that fit are below this one. -/
def limit : Nat := Nat.pow 2 64

/-- Reads digits after those that form `n`.  The first problem counts. -/
def readDigits (n : Nat) : List Char → Except NumberFailure Nat
  | [] => .ok n
  | c :: rest =>
      if c.isDigit then
        let n := n * 10 + Text.digitValue c
        if n < limit then readDigits n rest else .error .tooLarge
      else .error .invalidDigit

/-- Reads a number.  A sign alone is no digit. -/
def read : List Char → Except NumberFailure Nat
  | [] => .error .empty
  | [c] => if c = '+' ∨ c = '-' then .error .invalidDigit else readDigits 0 [c]
  | c :: rest => if c = '+' then readDigits 0 rest else readDigits 0 (c :: rest)

end Number

end ClusterWatch.Operator
