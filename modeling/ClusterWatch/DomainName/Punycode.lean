import ClusterWatch.Text.Digits
import ClusterWatch.Text.Split

/-!
# Punycode

Text in ASCII that stands for other text: the ASCII characters of the latter come
first, and after a hyphen follow numbers that say where the others are inserted.
A number is written in digits to the base 36, the least significant first; each
digit has a threshold, and one that lies below it is the last.
-/

namespace ClusterWatch.DomainName.Punycode

/-- The value of a digit: a letter or, from 26 on, a decimal digit. -/
def digit? (c : Char) : Option Nat :=
  if c.isDigit then some (Text.digitValue c + 26)
  else if c.isLower then some (c.toNat - 'a'.toNat)
  else none

/-- Below this digit a number ends; `place` is 36 for the first digit, 72 for the
second, and so on. -/
def threshold (bias place : Nat) : Nat :=
  min 26 (max 1 (place - bias))

/-- Divides until little is left, and counts the divisions. -/
def shrink (delta : Nat) : Nat × Nat :=
  if 455 < delta then
    let (rest, count) := shrink (delta / 35)
    (rest, count + 1)
  else (delta, 0)
termination_by delta
decreasing_by omega

/-- The bias after a number that has increased the state by `delta`, once there are
`count` characters. -/
def adapt (delta count : Nat) (isFirst : Bool) : Nat :=
  let delta := if isFirst then delta / 700 else delta / 2
  let (rest, divisions) := shrink (delta + delta / count)
  36 * divisions + 36 * rest / (rest + 38)

/-- The greatest number and the greatest weight of a digit are below this one. -/
def limit : Nat := Nat.pow 2 32

/-- Adds a number to `value`, and gives what follows it. -/
def number? (bias : Nat) : Nat → Nat → Nat → List Char → Option (Nat × List Char)
  | _, _, _, [] => none
  | place, weight, value, c :: rest => do
      let digit ← digit? c
      let value := value + digit * weight
      let threshold := threshold bias place
      if limit ≤ value then none
      else if digit < threshold then some (value, rest)
      else if limit ≤ weight * (36 - threshold) then none
      else number? bias (place + 36) (weight * (36 - threshold)) value rest

theorem length_lt_of_number? {bias place weight value result : Nat} {text rest : List Char}
    (read : number? bias place weight value text = some (result, rest)) :
    rest.length < text.length := by
  induction text generalizing place weight value with
  | nil => simp [number?] at read
  | cons c text inductionHypothesis =>
      cases found : digit? c with
      | none => simp [number?, found] at read
      | some digit =>
          simp only [number?, found, Option.bind_eq_bind, Option.bind_some] at read
          split at read
          · simp at read
          · split at read
            · simp only [Option.some.injEq, Prod.mk.injEq] at read
              simp [read.2]
            · split at read
              · simp at read
              · exact Nat.lt_succ_of_lt (inductionHypothesis read)

/-- A code point is that of a character. -/
def isScalar (code : Nat) : Bool :=
  code < 0xD800 || 0xDFFF < code && code < 0x110000

/-- Inserts the characters that numbers stand for.  The state is counted through all
places of the text and then through all code points, from `code` and the place
`position` on. -/
def insert? (bias code position : Nat) (text numbers : List Char) : Option (List Char) :=
  match numbers with
  | [] => some text
  | c :: numbers =>
      match _ : number? bias 36 1 position (c :: numbers) with
      | none => none
      | some (state, rest) =>
          let count := text.length + 1
          let code := code + state / count
          if isScalar code then
            insert? (adapt (state - position) count (position = 0)) code (state % count + 1)
              (text.insertIdx (state % count) (Char.ofNat code)) rest
          else none
termination_by numbers.length
decreasing_by exact length_lt_of_number? (by assumption)

/-- The text that an ASCII text stands for.  Its last hyphen, which is not its first
character, ends the part that stands for itself. -/
def decode? (text : List Char) : Option (List Char) :=
  let numbers := Text.takeTrailing (· ≠ '-') text
  match Text.dropTrailing (· ≠ '-') text with
  | [] => insert? 72 0x80 0 [] numbers
  | [_] => none
  | base => insert? 72 0x80 0 base.dropLast numbers

end ClusterWatch.DomainName.Punycode
