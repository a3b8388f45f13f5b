import ClusterWatch.Json.Failure
import ClusterWatch.Text.Split

/-!
# Lexical elements of JSON

Blanks, literal names, strings and numbers at the start of a text.  A string or a
number that is only passed over has to be well formed, but its value does not
matter: a surrogate may stand alone in it and an exponent may be of any size.
-/

namespace ClusterWatch.Json

open ClusterWatch.Decimal
open ClusterWatch.Text (digitValue hexValue? ofDigits)

/-- A blank between lexical elements. -/
def isSpace (c : Char) : Bool :=
  c == ' ' || c == '\n' || c == '\t' || c == '\r'

/-- The text without the blanks it begins with. -/
def skipSpace (s : List Char) : List Char :=
  s.dropWhile isSpace

/-- Reads the given characters. -/
def readWord : List Char → List Char → Except Failure (List Char)
  | [], rest => .ok rest
  | _ :: _, [] => .error .incomplete
  | expected :: word, c :: rest =>
      if c = expected then readWord word rest else .error .malformed

/-! ## Strings -/

/-- A piece of a string: a character, or the UTF-16 unit of a `\u` escape. -/
inductive StringPiece where
  | char (c : Char)
  | unit (n : Nat)
  deriving DecidableEq, Repr

/-- The value of four hexadecimal digits. -/
def hexValue4? (a b c d : Char) : Option Nat := do
  let w ← hexValue? a
  let x ← hexValue? b
  let y ← hexValue? c
  let z ← hexValue? d
  return ((w * 16 + x) * 16 + y) * 16 + z

/-- The character of an escape of one letter. -/
def simpleEscape? (c : Char) : Option Char :=
  if c = '\"' ∨ c = '\\' ∨ c = '/' then some c
  else if c = 'b' then some '\x08'
  else if c = 'f' then some '\x0c'
  else if c = 'n' then some '\n'
  else if c = 'r' then some '\r'
  else if c = 't' then some '\t'
  else none

/-- The pieces of a string after its opening quote, and the text after its
closing quote, or the failure that ended the pieces.  The four characters of a
`\u` escape are counted in bytes where the text ends among them. -/
def stringPieces : List Char → List StringPiece × Except Failure (List Char)
  | [] => ([], .error .incomplete)
  | c :: rest =>
      if c = '\"' then ([], .ok rest)
      else if c = '\\' then
        match rest with
        | [] => ([], .error .incomplete)
        | e :: rest =>
            if e = 'u' then
              match rest with
              | x :: y :: z :: w :: rest =>
                  match hexValue4? x y z w with
                  | some n =>
                      let (pieces, ending) := stringPieces rest
                      (.unit n :: pieces, ending)
                  | none => ([], .error .malformed)
              | short => ([], .error (if Text.byteCount short < 4 then .incomplete else .malformed))
            else
              match simpleEscape? e with
              | some c =>
                  let (pieces, ending) := stringPieces rest
                  (.char c :: pieces, ending)
              | none => ([], .error .malformed)
      else if c.toNat < 0x20 then ([], .error .malformed)
      else
        let (pieces, ending) := stringPieces rest
        (.char c :: pieces, ending)

/-- The unit is the first half of a pair. -/
def isHighSurrogate (n : Nat) : Bool :=
  0xD800 ≤ n && n ≤ 0xDBFF

/-- The unit is the second half of a pair. -/
def isLowSurrogate (n : Nat) : Bool :=
  0xDC00 ≤ n && n ≤ 0xDFFF

/-- What the pieces of a string stand for. -/
inductive Joined where
  /-- A text. -/
  | text (chars : List Char)
  /-- No text, because half of a pair stands alone. -/
  | alone
  /-- No text yet, because the last piece is the first half of a pair. -/
  | unfinished
  deriving DecidableEq

/-- Puts a character in front. -/
def Joined.push (c : Char) : Joined → Joined
  | .text chars => .text (c :: chars)
  | .alone => .alone
  | .unfinished => .unfinished

/-- Joins the halves of pairs. -/
def joinPieces : List StringPiece → Joined
  | [] => .text []
  | .char c :: rest => (joinPieces rest).push c
  | .unit n :: rest =>
      if isLowSurrogate n then .alone
      else if isHighSurrogate n then
        match rest with
        | [] => .unfinished
        | .unit m :: rest =>
            if isLowSurrogate m then
              (joinPieces rest).push
                (Char.ofNat (0x10000 + (n - 0xD800) * 0x400 + (m - 0xDC00)))
            else .alone
        | .char _ :: _ => .alone
      else (joinPieces rest).push (Char.ofNat n)

/-- Reads a string after its opening quote. -/
def readString (s : List Char) : Except Failure (String × List Char) :=
  let (pieces, ending) := stringPieces s
  match joinPieces pieces, ending with
  | .text chars, .ok rest => .ok (String.ofList chars, rest)
  | .text _, .error failure => .error failure
  | .alone, _ => .error .malformed
  | .unfinished, .ok _ => .error .malformed
  | .unfinished, .error failure => .error failure

/-- Passes over a string after its opening quote. -/
def skipString (s : List Char) : Except Failure (List Char) :=
  (stringPieces s).2

/-! ## Numbers -/

/-- A number: an integer below `2 ^ 64`, a negative integer down to `- 2 ^ 63`, or
a binary64 number with a sign. -/
inductive Number where
  | int (value : Int)
  | real (negative : Bool) (magnitude : Binary64)
  deriving DecidableEq, Repr

/-- The value of a number as it is named in messages. -/
def Number.found : Number → Found
  | .int n => .int n
  | .real negative x => .real negative x

/-- Appends digits to a significand for as long as it stays below `2 ^ 64`; gives
the significand and the number of digits it took. -/
def appendDigits (significand : Nat) : List Char → Nat × Nat
  | [] => (significand, 0)
  | c :: rest =>
      if significand * 10 + digitValue c < Nat.pow 2 64 then
        let (result, taken) := appendDigits (significand * 10 + digitValue c) rest
        (result, taken + 1)
      else (significand, 0)

/-- The power of ten, rounded. -/
def powerOfTen (n : Nat) : Option Binary64 :=
  Binary64.ofRatio (Nat.pow 10 n) 1

/-- Divides by powers of ten up to `10 ^ 308` at a time, rounding each time. -/
def scaleDown : Nat → Binary64 → Nat → Option Binary64
  | 0, x, _ => some x
  | steps + 1, x, n =>
      if n ≤ 308 then do x.div (← powerOfTen n)
      else if x.mantissa = 0 then some x
      else do scaleDown steps (← x.div (← powerOfTen 308)) (n - 308)

/-- The number `significand * 10 ^ exponent`: the significand is rounded first and
the result of scaling it is rounded again.  Three divisions by `10 ^ 308` leave
nothing of a significand below `2 ^ 64`. -/
def scaled (significand : Nat) (exponent : Int) : Option Binary64 := do
  let x ← Binary64.ofNat significand
  if 0 ≤ exponent then
    if exponent ≤ 308 then x.mul (← powerOfTen exponent.toNat)
    else if x.mantissa = 0 then some x
    else none
  else scaleDown 4 x exponent.natAbs

/-- The number of a significand and an exponent, which has to be finite. -/
def readScaled (negative : Bool) (significand : Nat) (exponent : Int) (rest : List Char) :
    Except Failure (Number × List Char) :=
  match scaled significand exponent with
  | some x => .ok (.real negative x, rest)
  | none => .error .malformed

/-- The sign of an exponent and the text after it. -/
def exponentSign (s : List Char) : Bool × List Char :=
  match s with
  | '-' :: rest => (true, rest)
  | '+' :: rest => (false, rest)
  | rest => (false, rest)

/-- The largest exponent that is taken at its value. -/
def exponentLimit : Nat := 2147483647

/-- Reads an exponent after its letter. -/
def readExponent (negative : Bool) (significand : Nat) (base : Int) (s : List Char) :
    Except Failure (Number × List Char) :=
  let (below, s) := exponentSign s
  match s with
  | [] => .error .incomplete
  | c :: _ =>
      if c.isDigit then
        let digits := s.takeWhile Char.isDigit
        let rest := s.drop digits.length
        let size := ofDigits digits
        if exponentLimit < size then
          if significand ≠ 0 ∧ !below then .error .malformed
          else .ok (.real negative .zero, rest)
        else readScaled negative significand (if below then base - size else base + size) rest
      else .error .malformed

/-- Reads what may follow the digits of a number that is not an integer. -/
def readScale (negative : Bool) (significand : Nat) (exponent : Int) (s : List Char) :
    Except Failure (Number × List Char) :=
  match s with
  | [] => readScaled negative significand exponent []
  | c :: rest =>
      if c = 'e' ∨ c = 'E' then readExponent negative significand exponent rest
      else readScaled negative significand exponent (c :: rest)

/-- Reads the digits after a decimal point. -/
def readFraction (negative : Bool) (significand dropped : Nat) (s : List Char) :
    Except Failure (Number × List Char) :=
  let digits := s.takeWhile Char.isDigit
  if digits = [] then .error (if s = [] then .incomplete else .malformed)
  else
    let (significand, taken) := appendDigits significand digits
    readScale negative significand ((dropped : Int) - taken) (s.drop digits.length)

/-- The number of an integer literal without digits that were dropped. -/
def integerNumber (negative : Bool) (significand : Nat) : Option Number :=
  if !negative then some (.int significand)
  else if 0 < significand ∧ significand ≤ Nat.pow 2 63 then some (.int (-significand))
  else (Binary64.ofNat significand).map (.real true)

/-- Reads a number after its sign.  An integer beyond 64 bits is read as a
binary64 number, and so is a negative zero. -/
def readNumber (negative : Bool) (s : List Char) : Except Failure (Number × List Char) :=
  match s with
  | [] => .error .incomplete
  | c :: rest =>
      if !c.isDigit ∨ (c = '0' ∧ (rest.headD ' ').isDigit) then .error .malformed
      else
        let digits := s.takeWhile Char.isDigit
        let (significand, taken) := appendDigits 0 digits
        let dropped := digits.length - taken
        match s.drop digits.length with
        | '.' :: rest => readFraction negative significand dropped rest
        | rest =>
            if (rest.headD ' ' = 'e' ∨ rest.headD ' ' = 'E') ∨ dropped ≠ 0 then
              readScale negative significand dropped rest
            else
              match integerNumber negative significand with
              | some n => .ok (n, rest)
              | none => .error .malformed

/-- Passes over digits, of which there has to be one. -/
def skipDigits (s : List Char) : Except Failure (List Char) :=
  if (s.headD ' ').isDigit then .ok (s.dropWhile Char.isDigit) else .error .malformed

/-- Passes over an exponent, if there is one. -/
def skipExponent (s : List Char) : Except Failure (List Char) :=
  match s with
  | [] => .ok []
  | c :: rest =>
      if c = 'e' ∨ c = 'E' then skipDigits (exponentSign rest).2 else .ok (c :: rest)

/-- Passes over a number after its sign. -/
def skipNumber (s : List Char) : Except Failure (List Char) := do
  let rest ←
    match s with
    | '0' :: rest => if (rest.headD ' ').isDigit then .error .malformed else .ok rest
    | s => skipDigits s
  match rest with
  | '.' :: rest => skipExponent (← skipDigits rest)
  | rest => skipExponent rest

end ClusterWatch.Json
