import ClusterWatch.Json.Scan
import ClusterWatch.Proofs.Text.Digits

/-!
# Lexical elements that are written

A string is read again as it was written, whatever characters are in it, and so is an integer of
64 bits.
-/

namespace ClusterWatch.Json

open ClusterWatch.Text (digitValue head?_toDigits_ne_zero le_foldl_digits takeWhile_isDigit_append)

/-! ## Blanks -/

theorem skipSpace_cons {c : Char} (solid : isSpace c = false) (rest : List Char) :
    skipSpace (c :: rest) = c :: rest := by
  simp [skipSpace, solid]

theorem isSpace_of_isDigit {c : Char} (digit : c.isDigit = true) : isSpace c = false := by
  simp only [isSpace, Bool.or_eq_false_iff, beq_eq_false_iff_ne]
  refine ⟨⟨⟨?_, ?_⟩, ?_⟩, ?_⟩ <;> (rintro rfl; cases digit)

/-! ## Strings -/

/-- The escape of a control names its number. -/
theorem hexValue4?_hexDigit :
    ∀ n < 0x20, hexValue4? '0' '0' (hexDigit (n / 16)) (hexDigit (n % 16)) = some n := by
  decide

section Pieces

variable (rest : List Char)

@[simp]
theorem stringPieces_quote : stringPieces ('\"' :: rest) = ([], .ok rest) := by
  rw [stringPieces.eq_def]
  rfl

theorem stringPieces_escape {e c : Char} (simple : simpleEscape? e = some c) (short : e ≠ 'u') :
    stringPieces ('\\' :: e :: rest) =
      (.char c :: (stringPieces rest).1, (stringPieces rest).2) := by
  rw [stringPieces.eq_def]
  simp [simple, short]

theorem stringPieces_unit {x y z w : Char} {n : Nat} (value : hexValue4? x y z w = some n) :
    stringPieces ('\\' :: 'u' :: x :: y :: z :: w :: rest) =
      (.unit n :: (stringPieces rest).1, (stringPieces rest).2) := by
  rw [stringPieces.eq_def]
  simp [value]

theorem stringPieces_plain {c : Char} (quote : c ≠ '\"') (backslash : c ≠ '\\')
    (plain : ¬c.toNat < 0x20) :
    stringPieces (c :: rest) = (.char c :: (stringPieces rest).1, (stringPieces rest).2) := by
  rw [stringPieces.eq_def]
  simp [quote, backslash, plain]

end Pieces

/-- A character as it is written is one piece, which stands for the character. -/
theorem stringPieces_escapeChar (c : Char) (s : List Char) :
    ∃ piece, stringPieces (escapeChar c ++ s) =
        (piece :: (stringPieces s).1, (stringPieces s).2) ∧
      ∀ pieces, joinPieces (piece :: pieces) = (joinPieces pieces).push c := by
  have named {e : Char} (simple : simpleEscape? e = some c) (short : e ≠ 'u') :
      ∃ piece, stringPieces ('\\' :: e :: s) = (piece :: (stringPieces s).1, (stringPieces s).2) ∧
        ∀ pieces, joinPieces (piece :: pieces) = (joinPieces pieces).push c :=
    ⟨.char c, stringPieces_escape s simple short, fun _ => rfl⟩
  unfold escapeChar
  split_ifs with quote backslash backspace feed newline carriage tab control
  · subst quote
    exact named rfl (by decide)
  · subst backslash
    exact named rfl (by decide)
  · subst backspace
    exact named rfl (by decide)
  · subst feed
    exact named rfl (by decide)
  · subst newline
    exact named rfl (by decide)
  · subst carriage
    exact named rfl (by decide)
  · subst tab
    exact named rfl (by decide)
  · refine ⟨.unit c.toNat, stringPieces_unit s (hexValue4?_hexDigit _ control), fun pieces => ?_⟩
    have low : isLowSurrogate c.toNat = false := by
      simp [isLowSurrogate]
      omega
    have high : isHighSurrogate c.toNat = false := by
      simp [isHighSurrogate]
      omega
    rw [joinPieces.eq_def]
    simp [low, high]
  · exact ⟨.char c, stringPieces_plain s quote backslash control, fun _ => rfl⟩

theorem stringPieces_written (chars rest : List Char) :
    ∃ pieces, stringPieces (chars.flatMap escapeChar ++ '\"' :: rest) = (pieces, .ok rest) ∧
      joinPieces pieces = .text chars := by
  induction chars with
  | nil => exact ⟨[], by simp, rfl⟩
  | cons c chars ih =>
      obtain ⟨pieces, written, joined⟩ := ih
      obtain ⟨piece, split, joins⟩ :=
        stringPieces_escapeChar c (chars.flatMap escapeChar ++ '\"' :: rest)
      refine ⟨piece :: pieces, ?_, ?_⟩
      · rw [List.flatMap_cons, List.append_assoc, split, written]
      · rw [joins, joined]
        rfl

/-- A string is read as it was written. -/
theorem readString_written (s : String) (rest : List Char) :
    readString (s.toList.flatMap escapeChar ++ '\"' :: rest) = .ok (s, rest) := by
  obtain ⟨pieces, written, joined⟩ := stringPieces_written s.toList rest
  simp [readString, written, joined]

/-! ## Numbers -/

/-- The text does not go on with a number. -/
def EndsNumber (rest : List Char) : Prop :=
  ∀ c ∈ rest.head?, c.isDigit = false ∧ c ≠ '.' ∧ c ≠ 'e' ∧ c ≠ 'E'

/-- All digits of a number that stays below the limit are taken. -/
theorem appendDigits_eq {significand : Nat} {digits : List Char}
    (small : digits.foldl (fun value c => value * 10 + digitValue c) significand < Nat.pow 2 64) :
    appendDigits significand digits =
      (digits.foldl (fun value c => value * 10 + digitValue c) significand, digits.length) := by
  induction digits generalizing significand with
  | nil => rfl
  | cons c digits ih =>
      rw [List.foldl_cons] at small ⊢
      have grows := le_foldl_digits digits (significand * 10 + digitValue c)
      rw [appendDigits, if_pos (Nat.lt_of_le_of_lt grows small), ih small]
      rfl

/-- What ends a number does not begin with any character that a number goes on with. -/
theorem EndsNumber.headD {rest : List Char} (ends : EndsNumber rest) :
    (rest.headD ' ').isDigit = false ∧ rest.headD ' ' ≠ 'e' ∧ rest.headD ' ' ≠ 'E' := by
  cases rest with
  | nil => decide
  | cons c rest =>
      obtain ⟨digit, -, small, capital⟩ := ends c rfl
      exact ⟨digit, small, capital⟩

/-- The digits of a number do not begin with a zero that others follow. -/
theorem not_leads_with_zero {n : Nat} {c : Char} {digits rest : List Char}
    (split : Nat.toDigits 10 n = c :: digits) (ends : EndsNumber rest) :
    ¬(c = '0' ∧ ((digits ++ rest).headD ' ').isDigit = true) := by
  rintro ⟨rfl, more⟩
  by_cases zero : n = 0
  · subst zero
    obtain rfl : [] = digits := (List.cons.inj split).2
    rw [List.nil_append, ends.headD.1] at more
    cases more
  · exact head?_toDigits_ne_zero zero (by rw [split]; rfl)

/-- An integer below the limit is read as it was written. -/
theorem readNumber_toDigits {n : Nat} {rest : List Char} {number : Number} (negative : Bool)
    (ends : EndsNumber rest) (small : n < Nat.pow 2 64)
    (fits : integerNumber negative n = some number) :
    readNumber negative (Nat.toDigits 10 n ++ rest) = .ok (number, rest) := by
  have all : ∀ c ∈ Nat.toDigits 10 n, c.isDigit = true :=
    fun c mem => Nat.isDigit_of_mem_toDigits (by decide) (by decide) mem
  have taken := takeWhile_isDigit_append all fun c mem => (ends c mem).1
  have appended : appendDigits 0 (Nat.toDigits 10 n) = (n, (Nat.toDigits 10 n).length) := by
    have value : (Nat.toDigits 10 n).foldl (fun value c => value * 10 + digitValue c) 0 = n :=
      Text.ofDigits_toDigits n
    rw [appendDigits_eq (value.symm ▸ small), value]
  obtain ⟨c, digits, split⟩ := List.exists_cons_of_ne_nil (Nat.toDigits_ne_nil (n := n) (b := 10))
  have zero := not_leads_with_zero split ends
  have digit : c.isDigit = true := all c (split ▸ List.mem_cons_self)
  rw [split] at taken appended ⊢
  rw [List.cons_append] at taken ⊢
  have first : ¬((!c.isDigit) = true ∨ c = '0' ∧ ((digits ++ rest).headD ' ').isDigit = true) := by
    rw [digit]
    simpa using zero
  obtain ⟨-, small, capital⟩ := ends.headD
  rw [readNumber, if_neg first, taken]
  simp only [appended, List.length_cons, List.drop_succ_cons, List.drop_left, Nat.sub_self]
  split
  · next more => exact absurd rfl (ends '.' rfl).2.1
  · rw [if_neg (by simp only [small, capital, ne_eq]; decide), fits]

end ClusterWatch.Json
