import ClusterWatch.Operator.Config
import ClusterWatch.Proofs.Text.Digits
import Mathlib.Algebra.Group.Nat.Defs
import Mathlib.Data.List.Induction
import Mathlib.Data.List.TakeWhile
import Mathlib.Data.Nat.Digits.Defs

/-!
# Which settings are numbers of seconds

A setting is taken if it is a numeral within white space, and the numeral is positive and fits in
64 bits.  Any other setting is refused for the first problem that its characters have from left to
right: a character that is no digit, or digits that need more than 64 bits.
-/

namespace ClusterWatch

/-! ## White space at the ends -/

namespace Text

/-- The characters that Unicode counts as white space. -/
def whiteSpace : List Char :=
  ['\t', '\n', '\x0b', '\x0c', '\r', ' ', '\u0085', '\u00a0', '\u1680', '\u2000', '\u2001',
    '\u2002', '\u2003', '\u2004', '\u2005', '\u2006', '\u2007', '\u2008', '\u2009', '\u200a',
    '\u2028', '\u2029', '\u202f', '\u205f', '\u3000']

theorem isBlank_iff_mem_whiteSpace {c : Char} : isBlank c = true ↔ c ∈ whiteSpace := by
  have code : c ∈ whiteSpace ↔ c.toNat ∈ whiteSpace.map Char.toNat :=
    (List.mem_map_of_injective fun _ _ => Char.toNat_inj.mp).symm
  rw [code]
  simp only [isBlank, whiteSpace, List.map_cons, List.map_nil, List.mem_cons, List.not_mem_nil,
    Bool.or_eq_true, Bool.and_eq_true, decide_eq_true_eq, beq_iff_eq, Char.reduceToNat, or_false]
  constructor
  · omega
  · omega

/-- `t` is what is left of `s` without the white space at its two ends. -/
structure IsTrimmed (s t : List Char) : Prop where
  parts : ∃ before after, s = before ++ t ++ after ∧
    (∀ c ∈ before, c ∈ whiteSpace) ∧ ∀ c ∈ after, c ∈ whiteSpace
  first : ∀ c ∈ t.head?, c ∉ whiteSpace
  last : ∀ c ∈ t.getLast?, c ∉ whiteSpace

theorem not_mem_whiteSpace {c : Char} (visible : isBlank c = false) : c ∉ whiteSpace := by
  rw [← isBlank_iff_mem_whiteSpace, visible]
  decide

theorem dropTrailing_isPrefix (property : Char → Bool) (s : List Char) :
    dropTrailing property s <+: s :=
  ⟨takeTrailing property s, dropTrailing_append_takeTrailing property s⟩

/-- Trimming takes away the white space at the two ends, and nothing else. -/
theorem isTrimmed_trim (s : List Char) : IsTrimmed s (trim s) where
  parts := by
    refine ⟨s.takeWhile isBlank, takeTrailing isBlank (trimLeft s), ?_, ?_, ?_⟩
    · rw [List.append_assoc, trim, dropTrailing_append_takeTrailing, trimLeft,
        List.takeWhile_append_dropWhile]
    · exact fun c mem => isBlank_iff_mem_whiteSpace.mp (List.mem_takeWhile_imp mem)
    · exact fun c mem => isBlank_iff_mem_whiteSpace.mp (of_mem_takeTrailing c mem)
  first := by
    intro c first
    obtain ⟨rest, split⟩ := dropTrailing_isPrefix isBlank (trimLeft s)
    have front : (trimLeft s).head? = some c := by
      rw [← split]
      exact List.mem_head?_append_of_mem_head? first
    have stops := List.head?_dropWhile_not isBlank s
    rw [← trimLeft, front] at stops
    exact not_mem_whiteSpace stops
  last := fun c last => not_mem_whiteSpace (not_of_mem_getLast?_dropTrailing c last)

end Text

namespace Operator

open Text (digitValue le_foldl_digits)

/-! ## Digits -/

namespace Number

variable {n m : Nat} {s : List Char}

theorem zero_lt_limit : 0 < limit := by
  decide

/-- Digits are read if they are all digits and their number fits. -/
theorem readDigits_eq_ok_iff (small : n < limit) :
    readDigits n s = .ok m ↔
      (∀ c ∈ s, c.isDigit = true) ∧
        s.foldl (fun value c => value * 10 + digitValue c) n = m ∧ m < limit := by
  induction s generalizing n with
  | nil =>
      simp only [readDigits, Except.ok.injEq, List.not_mem_nil, false_implies, implies_true,
        List.foldl_nil, true_and]
      exact ⟨fun same => ⟨same, same ▸ small⟩, And.left⟩
  | cons c s ih =>
      simp only [readDigits, List.forall_mem_cons, List.foldl_cons]
      have grows := le_foldl_digits s (n * 10 + digitValue c)
      by_cases digit : c.isDigit = true
      · by_cases fits : n * 10 + digitValue c < limit
        · simp only [digit, fits, if_true, ih fits, true_and]
        · simp only [digit, fits, if_true, if_false, reduceCtorEq, false_iff]
          omega
      · simp [digit]

/-- Digits are too many if the number of some that come first does not fit, whatever comes
after them. -/
theorem readDigits_eq_tooLarge_iff (small : n < limit) :
    readDigits n s = .error .tooLarge ↔
      ∃ digits rest, s = digits ++ rest ∧ (∀ c ∈ digits, c.isDigit = true) ∧
        limit ≤ digits.foldl (fun value c => value * 10 + digitValue c) n := by
  induction s generalizing n with
  | nil =>
      simp only [readDigits, reduceCtorEq, false_iff]
      rintro ⟨digits, rest, split, -, large⟩
      obtain ⟨rfl, -⟩ := List.append_eq_nil_iff.mp split.symm
      exact Nat.not_le_of_lt small large
  | cons c s ih =>
      simp only [readDigits]
      by_cases digit : c.isDigit = true
      · by_cases fits : n * 10 + digitValue c < limit
        · simp only [digit, fits, if_true, ih fits]
          constructor
          · rintro ⟨digits, rest, rfl, all, large⟩
            exact ⟨c :: digits, rest, rfl, List.forall_mem_cons.mpr ⟨digit, all⟩, large⟩
          · rintro ⟨digits, rest, split, all, large⟩
            cases digits with
            | nil => exact absurd large (Nat.not_le_of_lt small)
            | cons d digits =>
                obtain ⟨rfl, rfl⟩ := List.cons.inj split
                exact ⟨digits, rest, rfl, (List.forall_mem_cons.mp all).2, large⟩
        · simp only [digit, fits, if_true, if_false, true_iff]
          exact ⟨[c], s, rfl, List.forall_mem_singleton.mpr digit, Nat.le_of_not_lt fits⟩
      · simp only [digit, Bool.false_eq_true, if_false, Except.error.injEq, reduceCtorEq, false_iff]
        rintro ⟨digits, rest, split, all, large⟩
        cases digits with
        | nil => exact absurd large (Nat.not_le_of_lt small)
        | cons d digits =>
            obtain ⟨rfl, -⟩ := List.cons.inj split
            exact digit (all c List.mem_cons_self)

theorem readDigits_ne_empty (n : Nat) (s : List Char) : readDigits n s ≠ .error .empty := by
  fun_induction readDigits n s with
  | case1 => nofun
  | case2 _ _ _ _ _ _ ih => exact ih
  | case3 => nofun
  | case4 => nofun

/-! ## Numerals -/

/-- The number that decimal digits denote. -/
def denoted (digits : List Char) : Nat :=
  Nat.ofDigits 10 (digits.reverse.map fun c => c.toNat - '0'.toNat)

/-- The text is the digits of `n` after an optional plus sign. -/
def IsNumeral (s : List Char) (n : Nat) : Prop :=
  ∃ digits, (s = digits ∨ s = '+' :: digits) ∧ digits ≠ [] ∧
    (∀ c ∈ digits, c.isDigit = true) ∧ denoted digits = n

/-- After an optional plus sign the text begins with the digits of a number that needs more than
64 bits. -/
def Overflows (s : List Char) : Prop :=
  ∃ digits rest, (s = digits ++ rest ∨ s = '+' :: (digits ++ rest)) ∧
    (∀ c ∈ digits, c.isDigit = true) ∧ 2 ^ 64 ≤ denoted digits

/-- Digits are read from the left for the number that they denote. -/
theorem foldl_digitValue (digits : List Char) :
    digits.foldl (fun value c => value * 10 + digitValue c) 0 = denoted digits := by
  induction digits using List.reverseRecOn with
  | nil => rfl
  | append_singleton digits c ih =>
      rw [List.foldl_append, ih, denoted, denoted, List.reverse_concat, List.map_cons,
        Nat.ofDigits_cons, List.foldl_cons, List.foldl_nil, digitValue]
      omega

theorem readDigits_zero_eq_ok_iff :
    readDigits 0 s = .ok m ↔ (∀ c ∈ s, c.isDigit = true) ∧ denoted s = m ∧ m < limit := by
  rw [readDigits_eq_ok_iff zero_lt_limit, foldl_digitValue]

theorem readDigits_zero_eq_tooLarge_iff :
    readDigits 0 s = .error .tooLarge ↔
      ∃ digits rest, s = digits ++ rest ∧ (∀ c ∈ digits, c.isDigit = true) ∧
        limit ≤ denoted digits := by
  simp only [readDigits_eq_tooLarge_iff zero_lt_limit, foldl_digitValue]

theorem isNumeral_plus_iff :
    IsNumeral ('+' :: s) n ↔ s ≠ [] ∧ (∀ c ∈ s, c.isDigit = true) ∧ denoted s = n := by
  constructor
  · rintro ⟨digits, same | same, some, all, value⟩
    · subst same
      cases all '+' List.mem_cons_self
    · obtain rfl := (List.cons.inj same).2
      exact ⟨some, all, value⟩
  · rintro ⟨some, all, value⟩
    exact ⟨s, .inr rfl, some, all, value⟩

theorem isNumeral_cons_iff {c : Char} (unsigned : c ≠ '+') :
    IsNumeral (c :: s) n ↔ (∀ d ∈ c :: s, d.isDigit = true) ∧ denoted (c :: s) = n := by
  constructor
  · rintro ⟨digits, rfl | same, -, all, value⟩
    · exact ⟨all, value⟩
    · exact absurd (List.cons.inj same).1 unsigned
  · rintro ⟨all, value⟩
    exact ⟨c :: s, .inl rfl, List.cons_ne_nil c s, all, value⟩

theorem overflows_plus_iff :
    Overflows ('+' :: s) ↔
      ∃ digits rest, s = digits ++ rest ∧ (∀ c ∈ digits, c.isDigit = true) ∧
        limit ≤ denoted digits := by
  constructor
  · rintro ⟨digits, rest, same | same, all, large⟩
    · cases digits with
      | nil => exact absurd large (by decide)
      | cons d digits =>
          obtain ⟨rfl, -⟩ := List.cons.inj same
          cases all '+' List.mem_cons_self
    · exact ⟨digits, rest, (List.cons.inj same).2, all, large⟩
  · rintro ⟨digits, rest, rfl, all, large⟩
    exact ⟨digits, rest, .inr rfl, all, large⟩

theorem overflows_cons_iff {c : Char} (unsigned : c ≠ '+') :
    Overflows (c :: s) ↔
      ∃ digits rest, c :: s = digits ++ rest ∧ (∀ c ∈ digits, c.isDigit = true) ∧
        limit ≤ denoted digits := by
  constructor
  · rintro ⟨digits, rest, same | same, all, large⟩
    · exact ⟨digits, rest, same, all, large⟩
    · exact absurd (List.cons.inj same).1 unsigned
  · rintro ⟨digits, rest, same, all, large⟩
    exact ⟨digits, rest, .inl same, all, large⟩

/-! ## Reading a numeral -/

theorem read_plus (s : List Char) :
    read ('+' :: s) = if s = [] then .error .invalidDigit else readDigits 0 s := by
  cases s <;> rfl

theorem read_cons {c : Char} (unsigned : c ≠ '+') (s : List Char) :
    read (c :: s) = readDigits 0 (c :: s) := by
  cases s with
  | cons d s => simp [read, unsigned]
  | nil =>
      by_cases minus : c = '-'
      · subst minus
        rfl
      · simp [read, unsigned, minus]

/-- Only the text without characters is empty. -/
theorem read_eq_empty_iff : read s = .error .empty ↔ s = [] := by
  refine ⟨fun empty => ?_, fun empty => empty ▸ rfl⟩
  cases s with
  | nil => rfl
  | cons c s =>
      by_cases plus : c = '+'
      · subst plus
        rw [read_plus] at empty
        split at empty
        · cases empty
        · exact absurd empty (readDigits_ne_empty 0 s)
      · rw [read_cons plus] at empty
        exact absurd empty (readDigits_ne_empty 0 _)

/-- The numerals of numbers that fit are read. -/
theorem read_eq_ok_iff : read s = .ok n ↔ IsNumeral s n ∧ n < limit := by
  cases s with
  | nil => simp [read, IsNumeral]
  | cons c s =>
      by_cases plus : c = '+'
      · subst plus
        rw [read_plus, isNumeral_plus_iff]
        split
        · next none => simp [none]
        · next some =>
            rw [readDigits_zero_eq_ok_iff, and_assoc, and_assoc]
            exact (and_iff_right some).symm
      · rw [read_cons plus, isNumeral_cons_iff plus, readDigits_zero_eq_ok_iff, and_assoc]

/-- A text is a number that is too large if it begins with one. -/
theorem read_eq_tooLarge_iff : read s = .error .tooLarge ↔ Overflows s := by
  cases s with
  | nil =>
      simp only [read, Except.error.injEq, reduceCtorEq, false_iff]
      rintro ⟨digits, rest, split | split, -, large⟩
      · obtain ⟨rfl, -⟩ := List.append_eq_nil_iff.mp split.symm
        exact absurd large (by decide)
      · cases split
  | cons c s =>
      by_cases plus : c = '+'
      · subst plus
        rw [read_plus, overflows_plus_iff]
        split
        · next none =>
            subst none
            exact Iff.trans (by simp [readDigits]) readDigits_zero_eq_tooLarge_iff
        · exact readDigits_zero_eq_tooLarge_iff
      · rw [read_cons plus, overflows_cons_iff plus]
        exact readDigits_zero_eq_tooLarge_iff

/-- A numeral that is not read is too large. -/
theorem IsNumeral.lt_or_overflows (numeral : IsNumeral s n) : n < limit ∨ Overflows s := by
  obtain ⟨digits, same, -, all, rfl⟩ := numeral
  rcases Nat.lt_or_ge (denoted digits) limit with small | large
  · exact .inl small
  · exact .inr ⟨digits, [], by rwa [List.append_nil], all, large⟩

/-- In all other cases a character is no digit. -/
theorem read_eq_invalidDigit_iff :
    read s = .error .invalidDigit ↔ s ≠ [] ∧ ¬Overflows s ∧ ∀ n, ¬IsNumeral s n := by
  constructor
  · intro invalid
    have small : ¬Overflows s := fun large => by
      rw [read_eq_tooLarge_iff.mpr large] at invalid
      cases invalid
    refine ⟨fun empty => ?_, small, fun n numeral => ?_⟩
    · rw [read_eq_empty_iff.mpr empty] at invalid
      cases invalid
    · rw [read_eq_ok_iff.mpr ⟨numeral, numeral.lt_or_overflows.resolve_right small⟩] at invalid
      cases invalid
  · rintro ⟨some, small, other⟩
    match result : read s with
    | .ok n => exact absurd (read_eq_ok_iff.mp result).1 (other n)
    | .error .empty => exact absurd (read_eq_empty_iff.mp result) some
    | .error .tooLarge => exact absurd (read_eq_tooLarge_iff.mp result) small
    | .error .invalidDigit => rfl

/-- The number does not fit before the letter is met, or the letter is met before. -/
example : read "18446744073709551616x".toList = .error .tooLarge ∧
    read "1844674407370955161x".toList = .error .invalidDigit := by
  decide +kernel

end Number

/-! ## Seconds -/

open Number (IsNumeral Overflows)

variable {value : String}

theorem Seconds.read_eq_ok_iff {d : Duration} :
    Seconds.read value = .ok d ↔
      ∃ n, IsNumeral (Text.trim value.toList) n ∧ 1 ≤ n ∧ n ≤ 2 ^ 64 - 1 ∧
        d.nanos = n * 10 ^ 9 := by
  rw [Seconds.read]
  constructor
  · intro taken
    split at taken
    · cases taken
    · next n read =>
        obtain ⟨numeral, small⟩ := Number.read_eq_ok_iff.mp read
        split at taken
        · cases taken
        · next positive =>
            refine ⟨n, numeral, Nat.pos_of_ne_zero positive, Nat.le_sub_one_of_lt small, ?_⟩
            exact (congrArg Duration.nanos (Except.ok.inj taken)).symm
  · rintro ⟨n, numeral, positive, small, nanos⟩
    have fits : n < Number.limit := Nat.lt_of_le_sub_one (by decide) small
    have same : Duration.ofSeconds n = d := by
      cases d
      exact congrArg Duration.mk nanos.symm
    rw [Number.read_eq_ok_iff.mpr ⟨numeral, fits⟩, ← same]
    exact if_neg (Nat.ne_of_gt positive)

theorem Seconds.read_eq_zero_iff :
    Seconds.read value = .error .zero ↔ IsNumeral (Text.trim value.toList) 0 := by
  rw [Seconds.read]
  constructor
  · intro refused
    split at refused
    · cases refused
    · next n read =>
        split at refused
        · next zero =>
            subst zero
            exact (Number.read_eq_ok_iff.mp read).1
        · cases refused
  · intro numeral
    rw [Number.read_eq_ok_iff.mpr ⟨numeral, Number.zero_lt_limit⟩]
    rfl

/-- A text without a number is refused as the number is. -/
theorem Seconds.read_eq_number_iff {failure : NumberFailure} :
    Seconds.read value = .error (.number failure) ↔
      Number.read (Text.trim value.toList) = .error failure := by
  rw [Seconds.read]
  cases Number.read (Text.trim value.toList) with
  | error other => simp
  | ok n =>
      simp only [reduceCtorEq, iff_false]
      split <;> nofun

theorem secondsOf_eq_ok_iff {key : String} {default d : Duration} :
    secondsOf key (some value) default = .ok d ↔ Seconds.read value = .ok d := by
  rw [secondsOf]
  cases Seconds.read value <;> simp

theorem secondsOf_eq_error_iff {key : String} {default : Duration} {failure : SecondsFailure} :
    secondsOf key (some value) default = .error ⟨key, value, failure⟩ ↔
      Seconds.read value = .error failure := by
  rw [secondsOf]
  cases Seconds.read value <;> simp

/-- A setting is taken exactly if it is, within white space, a numeral of 64 bits that is not
zero, and it stands for as many times 10⁹ nanoseconds.  Zero is refused as such.  Any other text is
refused because it is empty, or because it begins with the digits of a number that is too large, or
else because of a character that is no digit. -/
theorem secondsOf_some_iff (key value : String) (default : Duration) :
    Text.IsTrimmed value.toList (Text.trim value.toList) ∧
    (∀ d, secondsOf key (some value) default = .ok d ↔
      ∃ n, IsNumeral (Text.trim value.toList) n ∧ 1 ≤ n ∧ n ≤ 2 ^ 64 - 1 ∧
        d.nanos = n * 10 ^ 9) ∧
    (secondsOf key (some value) default = .error ⟨key, value, .zero⟩ ↔
      IsNumeral (Text.trim value.toList) 0) ∧
    (secondsOf key (some value) default = .error ⟨key, value, .number .empty⟩ ↔
      Text.trim value.toList = []) ∧
    (secondsOf key (some value) default = .error ⟨key, value, .number .tooLarge⟩ ↔
      Overflows (Text.trim value.toList)) ∧
    (secondsOf key (some value) default = .error ⟨key, value, .number .invalidDigit⟩ ↔
      Text.trim value.toList ≠ [] ∧ ¬Overflows (Text.trim value.toList) ∧
        ∀ n, ¬IsNumeral (Text.trim value.toList) n) ∧
    (⟨key, value, .zero⟩ : ConfigError).text = key ++ " must be greater than 0" ∧
    ∀ failure, (⟨key, value, .number failure⟩ : ConfigError).text =
      key ++ " must be a number of seconds, got " ++ Text.quote value ++ ": " ++
        match failure with
        | .empty => "cannot parse integer from empty string"
        | .tooLarge => "number too large to fit in target type"
        | .invalidDigit => "invalid digit found in string" := by
  refine ⟨Text.isTrimmed_trim _, fun d => secondsOf_eq_ok_iff.trans Seconds.read_eq_ok_iff,
    secondsOf_eq_error_iff.trans Seconds.read_eq_zero_iff, ?_, ?_, ?_, rfl, ?_⟩
  · rw [secondsOf_eq_error_iff, Seconds.read_eq_number_iff, Number.read_eq_empty_iff]
  · rw [secondsOf_eq_error_iff, Seconds.read_eq_number_iff, Number.read_eq_tooLarge_iff]
  · rw [secondsOf_eq_error_iff, Seconds.read_eq_number_iff, Number.read_eq_invalidDigit_iff]
  · intro failure
    cases failure <;> rfl

end Operator

end ClusterWatch
