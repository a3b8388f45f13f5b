import ClusterWatch.Proofs.Text.Digits
import ClusterWatch.Time.Rfc3339
import Mathlib.Algebra.Order.Group.Nat

/-!
# Timestamps that are written

A timestamp of a year of four digits is read again as it was written, to the nanosecond and in a
leap second too.
-/

namespace ClusterWatch.Rfc3339

open ClusterWatch.Text

/-! ## Fields of digits -/

/-- Digits are read as the number that they are written for, as long as no other digit may be
read after them. -/
theorem readNumber_append {width : Nat} {digits rest : List Char} (some : digits ≠ [])
    (all : ∀ c ∈ digits, c.isDigit = true) (fits : digits.length ≤ width)
    (ends : ∀ c ∈ (rest.take (width - digits.length)).head?, c.isDigit = false) :
    readNumber width (digits ++ rest) = .ok (ofDigits digits, rest) := by
  have taken : ((digits ++ rest).take width).takeWhile Char.isDigit = digits := by
    rw [List.take_append, List.take_of_length_le fits]
    exact takeWhile_isDigit_append all ends
  obtain ⟨c, tail, rfl⟩ := List.exists_cons_of_ne_nil some
  rw [List.cons_append] at taken ⊢
  rw [readNumber, if_pos (all c List.mem_cons_self)]
  simp [taken]

section Padded

variable {width n : Nat}

theorem isDigit_of_mem_padded {c : Char} (mem : c ∈ padded width n) : c.isDigit = true := by
  rcases List.mem_append.mp mem with zero | digit
  · rw [List.eq_of_mem_replicate zero]
    rfl
  · exact Nat.isDigit_of_mem_toDigits (by decide) (by decide) digit

theorem length_padded (pos : 0 < width) (small : n < 10 ^ width) :
    (padded width n).length = width := by
  have fits := (Nat.length_toDigits_le_iff (by decide) pos).mpr small
  simp [padded]
  omega

@[simp]
theorem ofDigits_padded : ofDigits (padded width n) = n := by
  simp [padded]

theorem exists_padded_eq_cons (pos : 0 < width) (small : n < 10 ^ width) :
    ∃ c digits, padded width n = c :: digits ∧ c.isDigit = true := by
  have some : padded width n ≠ [] :=
    List.ne_nil_of_length_pos (by rw [length_padded pos small]; exact pos)
  obtain ⟨c, digits, split⟩ := List.exists_cons_of_ne_nil some
  have mem : c ∈ padded width n := by simp [split]
  exact ⟨c, digits, split, isDigit_of_mem_padded mem⟩

/-- A number is read as it was written in a field of its width, and in a wider one before text
that is no digit. -/
theorem readNumber_padded {limit : Nat} {rest : List Char} (pos : 0 < width)
    (small : n < 10 ^ width) (fits : width ≤ limit)
    (ends : ∀ c ∈ (rest.take (limit - width)).head?, c.isDigit = false) :
    readNumber limit (padded width n ++ rest) = .ok (n, rest) := by
  have length := length_padded pos small
  have some : padded width n ≠ [] := List.ne_nil_of_length_pos (by omega)
  rw [readNumber_append some (fun _ => isDigit_of_mem_padded) (by omega) (by rwa [length]),
    ofDigits_padded]

end Padded

/-- White space is no digit. -/
theorem isBlank_of_isDigit {c : Char} (digit : c.isDigit = true) : isBlank c = false := by
  simp only [Char.isDigit, Bool.and_eq_true, decide_eq_true_eq, ge_iff_le,
    UInt32.le_iff_toNat_le] at digit
  have lower : 48 ≤ c.toNat := digit.1
  have upper : c.toNat ≤ 57 := digit.2
  simp [isBlank]
  omega

theorem trimLeft_padded {width n : Nat} (pos : 0 < width) (small : n < 10 ^ width)
    (rest : List Char) : trimLeft (padded width n ++ rest) = padded width n ++ rest := by
  obtain ⟨c, digits, split, digit⟩ := exists_padded_eq_cons pos small
  rw [split, List.cons_append, trimLeft_cons, isBlank_of_isDigit digit]
  rfl

/-- A field of two digits is read as it was written. -/
theorem readField_padded {low high n : Nat} (within : low ≤ n ∧ n ≤ high) (small : high < 100)
    (rest : List Char) : readField low high (padded 2 n ++ rest) = .ok (n, rest) := by
  have two : n < 10 ^ 2 := by omega
  rw [readField, trimLeft_padded (by decide) two,
    readNumber_padded (by decide) two (by decide) (by simp)]
  simp [bind, Except.bind, within]

/-- A year of four digits is read as it was written. -/
theorem readYear_yearChars {year : Int} (within : 0 ≤ year ∧ year ≤ 9999) (rest : List Char) :
    readYear (yearChars year ++ rest) = .ok (year, rest) := by
  have four : year.toNat < 10 ^ 4 := by omega
  have number : readNumber 4 (padded 4 year.toNat ++ rest) = .ok (year.toNat, rest) :=
    readNumber_padded (by decide) four (by decide) (by simp)
  rw [yearChars, if_pos within, readYear, trimLeft_padded (by decide) four]
  obtain ⟨c, digits, split, digit⟩ := exists_padded_eq_cons (by decide) four
  rw [split, List.cons_append] at number ⊢
  have same : (year.toNat : Int) = year := Int.toNat_of_nonneg within.1
  split
  · next sign =>
      cases sign
      cases digit
  · next sign =>
      cases sign
      cases digit
  · rw [number]
    simp only [bind, Except.bind, Except.map, same]
    rw [if_pos (by omega)]

/-- A fraction of a second is read as it was written. -/
theorem readFraction_fractionChars {nanos : Nat} (small : nanos < 1000000000) (rest : List Char) :
    readFraction (fractionChars nanos ++ 'Z' :: rest) = .ok (nanos, 'Z' :: rest) := by
  have fraction (width : Nat) (within : 0 < width ∧ width ≤ 9)
      (exact : nanos / 10 ^ (9 - width) * 10 ^ (9 - width) = nanos)
      (fits : nanos / 10 ^ (9 - width) < 10 ^ width) :
      readFraction ('.' :: padded width (nanos / 10 ^ (9 - width)) ++ 'Z' :: rest) =
        .ok (nanos, 'Z' :: rest) := by
    have ends (c : Char) (first : c ∈ (('Z' :: rest).take (9 - width)).head?) :
        c.isDigit = false := by
      rw [List.head?_take] at first
      split at first
      · cases first
      · cases first
        rfl
    have read := readNumber_padded within.1 fits within.2 ends
    have length := length_padded within.1 fits
    have count : (padded width (nanos / 10 ^ (9 - width)) ++ 'Z' :: rest).length -
        ('Z' :: rest).length = width := by
      rw [List.length_append, length]
      omega
    rw [List.cons_append, readFraction]
    simp only [read, count, bind, Except.bind]
    rw [Nat.pow_eq, exact]
    rfl
  unfold fractionChars
  split_ifs with whole millis micros
  · subst whole
    rfl
  · exact fraction 3 (by decide) (by omega) (by omega)
  · exact fraction 6 (by decide) (by omega) (by omega)
  · have same : nanos / 10 ^ (9 - 9) = nanos := by simp
    have fractions := fraction 9 (by decide) (by omega) (by omega)
    rwa [same] at fractions

/-! ## Timestamps -/

theorem readMark_self {mark : Char} (visible : isBlank mark = false) (rest : List Char) :
    readMark mark (mark :: rest) = .ok rest := by
  rw [readMark, trimLeft_cons, visible]
  simp

/-- A moment in UTC is not shifted. -/
@[simp]
theorem ofLocal_zero (date : Date) (time : TimeOfDay) :
    Timestamp.ofLocal date time 0 = ⟨date, time⟩ := by
  have hour := time.hour_lt
  have minute := time.minute_lt
  have minutes : (((time.hour * 60 + time.minute - 0 : Int)) % 1440).toNat =
      time.hour * 60 + time.minute := by omega
  rw [Timestamp.ofLocal]
  simp only [minutes]
  rw [if_neg (by omega), if_neg (by omega)]
  congr 2 <;> omega

/-- A date is found under its fields. -/
@[simp]
theorem of?_fields (date : Date) : Date.of? date.year date.month date.day = some date := by
  rw [Date.of?, dif_pos ⟨⟨date.month_pos, date.month_le⟩, date.day_pos, date.day_le⟩]

/-- The fields of a timestamp in UTC make the timestamp. -/
theorem ofFields_eq {t : Timestamp} (within : 0 ≤ t.date.year ∧ t.date.year ≤ 9999) :
    ofFields t.date.year t.date.month t.date.day t.time.hour t.time.minute t.time.second
      t.time.nanos 0 = .ok t := by
  have inRange : isYearInRange t.date.year = true := by
    simp [isYearInRange]
    omega
  rw [ofFields, dif_pos ⟨t.time.hour_lt, t.time.minute_lt, t.time.second_le, t.time.nanos_lt⟩,
    of?_fields]
  simp [inRange]

/-- No month has more than 31 days. -/
theorem daysInMonth_le (year : Int) (month : Nat) : daysInMonth year month ≤ 31 := by
  unfold daysInMonth
  split_ifs <;> decide

/-- A timestamp of a year of four digits is read as it was written. -/
theorem read_write {t : Timestamp} (within : 0 ≤ t.date.year ∧ t.date.year ≤ 9999) :
    read (write t) = .ok t := by
  rw [read, write, String.toList_ofList, wholeChars]
  simp only [List.append_assoc, List.cons_append, List.nil_append]
  have month (rest : List Char) := readField_padded ⟨t.date.month_pos, t.date.month_le⟩
    (by decide) rest
  have day (rest : List Char) := readField_padded
    ⟨t.date.day_pos, Nat.le_trans t.date.day_le (daysInMonth_le _ _)⟩ (by decide) rest
  have hour (rest : List Char) := readField_padded
    ⟨Nat.zero_le _, Nat.le_of_lt_succ t.time.hour_lt⟩ (by decide) rest
  have minute (rest : List Char) := readField_padded
    ⟨Nat.zero_le _, Nat.le_of_lt_succ t.time.minute_lt⟩ (by decide) rest
  have second (rest : List Char) := readField_padded
    ⟨Nat.zero_le _, t.time.second_le⟩ (by decide) rest
  have dash (rest : List Char) : readMark '-' ('-' :: rest) = .ok rest :=
    readMark_self (by decide) rest
  have colon (rest : List Char) : readMark ':' (':' :: rest) = .ok rest :=
    readMark_self (by decide) rest
  have separator (rest : List Char) : readSeparator ('T' :: rest) = .ok rest := rfl
  have offset : readOffset (trimLeft ['Z']) = .ok (0, []) := by decide
  rw [readChars, readYear_yearChars within]
  simp only [bind, Except.bind, dash, month, day, separator, hour, colon, minute, second,
    readFraction_fractionChars t.time.nanos_lt, offset]
  exact ofFields_eq within

end ClusterWatch.Rfc3339
