import ClusterWatch.Json.Reader
import ClusterWatch.Proofs.Json.Scan
import ClusterWatch.Proofs.Time.Rfc3339

/-!
# Values that are read as they were written

A reader reads a value if it finds it at the start of its text, whatever may follow the value in
an object, and leaves the text after it.
-/

namespace ClusterWatch.Json

variable {α β : Type}

/-- The text does not go on with the value before it: it is at its end, or another member
follows, or the object is closed. -/
def EndsValue (rest : List Char) : Prop :=
  ∀ c ∈ rest.head?, c = ',' ∨ c = '}'

theorem EndsValue.endsNumber {rest : List Char} (ends : EndsValue rest) : EndsNumber rest := by
  intro c first
  rcases ends c first with rfl | rfl <;> decide

theorem endsValue_nil : EndsValue [] := by
  simp [EndsValue]

/-- The reader reads `a` from the text of the value. -/
def Reads (reader : Reader α) (json : Json) (a : α) : Prop :=
  ∀ rest, EndsValue rest → reader (json.toChars ++ rest) = .ok (a, rest)

theorem Reader.decode_map (f : α → β) (reader : Reader α) (text : String) :
    (reader.map f).decode text = (reader.decode text).map f := by
  unfold Reader.decode Reader.map
  cases reader text.toList with
  | error failure => rfl
  | ok read =>
      simp only
      split
      · rfl
      · rfl

/-- What is written is decoded. -/
theorem Reads.decode {reader : Reader α} {json : Json} {a : α} (reads : Reads reader json a) :
    reader.decode json.write = .ok a := by
  have whole := reads [] endsValue_nil
  rw [List.append_nil] at whole
  rw [Reader.decode, write, String.toList_ofList, whole]
  rfl

theorem Reads.map {reader : Reader α} {json : Json} {a : α} (reads : Reads reader json a)
    (f : α → β) : Reads (reader.map f) json (f a) := by
  intro rest ends
  rw [Reader.map, reads rest ends]

theorem Reads.check {reader : Reader α} {json : Json} {a : α} {b : β}
    {judge : α → Except Mismatch β} (reads : Reads reader json a) (judged : judge a = .ok b) :
    Reads (reader.check judge) json b := by
  intro rest ends
  rw [Reader.check, reads rest ends]
  simp only [judged]

/-! ## Values that are there -/

/-- The value is written with a first character that is neither a blank nor that of `null`. -/
def IsVisible (json : Json) : Prop :=
  ∃ c rest, json.toChars = c :: rest ∧ isSpace c = false ∧ c ≠ 'n'

theorem isVisible_string (s : String) : IsVisible (.string s) :=
  ⟨'\"', _, rfl, by decide, by decide⟩

theorem isVisible_object (members : List (String × Json)) : IsVisible (.object members) :=
  ⟨'\x7b', _, rfl, by decide, by decide⟩

theorem exists_toDigits_eq_cons (n : Nat) :
    ∃ c digits, Nat.toDigits 10 n = c :: digits ∧ c.isDigit = true := by
  obtain ⟨c, digits, split⟩ := List.exists_cons_of_ne_nil (Nat.toDigits_ne_nil (n := n) (b := 10))
  have mem : c ∈ Nat.toDigits 10 n := by simp [split]
  exact ⟨c, digits, split, Nat.isDigit_of_mem_toDigits (by decide) (by decide) mem⟩

theorem isVisible_int (n : Int) : IsVisible (.int n) := by
  rw [IsVisible, toChars, intChars]
  split
  · exact ⟨'-', _, rfl, by decide, by decide⟩
  · obtain ⟨c, digits, split, digit⟩ := exists_toDigits_eq_cons n.natAbs
    refine ⟨c, digits, split, isSpace_of_isDigit digit, ?_⟩
    rintro rfl
    cases digit

/-- A value that is there is read where it may be absent. -/
theorem Reads.optional {reader : Reader α} {json : Json} {a : α} (reads : Reads reader json a)
    (visible : IsVisible json) : Reads (Json.optional reader) json (some a) := by
  intro rest ends
  have whole := reads rest ends
  obtain ⟨c, chars, split, solid, some⟩ := visible
  rw [split, List.cons_append] at whole ⊢
  rw [Json.optional, skipSpace_cons solid]
  split
  · next same => exact (some (List.cons.inj same).1).elim
  · rw [Reader.map, whole]

/-! ## Single values -/

theorem toChars_string (s : String) (rest : List Char) :
    (Json.string s).toChars ++ rest = '\"' :: (s.toList.flatMap escapeChar ++ '\"' :: rest) := by
  simp [toChars, stringChars]

theorem reads_textAs (expected s : String) : Reads (textAs expected) (.string s) s := by
  intro rest _
  rw [toChars_string, textAs, skipSpace_cons (by decide)]
  simp [readString_written]

theorem reads_text (s : String) : Reads text (.string s) s :=
  reads_textAs _ s

theorem reads_boolean (b : Bool) : Reads boolean (.bool b) b := by
  intro rest _
  cases b <;> rfl

/-- A name is read as what it stands for. -/
theorem reads_oneOf {known : List (String × α)} {name : String} {a : α}
    (names : known.lookup name = some a) : Reads (oneOf known) (.string name) a := by
  intro rest ends
  have named : variant known name = .ok a := by simp [variant, names]
  have whole := (reads_text name).check named rest ends
  rw [toChars_string] at whole ⊢
  rw [oneOf, skipSpace_cons (by decide)]
  exact whole

theorem reads_timestamp {t : Timestamp} (within : 0 ≤ t.date.year ∧ t.date.year ≤ 9999) :
    Reads timestamp (.string (Rfc3339.write t)) t :=
  (reads_textAs _ _).check (by simp [Rfc3339.read_write within])

/-- Integers of 64 bits, with or without a sign, are read as they were written. -/
theorem reads_numberAs {n : Int} (expected : String) (least : -9223372036854775808 ≤ n)
    (most : n ≤ 18446744073709551615) : Reads (numberAs expected) (.int n) (.int n) := by
  intro rest ends
  have limit : Nat.pow 2 64 = 18446744073709551616 := by decide
  have half : Nat.pow 2 63 = 9223372036854775808 := by decide
  rw [toChars, intChars]
  split
  · next negative =>
      have fits : integerNumber true n.natAbs = some (.int n) := by
        rw [integerNumber, if_neg (by decide), if_pos (by omega)]
        congr
        omega
      rw [List.append_assoc, List.singleton_append, numberAs, skipSpace_cons (by decide)]
      exact readNumber_toDigits true ends.endsNumber (by omega) fits
  · next positive =>
      have fits : integerNumber false n.natAbs = some (.int n) := by
        rw [integerNumber, if_pos (by decide)]
        congr
        omega
      have whole := readNumber_toDigits false ends.endsNumber (by omega) fits
      obtain ⟨c, digits, split, digit⟩ := exists_toDigits_eq_cons n.natAbs
      have plain : c ≠ '-' := by
        rintro rfl
        cases digit
      rw [split] at whole
      rw [List.nil_append, split, List.cons_append, numberAs,
        skipSpace_cons (isSpace_of_isDigit digit)]
      simp only [plain, digit, if_true, if_false]
      exact whole

theorem reads_integer {expected : String} {low high n : Int} (within : low ≤ n ∧ n ≤ high)
    (least : -9223372036854775808 ≤ low) (most : high ≤ 18446744073709551615) :
    Reads (integer expected low high) (.int n) n :=
  (reads_numberAs expected (by omega) (by omega)).check (by simp [within])

theorem reads_uint32 (n : UInt32) : Reads uint32 (.int n.toNat) n := by
  have small := n.toNat_lt
  have reads : Reads (integer "u32" 0 4294967295) (.int n.toNat) (n.toNat : Int) :=
    reads_integer (by omega) (by decide) (by decide)
  have whole := reads.map fun n => UInt32.ofNat n.toNat
  rwa [Int.toNat_natCast, UInt32.ofNat_toNat] at whole

theorem reads_int64 (n : Int64) : Reads int64 (.int n.toInt) n := by
  have lower : -9223372036854775808 ≤ n.toInt := n.le_toInt
  have upper : n.toInt ≤ 9223372036854775807 := n.toInt_le
  have reads : Reads (integer "i64" (-9223372036854775808) 9223372036854775807) (.int n.toInt)
      n.toInt := reads_integer ⟨lower, upper⟩ (by decide) (by decide)
  have whole := reads.map Int64.ofInt
  rwa [Int64.ofInt_toInt] at whole

end ClusterWatch.Json
