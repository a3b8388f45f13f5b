import ClusterWatch.Json.Reader
import ClusterWatch.Proofs.Json.Passage

/-!
# Readers of well-formed values

A reader of a well-formed value takes exactly that value, or nothing.  Whether it takes it, and as
what, is settled by the text of the value alone, whatever comes after it.
-/

namespace ClusterWatch.Json

open ClusterWatch.Text (takeWhile_isDigit_append)

variable {α β : Type} {s rest : List Char}

theorem cases_of_toOption {ε γ δ : Type} {x : Except ε γ} {result : Option δ} {f : δ → γ}
    (same : x.toOption = result.map f) :
    (∃ failure, x = .error failure ∧ result = none) ∨ ∃ a, x = .ok (f a) ∧ result = some a := by
  cases x <;> cases result <;> cases same
  · exact .inl ⟨_, rfl, rfl⟩
  · exact .inr ⟨_, rfl, rfl⟩

/-- What the reader makes of a text does not depend on what comes after the text, and is left. -/
def Settles (reader : Reader α) (s : List Char) : Prop :=
  ∃ result : Option α, ∀ rest, EndsNumber rest →
    (reader (s ++ rest)).toOption = result.map fun a => (a, rest)

theorem settles_of_ok {reader : Reader α} (a : α)
    (reads : ∀ rest, EndsNumber rest → reader (s ++ rest) = .ok (a, rest)) : Settles reader s :=
  ⟨some a, fun rest ends => congrArg Except.toOption (reads rest ends)⟩

theorem settles_of_error {reader : Reader α}
    (fails : ∀ rest, EndsNumber rest → (reader (s ++ rest)).toOption = none) : Settles reader s :=
  ⟨none, fails⟩

/-- A text is taken in front of others exactly if it is decoded. -/
theorem Settles.toOption_append {reader : Reader α} (settles : Settles reader s)
    (ends : EndsNumber rest) :
    (reader (s ++ rest)).toOption =
      (reader.decode (String.ofList s)).toOption.map fun a => (a, rest) := by
  obtain ⟨result, settled⟩ := settles
  have alone := settled [] (by simp [EndsNumber])
  rw [List.append_nil] at alone
  rw [settled rest ends, Reader.decode, String.toList_ofList]
  rcases cases_of_toOption alone with ⟨failure, read, rfl⟩ | ⟨a, read, rfl⟩ <;> rw [read] <;> rfl

theorem Settles.map {reader : Reader α} (settles : Settles reader s) (f : α → β) :
    Settles (reader.map f) s := by
  obtain ⟨result, settled⟩ := settles
  refine ⟨result.map f, fun rest ends => ?_⟩
  rw [Reader.map]
  rcases cases_of_toOption (settled rest ends) with ⟨failure, read, rfl⟩ | ⟨a, read, rfl⟩ <;>
    rw [read] <;> rfl

theorem Settles.check {reader : Reader α} (settles : Settles reader s)
    (judge : α → Except Mismatch β) : Settles (reader.check judge) s := by
  obtain ⟨result, settled⟩ := settles
  refine ⟨result.bind fun a => (judge a).toOption, fun rest ends => ?_⟩
  rw [Reader.check]
  rcases cases_of_toOption (settled rest ends) with ⟨failure, read, rfl⟩ | ⟨a, read, rfl⟩
  · rw [read]
    rfl
  · rw [read]
    simp only [Option.bind_some]
    cases judge a <;> rfl

/-! ## Numbers -/

section Numbers

variable {digits exponent sign : List Char}

theorem takeWhile_digits (some : IsDigits digits) {t : List Char}
    (ends : ∀ c ∈ t.head?, c.isDigit = false) : (digits ++ t).takeWhile Char.isDigit = digits :=
  takeWhile_isDigit_append some.2 ends

theorem settles_readScaled (negative : Bool) (significand : Nat) (exponent : Int) :
    Settles (readScaled negative significand exponent) [] := by
  refine ⟨(scaled significand exponent).map (.real negative), fun rest _ => ?_⟩
  rw [readScaled, List.nil_append]
  cases scaled significand exponent <;> rfl

/-- An exponent is read off its sign and all of its digits. -/
theorem exists_readExponent_append (signed : sign = [] ∨ sign = ['+'] ∨ sign = ['-'])
    (some : IsDigits digits) (negative : Bool) (significand : Nat) (base : Int) :
    ∃ below : Bool, ∀ rest, EndsNumber rest →
      readExponent negative significand base (sign ++ (digits ++ rest)) =
        if exponentLimit < Text.ofDigits digits then
          if significand ≠ 0 ∧ !below then .error .malformed
          else .ok (.real negative .zero, rest)
        else
          readScaled negative significand
            (if below then base - Text.ofDigits digits else base + Text.ofDigits digits) rest := by
  obtain ⟨below, split⟩ := exists_exponentSign signed some
  refine ⟨below, fun rest ends => ?_⟩
  have taken := takeWhile_digits some ends.isDigit_eq_false
  have left : (digits ++ rest).drop digits.length = rest := List.drop_left
  obtain ⟨c, t, rfl, digit, -⟩ := some.exists_cons
  rw [readExponent, split]
  simp only [List.cons_append] at taken left ⊢
  simp only [digit, taken, left, if_true]

theorem settles_readExponent (signed : sign = [] ∨ sign = ['+'] ∨ sign = ['-'])
    (some : IsDigits digits) (negative : Bool) (significand : Nat) (base : Int) :
    Settles (readExponent negative significand base) (sign ++ digits) := by
  obtain ⟨below, read⟩ := exists_readExponent_append signed some negative significand base
  by_cases huge : exponentLimit < Text.ofDigits digits
  · simp only [huge, if_true] at read
    by_cases infinite : significand ≠ 0 ∧ (!below) = true
    · refine settles_of_error fun rest ends => ?_
      rw [List.append_assoc, read rest ends, if_pos infinite]
      rfl
    · refine settles_of_ok (.real negative .zero) fun rest ends => ?_
      rw [List.append_assoc, read rest ends, if_neg infinite]
  · simp only [huge, if_false] at read
    obtain ⟨result, settled⟩ := settles_readScaled negative significand
      (if below then base - Text.ofDigits digits else base + Text.ofDigits digits)
    refine ⟨result, fun rest ends => ?_⟩
    rw [List.append_assoc, read rest ends]
    exact settled rest ends

theorem settles_readScale (scales : IsExponent exponent) (negative : Bool) (significand : Nat)
    (base : Int) : Settles (readScale negative significand base) exponent := by
  cases scales with
  | none =>
      obtain ⟨result, settled⟩ := settles_readScaled negative significand base
      refine ⟨result, fun rest ends => ?_⟩
      rw [← settled rest ends, List.nil_append]
      cases rest with
      | nil => rfl
      | cons c rest =>
          obtain ⟨-, -, small, capital⟩ := ends c rfl
          simp [readScale, small, capital]
  | digits letter signed some =>
      obtain ⟨result, settled⟩ := settles_readExponent signed some negative significand base
      refine ⟨result, fun rest ends => ?_⟩
      rw [← settled rest ends, List.cons_append, readScale, if_pos letter]

theorem settles_readFraction (some : IsDigits digits) (scales : IsExponent exponent)
    (negative : Bool) (significand dropped : Nat) :
    Settles (readFraction negative significand dropped) (digits ++ exponent) := by
  obtain ⟨result, settled⟩ := settles_readScale scales negative
    (appendDigits significand digits).1 ((dropped : Int) - (appendDigits significand digits).2)
  refine ⟨result, fun rest ends => ?_⟩
  have taken := takeWhile_digits some fun c first => (scales.head_append ends c first).1
  rw [← settled rest ends, List.append_assoc, readFraction, taken, if_neg some.1, List.drop_left]

/-- After the digits of an integer a number goes on with a fraction or an exponent. -/
theorem IsWhole.readNumber_append {whole : List Char} (integer : IsWhole whole) (negative : Bool)
    (t : List Char) :
    (∀ c ∈ t.head?, c.isDigit = false) → readNumber negative (whole ++ t) =
      match t with
      | '.' :: rest =>
          readFraction negative (appendDigits 0 whole).1
            (whole.length - (appendDigits 0 whole).2) rest
      | rest =>
          if (rest.headD ' ' = 'e' ∨ rest.headD ' ' = 'E') ∨
              whole.length - (appendDigits 0 whole).2 ≠ 0 then
            readScale negative (appendDigits 0 whole).1
              (whole.length - (appendDigits 0 whole).2 : Nat) rest
          else
            match integerNumber negative (appendDigits 0 whole).1 with
            | some n => .ok (n, rest)
            | none => .error .malformed := by
  intro ends
  have taken := takeWhile_digits integer.isDigits ends
  have left : (whole ++ t).drop whole.length = t := List.drop_left
  obtain ⟨c, digits, rfl, digit, -⟩ := integer.isDigits.exists_cons
  have sound : ¬((!c.isDigit) = true ∨ c = '0' ∧ ((digits ++ t).headD ' ').isDigit = true) := by
    rintro (other | ⟨rfl, more⟩)
    · rw [digit] at other
      cases other
    · cases integer with
      | zero =>
          rw [List.nil_append, headD_isDigit ends] at more
          cases more
      | digits _ positive => exact positive rfl
  rw [List.cons_append] at taken left ⊢
  rw [readNumber, if_neg sound, taken]
  dsimp only
  generalize (c :: (digits ++ t)).drop (c :: digits).length = after at left ⊢
  subst left
  rfl

/-- What a number is read as is settled by its characters. -/
theorem settles_readNumber (unsigned : IsUnsigned s) (negative : Bool) :
    Settles (readNumber negative) s := by
  obtain @⟨whole, fraction, exponent, integer, fractional, scales⟩ := unsigned
  have read := fun rest (ends : EndsNumber rest) =>
    integer.readNumber_append negative _ (fractional.head_append scales ends)
  generalize (appendDigits 0 whole).1 = significand at read
  generalize whole.length - (appendDigits 0 whole).2 = dropped at read
  cases fractional with
  | digits some =>
      obtain ⟨result, settled⟩ := settles_readFraction some scales negative significand dropped
      refine ⟨result, fun rest ends => ?_⟩
      rw [List.append_assoc, List.append_assoc, read rest ends, ← settled rest ends,
        List.append_assoc]
      rfl
  | none =>
      obtain ⟨result, settled⟩ := settles_readScale scales negative significand dropped
      have plain : ∀ rest, EndsNumber rest → readNumber negative (whole ++ (exponent ++ rest)) =
          if ((exponent ++ rest).headD ' ' = 'e' ∨ (exponent ++ rest).headD ' ' = 'E') ∨
              dropped ≠ 0 then readScale negative significand dropped (exponent ++ rest)
          else
            match integerNumber negative significand with
            | some n => .ok (n, exponent ++ rest)
            | none => .error .malformed := by
        intro rest ends
        rw [← List.nil_append (exponent ++ rest), read rest ends]
        split
        · next same =>
            rw [List.nil_append] at same
            exact absurd rfl (scales.head_append ends '.' (by rw [same]; rfl)).2
        · rfl
      by_cases scaled : exponent ≠ [] ∨ dropped ≠ 0
      · refine ⟨result, fun rest ends => ?_⟩
        rw [List.nil_append, List.append_assoc, plain rest ends, if_pos, settled rest ends]
        refine scaled.imp_left fun some => ?_
        cases scales with
        | none => exact absurd rfl some
        | digits letter => exact letter
      · obtain ⟨none, kept⟩ := not_or.mp scaled
        obtain rfl := not_not.mp none
        refine ⟨integerNumber negative significand, fun rest ends => ?_⟩
        obtain ⟨-, small, capital⟩ := ends.headD
        rw [List.nil_append, List.append_assoc, plain rest ends, List.nil_append,
          if_neg fun cond => cond.elim (fun letter => letter.elim small capital) kept]
        cases integerNumber negative significand <;> rfl

end Numbers

/-! ## Readers of values -/

/-- The reader skips blanks, and well-formed values settle what it makes of them. -/
structure IsSettled (reader : Reader α) : Prop where
  skips : ∀ {blanks : List Char} (s : List Char), IsBlanks blanks → reader (blanks ++ s) = reader s
  settles : ∀ {v : List Char}, IsValue v → Settles reader v

theorem IsSettled.map {reader : Reader α} (settled : IsSettled reader) (f : α → β) :
    IsSettled (reader.map f) where
  skips := fun s plain => by rw [Reader.map, settled.skips s plain, Reader.map]
  settles := fun value => (settled.settles value).map f

theorem IsSettled.check {reader : Reader α} (settled : IsSettled reader)
    (judge : α → Except Mismatch β) : IsSettled (reader.check judge) where
  skips := fun s plain => by rw [Reader.check, settled.skips s plain, Reader.check]
  settles := fun value => (settled.settles value).check judge

/-- A reader that looks at the first character which is no blank is settled if it is so for values
that begin with it. -/
theorem isSettled_of_cons {reader : Reader α}
    (skips : ∀ {blanks : List Char} (s : List Char), IsBlanks blanks →
      reader (blanks ++ s) = reader s)
    (settles : ∀ (c : Char) (t : List Char), isSpace c = false → IsValue (c :: t) →
      Settles reader (c :: t)) : IsSettled reader where
  skips := skips
  settles := by
    intro v value
    obtain ⟨c, t, rfl, solid, -⟩ := value.exists_cons
    exact settles c t solid value

/-- After the opening quote of a string its text is settled. -/
theorem settles_string {spelling : List Char} (spelled : IsSpelling spelling)
    {reader : Reader String}
    (reads : ∀ rest, reader ('\"' :: rest) = readString rest) :
    Settles reader ('\"' :: (spelling ++ ['\"'])) := by
  obtain ⟨result, settled⟩ := spelled.exists_readString
  refine ⟨result, fun rest _ => ?_⟩
  rw [List.cons_append, reads, List.append_assoc]
  exact settled rest

theorem isSettled_textAs (expected : String) : IsSettled (textAs expected) := by
  refine isSettled_of_cons (fun s plain => by rw [textAs, plain.skipSpace_append, textAs])
    fun c t solid value => ?_
  by_cases quote : c = '\"'
  · subst quote
    obtain ⟨spelling, rfl, spelled⟩ := value.of_quote
    exact settles_string spelled fun rest => by
      rw [textAs, skipSpace_cons (by decide)]
      rfl
  · refine settles_of_error fun rest _ => ?_
    rw [List.cons_append, textAs, skipSpace_cons solid]
    simp only [quote, if_false]
    rfl

theorem isSettled_text : IsSettled text :=
  isSettled_textAs _

theorem isSettled_timestamp : IsSettled timestamp :=
  (isSettled_textAs _).check _

theorem isSettled_boolean : IsSettled boolean := by
  refine isSettled_of_cons (fun s plain => by rw [boolean, plain.skipSpace_append, boolean])
    fun c t solid value => ?_
  by_cases yes : c = 't'
  · subst yes
    obtain rfl := value.of_t
    exact settles_of_ok true fun rest _ => rfl
  · by_cases no : c = 'f'
    · subst no
      obtain rfl := value.of_f
      exact settles_of_ok false fun rest _ => rfl
    · refine settles_of_error fun rest _ => ?_
      rw [List.cons_append, boolean, skipSpace_cons solid]
      simp only [yes, no, if_false]
      rfl

theorem isSettled_nothing : IsSettled nothing := by
  refine isSettled_of_cons (fun s plain => by rw [nothing, plain.skipSpace_append, nothing])
    fun c t solid value => ?_
  by_cases null : c = 'n'
  · subst null
    obtain rfl := value.of_n
    exact settles_of_ok () fun rest _ => rfl
  · refine settles_of_error fun rest _ => ?_
    rw [List.cons_append, nothing, skipSpace_cons solid]
    simp only [null, if_false]
    rfl

theorem isSettled_numberAs (expected : String) : IsSettled (numberAs expected) := by
  refine isSettled_of_cons (fun s plain => by rw [numberAs, plain.skipSpace_append, numberAs])
    fun c t solid value => ?_
  have front : ∀ rest, numberAs expected (c :: t ++ rest) =
      if c = '-' then readNumber true (t ++ rest)
      else if c.isDigit then readNumber false (c :: t ++ rest)
      else .error (wrongType expected c (t ++ rest)) := by
    intro rest
    rw [List.cons_append, numberAs, skipSpace_cons solid]
  by_cases minus : c = '-'
  · subst minus
    obtain ⟨result, settled⟩ := settles_readNumber value.of_minus true
    exact ⟨result, fun rest ends => by rw [front, if_pos rfl, settled rest ends]⟩
  · by_cases digit : c.isDigit = true
    · obtain ⟨result, settled⟩ := settles_readNumber (value.of_digit digit) false
      refine ⟨result, fun rest ends => ?_⟩
      rw [front, if_neg minus, if_pos digit, settled rest ends]
    · refine settles_of_error fun rest _ => ?_
      rw [front, if_neg minus, if_neg digit]
      rfl

theorem isSettled_integer (expected : String) (low high : Int) :
    IsSettled (integer expected low high) :=
  (isSettled_numberAs expected).check _

theorem isSettled_uint32 : IsSettled uint32 :=
  (isSettled_integer _ _ _).map _

theorem isSettled_int64 : IsSettled int64 :=
  (isSettled_integer _ _ _).map _

/-- Where a value may be absent, `null` is taken as nothing. -/
theorem IsSettled.optional {reader : Reader α} (settled : IsSettled reader) :
    IsSettled (Json.optional reader) := by
  refine isSettled_of_cons (fun s plain => ?_) fun c t solid value => ?_
  · rw [Json.optional, plain.skipSpace_append, Json.optional]
    split
    · rfl
    · exact (settled.map some).skips s plain
  · by_cases null : c = 'n'
    · subst null
      obtain rfl := value.of_n
      exact settles_of_ok none fun rest _ => rfl
    · obtain ⟨result, taken⟩ := (settled.map some).settles value
      refine ⟨result, fun rest ends => ?_⟩
      rw [← taken rest ends, List.cons_append, Json.optional, skipSpace_cons solid]
      split
      · next same => exact absurd (List.cons.inj same).1 null
      · rfl

end ClusterWatch.Json
