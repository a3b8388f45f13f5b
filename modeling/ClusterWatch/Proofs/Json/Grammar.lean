import ClusterWatch.Proofs.Json.Scan

/-!
# Well-formed JSON

The texts that are JSON values, told by their parts, without regard to how they are read.  In the
text of an object each key may be spelled in many ways, and blanks may stand between all parts.
-/

namespace ClusterWatch.Json

/-! ## Blanks and lists -/

/-- The text is made of blanks. -/
def IsBlanks (s : List Char) : Prop :=
  ∀ c ∈ s, isSpace c = true

/-- The text after an entry of a list: it ends the list, or a comma and the next entry follow. -/
inductive Follows (close : Char) : List (List Char) → List Char → Prop where
  | close {blanks : List Char} : IsBlanks blanks → Follows close [] (blanks ++ [close])
  | comma {before after entry s : List Char} {entries : List (List Char)} :
      IsBlanks before → IsBlanks after → Follows close entries s →
        Follows close (entry :: entries) (before ++ ',' :: (after ++ (entry ++ s)))

/-- The text of a list after its opening bracket: its entries, with commas between them. -/
inductive Lists (close : Char) : List (List Char) → List Char → Prop where
  | empty {blanks : List Char} : IsBlanks blanks → Lists close [] (blanks ++ [close])
  | entries {blanks entry s : List Char} {entries : List (List Char)} :
      IsBlanks blanks → Follows close entries s →
        Lists close (entry :: entries) (blanks ++ (entry ++ s))

/-! ## Strings -/

/-- The letters of the short escapes, and what they stand for. -/
def shortEscapes : List (Char × Char) :=
  [('\"', '\"'), ('\\', '\\'), ('/', '/'), ('b', '\x08'), ('f', '\x0c'), ('n', '\n'), ('r', '\r'),
    ('t', '\t')]

/-- The characters between the quotes of a string, and the pieces of which it is made.  Any unit of
UTF-16 may stand in it as an escape. -/
inductive Spelled : List Char → List StringPiece → Prop where
  | nil : Spelled [] []
  | plain {c : Char} {s : List Char} {pieces : List StringPiece} : c ≠ '\"' → c ≠ '\\' →
      0x20 ≤ c.toNat → Spelled s pieces → Spelled (c :: s) (.char c :: pieces)
  | short {e c : Char} {s : List Char} {pieces : List StringPiece} : (e, c) ∈ shortEscapes →
      Spelled s pieces → Spelled ('\\' :: e :: s) (.char c :: pieces)
  | unit {x y z w : Char} {n : Nat} {s : List Char} {pieces : List StringPiece} :
      hexValue4? x y z w = some n → Spelled s pieces →
        Spelled ('\\' :: 'u' :: x :: y :: z :: w :: s) (.unit n :: pieces)

/-- The text that pieces stand for: a surrogate only stands in it as half of a pair. -/
inductive Joins : List StringPiece → List Char → Prop where
  | nil : Joins [] []
  | char {c : Char} {pieces : List StringPiece} {text : List Char} : Joins pieces text →
      Joins (.char c :: pieces) (c :: text)
  | unit {n : Nat} {pieces : List StringPiece} {text : List Char} : n < 0xD800 ∨ 0xDFFF < n →
      Joins pieces text → Joins (.unit n :: pieces) (Char.ofNat n :: text)
  | pair {n m : Nat} {pieces : List StringPiece} {text : List Char} : 0xD800 ≤ n → n ≤ 0xDBFF →
      0xDC00 ≤ m → m ≤ 0xDFFF → Joins pieces text →
        Joins (.unit n :: .unit m :: pieces)
          (Char.ofNat (0x10000 + (n - 0xD800) * 0x400 + (m - 0xDC00)) :: text)

/-- The characters may stand between the quotes of a string. -/
def IsSpelling (s : List Char) : Prop :=
  ∃ pieces, Spelled s pieces

/-- The characters between the quotes of a string stand for the text. -/
def Spells (s : List Char) (text : String) : Prop :=
  ∃ pieces, Spelled s pieces ∧ Joins pieces text.toList

/-- The character stands for itself between the quotes of a string. -/
def isVerbatim (c : Char) : Bool :=
  c ≠ '\"' ∧ c ≠ '\\' ∧ 0x20 ≤ c.toNat

theorem Spells.of_isVerbatim {text : String} (verbatim : text.toList.all isVerbatim = true) :
    Spells text.toList text := by
  unfold Spells
  generalize text.toList = chars at verbatim
  induction chars with
  | nil => exact ⟨[], .nil, .nil⟩
  | cons c chars ih =>
      obtain ⟨first, rest⟩ := Bool.and_eq_true_iff.mp (List.all_cons.symm.trans verbatim)
      obtain ⟨quote, backslash, printable⟩ := of_decide_eq_true first
      obtain ⟨pieces, spelled, joins⟩ := ih rest
      exact ⟨.char c :: pieces, .plain quote backslash printable spelled, .char joins⟩

theorem Spells.isSpelling {s : List Char} {text : String} (spells : Spells s text) :
    IsSpelling s := by
  obtain ⟨pieces, spelled, -⟩ := spells
  exact ⟨pieces, spelled⟩

/-! ## Numbers -/

/-- The text is made of digits, of which there is one. -/
def IsDigits (s : List Char) : Prop :=
  s ≠ [] ∧ ∀ c ∈ s, c.isDigit = true

/-- Digits of an integer: without a zero in front, unless that is all. -/
inductive IsWhole : List Char → Prop where
  | zero : IsWhole ['0']
  | digits {c : Char} {s : List Char} : c.isDigit = true → c ≠ '0' →
      (∀ d ∈ s, d.isDigit = true) → IsWhole (c :: s)

/-- A fraction, if there is one. -/
inductive IsFraction : List Char → Prop where
  | none : IsFraction []
  | digits {s : List Char} : IsDigits s → IsFraction ('.' :: s)

/-- An exponent, if there is one. -/
inductive IsExponent : List Char → Prop where
  | none : IsExponent []
  | digits {e : Char} {sign s : List Char} : e = 'e' ∨ e = 'E' →
      sign = [] ∨ sign = ['+'] ∨ sign = ['-'] → IsDigits s → IsExponent (e :: (sign ++ s))

/-- A number without its sign. -/
inductive IsUnsigned : List Char → Prop where
  | parts {whole fraction exponent : List Char} : IsWhole whole → IsFraction fraction →
      IsExponent exponent → IsUnsigned (whole ++ (fraction ++ exponent))

/-! ## Values -/

/-- The text of a member with the given characters between the quotes of its key, and with the
given value. -/
inductive IsMember : List Char × List Char → List Char → Prop where
  | keyed {spelling value before after : List Char} : IsBlanks before → IsBlanks after →
      IsMember (spelling, value)
        ('\"' :: (spelling ++ '\"' :: (before ++ ':' :: (after ++ value))))

/-- The text of a value, without blanks around it. -/
inductive IsValue : List Char → Prop where
  | nullWord : IsValue ['n', 'u', 'l', 'l']
  | trueWord : IsValue ['t', 'r', 'u', 'e']
  | falseWord : IsValue ['f', 'a', 'l', 's', 'e']
  | positive {s : List Char} : IsUnsigned s → IsValue s
  | negative {s : List Char} : IsUnsigned s → IsValue ('-' :: s)
  | string {s : List Char} : IsSpelling s → IsValue ('\"' :: (s ++ ['\"']))
  | array {items : List (List Char)} {s : List Char} : Lists ']' items s →
      (∀ item ∈ items, IsValue item) → IsValue ('[' :: s)
  | object {members : List (List Char × List Char)} {entries : List (List Char)}
      {s : List Char} : Lists '\x7d' entries s → List.Forall₂ IsMember members entries →
      (∀ member ∈ members, IsSpelling member.1) → (∀ member ∈ members, IsValue member.2) →
        IsValue ('\x7b' :: s)

/-- The text of an object within blanks: its members are given by their keys, however they are
spelled, and by the texts of their values. -/
inductive IsObject : List Char → List (String × List Char) → Prop where
  | members {before after s : List Char} {spellings : List (List Char × List Char)}
      {entries : List (List Char)} {members : List (String × List Char)} :
      IsBlanks before → IsBlanks after → Lists '\x7d' entries s →
      List.Forall₂ IsMember spellings entries →
      List.Forall₂ (fun spelled member => Spells spelled.1 member.1 ∧ spelled.2 = member.2)
        spellings members →
      (∀ member ∈ members, IsValue member.2) →
        IsObject (before ++ '\x7b' :: (s ++ after)) members

/-! ## First characters -/

section First

variable {c : Char} {s rest blanks : List Char}

theorem IsWhole.exists_cons (whole : IsWhole s) : ∃ c t, s = c :: t ∧ c.isDigit = true := by
  cases whole with
  | zero => exact ⟨_, _, rfl, rfl⟩
  | digits digit => exact ⟨_, _, rfl, digit⟩

theorem IsUnsigned.isDigit (unsigned : IsUnsigned (c :: s)) : c.isDigit = true := by
  generalize text : c :: s = t at unsigned
  obtain ⟨whole, -, -⟩ := unsigned
  obtain ⟨d, t, rfl, digit⟩ := whole.exists_cons
  rwa [(List.cons.inj text).1]

theorem IsUnsigned.ne_nil (unsigned : IsUnsigned s) : s ≠ [] := by
  obtain ⟨whole, -, -⟩ := unsigned
  obtain ⟨c, t, rfl, -⟩ := whole.exists_cons
  exact List.cons_ne_nil _ _

/-- A value is told by its first character. -/
theorem IsValue.cons_cases (value : IsValue (c :: s)) :
    (c = 'n' ∧ s = ['u', 'l', 'l']) ∨ (c = 't' ∧ s = ['r', 'u', 'e']) ∨
    (c = 'f' ∧ s = ['a', 'l', 's', 'e']) ∨ (c = '-' ∧ IsUnsigned s) ∨
    (c.isDigit = true ∧ IsUnsigned (c :: s)) ∨
    (c = '\"' ∧ ∃ spelling, s = spelling ++ ['\"'] ∧ IsSpelling spelling) ∨
    (c = '[' ∧ ∃ items, Lists ']' items s ∧ ∀ item ∈ items, IsValue item) ∨
    (c = '\x7b' ∧ ∃ members entries, Lists '\x7d' entries s ∧
      List.Forall₂ IsMember members entries ∧ (∀ member ∈ members, IsSpelling member.1) ∧
      ∀ member ∈ members, IsValue member.2) := by
  generalize text : c :: s = t at value
  cases value with
  | nullWord => simp_all
  | trueWord => simp_all
  | falseWord => simp_all
  | positive unsigned =>
      subst text
      simp [unsigned, unsigned.isDigit]
  | negative unsigned => simp_all
  | string spelling =>
      obtain ⟨rfl, rfl⟩ := List.cons.inj text
      simp [spelling]
  | array lists values =>
      obtain ⟨rfl, rfl⟩ := List.cons.inj text
      exact .inr <| .inr <| .inr <| .inr <| .inr <| .inr <| .inl ⟨rfl, _, lists, values⟩
  | object lists keyed spelled values =>
      obtain ⟨rfl, rfl⟩ := List.cons.inj text
      exact .inr <| .inr <| .inr <| .inr <| .inr <| .inr <| .inr
        ⟨rfl, _, _, lists, keyed, spelled, values⟩

theorem IsValue.of_n (value : IsValue ('n' :: s)) : s = ['u', 'l', 'l'] := by
  simpa using value.cons_cases

theorem IsValue.of_t (value : IsValue ('t' :: s)) : s = ['r', 'u', 'e'] := by
  simpa using value.cons_cases

theorem IsValue.of_f (value : IsValue ('f' :: s)) : s = ['a', 'l', 's', 'e'] := by
  simpa using value.cons_cases

theorem IsValue.of_minus (value : IsValue ('-' :: s)) : IsUnsigned s := by
  simpa using value.cons_cases

theorem IsValue.of_quote (value : IsValue ('\"' :: s)) :
    ∃ spelling, s = spelling ++ ['\"'] ∧ IsSpelling spelling := by
  simpa using value.cons_cases

theorem IsValue.of_bracket (value : IsValue ('[' :: s)) :
    ∃ items, Lists ']' items s ∧ ∀ item ∈ items, IsValue item := by
  simpa using value.cons_cases

theorem IsValue.of_brace (value : IsValue ('\x7b' :: s)) :
    ∃ members entries, Lists '\x7d' entries s ∧ List.Forall₂ IsMember members entries ∧
      (∀ member ∈ members, IsSpelling member.1) ∧ ∀ member ∈ members, IsValue member.2 := by
  simpa using value.cons_cases

theorem IsValue.of_digit (value : IsValue (c :: s)) (digit : c.isDigit = true) :
    IsUnsigned (c :: s) := by
  rcases value.cons_cases with ⟨rfl, -⟩ | ⟨rfl, -⟩ | ⟨rfl, -⟩ | ⟨rfl, -⟩ | ⟨-, unsigned⟩ |
    ⟨rfl, -⟩ | ⟨rfl, -⟩ | ⟨rfl, -⟩
  case inr.inr.inr.inr.inl => exact unsigned
  all_goals cases digit

theorem IsValue.ne_nil (value : IsValue s) : s ≠ [] := by
  cases value with
  | positive unsigned => exact unsigned.ne_nil
  | _ => exact List.cons_ne_nil _ _

/-- A value begins with a character that is no blank and ends no array. -/
theorem IsValue.exists_cons (value : IsValue s) :
    ∃ c t, s = c :: t ∧ isSpace c = false ∧ c ≠ ']' := by
  obtain ⟨c, t, rfl⟩ := List.exists_cons_of_ne_nil value.ne_nil
  refine ⟨c, t, rfl, ?_⟩
  rcases value.cons_cases with ⟨rfl, -⟩ | ⟨rfl, -⟩ | ⟨rfl, -⟩ | ⟨rfl, -⟩ | ⟨digit, -⟩ |
    ⟨rfl, -⟩ | ⟨rfl, -⟩ | ⟨rfl, -⟩
  case inr.inr.inr.inr.inl =>
    refine ⟨isSpace_of_isDigit digit, ?_⟩
    rintro rfl
    cases digit
  all_goals decide

end First

/-! ## What comes after a value -/

section After

variable {blanks s rest : List Char} {entries : List (List Char)} {close : Char}

@[simp]
theorem isBlanks_nil : IsBlanks [] := by
  simp [IsBlanks]

@[simp]
theorem isBlanks_cons_iff {c : Char} : IsBlanks (c :: s) ↔ isSpace c = true ∧ IsBlanks s :=
  List.forall_mem_cons

/-- Blanks in front are skipped. -/
theorem IsBlanks.skipSpace_append (plain : IsBlanks blanks) (s : List Char) :
    skipSpace (blanks ++ s) = skipSpace s :=
  List.dropWhile_append_of_pos plain

theorem IsBlanks.skipSpace_eq_nil (plain : IsBlanks blanks) : skipSpace blanks = [] := by
  rw [← List.append_nil blanks, plain.skipSpace_append]
  rfl

theorem endsNumber_of_isSpace {c : Char} (space : isSpace c = true) (rest : List Char) :
    EndsNumber (c :: rest) := by
  intro d first
  obtain rfl := Option.some.inj first
  simp only [isSpace, Bool.or_eq_true, beq_iff_eq] at space
  rcases space with ((rfl | rfl) | rfl) | rfl <;> decide

theorem IsBlanks.endsNumber_append (plain : IsBlanks blanks) (ends : EndsNumber s) :
    EndsNumber (blanks ++ s) := by
  cases blanks with
  | nil => exact ends
  | cons c blanks => exact endsNumber_of_isSpace (isBlanks_cons_iff.mp plain).1 _

/-- What follows an entry of a list does not go on with a number. -/
theorem Follows.endsNumber_append (follows : Follows close entries s)
    (closes : close = ']' ∨ close = '\x7d') (rest : List Char) : EndsNumber (s ++ rest) := by
  cases follows with
  | close plain =>
      rw [List.append_assoc]
      refine plain.endsNumber_append ?_
      rcases closes with rfl | rfl <;> simp [EndsNumber]
  | comma before after follows =>
      rw [List.append_assoc]
      refine before.endsNumber_append ?_
      simp [EndsNumber]

end After

end ClusterWatch.Json
