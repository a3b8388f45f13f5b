import ClusterWatch.Json.Skip
import ClusterWatch.Proofs.Json.Grammar
import Mathlib.Data.List.Forall2

/-!
# Well-formed text is passed over

Strings, numbers and values are passed over, however deep the values are nested, and the text
after them is left.  A string with its surrogates in pairs is read as the text it spells.
-/

namespace ClusterWatch.Json

open ClusterWatch.Text (dropWhile_isDigit_append)

variable {s rest : List Char}

/-! ## Strings -/

theorem simpleEscape?_of_mem :
    ∀ escape ∈ shortEscapes, simpleEscape? escape.1 = some escape.2 ∧ escape.1 ≠ 'u' := by
  decide

/-- The pieces of a string do not depend on what comes after it. -/
theorem Spelled.stringPieces_append {pieces : List StringPiece} (spelled : Spelled s pieces)
    (rest : List Char) : stringPieces (s ++ '\"' :: rest) = (pieces, .ok rest) := by
  induction spelled with
  | nil => exact stringPieces_quote rest
  | plain quote backslash visible _ ih =>
      rw [List.cons_append, stringPieces_plain _ quote backslash (Nat.not_lt.mpr visible), ih]
  | short among _ ih =>
      obtain ⟨simple, short⟩ := simpleEscape?_of_mem _ among
      rw [List.cons_append, List.cons_append, stringPieces_escape _ simple short, ih]
  | unit value _ ih =>
      simp only [List.cons_append]
      rw [stringPieces_unit _ value, ih]

theorem Joins.joinPieces_eq {pieces : List StringPiece} {text : List Char}
    (joins : Joins pieces text) : joinPieces pieces = .text text := by
  induction joins with
  | nil => rfl
  | char _ ih =>
      rw [joinPieces, ih]
      rfl
  | @unit n _ _ single _ ih =>
      have low : isLowSurrogate n = false := by
        simp [isLowSurrogate]
        omega
      have high : isHighSurrogate n = false := by
        simp [isHighSurrogate]
        omega
      rw [joinPieces.eq_def]
      simp [low, high, ih, Joined.push]
  | @pair n m _ _ above below above' below' _ ih =>
      have apart : isLowSurrogate n = false := by
        simp [isLowSurrogate]
        omega
      have high : isHighSurrogate n = true := by
        simp [isHighSurrogate]
        omega
      have low : isLowSurrogate m = true := by
        simp [isLowSurrogate]
        omega
      rw [joinPieces.eq_def]
      simp [apart, high, low, ih, Joined.push]

theorem IsSpelling.skipString_append (spelling : IsSpelling s) (rest : List Char) :
    skipString (s ++ '\"' :: rest) = .ok rest := by
  obtain ⟨pieces, spelled⟩ := spelling
  rw [skipString, spelled.stringPieces_append]

/-- A string is read as the text that it spells. -/
theorem Spells.readString_append {text : String} (spells : Spells s text) (rest : List Char) :
    readString (s ++ '\"' :: rest) = .ok (text, rest) := by
  obtain ⟨pieces, spelled, joins⟩ := spells
  simp [readString, spelled.stringPieces_append, joins.joinPieces_eq]

/-- Whether a string is read, and as which text, does not depend on what comes after it. -/
theorem IsSpelling.exists_readString (spelling : IsSpelling s) :
    ∃ result : Option String, ∀ rest,
      (readString (s ++ '\"' :: rest)).toOption = result.map fun text => (text, rest) := by
  obtain ⟨pieces, spelled⟩ := spelling
  cases joined : joinPieces pieces with
  | text chars =>
      refine ⟨some (String.ofList chars), fun rest => ?_⟩
      simp [readString, spelled.stringPieces_append, joined, Except.toOption]
  | alone =>
      refine ⟨none, fun rest => ?_⟩
      simp [readString, spelled.stringPieces_append, joined, Except.toOption]
  | unfinished =>
      refine ⟨none, fun rest => ?_⟩
      simp [readString, spelled.stringPieces_append, joined, Except.toOption]

/-! ## Numbers -/

section Numbers

variable {whole fraction exponent sign : List Char}

theorem EndsNumber.isDigit_eq_false (ends : EndsNumber rest) :
    ∀ c ∈ rest.head?, c.isDigit = false :=
  fun c first => (ends c first).1

/-- An exponent begins with no digit and no point, and neither does what comes after a number. -/
theorem IsExponent.head_append (scales : IsExponent exponent) (ends : EndsNumber rest) :
    ∀ c ∈ (exponent ++ rest).head?, c.isDigit = false ∧ c ≠ '.' := by
  intro c first
  cases scales with
  | none => exact ⟨(ends c first).1, (ends c first).2.1⟩
  | digits letter =>
      obtain rfl := Option.some.inj first
      rcases letter with rfl | rfl <;> decide

theorem IsFraction.head_append (fractional : IsFraction fraction) (scales : IsExponent exponent)
    (ends : EndsNumber rest) :
    ∀ c ∈ (fraction ++ (exponent ++ rest)).head?, c.isDigit = false := by
  intro c first
  cases fractional with
  | none => exact (scales.head_append ends c first).1
  | digits =>
      obtain rfl := Option.some.inj first
      decide

theorem headD_isDigit {s : List Char} (ends : ∀ c ∈ s.head?, c.isDigit = false) :
    (s.headD ' ').isDigit = false := by
  cases s with
  | nil => rfl
  | cons c s => exact ends c rfl

theorem IsDigits.exists_cons (digits : IsDigits s) :
    ∃ c t, s = c :: t ∧ c.isDigit = true ∧ ∀ d ∈ t, d.isDigit = true := by
  obtain ⟨some, all⟩ := digits
  obtain ⟨c, t, rfl⟩ := List.exists_cons_of_ne_nil some
  exact ⟨c, t, rfl, List.forall_mem_cons.mp all⟩

/-- The sign of an exponent is found before its digits. -/
theorem exists_exponentSign (signed : sign = [] ∨ sign = ['+'] ∨ sign = ['-'])
    (digits : IsDigits s) :
    ∃ below, ∀ rest, exponentSign (sign ++ (s ++ rest)) = (below, s ++ rest) := by
  rcases signed with rfl | rfl | rfl
  · obtain ⟨c, t, rfl, digit, -⟩ := digits.exists_cons
    refine ⟨false, fun rest => ?_⟩
    rw [List.nil_append, List.cons_append, exponentSign.eq_def]
    split
    · next same =>
        obtain ⟨rfl, -⟩ := List.cons.inj same
        cases digit
    · next same =>
        obtain ⟨rfl, -⟩ := List.cons.inj same
        cases digit
    · rfl
  · exact ⟨false, fun _ => rfl⟩
  · exact ⟨true, fun _ => rfl⟩

theorem IsDigits.skipDigits_append (digits : IsDigits s)
    (ends : ∀ c ∈ rest.head?, c.isDigit = false) : skipDigits (s ++ rest) = .ok rest := by
  have dropped := dropWhile_isDigit_append digits.2 ends
  obtain ⟨c, t, rfl, digit, -⟩ := digits.exists_cons
  rw [skipDigits, dropped]
  exact if_pos digit

theorem IsExponent.skipExponent_append (scales : IsExponent exponent) (ends : EndsNumber rest) :
    skipExponent (exponent ++ rest) = .ok rest := by
  cases scales with
  | none =>
      cases rest with
      | nil => rfl
      | cons c rest =>
          obtain ⟨-, -, small, capital⟩ := ends c rfl
          simp [skipExponent, small, capital]
  | digits letter signed digits =>
      obtain ⟨below, split⟩ := exists_exponentSign signed digits
      rw [List.cons_append, skipExponent, if_pos letter, List.append_assoc, split]
      exact digits.skipDigits_append ends.isDigit_eq_false

theorem IsWhole.isDigits (integer : IsWhole whole) : IsDigits whole := by
  cases integer with
  | zero => exact ⟨List.cons_ne_nil _ _, List.forall_mem_singleton.mpr rfl⟩
  | digits digit _ all => exact ⟨List.cons_ne_nil _ _, List.forall_mem_cons.mpr ⟨digit, all⟩⟩

/-- After the digits of an integer a number goes on with a fraction or an exponent. -/
theorem IsWhole.skipNumber_append (integer : IsWhole whole) (s : List Char) :
    (∀ c ∈ s.head?, c.isDigit = false) → skipNumber (whole ++ s) =
      match s with
      | '.' :: rest => do skipExponent (← skipDigits rest)
      | rest => skipExponent rest := by
  intro ends
  have skipped := integer.isDigits.skipDigits_append ends
  cases integer with
  | zero =>
      rw [List.singleton_append, skipNumber]
      simp only [headD_isDigit ends, Bool.false_eq_true, if_false]
      rfl
  | digits _ positive =>
      rw [List.cons_append, skipNumber.eq_def]
      split
      · next same => exact absurd (List.cons.inj same).1 positive
      · rw [← List.cons_append, skipped]
        rfl

theorem IsUnsigned.skipNumber_append (unsigned : IsUnsigned s) (ends : EndsNumber rest) :
    skipNumber (s ++ rest) = .ok rest := by
  obtain ⟨integer, fractional, scales⟩ := unsigned
  rw [List.append_assoc, List.append_assoc,
    integer.skipNumber_append _ (fractional.head_append scales ends)]
  cases fractional with
  | none =>
      rw [List.nil_append]
      split
      · next same => exact absurd rfl (scales.head_append ends '.' (by rw [same]; rfl)).2
      · exact scales.skipExponent_append ends
  | digits digits =>
      have skipped :=
        digits.skipDigits_append fun c first => (scales.head_append ends c first).1
      simp only [List.cons_append, skipped]
      exact scales.skipExponent_append ends

end Numbers

/-! ## Values -/

section Values

variable {v blanks spelling value entry : List Char} {entries : List (List Char)}
  {frames : List Frame}

/-- Within any frames, the value is passed over in as many steps as it has characters at most. -/
def Passes (v : List Char) : Prop :=
  ∀ (frames : List Frame) (blanks rest : List Char), IsBlanks blanks → EndsNumber rest →
    ∃ k ≤ v.length, ∀ steps,
      skipSteps (k + steps) ⟨.before, frames, blanks ++ (v ++ rest)⟩ =
        skipSteps steps ⟨.after, frames, rest⟩

theorem skipSteps_before (steps : Nat) (frames : List Frame) (s : List Char) :
    skipSteps (1 + steps) ⟨.before, frames, s⟩ =
      (do skipSteps steps (← Passage.enter frames s)) := by
  rw [Nat.add_comm]
  rfl

theorem skipSteps_after (steps : Nat) (frame : Frame) (frames : List Frame) (s : List Char) :
    skipSteps (1 + steps) ⟨.after, frame :: frames, s⟩ =
      (do skipSteps steps (← Passage.leave frame frames s)) := by
  rw [Nat.add_comm]
  rfl

/-- A value that is no array and no object is passed over in one step. -/
theorem passes_of_skipScalar {c : Char} {t : List Char} (solid : isSpace c = false)
    (array : c ≠ '[') (object : c ≠ '\x7b')
    (skipped : ∀ rest, EndsNumber rest → skipScalar (c :: t ++ rest) = .ok rest) :
    Passes (c :: t) := by
  intro frames blanks rest plain ends
  refine ⟨1, Nat.succ_le_succ (Nat.zero_le _), fun steps => ?_⟩
  have front : skipSpace (blanks ++ (c :: t ++ rest)) = c :: t ++ rest := by
    rw [plain.skipSpace_append, List.cons_append, skipSpace_cons solid]
  rw [skipSteps_before, Passage.enter, front]
  split
  · next same => exact absurd (List.cons.inj same).1 array
  · next same => exact absurd (List.cons.inj same).1 object
  · rw [skipped rest ends]
    rfl

theorem readColon_append (plain : IsBlanks blanks) (rest : List Char) :
    readColon (blanks ++ ':' :: rest) = .ok rest := by
  rw [readColon, plain.skipSpace_append, skipSpace_cons (by decide)]
  rfl

/-- The key of a member and its colon are passed over, and its value is left. -/
theorem IsMember.exists_skipKey (member : IsMember (spelling, value) entry)
    (spelled : IsSpelling spelling) :
    ∃ after, IsBlanks after ∧ value.length < entry.length ∧
      ∀ blanks rest, IsBlanks blanks →
        skipKey (blanks ++ (entry ++ rest)) = .ok (after ++ (value ++ rest)) := by
  obtain @⟨_, _, before, after, between, plain⟩ := member
  refine ⟨after, plain, ?_, fun blanks rest front => ?_⟩
  · simp only [List.length_cons, List.length_append]
    omega
  · rw [skipKey, front.skipSpace_append, List.cons_append, skipSpace_cons (by decide)]
    simp only [if_true, List.append_assoc, List.cons_append, spelled.skipString_append,
      readColon_append between, bind, Except.bind]

/-- The bracket that opens a frame. -/
def Frame.opening : Frame → Char
  | .array => '['
  | .object => '\x7b'

/-- The bracket that closes a frame. -/
def Frame.closing : Frame → Char
  | .array => ']'
  | .object => '\x7d'

/-- Goes on to an entry of a frame: to an item, or to the value after a key. -/
def Passage.begin (frame : Frame) (frames : List Frame) (s : List Char) : Except Failure Passage :=
  match frame with
  | .array => .ok ⟨.before, .array :: frames, s⟩
  | .object => (skipKey s).map fun rest => ⟨.before, .object :: frames, rest⟩

section Frames

variable {frame : Frame}

theorem leave_close (frame : Frame) (frames : List Frame) (plain : IsBlanks blanks) :
    Passage.leave frame frames (blanks ++ frame.closing :: rest) = .ok ⟨.after, frames, rest⟩ := by
  unfold Passage.leave
  cases frame <;> rw [plain.skipSpace_append] <;> rfl

theorem leave_comma (frame : Frame) (frames : List Frame) (plain : IsBlanks blanks) :
    Passage.leave frame frames (blanks ++ ',' :: rest) = Passage.begin frame frames rest := by
  unfold Passage.leave
  cases frame <;> rw [plain.skipSpace_append] <;> rfl

theorem enter_close (frame : Frame) (frames : List Frame) (plain : IsBlanks blanks)
    {gap : List Char} (blank : IsBlanks gap) :
    Passage.enter frames (blanks ++ frame.opening :: (gap ++ frame.closing :: rest)) =
      .ok ⟨.after, frames, rest⟩ := by
  unfold Passage.enter
  cases frame <;> rw [plain.skipSpace_append, skipSpace_cons (by decide)] <;>
    simp only [Frame.opening, Frame.closing, blank.skipSpace_append] <;> rfl

theorem enter_entry (frame : Frame) (frames : List Frame) (plain : IsBlanks blanks)
    {gap : List Char} (blank : IsBlanks gap) {c : Char} {t : List Char}
    (solid : isSpace c = false) (opens : c ≠ frame.closing) :
    Passage.enter frames (blanks ++ frame.opening :: (gap ++ c :: t)) =
      Passage.begin frame frames (c :: t) := by
  unfold Passage.enter
  rw [plain.skipSpace_append]
  cases frame with
  | array =>
      simp only [Frame.opening]
      rw [skipSpace_cons (by decide)]
      simp only [blank.skipSpace_append, skipSpace_cons solid]
      split
      · next same => exact absurd (List.cons.inj same).1 opens
      · rfl
  | object =>
      simp only [Frame.opening]
      rw [skipSpace_cons (by decide)]
      simp only [blank.skipSpace_append, skipSpace_cons solid]
      split
      · next same => exact absurd (List.cons.inj same).1 opens
      · rfl

/-- An entry of a frame is passed over. -/
structure Proceeds (frame : Frame) (entry : List Char) : Prop where
  starts : ∃ c t, entry = c :: t ∧ isSpace c = false ∧ c ≠ frame.closing
  passes : ∀ (frames : List Frame) (blanks rest : List Char), IsBlanks blanks → EndsNumber rest →
    ∃ k ≤ entry.length, ∀ steps,
      (do skipSteps (k + steps) (← Passage.begin frame frames (blanks ++ (entry ++ rest)))) =
        skipSteps steps ⟨.after, frame :: frames, rest⟩

theorem proceeds_item (value : IsValue v) (passes : Passes v) : Proceeds .array v where
  starts := value.exists_cons
  passes := fun frames blanks rest plain ends => passes (.array :: frames) blanks rest plain ends

theorem proceeds_member (member : IsMember (spelling, value) entry)
    (spelled : IsSpelling spelling) (passes : Passes value) : Proceeds .object entry where
  starts := by
    cases member
    exact ⟨_, _, rfl, by decide, by decide⟩
  passes := by
    intro frames blanks rest plain ends
    obtain ⟨after, blank, shorter, key⟩ := member.exists_skipKey spelled
    obtain ⟨k, few, passed⟩ := passes (.object :: frames) after rest blank ends
    refine ⟨k, by omega, fun steps => ?_⟩
    rw [Passage.begin, key blanks rest plain]
    exact passed steps

theorem proceeds_members {members : List (List Char × List Char)}
    (keyed : List.Forall₂ IsMember members entries)
    (spelled : ∀ member ∈ members, IsSpelling member.1)
    (passes : ∀ member ∈ members, Passes member.2) :
    ∀ entry ∈ entries, Proceeds .object entry := by
  induction keyed with
  | nil => nofun
  | cons member _ ih =>
      obtain ⟨spelling, others⟩ := List.forall_mem_cons.mp spelled
      obtain ⟨passed, later⟩ := List.forall_mem_cons.mp passes
      exact List.forall_mem_cons.mpr ⟨proceeds_member member spelling passed, ih others later⟩

theorem Follows.endsNumber_of_frame (follows : Follows frame.closing entries s)
    (rest : List Char) : EndsNumber (s ++ rest) :=
  follows.endsNumber_append (by cases frame <;> simp [Frame.closing]) rest

/-- What follows an entry is passed over, to the end of the frame. -/
theorem Follows.passes (follows : Follows frame.closing entries s)
    (proceeds : ∀ entry ∈ entries, Proceeds frame entry) (frames : List Frame)
    (rest : List Char) :
    ∃ k ≤ s.length, ∀ steps,
      skipSteps (k + steps) ⟨.after, frame :: frames, s ++ rest⟩ =
        skipSteps steps ⟨.after, frames, rest⟩ := by
  induction follows with
  | close plain =>
      refine ⟨1, by simp, fun steps => ?_⟩
      rw [skipSteps_after, List.append_assoc, List.singleton_append, leave_close frame frames plain]
      rfl
  | @comma before after entry s entries plain plain' follows ih =>
      obtain ⟨first, others⟩ := List.forall_mem_cons.mp proceeds
      obtain ⟨k, few, passed⟩ :=
        first.passes frames after (s ++ rest) plain' (follows.endsNumber_of_frame rest)
      obtain ⟨l, fewer, left⟩ := ih others
      refine ⟨1 + (k + l), ?_, fun steps => ?_⟩
      · simp only [List.length_append, List.length_cons]
        omega
      · simp only [List.append_assoc, List.cons_append]
        rw [Nat.add_assoc, skipSteps_after, leave_comma frame frames plain, Nat.add_assoc, passed,
          left]

/-- A list is passed over with its brackets. -/
theorem Lists.passes (frame : Frame) (lists : Lists frame.closing entries s)
    (proceeds : ∀ entry ∈ entries, Proceeds frame entry) : Passes (frame.opening :: s) := by
  intro frames blanks rest plain ends
  cases lists with
  | empty blank =>
      refine ⟨1, by simp, fun steps => ?_⟩
      rw [skipSteps_before, List.cons_append, List.append_assoc, List.singleton_append,
        enter_close frame frames plain blank]
      rfl
  | @entries gap entry s entries blank follows =>
      obtain ⟨first, others⟩ := List.forall_mem_cons.mp proceeds
      obtain ⟨k, few, passed⟩ :=
        first.passes frames [] (s ++ rest) isBlanks_nil (follows.endsNumber_of_frame rest)
      obtain ⟨l, fewer, left⟩ := follows.passes others frames rest
      obtain ⟨c, t, rfl, solid, opens⟩ := first.starts
      refine ⟨1 + (k + l), ?_, fun steps => ?_⟩
      · simp only [List.length_append, List.length_cons] at few ⊢
        omega
      · simp only [List.append_assoc, List.cons_append, List.nil_append] at passed ⊢
        rw [Nat.add_assoc, skipSteps_before, enter_entry frame frames plain blank solid opens,
          Nat.add_assoc, passed, left]

end Frames

/-- A value is passed over, however deep its arrays and objects are nested. -/
theorem IsValue.passes (value : IsValue v) : Passes v := by
  induction value with
  | nullWord | trueWord | falseWord =>
      exact passes_of_skipScalar (by decide) (by decide) (by decide) fun _ _ => rfl
  | positive unsigned =>
      obtain ⟨c, t, rfl⟩ := List.exists_cons_of_ne_nil unsigned.ne_nil
      have digit := unsigned.isDigit
      have differs {d : Char} (other : d.isDigit = false) : c ≠ d := by
        rintro rfl
        rw [digit] at other
        cases other
      refine passes_of_skipScalar (isSpace_of_isDigit digit) (differs rfl) (differs rfl)
        fun rest ends => ?_
      have skipped := unsigned.skipNumber_append ends
      rw [List.cons_append] at skipped ⊢
      simp [skipScalar, differs, digit, skipped]
  | negative unsigned =>
      refine passes_of_skipScalar (by decide) (by decide) (by decide) fun rest ends => ?_
      exact unsigned.skipNumber_append ends
  | string spelling =>
      refine passes_of_skipScalar (by decide) (by decide) (by decide) fun rest _ => ?_
      rw [List.cons_append, List.append_assoc]
      exact spelling.skipString_append rest
  | array lists values ih =>
      exact Lists.passes .array lists
        fun item mem => proceeds_item (values item mem) (ih item mem)
  | object lists keyed spelled values ih =>
      exact Lists.passes .object lists (proceeds_members keyed spelled ih)

theorem IsValue.skipValue_append (value : IsValue v) (plain : IsBlanks blanks)
    (ends : EndsNumber rest) : skipValue (blanks ++ (v ++ rest)) = .ok rest := by
  obtain ⟨k, few, passed⟩ := value.passes [] blanks rest plain ends
  have enough : (blanks ++ (v ++ rest)).length + 2 =
      k + ((blanks ++ (v ++ rest)).length + 1 - k + 1) := by
    simp only [List.length_append]
    omega
  rw [skipValue, enough, passed]
  rfl

end Values

end ClusterWatch.Json
