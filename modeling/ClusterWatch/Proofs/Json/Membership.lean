import ClusterWatch.Json.Fields
import ClusterWatch.Proofs.Json.Settled

/-!
# Records are told by their members

What a record is read as from an object is settled by the members of the object: by what stands
under the keys of the record, in whatever order and among whatever other members it stands there.
-/

namespace ClusterWatch.Json

open Fields (Slots)

variable {α β : Type} {s rest blanks : List Char}

/-! ## Entries that remain -/

/-- The text of a list that is left: all of it after the opening bracket, or what follows an
entry. -/
def Remains (close : Char) (first : Bool) (entries : List (List Char)) (s : List Char) : Prop :=
  match first with
  | true => Lists close entries s
  | false => Follows close entries s

/-- In a sequence there is an end or an item to be read. -/
theorem Remains.nextElement_cases {first : Bool} {items : List (List Char)}
    (remains : Remains ']' first items s) (values : ∀ item ∈ items, IsValue item) :
    (items = [] ∧ ∀ rest, nextElement first (s ++ rest) = .ok (.done rest) ∧
      readSequenceEnd (s ++ rest) = .ok rest) ∨
    ∃ item others t, items = item :: others ∧ Remains ']' false others t ∧
      ∀ rest, nextElement first (s ++ rest) = .ok (.entry (item ++ (t ++ rest))) ∧
        (readSequenceEnd (s ++ rest)).toOption = none := by
  cases first with
  | true =>
      cases remains with
      | empty plain =>
          refine .inl ⟨rfl, fun rest => ?_⟩
          rw [List.append_assoc, nextElement, readSequenceEnd, plain.skipSpace_append]
          exact ⟨rfl, rfl⟩
      | @entries _ item t others plain follows =>
          obtain ⟨c, u, rfl, solid, opens⟩ := (values item List.mem_cons_self).exists_cons
          refine .inr ⟨_, others, t, rfl, follows, fun rest => ?_⟩
          simp only [List.append_assoc, List.cons_append]
          rw [nextElement, readSequenceEnd, plain.skipSpace_append, skipSpace_cons solid]
          simp only [opens, if_false, if_true, true_and]
          rfl
  | false =>
      cases remains with
      | close plain =>
          refine .inl ⟨rfl, fun rest => ?_⟩
          rw [List.append_assoc, nextElement, readSequenceEnd, plain.skipSpace_append]
          exact ⟨rfl, rfl⟩
      | @comma _ _ item t others plain plain' follows =>
          obtain ⟨c, u, rfl, solid, opens⟩ := (values item List.mem_cons_self).exists_cons
          refine .inr ⟨_, others, t, rfl, follows, fun rest => ?_⟩
          simp only [List.append_assoc, List.cons_append]
          rw [nextElement, readSequenceEnd, plain.skipSpace_append, skipSpace_cons (by decide)]
          simp only [plain'.skipSpace_append, skipSpace_cons solid, opens]
          exact ⟨rfl, rfl⟩

/-- In an object there is an end or a member to be read. -/
theorem Remains.nextKey_cases {first : Bool} {entries : List (List Char)}
    {members : List (List Char × List Char)} (remains : Remains '\x7d' first entries s)
    (keyed : List.Forall₂ IsMember members entries) :
    (members = [] ∧ ∀ rest, nextKey first (s ++ rest) = .ok (.done rest)) ∨
    ∃ spelling v others more before after t, members = (spelling, v) :: others ∧
      List.Forall₂ IsMember others more ∧ IsBlanks before ∧ IsBlanks after ∧
      Remains '\x7d' false more t ∧
      ∀ rest, nextKey first (s ++ rest) = .ok (.entry (spelling ++
        '\"' :: (before ++ ':' :: (after ++ (v ++ (t ++ rest)))))) := by
  cases first with
  | true =>
      cases remains with
      | empty plain =>
          cases keyed
          refine .inl ⟨rfl, fun rest => ?_⟩
          rw [List.append_assoc, nextKey, plain.skipSpace_append]
          rfl
      | entries plain follows =>
          cases keyed with
          | cons member keyed =>
              obtain ⟨between, after⟩ := member
              refine .inr ⟨_, _, _, _, _, _, _, rfl, keyed, between, after, follows, fun rest => ?_⟩
              simp only [List.append_assoc, List.cons_append]
              rw [nextKey, plain.skipSpace_append, skipSpace_cons (by decide)]
              rfl
  | false =>
      cases remains with
      | close plain =>
          cases keyed
          refine .inl ⟨rfl, fun rest => ?_⟩
          rw [List.append_assoc, nextKey, plain.skipSpace_append]
          rfl
      | comma plain plain' follows =>
          cases keyed with
          | cons member keyed =>
              obtain ⟨between, after⟩ := member
              refine .inr ⟨_, _, _, _, _, _, _, rfl, keyed, between, after, follows, fun rest => ?_⟩
              simp only [List.append_assoc, List.cons_append]
              rw [nextKey, plain.skipSpace_append, skipSpace_cons (by decide)]
              simp only [plain'.skipSpace_append, skipSpace_cons (c := '\"') (by decide)]
              rfl

theorem Remains.endsNumber_append {close : Char} {entries : List (List Char)}
    (remains : Remains close false entries s) (closes : close = ']' ∨ close = '\x7d')
    (rest : List Char) : EndsNumber (s ++ rest) :=
  Follows.endsNumber_append remains closes rest

theorem Follows.length_lt {close : Char} {entries : List (List Char)}
    (follows : Follows close entries s) : entries.length < s.length := by
  induction follows with
  | close _ => simp
  | comma _ _ _ ih =>
      simp only [List.length_append, List.length_cons]
      omega

/-- Every entry of a list takes a character. -/
theorem Lists.length_le {close : Char} {entries : List (List Char)}
    (lists : Lists close entries s) : entries.length ≤ s.length := by
  cases lists with
  | empty _ => exact Nat.zero_le _
  | entries _ follows =>
      have taken := follows.length_lt
      simp only [List.length_append, List.length_cons]
      omega

/-! ## Members of an object -/

/-- The text that stands between the quotes of a key, if there is one. -/
def keyOf (spelling : List Char) : Option String :=
  (readString (spelling ++ ['\"'])).toOption.map Prod.fst

theorem Spells.keyOf_eq {spelling : List Char} {key : String} (spells : Spells spelling key) :
    keyOf spelling = some key := by
  rw [keyOf, spells.readString_append]
  rfl

theorem IsSpelling.toOption_readString {spelling : List Char} (spelled : IsSpelling spelling)
    (rest : List Char) :
    (readString (spelling ++ '\"' :: rest)).toOption =
      (keyOf spelling).map fun key => (key, rest) := by
  obtain ⟨result, settled⟩ := spelled.exists_readString
  rw [keyOf, settled rest, settled []]
  cases result <;> rfl

namespace Fields

/-- The readers of all values are settled. -/
def Settled : {α : Type} → Fields α → Prop
  | _, .nil => True
  | _, .cons _ value _ others => IsSettled value ∧ others.Settled

/-- Puts the value of a known key in its place. -/
def fill (repeatable : Bool) (key : String) (v : List Char) :
    {α : Type} → (fields : Fields α) → Slots fields → Option (Slots fields)
  | _, .nil, slots => some slots
  | _, .cons name value _ others, slots =>
      if name = key then
        if slots.1.isSome ∧ !repeatable then none
        else (value.decode (String.ofList v)).toOption.map fun b => (some b, slots.2)
      else (fill repeatable key v others slots.2).map fun later => (slots.1, later)

/-- Puts the values of all members in their places, one after another. -/
def fillAll (repeatable : Bool) (fields : Fields α) :
    List (List Char × List Char) → Slots fields → Option (Slots fields)
  | [], slots => some slots
  | (spelling, v) :: members, slots =>
      (keyOf spelling).bind fun key =>
        (fields.fill repeatable key v slots).bind fun slots =>
          fillAll repeatable fields members slots

variable {repeatable : Bool} {fields : Fields α} {key : String} {v : List Char}

theorem fill_of_unknown (unknown : key ∉ fields.keys) (slots : Slots fields) :
    fields.fill repeatable key v slots = some slots := by
  induction fields with
  | nil => rfl
  | cons name value absence others ih =>
      have differs : name ≠ key := (List.ne_of_not_mem_cons unknown).symm
      rw [fill, if_neg differs, ih (List.not_mem_of_not_mem_cons unknown)]
      rfl

theorem readMember?_of_unknown (unknown : key ∉ fields.keys) (slots : Slots fields)
    (s : List Char) : fields.readMember? repeatable key slots s = none := by
  induction fields with
  | nil => rfl
  | cons name value absence others ih =>
      have differs : name ≠ key := (List.ne_of_not_mem_cons unknown).symm
      rw [Fields.readMember?, if_neg differs, ih (List.not_mem_of_not_mem_cons unknown)]
      rfl

/-- The value of a known key settles what is put in its place. -/
theorem Settled.readMember? (settled : fields.Settled) (repeatable : Bool)
    (known : key ∈ fields.keys) {before after : List Char} (between : IsBlanks before)
    (plain : IsBlanks after) (value : IsValue v) (slots : Slots fields) :
    ∀ rest, EndsNumber rest → ∃ read, fields.readMember? repeatable key slots
        (before ++ ':' :: (after ++ (v ++ rest))) = some read ∧
      read.toOption = (fields.fill repeatable key v slots).map fun slots => (slots, rest) := by
  intro rest ends
  induction fields with
  | nil => cases known
  | cons name reader absence others ih =>
      rw [Fields.readMember?, fill]
      by_cases same : name = key
      · rw [if_pos same, if_pos same]
        split
        · exact ⟨_, rfl, rfl⟩
        · refine ⟨_, rfl, ?_⟩
          rw [readColon_append between]
          have taken := (settled.1.settles value).toOption_append ends
          rw [← settled.1.skips _ plain] at taken
          rcases cases_of_toOption taken with ⟨failure, read, decoded⟩ | ⟨b, read, decoded⟩ <;>
            rw [decoded] <;> simp only [bind, Except.bind, read] <;> rfl
      · rw [if_neg same, if_neg same]
        obtain ⟨read, reads, taken⟩ :=
          ih settled.2 (List.mem_of_ne_of_mem (Ne.symm same) known) slots.2
        refine ⟨_, congrArg (Option.map _) reads, ?_⟩
        rcases cases_of_toOption taken with ⟨failure, rfl, filled⟩ | ⟨later, rfl, filled⟩ <;>
          rw [filled] <;> rfl

/-- A value is put in its place, or passed over if its key is unknown. -/
theorem Settled.readMember (settled : fields.Settled) {before after : List Char}
    (between : IsBlanks before) (plain : IsBlanks after) (value : IsValue v)
    (slots : Slots fields) (ends : EndsNumber rest) :
    (fields.readMember repeatable key slots (before ++ ':' :: (after ++ (v ++ rest)))).toOption =
      (fields.fill repeatable key v slots).map fun slots => (slots, rest) := by
  rw [Fields.readMember]
  by_cases known : key ∈ fields.keys
  · obtain ⟨read, reads, taken⟩ :=
      settled.readMember? repeatable known between plain value slots rest ends
    rw [reads]
    exact taken
  · rw [readMember?_of_unknown known, fill_of_unknown known]
    simp only [readColon_append between, bind, Except.bind, value.skipValue_append plain ends]
    rfl

/-- The members of an object settle what is put in the places of a record. -/
theorem Settled.readMembers (settled : fields.Settled) (repeatable : Bool)
    {members : List (List Char × List Char)} {entries : List (List Char)} {first : Bool}
    (remains : Remains '\x7d' first entries s) (keyed : List.Forall₂ IsMember members entries)
    (spelled : ∀ member ∈ members, IsSpelling member.1)
    (values : ∀ member ∈ members, IsValue member.2) (slots : Slots fields) {steps : Nat}
    (enough : members.length < steps) (rest : List Char) :
    (fields.readMembers repeatable steps first slots (s ++ rest)).toOption =
      (fields.fillAll repeatable members slots).map fun slots => (slots, rest) := by
  -- Each step takes one member off the text, so `first` and the places vary with the members.
  induction members generalizing first s entries slots steps with
  | nil =>
      obtain ⟨steps, rfl⟩ := Nat.exists_eq_succ_of_ne_zero (Nat.ne_of_gt enough)
      rcases remains.nextKey_cases keyed with ⟨-, next⟩ | ⟨_, _, _, _, _, _, _, more, -⟩
      · rw [Fields.readMembers, next]
        rfl
      · cases more
  | cons member members ih =>
      obtain ⟨steps, rfl⟩ := Nat.exists_eq_succ_of_ne_zero (Nat.ne_of_gt (Nat.zero_lt_of_lt enough))
      rcases remains.nextKey_cases keyed with ⟨none, -⟩ |
        ⟨spelling, v, others, more, before, after, t, same, keyed, between, plain, follows, next⟩
      · cases none
      · obtain ⟨rfl, rfl⟩ := List.cons.inj same
        obtain ⟨spelling, others⟩ := List.forall_mem_cons.mp spelled
        obtain ⟨value, later⟩ := List.forall_mem_cons.mp values
        rw [Fields.readMembers, next, fillAll]
        simp only [bind, Except.bind]
        rcases cases_of_toOption (spelling.toOption_readString _) with
          ⟨failure, read, key⟩ | ⟨key, read, named⟩
        · rw [read, key]
          rfl
        · rw [read, named]
          simp only [Option.bind_some]
          rcases cases_of_toOption (settled.readMember between plain value slots
            (follows.endsNumber_append (.inr rfl) rest)) with
            ⟨failure, read, filled⟩ | ⟨slots', read, filled⟩
          · rw [read, filled]
            rfl
          · rw [read, filled]
            exact ih follows keyed others later slots' (Nat.lt_of_succ_lt_succ enough)

end Fields

/-! ## Records -/

/-- The members of an object settle what a record is read as from it. -/
theorem toOption_readRecord_object {fields : Fields α} (settled : fields.Settled)
    (style : RecordStyle) {members : List (List Char × List Char)} {entries : List (List Char)}
    (lists : Lists '\x7d' entries s) (keyed : List.Forall₂ IsMember members entries)
    (spelled : ∀ member ∈ members, IsSpelling member.1)
    (values : ∀ member ∈ members, IsValue member.2) (rest : List Char) :
    (readRecord style fields ('\x7b' :: (s ++ rest))).toOption =
      ((fields.fillAll style.repeatable members fields.empty).bind fun slots =>
        (fields.finish slots).toOption).map fun a => (a, rest) := by
  have enough : members.length < (s ++ rest).length + 1 := by
    have enough := lists.length_le
    rw [← keyed.length_eq] at enough
    rw [List.length_append]
    omega
  rw [readRecord, skipSpace_cons (by decide)]
  simp only [if_true, bind, Except.bind]
  have remains : Remains '\x7d' true entries s := lists
  have filled :=
    settled.readMembers style.repeatable remains keyed spelled values fields.empty enough rest
  rcases cases_of_toOption filled with
    ⟨failure, read, filled⟩ | ⟨slots, read, filled⟩
  · rw [read, filled]
    rfl
  · rw [read, filled]
    simp only [Option.bind_some]
    cases fields.finish slots <;> rfl

/-- Reads the fields of a record from the items of an array, and the end of the array. -/
def readItems (expected : String) (fields : Fields α) (count : Nat) : Reader α := fun s => do
  let (a, rest) ← fields.readSequence expected count s
  let rest ← readSequenceEnd rest
  .ok (a, rest)

section Items

variable {γ : Type} {expected name : String} {value : Reader β} {absence : Absence β}
  {others : Fields γ} {count : Nat} {t : List Char}

/-- Once the items are at their end, a field has its default. -/
theorem toOption_readItems_of_done (done : nextElement (count = 0) s = .ok (.done rest)) :
    (readItems expected (.cons name value absence others) count s).toOption =
      absence.inSequence.bind fun b =>
        ((readItems expected others count).map fun row => (b, row)) s |>.toOption := by
  simp only [readItems, Reader.map, Fields.readSequence, done, bind, Except.bind]
  cases absence.inSequence with
  | none => rfl
  | some b =>
      simp only [Option.bind_some]
      cases others.readSequence expected count s with
      | error _ => rfl
      | ok read => simp only; cases readSequenceEnd read.2 <;> rfl

/-- An item is read as the value of a field. -/
theorem toOption_readItems_of_entry (entry : nextElement (count = 0) s = .ok (.entry t)) :
    (readItems expected (.cons name value absence others) count s).toOption =
      (value t).toOption.bind fun (b, t) =>
        ((readItems expected others (count + 1)).map fun row => (b, row)) t |>.toOption := by
  simp only [readItems, Reader.map, Fields.readSequence, entry, bind, Except.bind]
  cases value t with
  | error _ => rfl
  | ok read =>
      simp only [Except.toOption, Option.bind_some]
      cases others.readSequence expected (count + 1) read.2 with
      | error _ => rfl
      | ok more => simp only; cases readSequenceEnd more.2 <;> rfl

end Items

/-- The items of an array settle what a record is read as from it. -/
theorem Fields.Settled.settles_readItems {fields : Fields α} (settled : fields.Settled)
    (expected : String) {count : Nat} {items : List (List Char)}
    (remains : Remains ']' (count = 0) items s) (values : ∀ item ∈ items, IsValue item) :
    Settles (readItems expected fields count) s := by
  -- The fields decide how many items are read; items that are left over make the end fail.
  induction fields generalizing count items s with
  | nil =>
      rcases remains.nextElement_cases values with ⟨-, done⟩ | ⟨_, _, _, -, -, entry⟩
      · refine settles_of_ok () fun rest _ => ?_
        simp only [readItems, Fields.readSequence, bind, Except.bind, (done rest).2]
      · refine settles_of_error fun rest _ => ?_
        have fails := (entry rest).2
        simp only [readItems, Fields.readSequence, bind, Except.bind]
        revert fails
        cases readSequenceEnd (s ++ rest) <;> simp [Except.toOption]
  | cons name value absence others ih =>
      rcases remains.nextElement_cases values with ⟨-, done⟩ | ⟨v, later, t, rfl, remains, entry⟩
      · cases default : absence.inSequence with
        | none =>
            refine settles_of_error fun rest _ => ?_
            rw [toOption_readItems_of_done (done rest).1, default]
            rfl
        | some b =>
            obtain ⟨result, settled⟩ := (ih settled.2 remains values).map fun row => (b, row)
            refine ⟨result, fun rest ends => ?_⟩
            rw [toOption_readItems_of_done (done rest).1, default]
            exact settled rest ends
      · obtain ⟨value, values⟩ := List.forall_mem_cons.mp values
        have more : Settles (readItems expected others (count + 1)) t :=
          ih settled.2 remains values
        obtain ⟨first, settled⟩ := settled.1.settles value
        cases first with
        | none =>
            refine settles_of_error fun rest _ => ?_
            rw [toOption_readItems_of_entry (entry rest).1,
              settled _ (remains.endsNumber_append (.inl rfl) rest)]
            rfl
        | some b =>
            obtain ⟨result, others⟩ := more.map fun row => (b, row)
            refine ⟨result, fun rest ends => ?_⟩
            rw [toOption_readItems_of_entry (entry rest).1,
              settled _ (remains.endsNumber_append (.inl rfl) rest)]
            exact others rest ends

/-- A record is settled if the values of its fields are. -/
theorem Fields.Settled.isSettled_readRecord {fields : Fields α} (settled : fields.Settled)
    (style : RecordStyle) : IsSettled (readRecord style fields) := by
  refine isSettled_of_cons (fun s plain => by rw [readRecord, plain.skipSpace_append, readRecord])
    fun c t solid value => ?_
  by_cases brace : c = '\x7b'
  · subst brace
    obtain ⟨members, entries, lists, keyed, spelled, values⟩ := value.of_brace
    exact ⟨_, fun rest _ =>
      toOption_readRecord_object settled style lists keyed spelled values rest⟩
  · by_cases bracket : c = '[' ∧ style.sequential = true
    · obtain ⟨rfl, sequential⟩ := bracket
      obtain ⟨items, lists, values⟩ := value.of_bracket
      obtain ⟨result, taken⟩ := settled.settles_readItems (style.expectedLength fields.size)
        (show Remains ']' (0 = 0) items t from lists) values
      refine ⟨result, fun rest ends => ?_⟩
      rw [← taken rest ends, List.cons_append, readRecord, skipSpace_cons solid, readItems]
      simp only [brace, sequential, if_false, if_true, true_and]
    · refine settles_of_error fun rest _ => ?_
      rw [List.cons_append, readRecord, skipSpace_cons solid]
      simp only [brace, bracket, if_false]
      rfl

/-! ## Names -/

/-- A key is read from where the first member begins. -/
theorem keyText_eq_of_nextKey (first : nextKey true s = .ok (.entry rest)) :
    keyText s = readString rest := by
  rw [nextKey] at first
  rw [keyText]
  split at first <;> grind

theorem toOption_keyText_of_nextKey_done (first : nextKey true s = .ok (.done rest)) :
    (keyText s).toOption = none := by
  rw [nextKey] at first
  rw [keyText]
  split at first <;> grind [Except.toOption]

/-- After an entry an object is closed, or a comma follows. -/
theorem Follows.skipSpace_cases {entries : List (List Char)}
    (follows : Follows '\x7d' entries s) :
    (∀ rest, skipSpace (s ++ rest) = '\x7d' :: rest) ∨
      ∀ rest, ∃ t, skipSpace (s ++ rest) = ',' :: t := by
  cases follows with
  | close plain =>
      refine .inl fun rest => ?_
      rw [List.append_assoc, plain.skipSpace_append]
      rfl
  | comma before after follows =>
      refine .inr fun rest => ?_
      rw [List.append_assoc, before.skipSpace_append]
      exact ⟨_, rfl⟩

/-- Reads the `null` that stands under the only key of an object, and the end of the object. -/
def readOnlyNull (s : List Char) : Except Failure (List Char) := do
  let rest ← readColon s
  let (_, rest) ← nothing rest
  match skipSpace rest with
  | [] => .error .incomplete
  | c :: rest => if c = '\x7d' then .ok rest else .error .malformed

theorem oneOf_object (known : List (String × α)) (s : List Char) :
    oneOf known ('\x7b' :: s) = (keyText.check (variant known) s).bind fun (a, rest) =>
      (readOnlyNull rest).map fun rest => (a, rest) := by
  rw [oneOf, skipSpace_cons (by decide)]
  simp only [show '\x7b' ≠ '\"' by decide, if_false, if_true, bind, readOnlyNull]
  cases keyText.check (variant known) s with
  | error _ => rfl
  | ok read =>
      simp only [Except.bind]
      cases readColon read.2 with
      | error _ => rfl
      | ok rest =>
          simp only
          cases nothing rest with
          | error _ => rfl
          | ok read =>
              simp only
              cases skipSpace read.2 with
              | nil => rfl
              | cons c rest => by_cases close : c = '\x7d' <;> simp [close, Except.map]

theorem toOption_oneOf_object (known : List (String × α)) (s : List Char) :
    (oneOf known ('\x7b' :: s)).toOption = (keyText s).toOption.bind fun (name, rest) =>
      (variant known name).toOption.bind fun a =>
        (readOnlyNull rest).toOption.map fun rest => (a, rest) := by
  rw [oneOf_object, Reader.check]
  cases keyText s with
  | error _ => rfl
  | ok read =>
      simp only [Except.toOption, Option.bind_some]
      cases variant known read.1 with
      | error _ => rfl
      | ok a => cases hnull : readOnlyNull read.2 <;> simp [Except.bind, Except.map, hnull]

theorem exists_readOnlyNull {v before after : List Char} {entries : List (List Char)}
    (between : IsBlanks before) (plain : IsBlanks after) (value : IsValue v)
    (follows : Follows '\x7d' entries s) :
    ∃ result : Option Unit, ∀ rest,
      (readOnlyNull (before ++ ':' :: (after ++ (v ++ (s ++ rest))))).toOption =
        result.map fun _ => rest := by
  obtain ⟨null, taken⟩ := isSettled_nothing.settles value
  have front : ∀ rest, readOnlyNull (before ++ ':' :: (after ++ (v ++ (s ++ rest)))) =
      (nothing (v ++ (s ++ rest))).bind fun read =>
        match skipSpace read.2 with
        | [] => .error .incomplete
        | c :: rest => if c = '\x7d' then .ok rest else .error .malformed := by
    intro rest
    rw [readOnlyNull, readColon_append between, ← isSettled_nothing.skips _ plain]
    rfl
  rcases follows.skipSpace_cases with closed | more
  · refine ⟨null, fun rest => ?_⟩
    rw [front]
    rcases cases_of_toOption (taken _ (follows.endsNumber_append (.inr rfl) rest)) with
      ⟨failure, read, rfl⟩ | ⟨_, read, rfl⟩
    · rw [read]
      rfl
    · rw [read]
      simp only [Except.bind, closed]
      rfl
  · refine ⟨none, fun rest => ?_⟩
    rw [front]
    rcases cases_of_toOption (taken _ (follows.endsNumber_append (.inr rfl) rest)) with
      ⟨failure, read, rfl⟩ | ⟨_, read, rfl⟩
    · rw [read]
      rfl
    · obtain ⟨t, comma⟩ := more rest
      rw [read]
      simp only [Except.bind, comma]
      rfl

/-- A name is told by the only key of an object, under which `null` stands. -/
theorem settles_oneOf_object (known : List (String × α)) {members : List (List Char × List Char)}
    {entries : List (List Char)} (lists : Lists '\x7d' entries s)
    (keyed : List.Forall₂ IsMember members entries)
    (spelled : ∀ member ∈ members, IsSpelling member.1)
    (values : ∀ member ∈ members, IsValue member.2) : Settles (oneOf known) ('\x7b' :: s) := by
  have remains : Remains '\x7d' true entries s := lists
  rcases remains.nextKey_cases keyed with ⟨rfl, done⟩ |
    ⟨spelling, v, others, more, before, after, u, rfl, keyed, between, plain, follows, next⟩
  · refine settles_of_error fun rest _ => ?_
    rw [List.cons_append, toOption_oneOf_object, toOption_keyText_of_nextKey_done (done rest)]
    rfl
  · obtain ⟨spelled, -⟩ := List.forall_mem_cons.mp spelled
    obtain ⟨null, taken⟩ :=
      exists_readOnlyNull between plain (List.forall_mem_cons.mp values).1 follows
    refine ⟨(keyOf spelling).bind fun name => (variant known name).toOption.bind fun a =>
      null.map fun _ => a, fun rest _ => ?_⟩
    rw [List.cons_append, toOption_oneOf_object, keyText_eq_of_nextKey (next rest),
      spelled.toOption_readString]
    cases keyOf spelling with
    | none => rfl
    | some name =>
        simp only [Option.map_some, Option.bind_some]
        cases variant known name with
        | error _ => rfl
        | ok a =>
            simp only [Except.toOption, Option.bind_some] at taken ⊢
            rw [taken]
            cases null <;> rfl

/-- One of the known names is told by a string, or by the only key of an object. -/
theorem isSettled_oneOf (known : List (String × α)) : IsSettled (oneOf known) := by
  refine isSettled_of_cons (fun s plain => by rw [oneOf, plain.skipSpace_append, oneOf])
    fun c t solid value => ?_
  by_cases quote : c = '\"'
  · subst quote
    obtain ⟨result, taken⟩ := (isSettled_text.check (variant known)).settles value
    refine ⟨result, fun rest ends => ?_⟩
    rw [← taken rest ends, List.cons_append, oneOf, skipSpace_cons solid]
    rfl
  · by_cases brace : c = '\x7b'
    · subst brace
      obtain ⟨members, entries, lists, keyed, spelled, values⟩ := value.of_brace
      exact settles_oneOf_object known lists keyed spelled values
    · refine settles_of_error fun rest _ => ?_
      rw [List.cons_append, oneOf, skipSpace_cons solid]
      simp only [quote, brace, if_false]
      rfl

end ClusterWatch.Json
