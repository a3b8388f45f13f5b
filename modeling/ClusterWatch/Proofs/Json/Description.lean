import ClusterWatch.Proofs.Json.Membership
import ClusterWatch.Proofs.Json.Reader

/-!
# Which objects are read as a record

A record is read from an object if its members say so: no known key occurs twice, and under each
stands a value of its field, which has its default where the key does not occur.  The order of the
members and all other members do not matter.
-/

namespace ClusterWatch.Json

open Fields (Slots)

variable {α β : Type}

/-- The members of an object: their keys, and the texts of their values. -/
abbrev Members : Type :=
  List (String × List Char)

/-- The texts that stand under a key. -/
def valuesAt (key : String) (members : Members) : List (List Char) :=
  (members.filter fun member => member.1 = key).map Prod.snd

section Field

variable {key name : String} {v : List Char} {members : Members}

@[simp]
theorem valuesAt_nil (key : String) : valuesAt key [] = [] :=
  rfl

@[simp]
theorem valuesAt_cons_self (key : String) (v : List Char) (members : Members) :
    valuesAt key ((key, v) :: members) = v :: valuesAt key members := by
  simp [valuesAt]

theorem valuesAt_cons_of_ne (differs : key ≠ name) :
    valuesAt name ((key, v) :: members) = valuesAt name members := by
  simp [valuesAt, differs]

theorem length_valuesAt (key : String) (members : Members) :
    (valuesAt key members).length = (members.map Prod.fst).count key := by
  induction members with
  | nil => rfl
  | cons member members ih =>
      obtain ⟨name, v⟩ := member
      by_cases same : name = key
      · subst same
        simp [ih]
      · rw [valuesAt_cons_of_ne same, ih, List.map_cons,
          List.count_cons_of_ne (by simpa using same)]

theorem mem_valuesAt_iff : v ∈ valuesAt key members ↔ (key, v) ∈ members := by
  simp [valuesAt]

theorem valuesAt_ne_nil_iff : valuesAt key members ≠ [] ↔ key ∈ members.map Prod.fst := by
  simp [valuesAt, List.filter_eq_nil_iff]

/-- What stands under a known key does not depend on other members, or on the order. -/
theorem valuesAt_perm {keys : List String} {members' : Members}
    (perm : (members.filter (·.1 ∈ keys)).Perm (members'.filter (·.1 ∈ keys)))
    (known : key ∈ keys) : (valuesAt key members).Perm (valuesAt key members') := by
  have among : ∀ members : Members, valuesAt key (members.filter (·.1 ∈ keys)) =
      valuesAt key members := by
    intro members
    rw [valuesAt, valuesAt, List.filter_filter]
    congr 2
    funext member
    by_cases same : member.1 = key <;> simp [same, known]
  rw [← among members, ← among members']
  exact (perm.filter _).map _

/-- The value of a field whose place may be filled already, from the texts under its key. -/
def fieldFrom (value : Reader β) (default : Option β) :
    Option β → List (List Char) → Option β
  | some b, [] => some b
  | none, [] => default
  | none, [v] => (value.decode (String.ofList v)).toOption
  | _, _ => none

variable {value : Reader β} {default : Option β}

theorem fieldFrom_nil (filled : Option β) :
    fieldFrom value default filled [] = filled.or default := by
  cases filled <;> rfl

/-- A place is filled once. -/
theorem fieldFrom_cons (filled : Option β) (texts : List (List Char)) :
    fieldFrom value default filled (v :: texts) =
      if filled.isSome then none
      else (value.decode (String.ofList v)).toOption.bind fun b =>
        fieldFrom value default (some b) texts := by
  cases filled with
  | some b => rfl
  | none =>
      cases texts with
      | nil => simp [fieldFrom]
      | cons w texts => simp [fieldFrom]

end Field

namespace Fields

/-- The record among members, where some places are filled already. -/
def describeFrom : {α : Type} → (fields : Fields α) → Slots fields → Members → Option α
  | _, .nil, _, _ => some ()
  | _, .cons key value absence others, slots, members =>
      (fieldFrom value absence.inObject slots.1 (valuesAt key members)).bind fun b =>
        (others.describeFrom slots.2 members).map fun rest => (b, rest)

variable {fields : Fields α} {members : Members} {key : String} {v : List Char}

/-- Without filled places the record is told by the members alone. -/
theorem describeFrom_empty (fields : Fields α) (members : Members) :
    fields.describeFrom fields.empty members = fields.describe members := by
  induction fields with
  | nil => rfl
  | cons name value absence others ih =>
      have later : others.describeFrom (cons name value absence others).empty.2 members =
          others.describe members := ih
      rw [describeFrom, describe, valuesAt, later]
      generalize members.filter (fun member => member.1 = name) = found
      rcases found with _ | ⟨member, _ | ⟨_, _⟩⟩
      · cases absence.inObject with
        | none => rfl
        | some b => cases others.describe members <;> rfl
      · simp only [List.map_cons, List.map_nil, Reader.decode, String.toList_ofList, fieldFrom,
          empty]
        cases value member.2 with
        | error _ => rfl
        | ok read =>
            cases others.describe members <;> by_cases whole : skipSpace read.2 = [] <;>
              simp only [whole] <;> rfl
      · rfl

/-- Without members the record is told by the places. -/
theorem describeFrom_nil (fields : Fields α) (slots : Slots fields) :
    fields.describeFrom slots [] = (fields.finish slots).toOption := by
  induction fields with
  | nil => rfl
  | cons name value absence others ih =>
      rw [describeFrom, finish, valuesAt_nil, fieldFrom_nil, ih]
      cases slots.1.or absence.inObject with
      | none => rfl
      | some b => cases others.finish slots.2 <;> rfl

theorem describeFrom_cons_of_unknown (unknown : key ∉ fields.keys) (slots : Slots fields) :
    fields.describeFrom slots ((key, v) :: members) = fields.describeFrom slots members := by
  induction fields with
  | nil => rfl
  | cons name value absence others ih =>
      rw [describeFrom, describeFrom, ih (List.not_mem_of_not_mem_cons unknown),
        valuesAt_cons_of_ne (List.ne_of_not_mem_cons unknown)]

/-- A member that is put in its place no longer has to be looked at. -/
theorem describeFrom_cons (distinct : fields.keys.Nodup) (slots : Slots fields) :
    fields.describeFrom slots ((key, v) :: members) =
      (fields.fill false key v slots).bind fun slots => fields.describeFrom slots members := by
  induction fields with
  | nil => rfl
  | cons name value absence others ih =>
      obtain ⟨apart, distinct⟩ := List.nodup_cons.mp distinct
      rw [describeFrom, fill]
      by_cases same : name = key
      · subst same
        -- Other fields do not see the member; this one refuses it if its place is filled.
        rw [describeFrom_cons_of_unknown apart, valuesAt_cons_self, fieldFrom_cons, if_pos rfl]
        by_cases filled : slots.1.isSome = true
        · simp [filled]
        · simp only [filled]
          cases value.decode (String.ofList v) <;> rfl
      · rw [if_neg same, valuesAt_cons_of_ne (Ne.symm same), ih distinct]
        cases fill false key v others slots.2 with
        | none =>
            cases fieldFrom value absence.inObject slots.1 (valuesAt name members) <;> rfl
        | some later => rfl

/-- The places that members fill make the record that they tell. -/
theorem fillAll_bind_finish (distinct : fields.keys.Nodup)
    {spellings : List (List Char × List Char)}
    (spelled : List.Forall₂ (fun spelled member => Spells spelled.1 member.1 ∧ spelled.2 = member.2)
      spellings members) (slots : Slots fields) :
    ((fields.fillAll false spellings slots).bind fun slots => (fields.finish slots).toOption) =
      fields.describeFrom slots members := by
  induction spelled generalizing slots with
  | nil => exact (fields.describeFrom_nil slots).symm
  | @cons spelled member _ members same _ ih =>
      obtain ⟨key, v⟩ := member
      obtain ⟨spells, rfl⟩ := same
      rw [describeFrom_cons distinct, fillAll, spells.keyOf_eq]
      simp only [Option.bind_some, Option.bind_assoc, ih]

/-- Keys that stand for texts may stand between quotes. -/
theorem forall_mem_spellings {spellings : List (List Char × List Char)}
    (spelled : List.Forall₂ (fun spelled member => Spells spelled.1 member.1 ∧ spelled.2 = member.2)
      spellings members) (values : ∀ member ∈ members, IsValue member.2) :
    (∀ spelled ∈ spellings, IsSpelling spelled.1) ∧ ∀ spelled ∈ spellings, IsValue spelled.2 := by
  induction spelled with
  | nil => simp
  | @cons spelled member _ _ same _ ih =>
      obtain ⟨⟨pieces, spells, -⟩, same⟩ := same
      obtain ⟨value, values⟩ := List.forall_mem_cons.mp values
      obtain ⟨spellings, others⟩ := ih values
      exact ⟨List.forall_mem_cons.mpr ⟨⟨pieces, spells⟩, spellings⟩,
        List.forall_mem_cons.mpr ⟨same ▸ value, others⟩⟩

/-- An object is decoded as the record that its members tell. -/
theorem Settled.toOption_decode (settled : fields.Settled) (distinct : fields.keys.Nodup)
    (name : String) {text : String} (object : IsObject text.toList members) :
    ((readRecord (plainRecord name) fields).decode text).toOption = fields.describe members := by
  rw [Reader.decode]
  generalize text.toList = s at object
  obtain @⟨before, after, s, spellings, entries, members, plain, plain', lists, keyed, spelled,
    values⟩ := object
  rw [(settled.isSettled_readRecord _).skips _ plain]
  obtain ⟨spellings, others⟩ := forall_mem_spellings spelled values
  have read := toOption_readRecord_object settled (plainRecord name) lists keyed spellings others
    after
  have told := (fillAll_bind_finish distinct spelled fields.empty).trans (describeFrom_empty _ _)
  rw [plainRecord] at read ⊢
  rw [told] at read
  rcases cases_of_toOption read with ⟨failure, read, none⟩ | ⟨row, read, some⟩
  · rw [read, none]
    rfl
  · rw [read, some]
    simp only [plain'.skipSpace_eq_nil]
    rfl

end Fields

/-! ## What the members say -/

/-- The value of a field is told by the members of an object: one member has its key and is read as
the value, or none has and the value is the default. -/
inductive Holds (members : Members) (key : String) (value : Reader β) (default : Option β) (b : β) :
    Prop where
  | member {v : List Char} : valuesAt key members = [v] →
      value.decode (String.ofList v) = .ok b → Holds members key value default b
  | absent : valuesAt key members = [] → default = some b → Holds members key value default b

/-- The reader takes the text as a whole. -/
def Reader.Accepts (value : Reader β) (text : String) : Prop :=
  ∃ b, value.decode text = .ok b

section Holds

variable {members : Members} {key : String} {value : Reader β} {default : Option β} {b : β}

theorem holds_iff : Holds members key value default b ↔
    fieldFrom value default none (valuesAt key members) = some b := by
  constructor
  · rintro (⟨alone, decoded⟩ | ⟨none, default⟩)
    · rw [alone, fieldFrom, decoded]
      rfl
    · rw [none]
      exact default
  · intro told
    rcases values : valuesAt key members with _ | ⟨v, _ | ⟨w, more⟩⟩
    · rw [values] at told
      exact .absent values told
    · rw [values, fieldFrom] at told
      cases decoded : value.decode (String.ofList v) with
      | error failure =>
          rw [decoded] at told
          cases told
      | ok b =>
          rw [decoded] at told
          cases told
          exact .member values decoded
    · rw [values] at told
      cases told

/-- A field has a value if its key occurs at most once, occurs if there is no default, and with a
text of a value. -/
theorem exists_holds_iff : (∃ b, Holds members key value default b) ↔
    (members.map Prod.fst).count key ≤ 1 ∧ (default = none → key ∈ members.map Prod.fst) ∧
      ∀ v, (key, v) ∈ members → value.Accepts (String.ofList v) := by
  simp only [← length_valuesAt, ← valuesAt_ne_nil_iff, ← mem_valuesAt_iff]
  constructor
  · rintro ⟨b, ⟨alone, decoded⟩ | ⟨none, default⟩⟩
    · rw [alone]
      simpa using ⟨b, decoded⟩
    · simp [none, default]
  · rintro ⟨once, there, accepted⟩
    rcases values : valuesAt key members with _ | ⟨v, _ | ⟨w, more⟩⟩
    · obtain ⟨b, default⟩ := Option.ne_none_iff_exists'.mp fun none => there none values
      exact ⟨b, .absent values default⟩
    · obtain ⟨b, decoded⟩ := accepted v (by simp [values])
      exact ⟨b, .member values decoded⟩
    · simp [values] at once

/-- What a field holds depends only on what stands under its key. -/
theorem Holds.of_perm {members' : Members} (holds : Holds members key value default b)
    (perm : (valuesAt key members').Perm (valuesAt key members)) :
    Holds members' key value default b := by
  cases holds with
  | member alone decoded => exact .member (List.perm_singleton.mp (alone ▸ perm)) decoded
  | absent none default => exact .absent (List.perm_nil.mp (none ▸ perm)) default

end Holds

namespace Fields

/-- The keys of the fields, and which texts are taken under them. -/
def known : {α : Type} → Fields α → List (String × (String → Prop))
  | _, .nil => []
  | _, .cons key value _ others => (key, value.Accepts) :: others.known

/-- The keys that have to occur. -/
def required : {α : Type} → Fields α → List String
  | _, .nil => []
  | _, .cons key _ absence others =>
      if absence.inObject.isNone then key :: others.required else others.required

/-- All fields of a record are told by the members of an object. -/
def Holds (members : Members) : {α : Type} → Fields α → α → Prop
  | _, .nil, _ => True
  | _, .cons key value absence others, row =>
      Json.Holds members key value absence.inObject row.1 ∧ Holds members others row.2

variable {fields : Fields α} {members : Members}

theorem map_fst_known (fields : Fields α) : fields.known.map Prod.fst = fields.keys := by
  induction fields with
  | nil => rfl
  | cons name value absence others ih => rw [known, List.map_cons, ih, keys]

theorem describeFrom_eq_some_iff {row : α} :
    fields.describeFrom fields.empty members = some row ↔ Holds members fields row := by
  induction fields with
  | nil => simp [describeFrom, Holds]
  | cons name value absence others ih =>
      obtain ⟨b, row⟩ := row
      have later : others.describeFrom (cons name value absence others).empty.2 members = some row ↔
          Holds members others row := ih
      rw [describeFrom, Holds, ← later, holds_iff]
      simp only [Option.bind_eq_some_iff, Option.map_eq_some_iff, Prod.mk.injEq]
      constructor
      · rintro ⟨_, told, _, others, rfl, rfl⟩
        exact ⟨told, others⟩
      · rintro ⟨told, others⟩
        exact ⟨_, told, _, others, rfl, rfl⟩

/-- The record that an object tells is the one which its members hold. -/
theorem describe_eq_some_iff {row : α} :
    fields.describe members = some row ↔ Holds members fields row := by
  rw [← describeFrom_empty, describeFrom_eq_some_iff]

/-- The members of an object tell a record if no known key occurs twice, all that have to occur
do, and under each stands a text of a value. -/
theorem exists_holds_iff : (∃ row, Holds members fields row) ↔
    (∀ key ∈ fields.keys, (members.map Prod.fst).count key ≤ 1) ∧
      (∀ key ∈ fields.required, key ∈ members.map Prod.fst) ∧
      ∀ field ∈ fields.known, ∀ v, (field.1, v) ∈ members → field.2 (String.ofList v) := by
  induction fields with
  | nil => simp [Holds, keys, required, known]
  | cons name value absence others ih =>
      have split : (∃ row, Holds members (cons name value absence others) row) ↔
          (∃ b, Json.Holds members name value absence.inObject b) ∧
            ∃ row, Holds members others row := by
        simp [Holds]
      rw [split, ih, Json.exists_holds_iff, keys, known, required]
      cases absence.inObject with
      | none => simp; grind
      | some b => simp; grind

theorem Holds.of_perm {members' : Members} {row : α} (holds : Holds members fields row)
    (perm : ∀ key ∈ fields.keys, (valuesAt key members').Perm (valuesAt key members)) :
    Holds members' fields row := by
  induction fields with
  | nil => trivial
  | cons name value absence others ih =>
      obtain ⟨here, later⟩ := holds
      obtain ⟨first, perm⟩ := List.forall_mem_cons.mp perm
      exact ⟨here.of_perm first, ih later perm⟩

end Fields

/-! ## Where `null` is taken -/

section Null

variable {β : Type} {value : Reader β}

theorem not_accepts_of_toOption {s : String} (fails : (value.decode s).toOption = none) :
    ¬value.Accepts s := by
  rintro ⟨b, decoded⟩
  rw [decoded] at fails
  cases fails

@[simp]
theorem accepts_optional_null (value : Reader β) : (Json.optional value).Accepts "null" :=
  ⟨none, rfl⟩

@[simp]
theorem not_accepts_text_null : ¬text.Accepts "null" :=
  not_accepts_of_toOption rfl

@[simp]
theorem not_accepts_boolean_null : ¬boolean.Accepts "null" :=
  not_accepts_of_toOption rfl

@[simp]
theorem not_accepts_uint32_null : ¬uint32.Accepts "null" :=
  not_accepts_of_toOption rfl

@[simp]
theorem not_accepts_oneOf_null (known : List (String × β)) : ¬(oneOf known).Accepts "null" :=
  not_accepts_of_toOption rfl

end Null

/-! ## Readers of objects -/

/-- What a reader makes of an object is told by the members under the known keys.  With each of
these keys goes the kind of texts that may stand under it; some keys have to occur, and some, which
are `optional`, may have a `null` in the place of a value. -/
structure ReadsMembers (reader : Reader α) (known : List (String × (String → Prop)))
    (required optional : List String) (holds : Members → α → Prop) : Prop where
  /-- The value that is read is the one that the members hold. -/
  decode_eq_ok_iff : ∀ {text : String} {members : Members}, IsObject text.toList members →
    ∀ a, reader.decode text = .ok a ↔ holds members a
  /-- A value is read exactly if no known key occurs twice, every required key occurs, and under
  each known key stands a text that is taken there. -/
  decodes_iff : ∀ {text : String} {members : Members}, IsObject text.toList members →
    ((∃ a, reader.decode text = .ok a) ↔
      (∀ field ∈ known, (members.map Prod.fst).count field.1 ≤ 1) ∧
      (∀ key ∈ required, key ∈ members.map Prod.fst) ∧
      ∀ field ∈ known, ∀ v, (field.1, v) ∈ members → field.2 (String.ofList v))
  /-- `null` is taken under the optional keys and no others. -/
  null_iff : ∀ field ∈ known, field.2 "null" ↔ field.1 ∈ optional
  /-- The order of the members and those under unknown keys do not matter. -/
  decode_congr : ∀ {text text' : String} {members members' : Members},
    IsObject text.toList members → IsObject text'.toList members' →
    (members.filter (·.1 ∈ known.map Prod.fst)).Perm
      (members'.filter (·.1 ∈ known.map Prod.fst)) →
    ∀ a, reader.decode text = .ok a ↔ reader.decode text' = .ok a

section ReadsMembers

variable {known : List (String × (String → Prop))} {required optional : List String}
  {holds : Members → α → Prop}

/-- A record is told by the members of an object. -/
theorem Fields.Settled.readsMembers {fields : Fields α} (settled : fields.Settled)
    (distinct : fields.keys.Nodup) (name : String)
    (null : ∀ field ∈ fields.known, field.2 "null" ↔ field.1 ∈ optional) :
    ReadsMembers (readRecord (plainRecord name) fields) fields.known fields.required optional
      fun members row => Fields.Holds members fields row := by
  have decode : ∀ {text : String} {members : Members}, IsObject text.toList members →
      ∀ row, (readRecord (plainRecord name) fields).decode text = .ok row ↔
        Fields.Holds members fields row := by
    intro text members object row
    rw [← Fields.describe_eq_some_iff, ← settled.toOption_decode distinct name object]
    cases (readRecord (plainRecord name) fields).decode text <;> simp [Except.toOption]
  refine ⟨decode, ?_, null, ?_⟩
  · intro text members object
    simp only [decode object, Fields.exists_holds_iff, ← fields.map_fst_known, List.forall_mem_map]
  · intro text text' members members' object object' perm row
    rw [decode object, decode object']
    rw [fields.map_fst_known] at perm
    constructor
    · exact fun holds => holds.of_perm fun key known => valuesAt_perm perm.symm known
    · exact fun holds => holds.of_perm fun key known => valuesAt_perm perm known

/-- The values of a record may be put together otherwise. -/
theorem ReadsMembers.map {reader : Reader α}
    (reads : ReadsMembers reader known required optional holds) {f : α → β} (g : β → α)
    (left : ∀ b, f (g b) = b) (right : ∀ a, g (f a) = a) {tells : Members → β → Prop}
    (told : ∀ members b, holds members (g b) ↔ tells members b) :
    ReadsMembers (reader.map f) known required optional tells := by
  have decode : ∀ text b, (reader.map f).decode text = .ok b ↔
      reader.decode text = .ok (g b) := by
    intro text b
    rw [Reader.decode_map]
    cases reader.decode text with
    | error _ => simp [Except.map]
    | ok a =>
        simp only [Except.map, Except.ok.injEq]
        exact ⟨fun same => same ▸ (right a).symm, fun same => same ▸ left b⟩
  refine ⟨?_, ?_, reads.null_iff, ?_⟩
  · intro text members object b
    rw [decode, reads.decode_eq_ok_iff object, told]
  · intro text members object
    rw [← reads.decodes_iff object]
    constructor
    · exact fun ⟨b, decoded⟩ => ⟨g b, (decode text b).mp decoded⟩
    · exact fun ⟨a, decoded⟩ => ⟨f a, (decode text (f a)).mpr (decoded.trans (by rw [right]))⟩
  · intro text text' members members' object object' perm b
    rw [decode, decode, reads.decode_congr object object' perm]

end ReadsMembers

end ClusterWatch.Json
