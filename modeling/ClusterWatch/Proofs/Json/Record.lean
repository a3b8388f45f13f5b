import ClusterWatch.Json.Fields
import ClusterWatch.Proofs.Json.Reader
import ClusterWatch.Proofs.Lookup

/-!
# Records that are read as they were written

A record is written with a member for each field, in the order of the fields, and without those
that need none.  It is read again from these members, whichever of them there are.
-/

namespace ClusterWatch.Json

open Fields (Slots)

variable {α : Type}

/-- Members for the fields of a record.  A field may go without one if what it holds is what
stands for it then. -/
inductive Writes : {α : Type} → Fields α → List (String × Option Json) → α → Prop where
  | nil : Writes .nil [] ()
  | member {β γ : Type} {key : String} {value : Reader β} {absence : Absence β} {others : Fields γ}
      {json : Json} {members : List (String × Option Json)} {b : β} {row : γ} :
      Reads value json b → Writes others members row →
        Writes (.cons key value absence others) ((key, some json) :: members) (b, row)
  | absent {β γ : Type} {key : String} {value : Reader β} {absence : Absence β} {others : Fields γ}
      {members : List (String × Option Json)} {b : β} {row : γ} :
      absence.inObject = some b → Writes others members row →
        Writes (.cons key value absence others) ((key, none) :: members) (b, row)

/-- An option that is absent by default needs no member when there is nothing in it. -/
theorem Writes.optional {β γ : Type} {key : String} {value : Reader β} {others : Fields γ}
    {members : List (String × Option Json)} {row : γ} {write : β → Json} (a : Option β)
    (reads : ∀ b, a = some b → Reads value (write b) b) (visible : ∀ b, IsVisible (write b))
    (writes : Writes others members row) :
    Writes (.cons key (Json.optional value) (.default none) others)
      ((key, a.map write) :: members) (a, row) := by
  cases a with
  | none => exact .absent rfl writes
  | some b => exact .member ((reads b rfl).optional (visible b)) writes

/-- The members that are there. -/
def present (members : List (String × Option Json)) : List (String × Json) :=
  members.filterMap fun (key, value) => value.map fun v => (key, v)

theorem ofMembers_eq (members : List (String × Option Json)) :
    ofMembers members = .object (present members) :=
  rfl

/-! ## Members that are still to be read -/

/-- With the places that are filled and the members that are still to be read, the fields are
those of the row. -/
def Expects (members : List (String × Json)) :
    {α : Type} → (fields : Fields α) → Slots fields → α → Prop
  | _, .nil, _, _ => True
  | _, .cons key value absence others, slots, row =>
      (match members.lookup key with
        | none => slots.1.or absence.inObject = some row.1
        | some json => slots.1 = none ∧ Reads value json row.1) ∧
      Expects members others slots.2 row.2

variable {members : List (String × Json)} {key : String} {json : Json}

/-- A member that no field has does not matter. -/
theorem expects_cons_iff {fields : Fields α} {slots : Slots fields} {row : α}
    (unknown : key ∉ fields.keys) :
    Expects ((key, json) :: members) fields slots row ↔ Expects members fields slots row := by
  induction fields with
  | nil => rfl
  | cons name value absence others ih =>
      have differs : name ≠ key := (List.ne_of_not_mem_cons unknown).symm
      have others : key ∉ others.keys := List.not_mem_of_not_mem_cons unknown
      rw [Expects, Expects, lookup_cons_eq_ite, if_neg differs, ih others]

/-- The value of a member is put in its place. -/
theorem Expects.readMember? {fields : Fields α} {slots : Slots fields} {row : α}
    (expects : Expects ((key, json) :: members) fields slots row) (distinct : fields.keys.Nodup)
    (known : key ∈ fields.keys) (new : members.lookup key = none) (repeatable : Bool)
    {rest : List Char} (ends : EndsValue rest) :
    ∃ slots', fields.readMember? repeatable key slots (':' :: (json.toChars ++ rest)) =
        some (.ok (slots', rest)) ∧ Expects members fields slots' row := by
  induction fields with
  | nil => cases known
  | cons name value absence others ih =>
      obtain ⟨here, later⟩ := expects
      obtain ⟨apart, distinct⟩ := List.nodup_cons.mp distinct
      rw [lookup_cons_eq_ite] at here
      rw [Fields.readMember?]
      by_cases same : name = key
      · subst same
        rw [if_pos rfl] at here
        obtain ⟨empty, reads⟩ := here
        refine ⟨(some row.1, slots.2), ?_, ?_⟩
        · have colon : readColon (':' :: (json.toChars ++ rest)) = .ok (json.toChars ++ rest) := rfl
          rw [if_pos rfl, if_neg (by simp [empty]), colon]
          simp only [bind, Except.bind, reads rest ends]
        · refine And.intro ?_ ((expects_cons_iff apart).mp later)
          rw [new]
          rfl
      · rw [if_neg same] at here ⊢
        obtain ⟨slots', read, expects⟩ :=
          ih later distinct (List.mem_of_ne_of_mem (Ne.symm same) known)
        exact ⟨(slots.1, slots'), by rw [read]; rfl, here, expects⟩

/-- Once all members are read, the row is there. -/
theorem Expects.finish {fields : Fields α} {slots : Slots fields} {row : α}
    (expects : Expects [] fields slots row) : fields.finish slots = .ok row := by
  induction fields with
  | nil => rfl
  | cons name value absence others ih =>
      obtain ⟨here, later⟩ := expects
      have here : slots.1.or absence.inObject = some row.1 := here
      rw [Fields.finish, here]
      simp only [ih later]
      rfl

/-! ## The text of members -/

/-- The text of members that follow others. -/
def followingChars : List (String × Json) → List Char
  | [] => []
  | members => ',' :: membersChars members

theorem membersChars_cons :
    membersChars ((key, json) :: members) =
      stringChars key ++ ':' :: (json.toChars ++ followingChars members) := by
  cases members <;> simp [membersChars, followingChars]

theorem endsValue_followingChars (members : List (String × Json)) (rest : List Char) :
    EndsValue (followingChars members ++ '\x7d' :: rest) := by
  cases members <;> simp [followingChars, EndsValue]

/-- Every member takes a character. -/
theorem length_le_membersChars (members : List (String × Json)) :
    members.length ≤ (membersChars members).length := by
  induction members with
  | nil => exact Nat.zero_le _
  | cons member members ih =>
      obtain ⟨key, json⟩ := member
      have follows : (membersChars members).length ≤ (followingChars members).length := by
        cases members <;> simp [followingChars, membersChars]
      simp only [membersChars_cons, List.length_append, List.length_cons]
      omega

/-- The text of members, which may be the first or follow others. -/
def entryChars (first : Bool) (members : List (String × Json)) : List Char :=
  if first then membersChars members else followingChars members

theorem nextKey_entryChars (first : Bool) (rest : List Char) :
    nextKey first (entryChars first ((key, json) :: members) ++ rest) =
      .ok (.entry (key.toList.flatMap escapeChar ++
        '\"' :: ':' :: (json.toChars ++ (followingChars members ++ rest)))) := by
  have following : followingChars ((key, json) :: members) =
      ',' :: membersChars ((key, json) :: members) := rfl
  cases first <;>
    simp [entryChars, following, membersChars_cons, nextKey, stringChars, skipSpace_cons, isSpace]

theorem nextKey_close (first : Bool) (rest : List Char) :
    nextKey first (entryChars first [] ++ '\x7d' :: rest) = .ok (.done rest) := by
  cases first <;> rfl

/-- Members are read into their places. -/
theorem Expects.readMembers {fields : Fields α} {slots : Slots fields} {row : α}
    (expects : Expects members fields slots row) (distinct : fields.keys.Nodup)
    (known : ∀ key ∈ members.map Prod.fst, key ∈ fields.keys)
    (once : (members.map Prod.fst).Nodup) (repeatable first : Bool) {steps : Nat}
    (enough : members.length < steps) (rest : List Char) :
    ∃ slots', fields.readMembers repeatable steps first slots
        (entryChars first members ++ '\x7d' :: rest) = .ok (slots', rest) ∧
      fields.finish slots' = .ok row := by
  induction members generalizing first slots steps with
  | nil =>
      obtain ⟨steps, rfl⟩ := Nat.exists_eq_succ_of_ne_zero (Nat.ne_of_gt enough)
      refine ⟨slots, ?_, expects.finish⟩
      rw [Fields.readMembers, nextKey_close]
      rfl
  | cons member members ih =>
      obtain ⟨key, json⟩ := member
      obtain ⟨steps, rfl⟩ := Nat.exists_eq_succ_of_ne_zero (Nat.ne_of_gt (Nat.zero_lt_of_lt enough))
      obtain ⟨new, once⟩ := List.nodup_cons.mp once
      obtain ⟨here, others⟩ := List.forall_mem_cons.mp known
      obtain ⟨slots', read, expects⟩ := expects.readMember? distinct here
        (lookup_eq_none_of_fresh new) repeatable (endsValue_followingChars members rest)
      obtain ⟨last, reads, finish⟩ := ih expects others once false (Nat.lt_of_succ_lt_succ enough)
      refine ⟨last, ?_, finish⟩
      rw [Fields.readMembers, nextKey_entryChars]
      simp only [bind, Except.bind, readString_written, Fields.readMember, read]
      exact reads

/-! ## Whole records -/

/-- The keys of members are among those of the fields, and in their order. -/
theorem Writes.keys_sublist {fields : Fields α} {members : List (String × Option Json)} {row : α}
    (writes : Writes fields members row) :
    ((present members).map Prod.fst).Sublist fields.keys := by
  induction writes with
  | nil => exact .slnil
  | member _ _ ih => exact ih.cons_cons _
  | absent _ _ ih => exact ih.cons _

/-- Before any member is read, the members that are written make the row. -/
theorem Writes.expects {fields : Fields α} {members : List (String × Option Json)} {row : α}
    (writes : Writes fields members row) (distinct : fields.keys.Nodup) :
    Expects (present members) fields fields.empty row := by
  induction writes with
  | nil => trivial
  | @member _ _ key _ _ others json members _ _ reads writes ih =>
      obtain ⟨apart, distinct⟩ := List.nodup_cons.mp distinct
      have present_cons : present ((key, some json) :: members) = (key, json) :: present members :=
        rfl
      rw [present_cons]
      refine And.intro ?_ ((expects_cons_iff apart).mpr (ih distinct))
      rw [lookup_cons_eq_ite, if_pos rfl]
      exact ⟨rfl, reads⟩
  | @absent _ _ key _ _ others members _ _ default writes ih =>
      obtain ⟨apart, distinct⟩ := List.nodup_cons.mp distinct
      have fresh : key ∉ (present members).map Prod.fst := fun mem =>
        apart (writes.keys_sublist.subset mem)
      refine And.intro ?_ (ih distinct)
      have none : (present ((key, none) :: members)).lookup key = none :=
        lookup_eq_none_of_fresh fresh
      rw [none]
      exact default

/-- A record is read as it was written. -/
theorem Writes.reads {fields : Fields α} {members : List (String × Option Json)} {row : α}
    (writes : Writes fields members row) (distinct : fields.keys.Nodup) (style : RecordStyle) :
    Reads (readRecord style fields) (ofMembers members) row := by
  intro rest _
  have once := writes.keys_sublist.nodup distinct
  have text : (ofMembers members).toChars ++ rest =
      '\x7b' :: (entryChars true (present members) ++ '\x7d' :: rest) := by
    simp [ofMembers_eq, toChars, entryChars]
  have enough : (present members).length <
      (entryChars true (present members) ++ '\x7d' :: rest).length + 1 := by
    have enough := length_le_membersChars (present members)
    simp only [entryChars, if_true, List.length_append]
    omega
  obtain ⟨slots, read, finish⟩ := (writes.expects distinct).readMembers distinct
    (fun _ mem => writes.keys_sublist.subset mem) once style.repeatable true enough rest
  rw [text, readRecord, skipSpace_cons (by decide)]
  simp only [if_true, read, bind, Except.bind, finish]

end ClusterWatch.Json
