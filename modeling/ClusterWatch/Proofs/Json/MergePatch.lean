import ClusterWatch.Json.MergePatch
import ClusterWatch.Proofs.Lookup

/-!
# Laws of merge patches

What a merge patch does to an object is said key by key: a key that the patch does
not mention keeps its value, one that it maps to `null` is gone, and any other
gets the value that the patch describes.
-/

namespace ClusterWatch.Json

/-! ## Members -/

theorem lookup_replaceMember (key other : String) (value : Json)
    (members : List (String × Json)) :
    (replaceMember key value members).lookup other =
      if other = key then some value else members.lookup other := by
  induction members with
  | nil => simp only [replaceMember, lookup_cons_eq_ite]
  | cons member rest ih =>
      obtain ⟨k, v⟩ := member
      by_cases found : k = key
      · subst found
        simp only [replaceMember, if_true, lookup_cons_eq_ite]
        split <;> rfl
      · simp only [replaceMember, if_neg found, lookup_cons_eq_ite, ih]
        by_cases same : other = k
        · simp [same, found]
        · simp [same]

theorem lookup_removeMember (key other : String) (members : List (String × Json)) :
    (removeMember key members).lookup other =
      if other = key then none else members.lookup other :=
  lookup_filter_ne key other members

/-- What stands at a key once a change has been made of what stood there. -/
def changed (target : Option Json) : Json → Option Json
  | .null => none
  | change => some ((target.getD .null).mergePatch change)

theorem lookup_mergeMember (members : List (String × Json)) (key other : String) (change : Json) :
    (mergeMember members key change).lookup other =
      if other = key then changed (members.lookup key) change else members.lookup other := by
  cases change <;> simp [mergeMember, lookup_removeMember, lookup_replaceMember, changed]

/-- The members of a merge patch act key by key, as long as no key is repeated. -/
theorem lookup_mergeMembers {changes : List (String × Json)}
    (distinct : (changes.map Prod.fst).Nodup) (members : List (String × Json)) (key : String) :
    (mergeMembers members changes).lookup key =
      match changes.lookup key with
      | none => members.lookup key
      | some change => changed (members.lookup key) change := by
  induction changes generalizing members with
  | nil => rw [mergeMembers, List.lookup_nil]
  | cons head rest ih =>
      obtain ⟨k, change⟩ := head
      rw [List.map_cons, List.nodup_cons] at distinct
      rw [mergeMembers, ih distinct.2, lookup_mergeMember, lookup_cons_eq_ite]
      by_cases same : key = k
      · subst same
        simp only [lookup_eq_none_of_fresh distinct.1, if_true]
      · simp only [if_neg same]

/-! ## Objects -/

@[simp]
theorem member?_object (key : String) (members : List (String × Json)) :
    (Json.object members).member? key = members.lookup key :=
  rfl

theorem lookup_members (key : String) (value : Json) :
    value.members.lookup key = value.member? key := by
  cases value <;> rfl

/-- A merge patch that is an object acts on the members of the target, whatever the
target is. -/
theorem member?_mergePatch {changes : List (String × Json)}
    (distinct : (changes.map Prod.fst).Nodup) (target : Json) (key : String) :
    (target.mergePatch (.object changes)).member? key =
      match changes.lookup key with
      | none => target.member? key
      | some change => changed (target.member? key) change := by
  rw [mergePatch, member?_object, lookup_mergeMembers distinct, lookup_members]

/-- The value of a key, unless it is `null`. -/
def known? (key : String) (value : Json) : Option Json :=
  match value.member? key with
  | some .null => none
  | found => found

/-- No value and `null` are the same to a merge patch. -/
theorem getD_member?_eq_getD_known? (key : String) (value : Json) :
    (value.member? key).getD .null = (value.known? key).getD .null := by
  unfold known?
  split
  · next found => rw [found]; rfl
  · rfl

/-- A value that a merge patch puts in the place of another as it is. -/
def IsPlain : Json → Prop
  | .null => False
  | .object _ => False
  | _ => True

theorem changed_of_isPlain {change : Json} (plain : change.IsPlain) (target : Option Json) :
    changed target change = some change := by
  cases change <;> simp_all [IsPlain, changed, mergePatch]

/-! ## Patches without `null` -/

theorem known?_eq_member? {members : List (String × Json)}
    (plain : ∀ member ∈ members, member.2.IsPlain) (key : String) :
    (object members).known? key = members.lookup key := by
  rw [known?, member?_object]
  cases found : members.lookup key with
  | none => rfl
  | some value =>
      obtain ⟨_, _, split, _⟩ := List.lookup_eq_some_iff.mp found
      have valuePlain : value.IsPlain := plain (key, value) (by simp [split])
      cases value <;> simp_all [IsPlain]

/-- A merge patch whose values are plain replaces the keys that it has and leaves the
others. -/
theorem known?_mergePatch {changes : List (String × Json)}
    (distinct : (changes.map Prod.fst).Nodup)
    (plain : ∀ change ∈ changes, change.2.IsPlain) (target : Json) (key : String) :
    (target.mergePatch (.object changes)).known? key =
      ((object changes).known? key).or (target.known? key) := by
  rw [known?_eq_member? plain, known?, member?_mergePatch distinct]
  cases found : changes.lookup key with
  | none => rfl
  | some change =>
      obtain ⟨_, _, split, _⟩ := List.lookup_eq_some_iff.mp found
      have changePlain : change.IsPlain := plain (key, change) (by simp [split])
      simp only [changed_of_isPlain changePlain, Option.some_or]
      cases change <;> simp_all [IsPlain]

section OfMembers

variable {members : List (String × Option Json)}

private theorem plain_of_mem_filterMap
    (plain : ∀ key value, (key, some value) ∈ members → value.IsPlain) :
    ∀ member ∈ members.filterMap fun (key, value) => value.map fun v => (key, v),
      member.2.IsPlain := by
  rintro ⟨key, value⟩ mem
  obtain ⟨⟨k, v⟩, found, eq⟩ := List.mem_filterMap.mp mem
  obtain ⟨_, rfl, same⟩ := Option.map_eq_some_iff.mp eq
  cases same
  exact plain key value found

theorem known?_ofMembers (distinct : (members.map Prod.fst).Nodup)
    (plain : ∀ key value, (key, some value) ∈ members → value.IsPlain) (key : String) :
    (ofMembers members).known? key = (members.lookup key).join := by
  rw [ofMembers, known?_eq_member? (plain_of_mem_filterMap plain)]
  exact lookup_filterMap key distinct

/-- What has no value in the patch stays as it was. -/
theorem known?_mergePatch_ofMembers (distinct : (members.map Prod.fst).Nodup)
    (plain : ∀ key value, (key, some value) ∈ members → value.IsPlain)
    (target : Json) (key : String) :
    (target.mergePatch (ofMembers members)).known? key =
      ((ofMembers members).known? key).or (target.known? key) :=
  known?_mergePatch (distinct.sublist (map_fst_filterMap_sublist members))
    (plain_of_mem_filterMap plain) target key

end OfMembers

end ClusterWatch.Json
