/-!
# Look-ups in lists

Laws of `List.lookup` that decide between keys with an `if`, and what lists hold at a place
once another place has changed.
-/

namespace ClusterWatch

variable {α β : Type} [DecidableEq α]

theorem lookup_cons_eq_ite (key k : α) (v : β) (rest : List (α × β)) :
    ((k, v) :: rest).lookup key = if key = k then some v else rest.lookup key := by
  by_cases same : key = k
  · simp [same]
  · have differs : (key == k) = false := beq_eq_false_iff_ne.mpr same
    simp only [List.lookup_cons, differs, if_neg same]

theorem lookup_eq_none_of_fresh {key : α} {entries : List (α × β)}
    (fresh : key ∉ entries.map Prod.fst) : entries.lookup key = none := by
  rw [List.lookup_eq_none_iff]
  rintro ⟨k, v⟩ mem
  apply bne_iff_ne.mpr
  rintro rfl
  exact fresh (List.mem_map.mpr ⟨(key, v), mem, rfl⟩)

/-- A key is found in exactly those lists that have an entry for it. -/
theorem lookup_isSome_iff {key : α} {entries : List (α × β)} :
    (entries.lookup key).isSome ↔ key ∈ entries.map Prod.fst := by
  induction entries with
  | nil => simp
  | cons entry rest ih =>
      obtain ⟨k, v⟩ := entry
      rw [lookup_cons_eq_ite]
      by_cases same : key = k <;> simp [same, ih]

/-- Nothing is found under a key whose entries have been left out. -/
theorem lookup_filter_ne (key other : α) (entries : List (α × β)) :
    (entries.filter fun entry => entry.1 ≠ key).lookup other =
      if other = key then none else entries.lookup other := by
  induction entries with
  | nil => simp
  | cons entry rest ih =>
      obtain ⟨k, v⟩ := entry
      rw [List.filter_cons, lookup_cons_eq_ite]
      by_cases found : k = key
      · subst found
        simp only [ne_eq, not_true, decide_false, Bool.false_eq_true, if_false, ih]
        split <;> rfl
      · simp only [ne_eq, found, not_false_eq_true, decide_true, if_true, lookup_cons_eq_ite, ih]
        by_cases same : other = k
        · simp [same, found]
        · simp [same]

/-- Entries that have a value are found under their key. -/
theorem lookup_filterMap {entries : List (α × Option β)} (key : α)
    (distinct : (entries.map Prod.fst).Nodup) :
    (entries.filterMap fun (k, value) => value.map fun v => (k, v)).lookup key =
      (entries.lookup key).join := by
  induction entries with
  | nil => rfl
  | cons entry rest ih =>
      obtain ⟨k, value⟩ := entry
      rw [List.map_cons, List.nodup_cons] at distinct
      rw [lookup_cons_eq_ite, List.filterMap_cons]
      cases value with
      | some v =>
          simp only [Option.map_some, lookup_cons_eq_ite, ih distinct.2]
          split <;> rfl
      | none =>
          simp only [Option.map_none, ih distinct.2]
          split
          · next same =>
              rw [same, lookup_eq_none_of_fresh distinct.1]
              rfl
          · rfl

omit [DecidableEq α] in
/-- Entries that have a value have their keys in the order of the list. -/
theorem map_fst_filterMap_sublist (entries : List (α × Option β)) :
    List.Sublist
      ((entries.filterMap fun (k, value) => value.map fun v => (k, v)).map Prod.fst)
      (entries.map Prod.fst) := by
  induction entries with
  | nil => exact .slnil
  | cons entry rest ih =>
      obtain ⟨k, value⟩ := entry
      cases value with
      | some v => exact ih.cons_cons k
      | none => exact ih.cons k

/-! ## Places in lists -/

section Places

variable {γ : Type} {list : List γ} {place other : Nat} {a b : γ}

/-- What a list holds once the value at one place has been replaced. -/
theorem getElem?_set_cases (holds : (list.set place b)[other]? = some a) :
    (other = place ∧ a = b) ∨ (other ≠ place ∧ list[other]? = some a) := by
  rw [List.getElem?_set] at holds
  split at holds
  · next same =>
      split at holds
      · exact .inl ⟨same.symm, (Option.some.inj holds).symm⟩
      · cases holds
  · next differs => exact .inr ⟨Ne.symm differs, holds⟩

/-- A value may be replaced by one that looks the same. -/
theorem map_getElem?_set {δ : Type} {look : γ → δ} (holds : list[place]? = some a)
    (same : look b = look a) (other : Nat) :
    (list.set place b)[other]?.map look = list[other]?.map look := by
  rw [List.getElem?_set]
  split
  · next here =>
      subst here
      rw [if_pos (List.getElem?_eq_some_iff.mp holds).1, holds]
      exact congrArg some same
  · rfl

theorem getElem?_concat_eq_ite (list : List γ) (b : γ) (place : Nat) :
    (list ++ [b])[place]? = if place = list.length then some b else list[place]? := by
  split
  · next last =>
      subst last
      exact List.getElem?_concat_length
  · next differs =>
      rcases Nat.lt_or_gt_of_ne differs with within | beyond
      · exact List.getElem?_append_left within
      · rw [List.getElem?_eq_none (Nat.le_of_lt beyond), List.getElem?_eq_none]
        rw [List.length_append]
        exact beyond

/-- What a list holds once another value has been put at its end. -/
theorem getElem?_concat_cases (holds : (list ++ [b])[place]? = some a) :
    list[place]? = some a ∨ (place = list.length ∧ a = b) := by
  rw [getElem?_concat_eq_ite] at holds
  split at holds
  · next last => exact .inr ⟨last, (Option.some.inj holds).symm⟩
  · exact .inl holds

theorem getElem?_modify_eq_ite (list : List γ) (place other : Nat) (change : γ → γ) :
    (list.modify place change)[other]? =
      if other = place then list[other]?.map change else list[other]? := by
  rw [List.getElem?_modify]
  by_cases same : other = place
  · subst same
    simp
  · simp [same, Ne.symm same]

/-- A change that makes a value look no different cannot be seen. -/
theorem map_getElem?_modify {δ : Type} (look : γ → δ) (change : γ → γ)
    (same : ∀ a, look (change a) = look a) (list : List γ) (place other : Nat) :
    (list.modify place change)[other]?.map look = list[other]?.map look := by
  rw [getElem?_modify_eq_ite]
  split
  · rw [Option.map_map]
    exact congrArg (Option.map · _) (funext same)
  · rfl

theorem getElem?_modify_self (holds : list[place]? = some a) (change : γ → γ) :
    (list.modify place change)[place]? = some (change a) := by
  rw [getElem?_modify_eq_ite, if_pos rfl, holds]
  rfl

end Places

end ClusterWatch
