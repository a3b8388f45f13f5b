import ClusterWatch.Observation.Registry
import ClusterWatch.Proofs.Lookup

/-!
# The entries of a registry

What is found under a cluster once an entry has been put in or removed, and why no
cluster ever has two entries.
-/

namespace ClusterWatch.Observation.Registry

open Kubernetes (Identity)

variable {key other : Identity} {value : ObserverId} {entries : List (Identity × ObserverId)}

theorem lookup_put (key other : Identity) (value : ObserverId)
    (entries : List (Identity × ObserverId)) :
    (put key value entries).lookup other =
      if other = key then some value else entries.lookup other := by
  induction entries with
  | nil => simp only [put, lookup_cons_eq_ite, List.lookup_nil]
  | cons entry rest ih =>
      obtain ⟨k, v⟩ := entry
      by_cases found : k = key
      · subst found
        simp only [put, if_true, lookup_cons_eq_ite]
        split <;> rfl
      · simp only [put, if_neg found, lookup_cons_eq_ite, ih]
        by_cases same : other = k
        · simp only [same, if_true, if_neg found]
        · simp only [if_neg same]

theorem lookup_erase (key other : Identity) (entries : List (Identity × ObserverId)) :
    (erase key entries).lookup other = if other = key then none else entries.lookup other :=
  lookup_filter_ne key other entries

theorem mem_keys_put {k : Identity} (mem : k ∈ (put key value entries).map Prod.fst) :
    k = key ∨ k ∈ entries.map Prod.fst := by
  rw [← lookup_isSome_iff, lookup_put] at mem
  split at mem
  · next same => exact .inl same
  · exact .inr (lookup_isSome_iff.mp mem)

theorem nodup_keys_put (distinct : (entries.map Prod.fst).Nodup) :
    ((put key value entries).map Prod.fst).Nodup := by
  induction entries with
  | nil => simp [put]
  | cons entry rest ih =>
      obtain ⟨k, v⟩ := entry
      rw [List.map_cons, List.nodup_cons] at distinct
      rw [put]
      split
      · next same =>
          subst same
          exact List.nodup_cons.mpr distinct
      · next differs =>
          refine List.nodup_cons.mpr ⟨fun mem => ?_, ih distinct.2⟩
          rcases mem_keys_put mem with same | mem
          · exact differs same
          · exact distinct.1 mem

theorem nodup_keys_erase (distinct : (entries.map Prod.fst).Nodup) :
    ((erase key entries).map Prod.fst).Nodup :=
  distinct.sublist (List.filter_sublist.map Prod.fst)

end ClusterWatch.Observation.Registry
