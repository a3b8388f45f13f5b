import Mathlib.Data.List.Forall2
import ClusterWatch.Proofs.Registry.Lock
import ClusterWatch.Proofs.Registry.Reference

/-!
# A registry compared with the reference

The observers of a cluster, in the order of their numbers, are compared one by one with
the rows of a slot.  Steps that concern other clusters do not disturb the comparison.
-/

namespace ClusterWatch.Observation.Registry

open Elasticsearch (HasConnection)
open Kubernetes (Identity)

variable {κ : Type}

namespace State

/-- The observers that a cluster has had, in the order in which they were created. -/
def created (s : State κ) (cluster : Identity) : List ObserverId :=
  (List.range s.observers.length).filter fun id =>
    s.observers[id]?.any fun o => o.cluster = cluster

theorem mem_created_iff {s : State κ} {cluster : Identity} {id : ObserverId} :
    id ∈ s.created cluster ↔ ∃ o, s.observers[id]? = some o ∧ o.cluster = cluster := by
  simp only [created, List.mem_filter, List.mem_range, Option.any_eq_true, decide_eq_true_eq]
  constructor
  · exact And.right
  · rintro ⟨o, known, named⟩
    exact ⟨(List.getElem?_eq_some_iff.mp known).1, o, known, named⟩

theorem nodup_created (s : State κ) (cluster : Identity) : (s.created cluster).Nodup :=
  List.nodup_range.filter _

theorem created_add (s : State κ) (cluster : Identity) (o : Observer κ) :
    (s.add o).created cluster =
      s.created cluster ++ if o.cluster = cluster then [s.observers.length] else [] := by
  rw [created, observers_add, List.length_append, List.length_singleton, List.range_succ,
    List.filter_append]
  congr 1
  · refine List.filter_congr fun id mem => ?_
    rw [List.getElem?_append_left (List.mem_range.mp mem)]
  · rw [List.filter_singleton, List.getElem?_concat_length]
    simp

/-- A cluster has had the same observers as long as none is created. -/
theorem created_of_evolves {s t : State κ} (evolves : Evolves s.observers t.observers)
    (same : t.observers.length = s.observers.length) (cluster : Identity) :
    t.created cluster = s.created cluster := by
  rw [created, created, same]
  refine List.filter_congr fun id mem => ?_
  have known := List.getElem?_eq_getElem (List.mem_range.mp mem)
  obtain ⟨o', known', continues⟩ := evolves id _ known
  rw [known, known', Option.any_some, Option.any_some, continues.cluster]

theorem created_update {change : Observer κ → Observer κ}
    (continues : ∀ o : Observer κ, o.Continues (change o)) (s : State κ) (id : ObserverId)
    (cluster : Identity) : (s.update id change).created cluster = s.created cluster :=
  created_of_evolves (evolves_modify continues _ _) (List.length_modify ..) cluster

/-- The observer is the registered one of its cluster, and live. -/
def IsCurrent (s : State κ) (cluster : Identity) (id : ObserverId) (o : Observer κ) : Prop :=
  s.entry? cluster = some id ∧ o.cancelled = false

end State

/-! ## Rows and observers -/

/-- An observer stands as it is said to.  What makes it the registered one is left open,
because that is put in several terms while a call is under way. -/
def Standing.Holds (s : State κ) (cluster : Identity)
    (current : ObserverId → Observer κ → Prop) (id : ObserverId) (o : Observer κ) :
    Standing → Prop
  | .registered => current id o
  | .signalled => s.entry? cluster ≠ some id ∧ o.cancelled = true
  | .ended => s.entry? cluster ≠ some id ∧ o.cancelled = true ∧ o.task.isFinished = true

/-- The observer with a number is the one that a row describes. -/
def Row.Fits (s : State κ) (cluster : Identity) (current : ObserverId → Observer κ → Prop)
    (id : ObserverId) (row : Row κ) : Prop :=
  ∃ o, s.observers[id]? = some o ∧ o.client = row.client ∧ o.settings = s.settings ∧
    row.standing.Holds s cluster current id o

/-- The observers with the given numbers are those that a slot describes. -/
abbrev Rows (s : State κ) (cluster : Identity) (current : ObserverId → Observer κ → Prop) :
    List ObserverId → Slot κ → Prop :=
  List.Forall₂ (Row.Fits s cluster current)

/-- The observers that a cluster has had are those that a slot describes. -/
def Matches (s : State κ) (cluster : Identity) (slot : Slot κ) : Prop :=
  Rows s cluster (s.IsCurrent cluster) (s.created cluster) slot

section Rows

variable {s t : State κ} {cluster : Identity} {current : ObserverId → Observer κ → Prop}
  {ids : List ObserverId} {slot : Slot κ}

/-- The rows of a slot after a step.  Those that are no longer registered stay as they
are; what the registered one turns into has to be shown. -/
theorem Rows.retire (rows : Rows s cluster current ids slot) {ending : Standing}
    {current' : ObserverId → Observer κ → Prop} (settings : t.settings = s.settings)
    (evolves : Evolves s.observers t.observers)
    (former : ∀ id ∈ ids, s.entry? cluster ≠ some id → t.entry? cluster ≠ some id)
    (turns : ∀ id ∈ ids, ∀ o o', s.observers[id]? = some o → t.observers[id]? = some o' →
      o.Continues o' → current id o → ending.Holds t cluster current' id o') :
    Rows t cluster current' ids (slot.retire ending) := by
  refine List.forall₂_map_right_iff.mpr ?_
  have both := (List.forall₂_and_left ids slot).mpr ⟨fun _ mem => mem, rows⟩
  refine both.imp ?_
  rintro id row ⟨mem, o, known, client, bound, holds⟩
  obtain ⟨o', known', continues⟩ := evolves id o known
  refine ⟨o', known', continues.client.trans client, ?_, ?_⟩
  · rw [continues.settings, bound, settings]
  · cases standing : row.standing with
    | registered =>
        rw [standing] at holds
        exact turns id mem o o' known known' continues holds
    | signalled =>
        rw [standing] at holds
        exact ⟨former id mem holds.1, continues.cancelled holds.2⟩
    | ended =>
        rw [standing] at holds
        exact ⟨former id mem holds.1, continues.cancelled holds.2.1,
          continues.finished holds.2.2⟩

/-- The rows of a slot stay as they are if the registered one does. -/
theorem Rows.mono (rows : Rows s cluster current ids slot)
    {current' : ObserverId → Observer κ → Prop} (settings : t.settings = s.settings)
    (evolves : Evolves s.observers t.observers)
    (former : ∀ id ∈ ids, s.entry? cluster ≠ some id → t.entry? cluster ≠ some id)
    (keeps : ∀ id ∈ ids, ∀ o o', s.observers[id]? = some o → t.observers[id]? = some o' →
      o.Continues o' → current id o → current' id o') :
    Rows t cluster current' ids slot := by
  rw [← slot.retire_registered]
  exact rows.retire settings evolves former keeps

/-- A row is that of an observer. -/
theorem Rows.exists_of_getElem? (rows : Rows s cluster current ids slot) {n : Nat} {row : Row κ}
    (has : slot[n]? = some row) : ∃ id, ids[n]? = some id ∧ row.Fits s cluster current id := by
  obtain ⟨within, rfl⟩ := List.getElem?_eq_some_iff.mp has
  have within' : n < ids.length := by rwa [rows.length_eq]
  exact ⟨ids[n], List.getElem?_eq_getElem within', rows.get within' within⟩

/-- An observer has a row. -/
theorem Rows.exists_of_mem (rows : Rows s cluster current ids slot) {id : ObserverId}
    (mem : id ∈ ids) : ∃ row ∈ slot, row.Fits s cluster current id := by
  obtain ⟨n, within, rfl⟩ := List.getElem_of_mem mem
  have within' : n < slot.length := by rwa [← rows.length_eq]
  exact ⟨slot[n], List.getElem_mem within', rows.get within within'⟩

end Rows

/-- A row that is registered, and whose client serves, is found by looking for one. -/
theorem Matches.registered {s : State κ} {cluster : Identity} {slot : Slot κ}
    (agrees : Matches s cluster slot) {n : Nat} {row : Row κ} (has : slot[n]? = some row)
    (standing : row.standing = .registered) :
    ∃ id o, (s.created cluster)[n]? = some id ∧ s.entry? cluster = some id ∧
      s.observers[id]? = some o ∧ o.client = row.client := by
  obtain ⟨id, place, o, known, client, -, holds⟩ := Rows.exists_of_getElem? agrees has
  rw [standing] at holds
  exact ⟨id, o, place, holds.1, known, client⟩

/-- The registered observer of a cluster has a row that says so. -/
theorem Matches.exists_registered {s : State κ} {cluster : Identity} {slot : Slot κ}
    (agrees : Matches s cluster slot) {id : ObserverId} {o : Observer κ}
    (entered : s.entry? cluster = some id) (known : s.observers[id]? = some o)
    (named : o.cluster = cluster) :
    ∃ row ∈ slot, row.standing = .registered ∧ row.client = o.client := by
  obtain ⟨row, mem, o', known', client, -, holds⟩ :=
    Rows.exists_of_mem agrees (State.mem_created_iff.mpr ⟨o, known, named⟩)
  obtain rfl : o = o' := Option.some.inj (known.symm.trans known')
  refine ⟨row, mem, ?_, client.symm⟩
  cases standing : row.standing with
  | registered => rfl
  | signalled | ended =>
      rw [standing] at holds
      exact (holds.1 entered).elim

/-! ## Answers and outcomes -/

/-- A call has given back what it ought to.  The number of an observer is its place among
those of the cluster, and what has been read is told by `seen`. -/
def Corresponds (ids : List ObserverId) (seen : ObserverId → Observation → Prop) :
    Answer → Outcome → Prop
  | .done, .done => True
  | .observer n, .observer id => ids[n]? = some id
  | .observation n, .observation value => ∃ id, ids[n]? = some id ∧ seen id value
  | .entry n, .entry id => Option.Rel (fun n id => ids[n]? = some id) n id
  | _, _ => False

/-- Observers that are created later do not change what an answer means. -/
theorem Corresponds.mono {ids ids' : List ObserverId} {seen : ObserverId → Observation → Prop}
    {answer : Answer} {outcome : Outcome} (corresponds : Corresponds ids seen answer outcome)
    (grows : ids <+: ids') : Corresponds ids' seen answer outcome := by
  have keeps {n : Nat} {id : ObserverId} (place : ids[n]? = some id) : ids'[n]? = some id := by
    obtain ⟨more, rfl⟩ := grows
    exact (List.getElem?_append_left (List.getElem?_eq_some_iff.mp place).1).trans place
  cases answer with
  | done => cases outcome <;> exact corresponds
  | observer n =>
      cases outcome with
      | observer id => exact keeps corresponds
      | _ => exact corresponds
  | observation n =>
      cases outcome with
      | observation value =>
          obtain ⟨id, place, read⟩ := corresponds
          exact ⟨id, keeps place, read⟩
      | _ => exact corresponds
  | entry n =>
      cases outcome with
      | entry id =>
          cases corresponds with
          | some place => exact .some (keeps place)
          | none => exact .none
      | _ => exact corresponds

end ClusterWatch.Observation.Registry
