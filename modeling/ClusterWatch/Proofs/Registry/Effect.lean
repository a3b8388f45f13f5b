import ClusterWatch.Proofs.Registry.Coherence

/-!
# The effects of moves

Of all that a call does, only three things change which observers are registered and
which are cancelled: it sets a cancel flag, it removes an entry, or it creates an
observer and enters it.
-/

namespace ClusterWatch.Observation.Registry

open Elasticsearch (HasConnection)
open Kubernetes (Identity)

variable {κ : Type}

namespace State

/-- Whether an observer is cancelled, if there is one with the number. -/
def cancelled? (s : State κ) (id : ObserverId) : Option Bool :=
  s.observers[id]?.map Observer.cancelled

theorem cancelled?_eq_some_iff {s : State κ} {id : ObserverId} {flag : Bool} :
    s.cancelled? id = some flag ↔ ∃ o, s.observers[id]? = some o ∧ o.cancelled = flag :=
  Option.map_eq_some_iff

theorem cancelled?_eq_none_iff {s : State κ} {id : ObserverId} :
    s.cancelled? id = none ↔ s.observers[id]? = none :=
  Option.map_eq_none_iff

variable (s : State κ) (call : CallId) (point : Point κ) (id other : ObserverId)
  (cluster : Identity)

@[simp] theorem cancelled?_goto : (s.goto call point).cancelled? = s.cancelled? := rfl
@[simp] theorem cancelled?_enter : (s.enter cluster id).cancelled? = s.cancelled? := rfl
@[simp] theorem cancelled?_leave : (s.leave cluster).cancelled? = s.cancelled? := rfl

theorem cancelled?_update_cancel : (s.update id Observer.cancel).cancelled? other =
    if other = id then (s.cancelled? other).map fun _ => true else s.cancelled? other := by
  simp only [cancelled?, observers_update, getElem?_modify_eq_ite]
  split
  · cases s.observers[other]? <;> rfl
  · rfl

@[simp]
theorem cancelled?_update_enqueue :
    (s.update id (Observer.enqueue call)).cancelled? other = s.cancelled? other :=
  map_getElem?_modify Observer.cancelled (Observer.enqueue call) (fun _ => rfl) s.observers id other

@[simp]
theorem cancelled?_update_release :
    (s.update id Observer.release).cancelled? other = s.cancelled? other :=
  map_getElem?_modify Observer.cancelled Observer.release (fun _ => rfl) s.observers id other

theorem cancelled?_add (observer : Observer κ) : (s.add observer).cancelled? other =
    if other = s.observers.length then some observer.cancelled else s.cancelled? other := by
  rw [cancelled?, observers_add, getElem?_concat_eq_ite]
  split <;> rfl

theorem cancelled?_replace {s : State κ} {id : ObserverId} {o o' : Observer κ}
    (known : s.observers[id]? = some o) (same : o'.cancelled = o.cancelled) :
    (s.replace id o').cancelled? = s.cancelled? :=
  funext (map_getElem?_set known same)

end State

/-! ## What a call has at hand -/

/-- The observer that a call may yet cancel, remove or enter. -/
def Point.atHand? : Point κ → Option ObserverId
  | .halt _ id _ => some id
  | .remove _ id _ => some id
  | .insert _ id _ => some id
  | .displace _ old _ => some old
  | _ => none

@[simp]
theorem Next.atHand?_point (next : Next κ) : next.point.atHand? = none := by
  rcases next with ⟨_, _, _⟩ | ⟨_ | ⟨_, _⟩⟩ <;> rfl

@[simp]
theorem Use.atHand?_point (use : Use) (id : ObserverId) :
    (use.point id : Point κ).atHand? = none := by
  cases use <;> rfl

@[simp]
theorem atHand?_pointAfterList (stopping : Bool) (order : List Identity) :
    (pointAfterList stopping order : Point κ).atHand? = none := by
  cases stopping with
  | false => rfl
  | true => exact Next.atHand?_point (.stop order)

variable [HasConnection κ]

section Move

variable {s r : State κ} {call : CallId} {p q : Point κ}

/-- A call gets hold of an observer by its entry, or by creating it. -/
theorem Move.atHand? (move : Move s call p q r) {id : ObserverId} (holds : q.atHand? = some id) :
    p.atHand? = some id ∨ (∃ cluster, s.entry? cluster = some id) ∨
      id = s.observers.length := by
  cases move with
  | found entered =>
      cases holds
      exact .inr (.inl ⟨_, entered⟩)
  | displace entered =>
      cases holds
      exact .inr (.inl ⟨_, entered⟩)
  | spawn =>
      cases holds
      exact .inr (.inr rfl)
  | cancel | enqueue | acquire => exact .inl holds
  | @pass _ after | @join _ after =>
      cases after with
      | none => cases holds
      | some after => exact .inl holds
  | reuse | insert | supersede | absent | remove | keep | list => simp at holds
  | _ => cases holds

/-- Only a call that has created an observer is about to enter it. -/
theorem Move.of_insert {cluster : Identity} {id : ObserverId} {use : Use}
    (move : Move s call p (.insert cluster id use) r) :
    id = s.observers.length ∧
      ∃ client, p = .spawn cluster client use ∧
        r = s.add { cluster, client, settings := s.settings } := by
  generalize eq : Point.insert cluster id use = q at move
  cases move with
  | spawn =>
      cases eq
      exact ⟨rfl, _, rfl, rfl⟩
  | reuse | insert | supersede | absent | remove | keep | list =>
      have holds : some id = _ := congrArg Point.atHand? eq
      simp at holds
  | @pass _ after | @join _ after => cases after <;> cases eq
  | _ => cases eq

/-- Only a call that has entered an observer has displaced one. -/
theorem Move.of_displace {id old : ObserverId} {use : Use}
    (move : Move s call p (.displace id old use) r) :
    ∃ cluster, p = .insert cluster id use ∧ s.entry? cluster = some old ∧
      r = s.enter cluster id := by
  generalize eq : Point.displace id old use = q at move
  cases move with
  | displace entered =>
      cases eq
      exact ⟨_, rfl, entered, rfl⟩
  | reuse | insert | supersede | absent | remove | keep | list =>
      have holds : some old = _ := congrArg Point.atHand? eq
      simp at holds
  | @pass _ after | @join _ after => cases after <;> cases eq
  | _ => cases eq

/-- A move sets the cancel flag of the observer at hand, creates an observer, or leaves
every cancel flag as it is. -/
theorem Move.cancelled_cases (move : Move s call p q r) (id : ObserverId) :
    r.cancelled? id = s.cancelled? id ∨
      (r.cancelled? id = some true ∧
        ((∃ after, p = .halt .cancel id after) ∨ ∃ new use, p = .displace new id use)) ∨
      (s.cancelled? id = none ∧ r.cancelled? id = some false ∧ id = s.observers.length ∧
        ∃ cluster use, q = .insert cluster id use) := by
  cases move with
  | cancel =>
      rw [State.cancelled?_update_cancel]
      split
      · next same =>
          subst same
          cases s.cancelled? id with
          | none => exact .inl rfl
          | some => exact .inr (.inl ⟨rfl, .inl ⟨_, rfl⟩⟩)
      · exact .inl rfl
  | supersede =>
      rw [State.cancelled?_update_cancel]
      split
      · next same =>
          subst same
          cases s.cancelled? id with
          | none => exact .inl rfl
          | some => exact .inr (.inl ⟨rfl, .inr ⟨_, _, rfl⟩⟩)
      · exact .inl rfl
  | spawn =>
      rw [State.cancelled?_add]
      split
      · next same =>
          subst same
          have absent : s.cancelled? s.observers.length = none :=
            State.cancelled?_eq_none_iff.mpr (List.getElem?_eq_none (Nat.le_refl _))
          exact .inr (.inr ⟨absent, rfl, rfl, _, _, rfl⟩)
      · exact .inl rfl
  | _ => exact .inl (by simp)

/-- A move removes the entry of a cluster, puts in a new one, or leaves it as it is. -/
theorem Move.entry_cases (move : Move s call p q r) (cluster : Identity) :
    r.entry? cluster = s.entry? cluster ∨
      (∃ id next, p = .remove cluster id next ∧ s.entry? cluster = some id ∧
        r.entry? cluster = none) ∨
      ∃ id use, p = .insert cluster id use ∧ r.entry? cluster = some id ∧
        (s.entry? cluster = none ∨
          ∃ old, s.entry? cluster = some old ∧ q = .displace id old use) := by
  cases move with
  | @remove other id next entered =>
      rw [State.entry_leave]
      split
      · next same =>
          subst same
          exact .inr (.inl ⟨id, next, rfl, entered, rfl⟩)
      · exact .inl rfl
  | @insert other id use absent =>
      rw [State.entry_enter]
      split
      · next same =>
          subst same
          exact .inr (.inr ⟨id, use, rfl, rfl, .inl absent⟩)
      · exact .inl rfl
  | @displace other id old use entered =>
      rw [State.entry_enter]
      split
      · next same =>
          subst same
          exact .inr (.inr ⟨id, use, rfl, rfl, .inr ⟨old, entered, rfl⟩⟩)
      · exact .inl rfl
  | _ => exact .inl rfl

end Move

end ClusterWatch.Observation.Registry
