import ClusterWatch.Observation.Registry

/-!
# The registry of one cluster, as it ought to behave

For a single cluster whose calls come one after another, a registry is a table of the
observers that the cluster has had, of which one at most is registered.  An operation
changes the table at once, and names observers by their place in it.
-/

namespace ClusterWatch.Observation.Registry

open Elasticsearch (HasConnection Interchangeable)

variable {κ : Type}

/-- How an observer stands. -/
inductive Standing where
  /-- It is registered, and live. -/
  | registered
  /-- It is no longer registered, and its stop has been requested. -/
  | signalled
  /-- It is no longer registered, and its task has ended on request. -/
  | ended
  deriving DecidableEq, Repr

/-- An observer, as far as callers are concerned with it. -/
structure Row (κ : Type) where
  client : κ
  standing : Standing
  deriving DecidableEq

/-- The observers that a cluster has had, in the order in which they were created. -/
abbrev Slot (κ : Type) := List (Row κ)

/-- What is asked for a cluster. -/
inductive Operation (κ : Type) where
  | observe (client : κ) (use : Use)
  | create (client : κ)
  | stop
  | get

/-- What is given back; observers are numbered within the cluster. -/
inductive Answer where
  | done
  | observer (number : Nat)
  /-- What the observer published last. -/
  | observation (number : Nat)
  | entry (number : Option Nat)

/-- What is given back by an operation that gets an observer. -/
def Use.answer (number : Nat) : Use → Answer
  | .give => .observer number
  | .read => .observation number

namespace Slot

/-- The registered observer, if there is one, is registered no longer. -/
def retire (ending : Standing) (slot : Slot κ) : Slot κ :=
  slot.map fun row =>
    { row with standing := if row.standing = .registered then ending else row.standing }

/-- A new observer takes the place of the registered one. -/
def enter (client : κ) (slot : Slot κ) : Slot κ :=
  retire .signalled slot ++ [⟨client, .registered⟩]

/-- The number of the registered observer. -/
def current? (slot : Slot κ) : Option Nat :=
  slot.findIdx? fun row => row.standing = .registered

@[simp]
theorem length_retire (ending : Standing) (slot : Slot κ) :
    (slot.retire ending).length = slot.length :=
  List.length_map _

@[simp]
theorem retire_registered (slot : Slot κ) : slot.retire .registered = slot := by
  have same (row : Row κ) :
      (if row.standing = .registered then .registered else row.standing) = row.standing := by
    split
    · next is => exact is.symm
    · rfl
  simp [retire, same]

variable [HasConnection κ]

/-- The number of the registered observer, if a client serves as well as its own. -/
def serving? (client : κ) (slot : Slot κ) : Option Nat :=
  slot.findIdx? fun row => row.standing = .registered ∧ Interchangeable row.client client

/-- The table after an operation, and what the operation gives back. -/
def apply (slot : Slot κ) : Operation κ → Slot κ × Answer
  | .observe client use =>
      match slot.serving? client with
      | some number => (slot, use.answer number)
      | none => ((slot.retire .ended).enter client, use.answer slot.length)
  | .create client => (slot.enter client, .observer slot.length)
  | .stop => (slot.retire .ended, .done)
  | .get => (slot, .entry slot.current?)

/-- The table after operations that were asked for by calls, one after another. -/
def after (history : List (CallId × Operation κ)) : Slot κ :=
  history.foldl (fun slot entry => (slot.apply entry.2).1) []

@[simp]
theorem after_concat (history : List (CallId × Operation κ)) (call : CallId)
    (operation : Operation κ) :
    after (history ++ [(call, operation)]) = ((after history).apply operation).1 := by
  simp [after]

end Slot

end ClusterWatch.Observation.Registry
