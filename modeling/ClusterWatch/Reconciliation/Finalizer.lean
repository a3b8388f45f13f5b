import ClusterWatch.Kubernetes.Api
import ClusterWatch.Kubernetes.ObjectMeta
import ClusterWatch.Text.Digits

/-!
# The finalizer

A resource that is watched carries a finalizer, so it is not deleted before its
observer has been stopped.  Which work there is for a resource depends on whether
it carries the finalizer and on whether it is being deleted.
-/

namespace ClusterWatch.Reconciliation.Finalizer

open Kubernetes (Change ObjectMeta)

/-- The name of the finalizer. -/
def name : String :=
  "stack.microscaler.io/observer"

/-- The work there is for a resource. -/
inductive Work where
  /-- To watch the cluster. -/
  | apply
  /-- To stop watching it, and to remove the finalizer at the given position. -/
  | cleanup (position : Nat)
  /-- To add the finalizer. -/
  | add
  /-- None: the resource is being deleted and others still hold it. -/
  | wait
  deriving DecidableEq, Repr

/-- The finalizers of a resource. -/
def ofMeta (metadata : ObjectMeta) : List String :=
  metadata.finalizers.getD []

/-- The resource is being deleted. -/
def isDeleting (metadata : ObjectMeta) : Bool :=
  metadata.deletionTimestamp.isSome

/-- The work there is for a resource with the given metadata. -/
def work (metadata : ObjectMeta) : Work :=
  match (ofMeta metadata).findIdx? (· = name), isDeleting metadata with
  | some _, false => .apply
  | some position, true => .cleanup position
  | none, false => .add
  | none, true => .wait

/-- One operation of a patch. -/
def operation (op path : String) (value : Option Json) : Json :=
  Json.ofMembers [("op", some (.string op)), ("path", some (.string path)), ("value", value)]

/-- The change that adds the finalizer, as long as the others stay what they were. -/
def addition (metadata : ObjectMeta) : Change :=
  let path := "/metadata/finalizers"
  match ofMeta metadata with
  | [] =>
      .operations <| .array
        [operation "test" path (some .null),
          operation "add" path (some (.array [.string name]))]
  | others =>
      .operations <| .array
        [operation "test" path (some (.array (others.map .string))),
          operation "add" (path ++ "/-") (some (.string name))]

/-- The change that removes the finalizer, as long as it is at the position. -/
def removal (position : Nat) : Change :=
  let path := "/metadata/finalizers/" ++ Text.decimal position
  .operations <| .array
    [operation "test" path (some (.string name)), operation "remove" path none]

end ClusterWatch.Reconciliation.Finalizer
