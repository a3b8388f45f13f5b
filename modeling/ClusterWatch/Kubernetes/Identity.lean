import ClusterWatch.Kubernetes.ObjectMeta

/-!
# Identity of objects

Within one kind, an object is told apart by the namespace it lives in and its
name.
-/

namespace ClusterWatch.Kubernetes

/-- The namespace and the name of an object. -/
structure Identity where
  space : String
  name : String
  deriving DecidableEq, Repr, Inhabited

namespace Identity

/-- The namespace of objects that do not say in which one they are. -/
def defaultSpace : String :=
  "default"

/-- The identity of the object with the given metadata.  An object that is not
named yet goes by the name that its own will begin with. -/
def ofMeta (metadata : ObjectMeta) : Identity where
  space := metadata.space.getD defaultSpace
  name := (metadata.name.or metadata.generateName).getD ""

/-- The name after its namespace; only the name if the namespace is empty. -/
def display (id : Identity) : String :=
  if id.space = "" then id.name else id.space ++ "/" ++ id.name

/-- Identities are ordered by namespace and then by name. -/
def compare (a b : Identity) : Ordering :=
  (Ord.compare a.space b.space).then (Ord.compare a.name b.name)

/-- The identities of a list in order, without the repetitions next to each other. -/
def distinct : List Identity → List Identity
  | [] => []
  | [id] => [id]
  | a :: b :: rest => if a = b then distinct (b :: rest) else a :: distinct (b :: rest)

/-- The distinct identities of a list, in order. -/
def sorted (ids : List Identity) : List Identity :=
  distinct (ids.mergeSort fun a b => compare a b != .gt)

end Identity

end ClusterWatch.Kubernetes
