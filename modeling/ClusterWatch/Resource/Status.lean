import ClusterWatch.Json.Fields

/-!
# What is reported of a cluster

The status of a cluster resource: the phase that sums up its health, some facts
of the last observation, and the moment of the reconciliation that wrote it.
-/

namespace ClusterWatch

open Json (Fields)

/-- The phase of an observed cluster; it is unknown until the cluster has been
observed and while it cannot be reached. -/
inductive ClusterPhase where
  | unknown
  | green
  | yellow
  | red
  deriving DecidableEq, Repr

namespace ClusterPhase

/-- The name of a phase. -/
def name : ClusterPhase → String
  | .unknown => "Unknown"
  | .green => "Green"
  | .yellow => "Yellow"
  | .red => "Red"

/-- The phases by name. -/
def known : List (String × ClusterPhase) :=
  [("Unknown", .unknown), ("Green", .green), ("Yellow", .yellow), ("Red", .red)]

/-- Reads the name of a phase. -/
def reader : Json.Reader ClusterPhase :=
  Json.oneOf known

/-- A phase is found under its name. -/
@[simp]
theorem lookup_name (phase : ClusterPhase) : known.lookup phase.name = some phase := by
  cases phase <;> decide

end ClusterPhase

/-- The status of a cluster resource. -/
structure ClusterStatus where
  phase : ClusterPhase
  clusterName : Option String
  numberOfNodes : Option UInt32
  licenseType : Option String
  lastObserved : Option Timestamp
  deriving DecidableEq

namespace ClusterStatus

/-- The status of a cluster of which nothing is known. -/
def unknown : ClusterStatus :=
  ⟨.unknown, none, none, none, none⟩

/-- The fields of a status. -/
def fields :
    Fields (ClusterPhase × Option String × Option UInt32 × Option String × Option Timestamp ×
      Unit) :=
  .cons "phase" ClusterPhase.reader .required <|
  .cons "clusterName" (Json.optional Json.text) (.default none) <|
  .cons "numberOfNodes" (Json.optional Json.uint32) (.default none) <|
  .cons "licenseType" (Json.optional Json.text) (.default none) <|
  .cons "lastObserved" (Json.optional Json.timestamp) (.default none) .nil

/-- Reads a status. -/
def reader : Json.Reader ClusterStatus :=
  (Json.readRecord (Json.plainRecord "ElasticsearchClusterStatus") fields).map
    fun (phase, clusterName, numberOfNodes, licenseType, lastObserved, _) =>
      { phase, clusterName, numberOfNodes, licenseType, lastObserved }

/-- The status as a JSON value, in which what is not known has no member. -/
def toJson (s : ClusterStatus) : Json :=
  Json.ofMembers
    [("phase", some (.string s.phase.name)),
      ("clusterName", s.clusterName.map .string),
      ("numberOfNodes", s.numberOfNodes.map fun n => .int n.toNat),
      ("licenseType", s.licenseType.map .string),
      ("lastObserved", s.lastObserved.map fun t => .string (Rfc3339.write t))]

end ClusterStatus

end ClusterWatch
