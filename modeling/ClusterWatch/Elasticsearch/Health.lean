import ClusterWatch.Json.Fields

/-!
# Cluster health

The answer of an Elasticsearch cluster to a health request, as JSON text and as a
value.  Only the name and the color have to be there.
-/

namespace ClusterWatch

/-- The color that sums up the health of a cluster. -/
inductive HealthStatus where
  | green
  | yellow
  | red
  deriving DecidableEq, Repr

namespace HealthStatus

/-- The name of a color. -/
def name : HealthStatus → String
  | .green => "green"
  | .yellow => "yellow"
  | .red => "red"

/-- The colors by name. -/
def known : List (String × HealthStatus) :=
  [("green", .green), ("yellow", .yellow), ("red", .red)]

/-- Reads the name of a color. -/
def reader : Json.Reader HealthStatus :=
  Json.oneOf known

/-- A color is found under its name. -/
@[simp]
theorem lookup_name (status : HealthStatus) : known.lookup status.name = some status := by
  cases status <;> decide

end HealthStatus

/-- The health of a cluster. -/
structure Health where
  clusterName : String
  status : HealthStatus
  timedOut : Bool
  numberOfNodes : UInt32
  numberOfDataNodes : UInt32
  activePrimaryShards : UInt32
  activeShards : UInt32
  relocatingShards : UInt32
  initializingShards : UInt32
  unassignedShards : UInt32
  deriving DecidableEq

namespace Health

open Json (Fields)

/-- The values of a health record, in declaration order. -/
abbrev Row : Type :=
  String × HealthStatus × Bool × UInt32 × UInt32 × UInt32 × UInt32 × UInt32 × UInt32 × UInt32 ×
    Unit

/-- The fields of a health record.  Counters that are absent are zero. -/
def fields : Fields Row :=
  .cons "cluster_name" Json.text .required <|
  .cons "status" HealthStatus.reader .required <|
  .cons "timed_out" Json.boolean (.default false) <|
  .cons "number_of_nodes" Json.uint32 (.default 0) <|
  .cons "number_of_data_nodes" Json.uint32 (.default 0) <|
  .cons "active_primary_shards" Json.uint32 (.default 0) <|
  .cons "active_shards" Json.uint32 (.default 0) <|
  .cons "relocating_shards" Json.uint32 (.default 0) <|
  .cons "initializing_shards" Json.uint32 (.default 0) <|
  .cons "unassigned_shards" Json.uint32 (.default 0) .nil

/-- The record of a row of values. -/
def ofRow : Row → Health
  | (clusterName, status, timedOut, numberOfNodes, numberOfDataNodes, activePrimaryShards,
      activeShards, relocatingShards, initializingShards, unassignedShards, _) =>
    { clusterName, status, timedOut, numberOfNodes, numberOfDataNodes, activePrimaryShards,
      activeShards, relocatingShards, initializingShards, unassignedShards }

/-- Reads a health record. -/
def reader : Json.Reader Health :=
  (Json.readRecord (Json.plainRecord "Health") fields).map ofRow

/-- The health record as a JSON value. -/
def toJson (h : Health) : Json :=
  .object
    [("cluster_name", .string h.clusterName),
      ("status", .string h.status.name),
      ("timed_out", .bool h.timedOut),
      ("number_of_nodes", .int h.numberOfNodes.toNat),
      ("number_of_data_nodes", .int h.numberOfDataNodes.toNat),
      ("active_primary_shards", .int h.activePrimaryShards.toNat),
      ("active_shards", .int h.activeShards.toNat),
      ("relocating_shards", .int h.relocatingShards.toNat),
      ("initializing_shards", .int h.initializingShards.toNat),
      ("unassigned_shards", .int h.unassignedShards.toNat)]

end Health

end ClusterWatch
