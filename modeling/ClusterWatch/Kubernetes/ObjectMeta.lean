import ClusterWatch.Json.Fields

/-!
# Metadata of Kubernetes objects

The standard metadata that every object carries.  All of it may be absent;
unknown members are not kept.
-/

namespace ClusterWatch.Kubernetes

open Json (Fields)

/-- A reader of a member that counts as absent when it is `null`. -/
private def field {β γ : Type} (key : String) (value : Json.Reader β) (others : Fields γ) :
    Fields (Option β × γ) :=
  .cons key (Json.optional value) (.default none) others

/-- A moment as the Kubernetes API writes it, in whole seconds. -/
private def momentJson (t : Timestamp) : Json :=
  .string (Rfc3339.writeSeconds t)

/-- A map of texts as a JSON value. -/
private def textMapJson (entries : List (String × String)) : Json :=
  .object (entries.map fun (key, value) => (key, .string value))

/-- The entry of one manager of fields. -/
structure ManagedFieldsEntry where
  apiVersion : Option String
  fieldsType : Option String
  fieldsV1 : Option Json
  manager : Option String
  operation : Option String
  subresource : Option String
  time : Option Timestamp

namespace ManagedFieldsEntry

/-- The number of arrays and objects that may be open at a time inside the set of
managed fields: a document as a whole has 127, and four are around this one. -/
def fieldsDepth : Nat := 123

/-- Reads an entry. -/
def reader : Json.Reader ManagedFieldsEntry :=
  (Json.readRecord (Json.apiRecord "ManagedFieldsEntry") <|
    field "apiVersion" Json.text <|
    field "fieldsType" Json.text <|
    field "fieldsV1" (Json.anyValue fieldsDepth) <|
    field "manager" Json.text <|
    field "operation" Json.text <|
    field "subresource" Json.text <|
    field "time" Json.timestamp .nil).map
    fun (apiVersion, fieldsType, fieldsV1, manager, operation, subresource, time, _) =>
      { apiVersion, fieldsType, fieldsV1, manager, operation, subresource, time }

/-- The entry as a JSON value. -/
def toJson (e : ManagedFieldsEntry) : Json :=
  Json.ofMembers
    [("apiVersion", e.apiVersion.map .string),
      ("fieldsType", e.fieldsType.map .string),
      ("fieldsV1", e.fieldsV1),
      ("manager", e.manager.map .string),
      ("operation", e.operation.map .string),
      ("subresource", e.subresource.map .string),
      ("time", e.time.map momentJson)]

end ManagedFieldsEntry

/-- A reference to an object that owns this one. -/
structure OwnerReference where
  apiVersion : String
  blockOwnerDeletion : Option Bool
  controller : Option Bool
  kind : String
  name : String
  uid : String

namespace OwnerReference

/-- Reads a reference to an owner; texts that are absent are empty. -/
def reader : Json.Reader OwnerReference :=
  (Json.readRecord (Json.apiRecord "OwnerReference") <|
    field "apiVersion" Json.text <|
    field "blockOwnerDeletion" Json.boolean <|
    field "controller" Json.boolean <|
    field "kind" Json.text <|
    field "name" Json.text <|
    field "uid" Json.text .nil).map
    fun (apiVersion, blockOwnerDeletion, controller, kind, name, uid, _) =>
      { apiVersion := apiVersion.getD "", blockOwnerDeletion, controller
        kind := kind.getD "", name := name.getD "", uid := uid.getD "" }

/-- The reference as a JSON value. -/
def toJson (r : OwnerReference) : Json :=
  Json.ofMembers
    [("apiVersion", some (.string r.apiVersion)),
      ("blockOwnerDeletion", r.blockOwnerDeletion.map .bool),
      ("controller", r.controller.map .bool),
      ("kind", some (.string r.kind)),
      ("name", some (.string r.name)),
      ("uid", some (.string r.uid))]

end OwnerReference

/-- The metadata of an object. -/
structure ObjectMeta where
  annotations : Option (List (String × String)) := none
  creationTimestamp : Option Timestamp := none
  deletionGracePeriodSeconds : Option Int64 := none
  deletionTimestamp : Option Timestamp := none
  finalizers : Option (List String) := none
  generateName : Option String := none
  generation : Option Int64 := none
  labels : Option (List (String × String)) := none
  managedFields : Option (List ManagedFieldsEntry) := none
  name : Option String := none
  space : Option String := none
  ownerReferences : Option (List OwnerReference) := none
  resourceVersion : Option String := none
  selfLink : Option String := none
  uid : Option String := none

namespace ObjectMeta

/-- Reads metadata. -/
def reader : Json.Reader ObjectMeta :=
  (Json.readRecord (Json.apiRecord "ObjectMeta") <|
    field "annotations" (Json.dictionary Json.text) <|
    field "creationTimestamp" Json.timestamp <|
    field "deletionGracePeriodSeconds" Json.int64 <|
    field "deletionTimestamp" Json.timestamp <|
    field "finalizers" (Json.sequence Json.text) <|
    field "generateName" Json.text <|
    field "generation" Json.int64 <|
    field "labels" (Json.dictionary Json.text) <|
    field "managedFields" (Json.sequence ManagedFieldsEntry.reader) <|
    field "name" Json.text <|
    field "namespace" Json.text <|
    field "ownerReferences" (Json.sequence OwnerReference.reader) <|
    field "resourceVersion" Json.text <|
    field "selfLink" Json.text <|
    field "uid" Json.text .nil).map
    fun (annotations, creationTimestamp, deletionGracePeriodSeconds, deletionTimestamp,
        finalizers, generateName, generation, labels, managedFields, name, space,
        ownerReferences, resourceVersion, selfLink, uid, _) =>
      { annotations, creationTimestamp, deletionGracePeriodSeconds, deletionTimestamp,
        finalizers, generateName, generation, labels, managedFields, name, space,
        ownerReferences, resourceVersion, selfLink, uid }

/-- The metadata as a JSON value. -/
def toJson (m : ObjectMeta) : Json :=
  Json.ofMembers
    [("annotations", m.annotations.map textMapJson),
      ("creationTimestamp", m.creationTimestamp.map momentJson),
      ("deletionGracePeriodSeconds", m.deletionGracePeriodSeconds.map fun n => .int n.toInt),
      ("deletionTimestamp", m.deletionTimestamp.map momentJson),
      ("finalizers", m.finalizers.map fun names => .array (names.map .string)),
      ("generateName", m.generateName.map .string),
      ("generation", m.generation.map fun n => .int n.toInt),
      ("labels", m.labels.map textMapJson),
      ("managedFields", m.managedFields.map fun es => .array (es.map ManagedFieldsEntry.toJson)),
      ("name", m.name.map .string),
      ("namespace", m.space.map .string),
      ("ownerReferences", m.ownerReferences.map fun rs => .array (rs.map OwnerReference.toJson)),
      ("resourceVersion", m.resourceVersion.map .string),
      ("selfLink", m.selfLink.map .string),
      ("uid", m.uid.map .string)]

end ObjectMeta

end ClusterWatch.Kubernetes
