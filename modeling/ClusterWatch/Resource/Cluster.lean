import ClusterWatch.Kubernetes.Identity
import ClusterWatch.Resource.Spec
import ClusterWatch.Resource.Status

/-!
# The cluster resource

The resource with which a user asks for an Elasticsearch cluster to be watched:
metadata, what is asked for, and what was last reported.
-/

namespace ClusterWatch

open Json (Fields)
open Kubernetes (Identity ObjectMeta)

/-- An Elasticsearch cluster as a resource. -/
structure Cluster where
  metadata : ObjectMeta
  spec : ClusterSpec
  status : Option ClusterStatus

namespace Cluster

/-- The group of the API that the resource belongs to. -/
def group : String :=
  "stack.microscaler.io"

/-- The version of the resource. -/
def version : String :=
  "v1alpha1"

/-- The kind of the resource. -/
def kind : String :=
  "ElasticsearchCluster"

/-- The name of a collection of these resources. -/
def plural : String :=
  "elasticsearchclusters"

/-- The fields of a cluster resource. -/
def fields : Fields (ObjectMeta × ClusterSpec × Option ClusterStatus × Unit) :=
  .cons "metadata" ObjectMeta.reader .required <|
  .cons "spec" ClusterSpec.reader .required <|
  .cons "status" (Json.optional ClusterStatus.reader) (.keyed none) .nil

/-- Reads a cluster resource, of any kind and version. -/
def reader : Json.Reader Cluster :=
  (Json.readRecord (Json.plainRecord kind) fields).map
    fun (metadata, spec, status, _) => { metadata, spec, status }

/-- The resource as a JSON value. -/
def toJson (c : Cluster) : Json :=
  Json.ofMembers
    [("apiVersion", some (.string (group ++ "/" ++ version))),
      ("kind", some (.string kind)),
      ("metadata", some c.metadata.toJson),
      ("spec", some c.spec.toJson),
      ("status", c.status.map ClusterStatus.toJson)]

/-- The identity of the resource. -/
def identity (c : Cluster) : Identity :=
  Identity.ofMeta c.metadata

end Cluster

end ClusterWatch
