import ClusterWatch.Kubernetes.Identity

/-!
# Names of services

The names of the services that belong to an Elasticsearch cluster are made of
the name of the cluster and suffixes.  A name has to fit in a label of the domain
name system, so a long name of a cluster is cut.
-/

namespace ClusterWatch.ServiceName

open Kubernetes (Identity)

/-- The length of the longest label. -/
def maxLength : Nat := 63

/-- A way to make names: the suffixes that every name has. -/
structure Namer where
  suffixes : List String

/-- The suffixes, each after a hyphen. -/
def joined (suffixes : List String) : List Char :=
  suffixes.flatMap fun suffix => '-' :: suffix.toList

/-- The name for an owner: what fits of its name, counted in characters, and the
suffixes, counted in bytes. -/
def Namer.name (namer : Namer) (owner : String) (suffixes : List String) : String :=
  let suffix := String.ofList (joined (namer.suffixes ++ suffixes))
  String.ofList (owner.toList.take (maxLength - suffix.utf8ByteSize)) ++ suffix

/-- The names of what belongs to an Elasticsearch cluster. -/
def elasticsearch : Namer :=
  ⟨["es"]⟩

/-- The name of the service through which a cluster is reached over HTTP. -/
def httpService (name : String) : String :=
  elasticsearch.name name ["http"]

/-- The address of that service inside the Kubernetes cluster. -/
def defaultEndpoint (id : Identity) : String :=
  "https://" ++ httpService id.name ++ "." ++ id.space ++ ".svc:9200"

end ClusterWatch.ServiceName
