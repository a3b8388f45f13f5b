import ClusterWatch.Resource.Reference

/-!
# What a cluster resource asks for

Where an Elasticsearch cluster is reached and with which credentials and
certificate.  Everything may be left out.
-/

namespace ClusterWatch

open Json (Fields)

/-- The specification of an observed cluster. -/
structure ClusterSpec where
  endpoint : Option String
  credentials : Option CredentialsSecretReference
  ca : Option CaSecretReference
  deriving DecidableEq

namespace ClusterSpec

/-- The fields of a specification. -/
def fields :
    Fields (Option String × Option CredentialsSecretReference × Option CaSecretReference × Unit) :=
  .cons "endpoint" (Json.optional Json.text) (.default none) <|
  .cons "credentialsSecretRef" (Json.optional CredentialsSecretReference.reader)
    (.default none) <|
  .cons "caSecretRef" (Json.optional CaSecretReference.reader) (.default none) .nil

/-- Reads a specification. -/
def reader : Json.Reader ClusterSpec :=
  (Json.readRecord (Json.plainRecord "ElasticsearchClusterSpec") fields).map
    fun (endpoint, credentials, ca, _) => { endpoint, credentials, ca }

/-- The specification as a JSON value. -/
def toJson (s : ClusterSpec) : Json :=
  Json.ofMembers
    [("endpoint", s.endpoint.map .string),
      ("credentialsSecretRef", s.credentials.map CredentialsSecretReference.toJson),
      ("caSecretRef", s.ca.map CaSecretReference.toJson)]

end ClusterSpec

end ClusterWatch
