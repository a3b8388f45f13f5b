import ClusterWatch.Json.Failure

/-!
# Errors of a client

Why a client has no answer: the request got no complete response, the cluster
refused it, the answer has another form than expected, or the client could not
be built at all.
-/

namespace ClusterWatch.Elasticsearch

/-- How an exchange over HTTP fails. -/
inductive HttpFailure where
  /-- The request cannot be built. -/
  | builder
  /-- There is no response in time. -/
  | timeout
  /-- There are too many redirects. -/
  | redirect
  /-- The body of the response cannot be read. -/
  | body
  /-- The request cannot be sent, or nothing comes back. -/
  | request
  deriving DecidableEq, Repr

/-- An error of a client. -/
inductive ClientError where
  | http (failure : HttpFailure)
  | api (text : String)
  | authentication (text : String)
  | serialization (failure : Json.Failure)
  | invalidConfig (text : String)
  deriving DecidableEq

/-- The wording of an error, where it is the client's own. -/
def ClientError.message? : ClientError → Option String
  | .http _ => none
  | .api text => some ("Elasticsearch API error: " ++ text)
  | .authentication text => some ("Authentication failed: " ++ text)
  | .serialization _ => none
  | .invalidConfig text => some ("Invalid client configuration: " ++ text)

end ClusterWatch.Elasticsearch
