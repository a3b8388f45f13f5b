import ClusterWatch.Elasticsearch.Certificate
import ClusterWatch.Elasticsearch.Connection
import ClusterWatch.Elasticsearch.Error
import ClusterWatch.Elasticsearch.Health
import ClusterWatch.Elasticsearch.License
import ClusterWatch.Elasticsearch.StatusCode
import ClusterWatch.Elasticsearch.Url
import ClusterWatch.Time.Duration

/-!
# Clients of Elasticsearch

A client asks one cluster for its health and its license.  The network is a
function that takes a request to the final response, once redirects have been
followed, or to the failure of the exchange; so the outcome of a call is a
function of what the network does.
-/

namespace ClusterWatch.Elasticsearch

/-! ## Exchanges -/

/-- A request to a cluster. -/
structure Request where
  url : String
  /-- The media type of the answer. -/
  accept : String
  /-- What tells the cluster who asks, if that is told at all. -/
  authorization : Option String
  timeout : Duration
  deriving DecidableEq

/-- What tells a cluster that a user asks: the name and the password in base64. -/
def Credentials.authorization (user : Credentials) : String :=
  "Basic " ++ String.ofList
    (Text.Base64.encode (Text.Utf8.encode (user.name ++ ":" ++ user.password)))

/-- What comes of a request. -/
inductive Exchange where
  /-- No final response. -/
  | failed (failure : HttpFailure)
  /-- A final response, with its body unless that cannot be read to its end. -/
  | answered (status : Nat) (body : Option (List UInt8))
  deriving DecidableEq

/-- How requests are answered. -/
abbrev Network : Type :=
  Request → Exchange

/-- The network in which no host can be reached. -/
def unreachable : Network := fun _ =>
  .failed .request

/-! ## Clients -/

/-- A client of a cluster. -/
structure Client where
  connection : Connection
  /-- How long a request may take. -/
  timeout : Duration
  deriving DecidableEq

instance : HasConnection Client :=
  ⟨Client.connection⟩

namespace Client

/-- The endpoint without the slashes at its end. -/
def trimSlashes (endpoint : String) : String :=
  String.ofList (Text.dropTrailing (· = '/') endpoint.toList)

/-- The endpoint is the base with any number of slashes after it, and the base does not end in
one. -/
def IsBase (endpoint base : String) : Prop :=
  (∃ count, endpoint = base ++ String.ofList (List.replicate count '/')) ∧
    base.toList.getLast? ≠ some '/'

/-- The one base of an endpoint is what is left without the slashes. -/
theorem trimSlashes_eq_iff {endpoint base : String} :
    trimSlashes endpoint = base ↔ IsBase endpoint base := by
  have chars : trimSlashes endpoint = base ↔
      Text.dropTrailing (· = '/') endpoint.toList = base.toList := by
    rw [← String.toList_inj, trimSlashes, String.toList_ofList]
  have ends : (∀ c ∈ base.toList.getLast?, decide (c = '/') = false) ↔
      base.toList.getLast? ≠ some '/' :=
    ⟨fun ends last => absurd (ends '/' last) (by decide),
      fun ends c last => decide_eq_false fun slash => ends (slash ▸ last)⟩
  rw [chars, Text.dropTrailing_eq_iff, IsBase, ends]
  refine and_congr_left' ⟨?_, ?_⟩
  · rintro ⟨rest, split, slashes⟩
    have all : rest = List.replicate rest.length '/' :=
      List.eq_replicate_of_mem fun c mem => of_decide_eq_true (slashes c mem)
    refine ⟨rest.length, ?_⟩
    rw [← String.toList_inj, String.toList_append, String.toList_ofList, ← all, split]
  · rintro ⟨count, rfl⟩
    refine ⟨List.replicate count '/', by simp, fun c mem => ?_⟩
    exact decide_eq_true (List.eq_of_mem_replicate mem)

/-- A client for an endpoint, a user and certificates. -/
def build? (endpoint : String) (user : Option Credentials) (ca : List String)
    (timeout : Duration) : Except ClientError Client :=
  if ca.all Certificate.acceptsPem then
    .ok ⟨⟨trimSlashes endpoint, user, ca⟩, timeout⟩
  else .error (.invalidConfig "failed to build HTTP client: builder error")

/-- The request of a client for a path. -/
def request (client : Client) (path : String) : Request where
  url := client.connection.endpoint ++ path
  accept := "application/json"
  authorization := client.connection.user.map Credentials.authorization
  timeout := client.timeout

/-- A client goes to the base of the endpoint that it has been built with. -/
theorem request_of_build {endpoint base : String} {user : Option Credentials} {ca : List String}
    {timeout : Duration} {client : Client} (builds : build? endpoint user ca timeout = .ok client)
    (isBase : IsBase endpoint base) (path : String) :
    client.request path =
      ⟨base ++ path, "application/json", user.map Credentials.authorization, timeout⟩ := by
  unfold build? at builds
  split at builds
  · cases builds
    rw [request, trimSlashes_eq_iff.mpr isBase]
  · cases builds

/-- What comes of a request for a path.  A request can only be sent to an address
of HTTP. -/
def exchange (client : Client) (network : Network) (path : String) : Exchange :=
  let request := client.request path
  if Url.isHttp request.url then network request else .failed .builder

/-- The text of a body; one that cannot be read counts as empty. -/
def bodyText (body : Option (List UInt8)) : String :=
  Text.Utf8.decodeLenient (body.getD [])

/-- The value in the answer to a request for a path. -/
def outcome {α : Type} (path : String) (reader : Json.Reader α) :
    Exchange → Except ClientError α
  | .failed failure => .error (.http failure)
  | .answered status body =>
      if status = 401 ∨ status = 403 then
        .error (.authentication (StatusCode.describe status ++ " - " ++ bodyText body))
      else if status < 200 ∨ 300 ≤ status then
        .error (.api ("GET " ++ path ++ " failed: " ++ StatusCode.describe status ++ " - " ++
          bodyText body))
      else
        match body with
        | none => .error (.http .body)
        | some bytes =>
            match reader.decode (Text.Utf8.decodeLenient bytes) with
            | .ok a => .ok a
            | .error failure => .error (.serialization failure)

/-- Where a cluster answers with its health. -/
def healthPath : String :=
  "/_cluster/health"

/-- Where a cluster answers with its license. -/
def licensePath : String :=
  "/_license"

/-- The health of the cluster. -/
def health (client : Client) (network : Network) : Except ClientError Health :=
  outcome healthPath Health.reader (client.exchange network healthPath)

/-- The license of the cluster. -/
def license (client : Client) (network : Network) : Except ClientError License :=
  outcome licensePath License.envelopeReader (client.exchange network licensePath)

end Client

end ClusterWatch.Elasticsearch
