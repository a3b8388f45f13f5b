import ClusterWatch.Json.Fields
import ClusterWatch.Text.Utf8

/-!
# Requests to the Kubernetes API

A request names a target and may carry a patch.  Names go into the target as they
are, so one that does not fit in a target cannot be asked for, and one with a
question mark or a number sign asks for something else.  What comes back is a
status with a body: an object, or the report of a failure.
-/

namespace ClusterWatch.Kubernetes

/-- Why a request to the API does not give an object. -/
inductive ApiError where
  /-- The API reports a failure. -/
  | failure (code : Nat) (reason message : String)
  /-- The request cannot be written. -/
  | unbuildable
  /-- The API cannot be reached. -/
  | unreachable
  /-- The body of a failure is not UTF-8. -/
  | notText
  /-- The reply is not the object that is expected. -/
  | undecodable
  deriving DecidableEq

/-- What is done with an object. -/
inductive Method where
  | get
  | patch
  deriving DecidableEq, Repr

/-- The name of a method. -/
def Method.name : Method → String
  | .get => "GET"
  | .patch => "PATCH"

/-- The change that a request asks for. -/
inductive Change where
  /-- Operations one after another. -/
  | operations (body : Json)
  /-- A merge patch. -/
  | merge (body : Json)

/-- The media type of a change. -/
def Change.contentType : Change → String
  | .operations _ => "application/json-patch+json"
  | .merge _ => "application/merge-patch+json"

/-- The body that describes a change. -/
def Change.body : Change → Json
  | .operations body => body
  | .merge body => body

/-- A request to the API. -/
structure Request where
  method : Method
  path : String
  query : String
  change : Option Change

/-! ## Targets -/

/-- The character may stand in the path of a target. -/
def isPathChar (c : Char) : Bool :=
  let n := c.toNat
  n == 0x21 || (0x24 ≤ n && n ≤ 0x3B) || n == 0x3D || (0x40 ≤ n && n ≤ 0x5F) ||
    (0x61 ≤ n && n ≤ 0x7A) || 0x7C == n || 0x7E == n || 0x80 ≤ n || c == '\"' ||
    c == '\x7b' || c == '\x7d'

/-- The character may stand in the query of a target. -/
def isQueryChar (c : Char) : Bool :=
  let n := c.toNat
  n == 0x21 || (0x24 ≤ n && n ≤ 0x3B) || n == 0x3D || (0x3F ≤ n && n ≤ 0x7E) || 0x80 ≤ n

/-- The path and the query of a target; what follows a number sign is cut off. -/
def splitTarget? (target : List Char) : Option (List Char × List Char) :=
  let target := target.takeWhile (· ≠ '#')
  let path := target.takeWhile (· ≠ '?')
  let query := (target.drop path.length).drop 1
  if path.all isPathChar && query.all isQueryChar then some (path, query) else none

/-- A request for the object of a name in a collection. -/
def Request.ofName (method : Method) (collection name rest : String) (change : Option Change) :
    Except ApiError Request :=
  if name = "" then .error .unbuildable
  else
    match splitTarget? (collection ++ "/" ++ name ++ rest).toList with
    | none => .error .unbuildable
    | some (path, query) => .ok ⟨method, String.ofList path, String.ofList query, change⟩

/-- The collection of Secrets in a namespace. -/
def secretsPath (space : String) : String :=
  "/api/v1/namespaces/" ++ space ++ "/secrets"

/-- A request for a Secret. -/
def Request.secret (space name : String) : Except ApiError Request :=
  Request.ofName .get (secretsPath space) name "" none

/-! ## Replies -/

/-- What comes of a request. -/
inductive Exchange where
  | unreachable
  | answered (status : Nat) (body : List UInt8)

/-- The report of a failure. -/
structure Failure where
  message : String
  reason : String
  code : Nat

/-- Reads the report of a failure. -/
def Failure.reader : Json.Reader Failure :=
  (Json.readRecord (Json.plainRecord "ErrorResponse") <|
    .cons "status" Json.text .required <|
    .cons "message" Json.text (.default "") <|
    .cons "reason" Json.text (.default "") <|
    .cons "code" Json.uint16 .required .nil).map
    fun (_, message, reason, code, _) => { message, reason, code := code.toNat : Failure }

/-- The error that a reply with the status of a failure reports. -/
def failureOf (status : Nat) (body : List UInt8) : ApiError :=
  match Text.Utf8.decode? body with
  | none => .notText
  | some text =>
      match Failure.reader.decode text with
      | .ok failure => .failure failure.code failure.reason failure.message
      | .error _ => .failure status "Failed to parse error data" (Text.quote text)

/-- The object in a reply. -/
def Exchange.object {α : Type} (reader : Json.Reader α) : Exchange → Except ApiError α
  | .unreachable => .error .unreachable
  | .answered status body =>
      if 400 ≤ status ∧ status < 600 then .error (failureOf status body)
      else
        match Text.Utf8.decode? body with
        | none => .error .notText
        | some text =>
            match reader.decode text with
            | .ok a => .ok a
            | .error _ => .error .undecodable

end ClusterWatch.Kubernetes
