import ClusterWatch.Kubernetes.Api
import ClusterWatch.Text.Split

/-!
# An API in memory

An API that knows some Secrets and has one reply to every patch.
-/

namespace ClusterWatch.Kubernetes.InMemory

/-- A reply that has been set. -/
inductive Reply where
  | object (value : Json)
  | failure (code : Nat) (reason message : String)
  | raw (status : Nat) (text : String)

/-- What a client gets of a reply. -/
def Reply.exchange : Reply → Exchange
  | .object value => .answered 200 (Text.Utf8.encode value.write)
  | .failure code reason message =>
      .answered code <| Text.Utf8.encode <| Json.write <| .object
        [("apiVersion", .string "v1"),
          ("kind", .string "Status"),
          ("metadata", .object []),
          ("status", .string "Failure"),
          ("message", .string message),
          ("reason", .string reason),
          ("code", .int code)]
  | .raw status text => .answered status (Text.Utf8.encode text)

/-- An API in memory. -/
structure Api where
  /-- The replies to requests for Secrets, by namespace and name with a slash
  between them. -/
  secrets : List (String × Reply)
  /-- The reply to patches. -/
  patch : Reply

/-- The namespace and the name in the path of a Secret: they are one segment each. -/
def secretOf? (path : String) : Option (String × String) :=
  match (Text.splitAt '/' path.toList).map String.ofList with
  | ["", "api", "v1", "namespaces", space, "secrets", name] => some (space, name)
  | _ => none

/-- The reply to a request.  A path of nothing that the API knows gets an answer
without a report. -/
def Api.reply (api : Api) (request : Request) : Reply :=
  match request.method with
  | .patch => api.patch
  | .get =>
      match secretOf? request.path with
      | none => .raw 404 "\x7b\x7d"
      | some (space, name) =>
          (api.secrets.lookup (space ++ "/" ++ name)).getD <|
            .failure 404 "NotFound" ("secrets \"" ++ name ++ "\" not found")

/-- What comes of a request. -/
def Api.exchange (api : Api) (request : Request) : Exchange :=
  (api.reply request).exchange

end ClusterWatch.Kubernetes.InMemory
