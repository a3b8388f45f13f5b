import ClusterWatch.Elasticsearch.Connection
import ClusterWatch.Elasticsearch.Error
import ClusterWatch.Elasticsearch.Health
import ClusterWatch.Elasticsearch.License
import ClusterWatch.Time.Duration

/-!
# Clients in memory

A client without a network: its answers are set, and so is the time that each of
them takes.  Its endpoint is kept as it was given.
-/

namespace ClusterWatch.Elasticsearch.InMemory

/-- A client in memory; the number tells clients with one connection apart. -/
structure Client where
  id : Nat
  connection : Connection
  deriving DecidableEq

instance : HasConnection Client :=
  ⟨Client.connection⟩

/-- The health of a cluster of one node with the given color. -/
def healthOf (status : HealthStatus) : Health :=
  ⟨"mock-cluster", status, false, 1, 1, 0, 0, 0, 0, 0⟩

/-- A basic license. -/
def basicLicense : License :=
  ⟨"mock-license", "basic", "active", none⟩

/-- How a client in memory answers. -/
structure Answers where
  health : Option Health := some (healthOf .green)
  license : Option License := some basicLicense
  /-- Every request fails. -/
  failing : Bool := false
  delay : Duration := ⟨0⟩

namespace Answers

/-- The answer to a request: a failing client gives none. -/
def answer {α : Type} (answers : Answers) (endpoint what : String) (value : Option α) :
    Except ClientError α :=
  if answers.failing then .error (.api (endpoint ++ " is unreachable"))
  else
    match value with
    | some a => .ok a
    | none => .error (.api (what ++ " unavailable"))

/-- The answer to a request for the health. -/
def healthAnswer (answers : Answers) (endpoint : String) : Except ClientError Health :=
  answers.answer endpoint "cluster health" answers.health

/-- The answer to a request for the license. -/
def licenseAnswer (answers : Answers) (endpoint : String) : Except ClientError License :=
  answers.answer endpoint "license" answers.license

end Answers

end ClusterWatch.Elasticsearch.InMemory
