import ClusterWatch.Elasticsearch.Client
import ClusterWatch.Kubernetes.Api
import ClusterWatch.Observation.Registry
import ClusterWatch.Resource.Status

/-!
# Programs of reconciliations

A reconciliation is written as a tree: each node is one thing that it asks of the
outside, and what comes back selects the branch in which it goes on.  What a
reconciliation does can so be read off without running it.
-/

namespace ClusterWatch.Reconciliation

open Kubernetes (Identity)
open Observation (Registry.Outcome)

/-- An entry of the log. -/
inductive Entry where
  /-- The work for a cluster begins. -/
  | reconciling (id : Identity)
  /-- The phase is about to be reported. -/
  | phaseChange (id : Identity) (old : Option ClusterPhase) (new : ClusterPhase)
  /-- The cluster has been deleted. -/
  | deleted (id : Identity)
  deriving DecidableEq

/-- The wording of an entry. -/
def Entry.message : Entry → String
  | .reconciling id => "Reconciling ElasticsearchCluster " ++ id.display
  | .phaseChange id old new =>
      let old :=
        match old with
        | none => "None"
        | some old => "Some(" ++ old.name ++ ")"
      "ElasticsearchCluster " ++ id.display ++ " phase " ++ old ++ " -> " ++ new.name
  | .deleted id => "ElasticsearchCluster " ++ id.display ++ " deleted, stopping observer"

/-- A request to the registry of observers. -/
abbrev RegistryRequest : Type :=
  Observation.Registry.Request Elasticsearch.Client

/-- A program with a result. -/
inductive Program (α : Type) where
  /-- It is over. -/
  | done (result : α)
  /-- It sends a request to the Kubernetes API. -/
  | send (request : Kubernetes.Request) (next : Kubernetes.Exchange → Program α)
  /-- It calls the registry of observers. -/
  | call (request : RegistryRequest) (next : Registry.Outcome → Program α)
  /-- It asks what time it is. -/
  | clock (next : Timestamp → Program α)
  /-- It makes an entry in the log. -/
  | log (entry : Entry) (next : Program α)

namespace Program

variable {α β : Type}

/-- A program that goes on where another is over. -/
def bind (next : α → Program β) : Program α → Program β
  | .done result => next result
  | .send request reply => .send request fun exchange => (reply exchange).bind next
  | .call request reply => .call request fun outcome => (reply outcome).bind next
  | .clock reply => .clock fun now => (reply now).bind next
  | .log entry rest => .log entry (rest.bind next)

/-- A program with another result. -/
def map (f : α → β) (program : Program α) : Program β :=
  program.bind fun result => .done (f result)

end Program

end ClusterWatch.Reconciliation
