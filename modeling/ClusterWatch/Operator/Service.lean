import ClusterWatch.Operator.Startup
import ClusterWatch.Reconciliation.Run

/-!
# The service

What the operator does once it watches: it reconciles every cluster resource that
it is shown, and when it is told to end it stops all observers.
-/

namespace ClusterWatch.Operator

open Reconciliation (Entry Observers Surroundings Trace)

/-- The collection of the resources that are watched. -/
def watchPath (config : Config) : String :=
  match config.watched with
  | none => "/apis/" ++ Cluster.group ++ "/" ++ Cluster.version ++ "/" ++ Cluster.plural
  | some space => Reconciliation.clustersPath space

/-- The level of an entry. -/
def entryLevel : Entry → Level
  | .reconciling _ => .debug
  | .phaseChange .. => .info
  | .deleted _ => .info

/-- The part of the program that reconciles. -/
def reconcilerPart : String :=
  "elasticsearch_controller::reconciler"

/-- An entry as a line of the log. -/
def entryLine (entry : Entry) : Line :=
  ⟨entryLevel entry, reconcilerPart, entry.message⟩

/-- A text that may be absent, as it is shown in the log. -/
def shown : Option String → String
  | none => "None"
  | some text => "Some(" ++ Text.quote text ++ ")"

/-- The lines about the end of a reconciliation. -/
def endLines (cluster : Cluster) :
    Except Reconciliation.Error Reconciliation.Action → List Line
  | .ok _ => [⟨.debug, controllerPart, "Reconciled"⟩]
  | .error error =>
      [⟨.error, controllerPart, "Controller error"⟩,
        ⟨.error, controllerPart,
          "Reconciliation error for ElasticsearchCluster " ++ shown cluster.metadata.space ++
            "/" ++ shown cluster.metadata.name ++ ": " ++ error.message⟩]

/-- What the service has done. -/
structure Record where
  requests : List Kubernetes.Request := []
  lines : List Line := []

/-- Reconciles clusters one after another, each against surroundings of its own. -/
def reconcileAll (settings : Observation.Settings) (around : Cluster → Surroundings) :
    List Cluster → Observers → Record → Observers × Record
  | [], observers, record => (observers, record)
  | cluster :: rest, observers, record =>
      let (result, observers, trace) :=
        (Reconciliation.reconcile settings cluster).run (around cluster) observers {}
      reconcileAll settings around rest observers
        { requests := record.requests ++ trace.requests
          lines := record.lines ++ trace.entries.map entryLine ++ endLines cluster result }

/-- The whole run of a service that is shown each cluster once.  At its end every
observer is stopped. -/
def serve (config : Config) (environment : Observation.Registry.Environment Elasticsearch.Client)
    (around : Cluster → Surroundings) (clusters : List Cluster) : Observers × Record :=
  let (observers, record) :=
    reconcileAll config.settings around clusters (.empty config.settings)
      { lines :=
          greeting :: configLines config ++
            [⟨.info, controllerPart, "Elasticsearch Controller running"⟩] }
  let count := Text.decimal observers.entries.length
  let line : Line := ⟨.info, controllerPart, "Shutting down, stopping " ++ count ++ " observers"⟩
  ((observers.complete environment .stopAll).1, { record with lines := record.lines ++ [line] })

end ClusterWatch.Operator
