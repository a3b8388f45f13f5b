import ClusterWatch.Reconciliation.Error
import ClusterWatch.Reconciliation.Finalizer
import ClusterWatch.Reconciliation.Program
import ClusterWatch.Reconciliation.Report
import ClusterWatch.Resource.Cluster
import ClusterWatch.Resource.ServiceName

/-!
# Reconciliation of clusters

For a cluster that is to be watched, a client is built from what the resource asks
for and from the Secrets it names, the registry is asked what was observed, and
the report is written if it has changed.  For one that is being deleted the
observer is stopped first and the finalizer removed afterwards.
-/

namespace ClusterWatch.Reconciliation

open Elasticsearch (Client Credentials)
open Kubernetes (ApiError Change Identity Secret)
open Observation (Settings)

/-- When the resource is looked at again. -/
inductive Action where
  /-- After some time. -/
  | requeue (after : Duration)
  /-- When it changes. -/
  | awaitChange
  deriving DecidableEq

/-- A program of work for a cluster. -/
abbrev Work : Type :=
  Program (Except Cause Action)

/-- The collection of cluster resources in a namespace. -/
def clustersPath (space : String) : String :=
  "/apis/" ++ Cluster.group ++ "/" ++ Cluster.version ++ "/namespaces/" ++ space ++ "/" ++
    Cluster.plural

/-- Patches a cluster resource.  What follows its name in the target selects a part
of it. -/
def patchCluster {α : Type} (space name part : String) (change : Change)
    (next : Except ApiError Cluster → Program α) : Program α :=
  match Kubernetes.Request.ofName .patch (clustersPath space) name (part ++ "?") (some change) with
  | .error error => next (.error error)
  | .ok request => .send request fun exchange => next (exchange.object Cluster.reader)

/-- Gets a Secret. -/
def withSecret (space name : String) (next : Secret → Work) : Work :=
  match Kubernetes.Request.secret space name with
  | .error error => .done (.error (.api error))
  | .ok request =>
      .send request fun exchange =>
        match exchange.object Secret.reader with
        | .error error => .done (.error (.api error))
        | .ok secret => next secret

/-- Takes a text out of a Secret. -/
def withValue (secret : Secret) (key : String) (next : String → Work) : Work :=
  match secret.value? key with
  | .error flaw => .done (.error (.secret secret.name flaw))
  | .ok text => next text

/-- Gets the credentials that a resource refers to. -/
def withUser (space : String) :
    Option CredentialsSecretReference → (Option Credentials → Work) → Work
  | none, next => next none
  | some reference, next =>
      withSecret space reference.name fun secret =>
        withValue secret reference.usernameKey fun name =>
          withValue secret reference.passwordKey fun password =>
            next (some ⟨name, password⟩)

/-- Gets the certificates that a resource refers to. -/
def withCa (space : String) : Option CaSecretReference → (List String → Work) → Work
  | none, next => next []
  | some reference, next =>
      withSecret space reference.name fun secret =>
        withValue secret reference.key fun pem => next [pem]

/-- The endpoint of a cluster: that of its own service, unless another is given. -/
def endpoint (cluster : Cluster) : String :=
  cluster.spec.endpoint.getD (ServiceName.defaultEndpoint cluster.identity)

/-- Builds the client of a cluster. -/
def withClient (settings : Settings) (cluster : Cluster) (next : Client → Work) : Work :=
  let space := cluster.identity.space
  withUser space cluster.spec.credentials fun user =>
    withCa space cluster.spec.ca fun ca =>
      match Client.build? (endpoint cluster) user ca settings.timeout with
      | .error error => .done (.error (.client error))
      | .ok client => next client

/-- The observation that a call on the registry gave back. -/
def observationOf : Observation.Registry.Outcome → Observation
  | .observation value => value
  | _ => .unknown

/-- Reports what was observed of a cluster, if that is news. -/
def report (settings : Settings) (cluster : Cluster) (observation : Observation) : Work :=
  .clock fun now =>
    let id := cluster.identity
    let status := ClusterStatus.ofObservation observation now
    if ClusterStatus.hasChanged cluster.status status then
      .log (.phaseChange id (cluster.status.map ClusterStatus.phase) status.phase) <|
        patchCluster id.space id.name "/status" (.merge status.patch) fun
          | .error error => .done (.error (.api error))
          | .ok _ => .done (.ok (.requeue settings.interval))
    else .done (.ok (.requeue settings.interval))

/-- Watches a cluster. -/
def apply (settings : Settings) (cluster : Cluster) : Work :=
  .log (.reconciling cluster.identity) <|
    withClient settings cluster fun client =>
      .call (.resolve cluster.identity client) fun outcome =>
        report settings cluster (observationOf outcome)

/-- Stops watching a cluster. -/
def cleanup {α : Type} (cluster : Cluster) (next : Program α) : Program α :=
  .log (.deleted cluster.identity) (.call (.stop cluster.identity) fun _ => next)

/-- The reconciliation of a cluster. -/
def reconcile (settings : Settings) (cluster : Cluster) : Program (Except Error Action) :=
  match cluster.metadata.space with
  | none => .done (.error .missingNamespace)
  | some space =>
      match Finalizer.work cluster.metadata, cluster.metadata.name with
      | .apply, _ => (apply settings cluster).map (Except.mapError .apply)
      | .wait, _ => .done (.ok .awaitChange)
      | .cleanup _, none => .done (.error .unnamed)
      | .add, none => .done (.error .unnamed)
      | .cleanup position, some name =>
          cleanup cluster <|
            patchCluster space name "" (Finalizer.removal position) fun
              | .error error => .done (.error (.removeFinalizer error))
              | .ok _ => .done (.ok .awaitChange)
      | .add, some name =>
          patchCluster space name "" (Finalizer.addition cluster.metadata) fun
            | .error error => .done (.error (.addFinalizer error))
            | .ok _ => .done (.ok .awaitChange)

end ClusterWatch.Reconciliation
