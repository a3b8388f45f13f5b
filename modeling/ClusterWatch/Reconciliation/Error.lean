import ClusterWatch.Elasticsearch.Error
import ClusterWatch.Kubernetes.Api
import ClusterWatch.Kubernetes.Secret

/-!
# Failed reconciliations

Why a reconciliation fails: in the work that it does for the cluster, or in the
bookkeeping around that work.
-/

namespace ClusterWatch.Reconciliation

open Elasticsearch (ClientError)
open Kubernetes (ApiError Secret)

/-- Why the work for a cluster cannot be done. -/
inductive Cause where
  /-- A request to the Kubernetes API fails. -/
  | api (error : ApiError)
  /-- No client can be built. -/
  | client (error : ClientError)
  /-- A Secret does not hold what is needed. -/
  | secret (name : String) (flaw : Secret.Flaw)
  deriving DecidableEq

/-- Why a reconciliation fails. -/
inductive Error where
  /-- The resource is in no namespace. -/
  | missingNamespace
  /-- The resource has no name yet. -/
  | unnamed
  /-- The work for the cluster cannot be done. -/
  | apply (cause : Cause)
  /-- The finalizer cannot be added. -/
  | addFinalizer (error : ApiError)
  /-- The finalizer cannot be removed. -/
  | removeFinalizer (error : ApiError)
  deriving DecidableEq

/-- The wording of a cause; that of the API's own errors is left out. -/
def Cause.message : Cause → String
  | .api _ => "Kubernetes error: "
  | .client error => "Elasticsearch client error: " ++ error.message?.getD ""
  | .secret name flaw => "Invalid secret " ++ name ++ ": " ++ flaw.message

/-- The wording of an error. -/
def Error.message : Error → String
  | .missingNamespace => "Invalid resource: ElasticsearchCluster missing namespace"
  | .unnamed => "Finalizer error: object has no name"
  | .apply cause => "Finalizer error: failed to apply object: " ++ cause.message
  | .addFinalizer _ => "Finalizer error: failed to add finalizer: "
  | .removeFinalizer _ => "Finalizer error: failed to remove finalizer: "

end ClusterWatch.Reconciliation
