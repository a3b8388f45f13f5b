import ClusterWatch.Json.MergePatch
import ClusterWatch.Json.Pointer
import ClusterWatch.Kubernetes.InMemory
import ClusterWatch.Main
import ClusterWatch.Observation.Session
import ClusterWatch.Operator.Service
import ClusterWatch.Proofs.Elasticsearch.Disclosure
import ClusterWatch.Proofs.Elasticsearch.Outcome
import ClusterWatch.Proofs.Json.MergePatch
import ClusterWatch.Proofs.Operator.Seconds
import ClusterWatch.Proofs.Reconciliation.Convergence
import ClusterWatch.Proofs.Reconciliation.Lifetime
import ClusterWatch.Proofs.Reconciliation.Recovery
import ClusterWatch.Proofs.Reconciliation.Renewal
import ClusterWatch.Proofs.Reconciliation.SecretRequests
import ClusterWatch.Proofs.Registry.Halting
import ClusterWatch.Proofs.Registry.Latest
import ClusterWatch.Proofs.Registry.Replacement
import ClusterWatch.Proofs.Registry.Resolution
import ClusterWatch.Proofs.Registry.Shutdown
import ClusterWatch.Proofs.Resource.Objects
import ClusterWatch.Proofs.Resource.RoundTrip
import ClusterWatch.Proofs.Resource.Truncation
