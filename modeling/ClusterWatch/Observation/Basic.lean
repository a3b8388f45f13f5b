import ClusterWatch.Elasticsearch.Health
import ClusterWatch.Elasticsearch.License
import ClusterWatch.Time.Duration

/-!
# Observations

What is known of a cluster after it has been asked for its health and its
license, and how often it is asked.
-/

namespace ClusterWatch

/-- What was last observed of a cluster.  A part is absent if it has not been
observed yet, and if the last attempt to observe it failed. -/
structure Observation where
  health : Option Health
  license : Option License
  deriving DecidableEq

namespace Observation

/-- The parts of an observation. -/
inductive Part where
  | health
  | license
  deriving DecidableEq

/-- The observation of a cluster of which nothing is known. -/
def unknown : Observation :=
  ⟨none, none⟩

/-- Nothing is known. -/
def isUnknown (o : Observation) : Bool :=
  o.health.isNone && o.license.isNone

/-- The color of the cluster, if its health is known. -/
def color? (o : Observation) : Option HealthStatus :=
  o.health.map Health.status

/-- How a cluster is observed. -/
structure Settings where
  /-- The time between two observations. -/
  interval : Duration
  /-- How long a request of an observation may take. -/
  timeout : Duration
  deriving DecidableEq, Repr

namespace Settings

/-- The time between two observations, unless another is given. -/
def defaultInterval : Duration :=
  Duration.ofSeconds 10

/-- How long a request may take, unless another limit is given. -/
def defaultTimeout : Duration :=
  Duration.ofSeconds 60

/-- The settings of an observation for which none are given. -/
def default : Settings :=
  ⟨defaultInterval, defaultTimeout⟩

/-- The shortest time between two observations. -/
def shortestPeriod : Duration :=
  Duration.ofMillis 100

/-- The time between two observations, in nanoseconds. -/
def period (s : Settings) : Nat :=
  (s.interval.longer shortestPeriod).nanos

end Settings

end Observation

end ClusterWatch
