import ClusterWatch.Observation.Basic
import ClusterWatch.Resource.Status

/-!
# Reports

What is reported of a cluster follows from what was observed of it.  A report is
only worth writing if it says something other than the last one, the moment of
the observation apart.
-/

namespace ClusterWatch

/-- The phase of a cluster with the given color, or of one whose color is not
known. -/
def ClusterPhase.ofColor : Option HealthStatus → ClusterPhase
  | some .green => .green
  | some .yellow => .yellow
  | some .red => .red
  | none => .unknown

namespace ClusterStatus

/-- The status that an observation leads to at a moment. -/
def ofObservation (o : Observation) (now : Timestamp) : ClusterStatus where
  phase := .ofColor o.color?
  clusterName := o.health.map Health.clusterName
  numberOfNodes := o.health.map Health.numberOfNodes
  licenseType := o.license.map License.type
  lastObserved := some now

/-- Two statuses say the same, whenever they were made. -/
def Agrees (a b : ClusterStatus) : Prop :=
  a.phase = b.phase ∧ a.clusterName = b.clusterName ∧ a.numberOfNodes = b.numberOfNodes ∧
    a.licenseType = b.licenseType

instance (a b : ClusterStatus) : Decidable (Agrees a b) :=
  inferInstanceAs (Decidable (_ ∧ _ ∧ _ ∧ _))

/-- A status has to be written in the place of the current one, if there is one. -/
def hasChanged (current : Option ClusterStatus) (status : ClusterStatus) : Bool :=
  match current with
  | none => true
  | some current => !decide (Agrees current status)

/-- The merge patch that writes a status. -/
def patch (status : ClusterStatus) : Json :=
  .object [("status", status.toJson)]

end ClusterStatus

end ClusterWatch
