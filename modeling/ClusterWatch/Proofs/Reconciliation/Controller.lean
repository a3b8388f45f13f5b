import ClusterWatch.Proofs.Reconciliation.Duties
import ClusterWatch.Proofs.Registry.Refinement

/-!
# Reconciliations next to each other

A controller has any number of reconciliations under way, and they share one registry of
observers.  At each point one of them does one thing, or a call on the registry or the
task of an observer goes on.  There is no second reconciliation of an object before the
first is over, and an object that has been deleted once stays so.
-/

namespace ClusterWatch.Reconciliation

open Elasticsearch (Client)
open Kubernetes (Identity)
open Observation (CallId ObserverId Registry.Label Registry.Outcome)

/-- A reconciliation, or what it has left to do. -/
abbrev Procedure : Type :=
  Program (Except Error Action)

/-- How far a reconciliation has come. -/
inductive Stage where
  /-- It has this left to do. -/
  | at (procedure : Procedure)
  /-- It waits for a call on the registry. -/
  | waits (call : CallId) (next : Registry.Outcome → Procedure)

/-- A reconciliation of a cluster, as it was seen when the reconciliation began. -/
structure Job where
  cluster : Cluster
  stage : Stage

/-- Two resources are the same object. -/
def IsSameObject (a b : Cluster) : Prop :=
  a.metadata.space = b.metadata.space ∧ a.metadata.name = b.metadata.name

instance (a b : Cluster) : Decidable (IsSameObject a b) :=
  inferInstanceAs (Decidable (_ ∧ _))

/-- A reconciliation has a result. -/
def Job.isOver (job : Job) : Bool :=
  match job.stage with
  | .at (.done _) => true
  | _ => false

/-- A reconciliation has seen its object being deleted. -/
def Job.isDeleted (job : Job) : Bool :=
  Finalizer.isDeleting job.cluster.metadata

/-- The reconciliations that have ever begun, by number, and the registry. -/
structure Controller where
  registry : Observers
  jobs : List Job := []

/-- What goes on next. -/
inductive Event where
  /-- A reconciliation begins. -/
  | start (cluster : Cluster)
  /-- A reconciliation sends a request, and this comes of it. -/
  | send (job : Nat) (exchange : Kubernetes.Exchange)
  /-- A reconciliation calls the registry. -/
  | call (job : Nat)
  /-- A reconciliation gets back what its call on the registry has given. -/
  | resume (job : Nat)
  /-- A reconciliation is told what time it is. -/
  | clock (job : Nat) (now : Timestamp)
  /-- A reconciliation makes an entry in the log. -/
  | log (job : Nat)
  /-- A call on the registry or an observer goes on, or time passes. -/
  | registry (label : Registry.Label Client)

namespace Controller

/-- The controller with a reconciliation at another stage. -/
def goto (s : Controller) (job : Nat) (stage : Stage) : Controller :=
  { s with jobs := s.jobs.modify job fun j => { j with stage } }

/-- The controller after an event, if that can happen now. -/
def step? (s : Controller) : Event → Option Controller
  | .start cluster =>
      let procedure := reconcile s.registry.settings cluster
      some { s with jobs := s.jobs ++ [⟨cluster, .at procedure⟩] }
  | .send job exchange =>
      match s.jobs[job]?.map Job.stage with
      | some (.at (.send _ next)) => some (s.goto job (.at (next exchange)))
      | _ => none
  | .call job =>
      match s.jobs[job]?.map Job.stage with
      | some (.at (.call request next)) => do
          let (registry, _) ← s.registry.step (.begin request)
          some { s.goto job (.waits s.registry.calls.length next) with registry }
      | _ => none
  | .resume job =>
      match s.jobs[job]?.map Job.stage with
      | some (.waits call next) =>
          match s.registry.calls[call]? with
          | some (.finished outcome) => some (s.goto job (.at (next outcome)))
          | _ => none
      | _ => none
  | .clock job now =>
      match s.jobs[job]?.map Job.stage with
      | some (.at (.clock next)) => some (s.goto job (.at (next now)))
      | _ => none
  | .log job =>
      match s.jobs[job]?.map Job.stage with
      | some (.at (.log _ rest)) => some (s.goto job (.at rest))
      | _ => none
  | .registry label =>
      if label.isOngoing then (s.registry.step label).map fun next => { s with registry := next.1 }
      else none

/-- A reconciliation may begin for an object that has a name, if no earlier one of the
object is under way, and none has seen it being deleted unless it still is. -/
def Admits (s : Controller) : Event → Prop
  | .start cluster =>
      cluster.metadata.name.isSome ∧
        ∀ job ∈ s.jobs, IsSameObject job.cluster cluster →
          job.isOver = true ∧ (job.isDeleted = true → Finalizer.isDeleting cluster.metadata = true)
  | _ => True

/-- `Runs s events t`: the events lead from `s` to `t`, and are admitted. -/
inductive Runs : Controller → List Event → Controller → Prop where
  | nil (s : Controller) : Runs s [] s
  | cons {s t u : Controller} {event : Event} {events : List Event} :
      s.Admits event → s.step? event = some t → Runs t events u → Runs s (event :: events) u

/-- Nothing has been reconciled yet. -/
structure IsFresh (s : Controller) : Prop where
  registry : s.registry.IsFresh
  jobs : s.jobs = []

end Controller

/-! ## What can go on -/

/-- A procedure goes on without the registry. -/
inductive Program.Proceeds {α : Type} : Program α → Program α → Prop where
  | send {request : Kubernetes.Request} {next : Kubernetes.Exchange → Program α}
      (exchange : Kubernetes.Exchange) : Proceeds (.send request next) (next exchange)
  | clock {next : Timestamp → Program α} (now : Timestamp) : Proceeds (.clock next) (next now)
  | log {entry : Entry} {rest : Program α} : Proceeds (.log entry rest) rest

/-- What goes on in a controller is that a reconciliation begins, or goes on by itself, or
by way of the registry, or that the registry goes on. -/
inductive Controller.Goes (s : Controller) : Event → Controller → Prop where
  | start {cluster : Cluster} :
      Goes s (.start cluster)
        { s with jobs := s.jobs ++ [⟨cluster, .at (reconcile s.registry.settings cluster)⟩] }
  | proceed {event : Event} {k : Nat} {job : Job} {p q : Procedure} :
      s.jobs[k]? = some job → job.stage = .at p → p.Proceeds q →
        Goes s event (s.goto k (.at q))
  | call {k : Nat} {job : Job} {request : RegistryRequest} {next : Registry.Outcome → Procedure} :
      s.jobs[k]? = some job → job.stage = .at (.call request next) →
        Goes s (.call k)
          { s.goto k (.waits s.registry.calls.length next) with
            registry := { s.registry with calls := s.registry.calls ++ [request.point] } }
  | resume {k : Nat} {job : Job} {call : CallId} {next : Registry.Outcome → Procedure}
      {outcome : Registry.Outcome} :
      s.jobs[k]? = some job → job.stage = .waits call next →
        s.registry.calls[call]? = some (.finished outcome) →
        Goes s (.resume k) (s.goto k (.at (next outcome)))
  | registry {label : Registry.Label Client} {r : Observers} :
      label.isOngoing = true → Observation.Registry.Step s.registry label r →
        Goes s (.registry label) { s with registry := r }

theorem Controller.goes_of_step? {s t : Controller} {event : Event}
    (step : s.step? event = some t) : s.Goes event t := by
  cases event with
  | start cluster =>
      cases step
      exact .start
  | send k exchange | clock k now | log k =>
      simp only [step?] at step
      split at step
      · next stands =>
          obtain ⟨job, known, stage⟩ := Option.map_eq_some_iff.mp stands
          cases step
          exact .proceed known stage (by constructor)
      · cases step
  | call k =>
      simp only [step?] at step
      split at step
      · next request next stands =>
          obtain ⟨job, known, stage⟩ := Option.map_eq_some_iff.mp stands
          cases step
          exact .call known stage
      · cases step
  | resume k =>
      simp only [step?] at step
      split at step
      · next call next stands =>
          obtain ⟨job, known, stage⟩ := Option.map_eq_some_iff.mp stands
          split at step
          · next outcome gave =>
              cases step
              exact .resume known stage gave
          · cases step
      · cases step
  | registry label =>
      simp only [step?] at step
      split at step
      · next ongoing =>
          obtain ⟨⟨r, events⟩, goes, rfl⟩ := Option.map_eq_some_iff.mp step
          exact .registry ongoing (Observation.Registry.step_of_eq_some goes)
      · cases step

end ClusterWatch.Reconciliation
