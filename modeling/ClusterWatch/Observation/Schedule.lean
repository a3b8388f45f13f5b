import ClusterWatch.Observation.Registry

/-!
# One order of events

Of all the orders in which calls and tasks can go on, this is the one of a single
thread on a clock that only moves while nothing else can happen: a call goes on
until it has to wait, then the tasks run, and only then does time pass, up to the
next moment at which a task has something to do.
-/

namespace ClusterWatch.Observation.Registry

open Elasticsearch (HasConnection)
open Kubernetes (Identity)

/-- The events of tasks, with the observers they belong to. -/
abbrev Events : Type :=
  List (ObserverId × Event)

/-- The number of clusters that a call has yet to stop. -/
def Point.pending {κ : Type} : Point κ → Nat
  | .find _ (.stop clusters) => clusters.length
  | .halt _ _ (some (_, .stop clusters)) => clusters.length
  | .remove _ _ (.stop clusters) => clusters.length
  | _ => 0

namespace State

variable {κ : Type} [HasConnection κ]

/-- The next step of a call, if it does not have to wait.  Clusters are listed in
order. -/
def proceed? (s : State κ) (call : CallId) : Option (State κ) :=
  let label :=
    match s.calls[call]? with
    | some (.enumerate _) =>
        .enumerate call (s.clusters.mergeSort fun a b => Identity.compare a b != .gt)
    | _ => .call call
  (s.step label).map Prod.fst

/-- Steps of a call until it has to wait or is over. -/
def proceedUpTo (call : CallId) : Nat → State κ → State κ
  | 0, s => s
  | steps + 1, s =>
      match s.proceed? call with
      | none => s
      | some s => proceedUpTo call steps s

/-- A call goes on until it has to wait or is over.  There are at most six steps
for each cluster to stop, and not more than twelve others. -/
def proceed (s : State κ) (call : CallId) : State κ :=
  let pending := ((s.calls[call]?).map Point.pending).getD 0
  proceedUpTo call (6 * (pending + s.entries.length) + 12) s

/-- The task of an observer runs, if that gets it further. -/
def runTask (environment : Environment κ) (s : State κ) (observer : ObserverId) :
    State κ × Events :=
  match s.observers[observer]? with
  | none => (s, [])
  | some o =>
      if o.isReady s.now then
        (s.step (.task observer environment)).getD (s, [])
      else (s, [])

/-- The tasks of the given observers run in turn. -/
def runTasks (environment : Environment κ) : State κ → List ObserverId → State κ × Events
  | s, [] => (s, [])
  | s, observer :: rest =>
      let (s, events) := s.runTask environment observer
      let (s, more) := runTasks environment s rest
      (s, events ++ more)

/-- All tasks run that get any further at this moment. -/
def settle (environment : Environment κ) (s : State κ) : State κ × Events :=
  s.runTasks environment (List.range s.observers.length)

/-- The next moment at which a task has something to do. -/
def wake? (s : State κ) : Option Nat :=
  (s.observers.filterMap Observer.wake?).min?

/-- The clock moves forward to a moment. -/
def moveTo (s : State κ) (time : Nat) : State κ :=
  { s with now := max s.now time }

/-- Time passes up to a moment, and tasks run at all moments before it. -/
def passUpTo (environment : Environment κ) (target : Nat) : Nat → State κ → State κ × Events
  | 0, s => (s.moveTo target, [])
  | moments + 1, s =>
      match s.wake? with
      | none => (s.moveTo target, [])
      | some time =>
          if time < target then
            let (s, events) := (s.moveTo time).settle environment
            let (s, more) := passUpTo environment target moments s
            (s, events ++ more)
          else (s.moveTo target, [])

/-- Time passes up to a moment.  Between two moments at which a task runs there is
a nanosecond at least. -/
def passTo (environment : Environment κ) (target : Nat) (s : State κ) : State κ × Events :=
  s.passUpTo environment target (target - s.now + 1)

/-- A call begins; the result has its number. -/
def beginCall (s : State κ) (request : Request κ) : State κ × CallId :=
  ({ s with calls := s.calls ++ [request.point] }, s.calls.length)

/-- What a call gave back, once it is over. -/
def outcome? (s : State κ) (call : CallId) : Option Outcome :=
  match s.calls[call]? with
  | some (.finished outcome) => some outcome
  | _ => none

/-- A call goes on to its end while no other call is under way: where it has to
wait, the tasks run. -/
def completeUpTo (environment : Environment κ) (call : CallId) :
    Nat → State κ → State κ × Events
  | 0, s => (s, [])
  | waits + 1, s =>
      let s := s.proceed call
      match s.outcome? call with
      | some _ => (s, [])
      | none =>
          let (s, events) := s.settle environment
          let (s, more) := completeUpTo environment call waits s
          (s, events ++ more)

/-- A call from its beginning to its end, while no other call is under way.  It
waits at most once for each observer that it stops. -/
def complete (environment : Environment κ) (request : Request κ) (s : State κ) :
    State κ × Option Outcome × Events :=
  let (s, call) := s.beginCall request
  let (s, events) := s.completeUpTo environment call (2 * s.observers.length + 2)
  (s, s.outcome? call, events)

end State

end ClusterWatch.Observation.Registry
