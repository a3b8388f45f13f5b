import ClusterWatch.Observation.Observer

/-!
# The registry of observers

A registry has at most one observer for each cluster.  Calls on it overlap: a
call goes from point to point, and at each point it does one thing that no other
call can divide (a look at the entries, a change of them, the setting of a cancel
flag, a wait).  `State.step` takes a state and a label, which says what goes on
next, to the state after it; whatever order of labels it admits is a run.
-/

namespace ClusterWatch.Observation.Registry

open Elasticsearch (HasConnection Interchangeable)
open Kubernetes (Identity)

/-! ## Calls -/

/-- What a call wants. -/
inductive Request (κ : Type) where
  /-- The observer of a cluster, with an interchangeable client. -/
  | observe (cluster : Identity) (client : κ)
  /-- What that observer published last. -/
  | resolve (cluster : Identity) (client : κ)
  /-- A new observer of a cluster, in the place of any other. -/
  | create (cluster : Identity) (client : κ)
  /-- That a cluster is no longer observed. -/
  | stop (cluster : Identity)
  /-- That no cluster is observed any longer. -/
  | stopAll
  /-- The observer of a cluster. -/
  | get (cluster : Identity)
  /-- The clusters that are observed. -/
  | list
  /-- That an observer stops, whether it is in the registry or not. -/
  | halt (observer : ObserverId)

/-- What a call gives back. -/
inductive Outcome where
  | done
  | observer (id : ObserverId)
  | entry (id : Option ObserverId)
  | observation (value : Observation)
  | clusters (names : List Identity)

/-- What a call does with the observer it gets. -/
inductive Use where
  | give
  | read
  deriving DecidableEq, Repr

/-- What a call does once a cluster is no longer observed: it creates a new
observer, or it goes on with other clusters. -/
inductive Next (κ : Type) where
  | create (cluster : Identity) (client : κ) (use : Use)
  | stop (clusters : List Identity)

/-- How far a call has come that stops an observer. -/
inductive Stage where
  | cancel
  | enqueue
  | acquire
  | join
  deriving DecidableEq, Repr

/-- Where a call stands, and so what it does next. -/
inductive Point (κ : Type) where
  /-- Looks for an observer that has an interchangeable client. -/
  | lookup (cluster : Identity) (client : κ) (use : Use)
  /-- Looks for the observer to stop. -/
  | find (cluster : Identity) (next : Next κ)
  /-- Stops an observer; afterwards it is removed, unless it is stopped for itself. -/
  | halt (stage : Stage) (observer : ObserverId) (after : Option (Identity × Next κ))
  /-- Removes the entry of a cluster if it is that of the observer. -/
  | remove (cluster : Identity) (observer : ObserverId) (next : Next κ)
  /-- Creates an observer. -/
  | spawn (cluster : Identity) (client : κ) (use : Use)
  /-- Enters the new observer. -/
  | insert (cluster : Identity) (observer : ObserverId) (use : Use)
  /-- Cancels the observer that the new one has displaced. -/
  | displace (observer displaced : ObserverId) (use : Use)
  /-- Reads what an observer published last. -/
  | read (observer : ObserverId)
  /-- Looks up the observer of a cluster. -/
  | get (cluster : Identity)
  /-- Lists the clusters, to give the list back or to stop them all. -/
  | enumerate (stopping : Bool)
  /-- The call is over. -/
  | finished (outcome : Outcome)

/-- The point at which a call begins. -/
def Request.point {κ : Type} : Request κ → Point κ
  | .observe cluster client => .lookup cluster client .give
  | .resolve cluster client => .lookup cluster client .read
  | .create cluster client => .spawn cluster client .give
  | .stop cluster => .find cluster (.stop [])
  | .stopAll => .enumerate true
  | .get cluster => .get cluster
  | .list => .enumerate false
  | .halt observer => .halt .cancel observer none

/-- The point at which a call has its observer. -/
def Use.point {κ : Type} (observer : ObserverId) : Use → Point κ
  | .give => .finished (.observer observer)
  | .read => .read observer

/-- The point at which a call goes on once a cluster is no longer observed. -/
def Next.point {κ : Type} : Next κ → Point κ
  | .create cluster client use => .spawn cluster client use
  | .stop [] => .finished .done
  | .stop (cluster :: rest) => .find cluster (.stop rest)

/-- The point at which a call goes on once an observer has stopped. -/
def pointAfterHalt {κ : Type} (observer : ObserverId) : Option (Identity × Next κ) → Point κ
  | none => .finished .done
  | some (cluster, next) => .remove cluster observer next

/-! ## States -/

/-- The state of a registry, of its observers and of the calls on it. -/
structure State (κ : Type) where
  /-- The clock of all timers. -/
  clock : Clock := {}
  /-- Nanoseconds since the clock started. -/
  now : Nat := 0
  /-- The settings of the observers that are created. -/
  settings : Settings
  /-- All observers that were ever created, by number. -/
  observers : List (Observer κ) := []
  /-- The observer of each observed cluster. -/
  entries : List (Identity × ObserverId) := []
  /-- Where all calls stand that have ever begun, by number. -/
  calls : List (Point κ) := []

/-- How clients serve at a moment. -/
abbrev Environment (κ : Type) : Type :=
  κ → Service

/-- No client is ever reached. -/
def Environment.unreachable {κ : Type} : Environment κ := fun _ =>
  .unreachable

/-- What goes on next. -/
inductive Label (κ : Type) where
  /-- A call begins. -/
  | begin (request : Request κ)
  /-- A call goes on. -/
  | call (id : CallId)
  /-- A call lists the clusters, in the given order. -/
  | enumerate (id : CallId) (order : List Identity)
  /-- The task of an observer runs, while clients serve as given. -/
  | task (observer : ObserverId) (environment : Environment κ)
  /-- Time passes, in nanoseconds. -/
  | advance (time : Nat)
  /-- An observer is created that the registry does not know of. -/
  | spawn (cluster : Identity) (client : κ) (settings : Settings)
  /-- A stop of an observer is requested, and nobody waits for it. -/
  | signal (observer : ObserverId)

/-- Replaces the value of a key, or puts it at the end. -/
def put (key : Identity) (value : ObserverId) :
    List (Identity × ObserverId) → List (Identity × ObserverId)
  | [] => [(key, value)]
  | (k, v) :: rest => if k = key then (key, value) :: rest else (k, v) :: put key value rest

/-- Removes a key. -/
def erase (key : Identity) (entries : List (Identity × ObserverId)) :
    List (Identity × ObserverId) :=
  entries.filter fun entry => entry.1 ≠ key

namespace State

variable {κ : Type}

/-- The state in which nothing is observed. -/
def empty (settings : Settings) : State κ :=
  { settings }

/-- The observer in the registry for a cluster. -/
def entry? (s : State κ) (cluster : Identity) : Option ObserverId :=
  s.entries.lookup cluster

/-- The clusters that are observed, in the order in which they were entered. -/
def clusters (s : State κ) : List Identity :=
  s.entries.map Prod.fst

/-- The state with a change of one observer. -/
def update (s : State κ) (observer : ObserverId) (change : Observer κ → Observer κ) : State κ :=
  { s with observers := s.observers.modify observer change }

/-- The state in which a call stands at another point. -/
def goto (s : State κ) (call : CallId) (point : Point κ) : State κ :=
  { s with calls := s.calls.set call point }

variable [HasConnection κ]

/-- The state after a call has done what it does at a point.  There is none while
the call has to wait, and once it is over. -/
def stepCall (s : State κ) (call : CallId) : Point κ → Option (State κ)
  | .lookup cluster client use =>
      match s.entry? cluster with
      | none => some (s.goto call (.spawn cluster client use))
      | some id => do
          let observer ← s.observers[id]?
          if Interchangeable observer.client client then some (s.goto call (use.point id))
          else some (s.goto call (.find cluster (.create cluster client use)))
  | .find cluster next =>
      match s.entry? cluster with
      | none => some (s.goto call next.point)
      | some id => some (s.goto call (.halt .cancel id (some (cluster, next))))
  | .halt .cancel id after =>
      some ((s.update id Observer.cancel).goto call (.halt .enqueue id after))
  | .halt .enqueue id after =>
      some ((s.update id (Observer.enqueue call)).goto call (.halt .acquire id after))
  | .halt .acquire id after => do
      let observer ← s.observers[id]?
      if observer.queue.head? = some call then
        if observer.joined then
          some ((s.update id Observer.release).goto call (pointAfterHalt id after))
        else some (s.goto call (.halt .join id after))
      else none
  | .halt .join id after => do
      let observer ← s.observers[id]?
      if observer.task.isFinished then
        some ((s.update id Observer.release).goto call (pointAfterHalt id after))
      else none
  | .remove cluster id next =>
      let entries := if s.entry? cluster = some id then erase cluster s.entries else s.entries
      some ({ s with entries }.goto call next.point)
  | .spawn cluster client use =>
      let observer : Observer κ := { cluster, client, settings := s.settings }
      some ({ s with observers := s.observers ++ [observer] }.goto call
        (.insert cluster s.observers.length use))
  | .insert cluster id use =>
      let point :=
        match s.entry? cluster with
        | none => use.point id
        | some displaced => .displace id displaced use
      some ({ s with entries := put cluster id s.entries }.goto call point)
  | .displace id displaced use =>
      some ((s.update displaced Observer.cancel).goto call (use.point id))
  | .read id => do
      let observer ← s.observers[id]?
      some (s.goto call (.finished (.observation observer.last)))
  | .get cluster => some (s.goto call (.finished (.entry (s.entry? cluster))))
  | .enumerate _ => none
  | .finished _ => none

/-- The state after what a label says, with the events of the tasks in it; there
is none if that cannot go on now. -/
def step (s : State κ) : Label κ → Option (State κ × List (ObserverId × Event))
  | .begin request => some ({ s with calls := s.calls ++ [request.point] }, [])
  | .call id => do
      let state ← s.stepCall id (← s.calls[id]?)
      some (state, [])
  | .enumerate id order =>
      match s.calls[id]? with
      | some (.enumerate stopping) =>
          if order.isPerm s.clusters then
            let point := if stopping then (Next.stop order).point else .finished (.clusters order)
            some (s.goto id point, [])
          else none
      | _ => none
  | .task id environment => do
      let observer ← s.observers[id]?
      let (observer, events) := observer.run s.clock s.now (environment observer.client)
      some ({ s with observers := s.observers.set id observer }, events.map fun e => (id, e))
  | .advance time => some ({ s with now := s.now + time }, [])
  | .spawn cluster client settings =>
      let observer : Observer κ := { cluster, client, settings }
      some ({ s with observers := s.observers ++ [observer] }, [])
  | .signal id => some (s.update id Observer.cancel, [])

end State

/-- `Run s labels t events`: the labels lead from `s` to `t`, with the given events
of tasks on the way. -/
inductive Run {κ : Type} [HasConnection κ] :
    State κ → List (Label κ) → State κ → List (ObserverId × Event) → Prop where
  | nil (s : State κ) : Run s [] s []
  | cons {s t u : State κ} {label : Label κ} {labels : List (Label κ)}
      {events more : List (ObserverId × Event)} :
      s.step label = some (t, events) → Run t labels u more →
        Run s (label :: labels) u (events ++ more)

end ClusterWatch.Observation.Registry
