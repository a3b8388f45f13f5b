import ClusterWatch.Elasticsearch.Connection
import ClusterWatch.Kubernetes.Identity
import ClusterWatch.Observation.Task

/-!
# Observers

An observer watches one cluster with one client.  Its task runs on its own; a
caller that stops the observer sets its cancel flag, and then waits, under a lock
that callers get in the order in which they ask for it, until the task has been
joined.
-/

namespace ClusterWatch.Observation

open Kubernetes (Identity)

/-- Calls are numbered in the order in which they begin. -/
abbrev CallId := Nat

/-- Observers are numbered in the order in which they are created. -/
abbrev ObserverId := Nat

/-- An observer whose clients have type `κ`. -/
structure Observer (κ : Type) where
  cluster : Identity
  client : κ
  settings : Settings
  /-- A stop has been requested. -/
  cancelled : Bool := false
  task : Task := .created
  /-- What was published last. -/
  last : Observation := .unknown
  /-- Some caller has waited for the end of the task. -/
  joined : Bool := false
  /-- The calls that want the lock; the first has it. -/
  queue : List CallId := []

namespace Observer

variable {κ : Type}

/-- The observer with its cancel flag set. -/
def cancel (o : Observer κ) : Observer κ :=
  { o with cancelled := true }

/-- The observer with another call that wants its lock. -/
def enqueue (call : CallId) (o : Observer κ) : Observer κ :=
  { o with queue := o.queue ++ [call] }

/-- The observer once the call that has its lock has joined its task and gives the
lock to the next. -/
def release (o : Observer κ) : Observer κ :=
  { o with joined := true, queue := o.queue.drop 1 }

/-- What is published last once events have happened. -/
def latest : Observation → List Event → Observation
  | last, [] => last
  | _, .published _ observation :: events => latest observation events
  | last, .requested _ _ :: events => latest last events

/-- A run of the task of an observer. -/
def run (clock : Clock) (now : Nat) (service : Service) (o : Observer κ) :
    Observer κ × List Event :=
  let (task, events) := o.task.run clock o.settings o.cancelled now service
  ({ o with task, last := latest o.last events }, events)

/-- The moment from which on a run gets the task any further. -/
def wake? (o : Observer κ) : Option Nat :=
  if o.task.isFinished then none else if o.cancelled then some 0 else o.task.wake?

/-- A run now gets the task further. -/
def isReady (now : Nat) (o : Observer κ) : Bool :=
  o.wake?.any (· ≤ now)

end Observer

end ClusterWatch.Observation
