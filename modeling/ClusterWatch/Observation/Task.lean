import ClusterWatch.Observation.Poll

/-!
# Tasks of observers

The background task of an observer polls its cluster once and then again at every
tick.  A run of the task goes from one wait to the next; it looks for a
cancellation before anything else, so a cancelled task ends without a further
request, and drops the poll that is under way.
-/

namespace ClusterWatch.Observation

/-- How late a tick may be taken and still be on time, in nanoseconds. -/
def tolerance : Nat :=
  (Duration.ofMillis 5).nanos

/-- The deadline after a tick that is taken at `now`.  A tick that is late moves
the ones after it. -/
def nextDeadline (period deadline now : Nat) : Nat :=
  if now ≤ deadline + tolerance then deadline + period else now + period

/-- Where a task stands. -/
inductive Task where
  /-- It has not run yet. -/
  | created
  /-- It waits for the tick with the given deadline. -/
  | resting (deadline : Nat)
  /-- It polls; the deadline is that of the next tick. -/
  | polling (poll : Poll) (deadline : Nat)
  /-- It has ended. -/
  | finished

/-- What happens in a run of a task, and when. -/
inductive Event where
  /-- The client is asked for a part of an observation. -/
  | requested (time : Nat) (part : Part)
  /-- The observation of a poll is published. -/
  | published (time : Nat) (observation : Observation)

/-- The requests of a poll that begins at a moment. -/
def Poll.requests (now : Nat) : List Event :=
  [.requested now .health, .requested now .license]

namespace Task

/-- The task has ended. -/
def isFinished : Task → Bool
  | .finished => true
  | _ => false

/-- Goes on with a poll.  Once it is over, its observation is published. -/
def goOn (now : Nat) (service : Service) (poll : Poll) (deadline : Nat) : Task × List Event :=
  let poll := poll.advance now service
  match poll.result? with
  | some observation => (.resting deadline, [.published now observation])
  | none => (.polling poll deadline, [])

/-- Takes a tick: the next deadline is set, and a poll begins with its requests. -/
def tick (clock : Clock) (settings : Settings) (now : Nat) (service : Service)
    (deadline : Nat) : Task × List Event :=
  let next := clock.within now (nextDeadline settings.period deadline now)
  let (task, events) := goOn now service (Poll.start clock settings.timeout now service) next
  (task, Poll.requests now ++ events)

/-- Takes the tick of a deadline, if it is time. -/
def rest (clock : Clock) (settings : Settings) (now : Nat) (service : Service)
    (deadline : Nat) : Task × List Event :=
  if Clock.roundUp deadline ≤ now then tick clock settings now service deadline
  else (.resting deadline, [])

/-- A run of a task at a moment. -/
def run (clock : Clock) (settings : Settings) (cancelled : Bool) (now : Nat)
    (service : Service) : Task → Task × List Event
  | .finished => (.finished, [])
  | task =>
      if cancelled then (.finished, [])
      else
        match task with
        | .created => tick clock settings now service now
        | .resting deadline => rest clock settings now service deadline
        | .polling poll deadline =>
            match goOn now service poll deadline with
            | (.resting deadline, events) =>
                let (task, more) := rest clock settings now service deadline
                (task, events ++ more)
            | result => result
        | .finished => (.finished, [])

/-- The moment from which on a run gets a task that is not cancelled any further. -/
def wake? : Task → Option Nat
  | .created => some 0
  | .resting deadline => some (Clock.roundUp deadline)
  | .polling poll _ => some poll.wake
  | .finished => none

end Task

end ClusterWatch.Observation
