import ClusterWatch.Observation.Basic

/-!
# Polls

A poll asks a cluster for its health and its license at the same time.  Each of
the two requests ends on its own: with the answer at the moment that is due, or
without one when the time for it has run out.  An answer that is due at the very
end of that time still counts.  All moments are in nanoseconds.
-/

namespace ClusterWatch.Observation

/-- How a client serves requests at a moment: how long the requests that begin
then will take, if they are ever answered, and the answers to those that are due
then.  An absent answer is a failed request. -/
structure Service where
  healthDelay : Option Nat
  licenseDelay : Option Nat
  health : Option Health
  license : Option License

/-- The service of a client that is never reached: every request fails at once. -/
def Service.unreachable : Service :=
  ⟨some 0, some 0, none, none⟩

/-- A request of a poll. -/
inductive Pending (α : Type) where
  /-- Its answer comes at the given moment, or never. -/
  | awaited (due : Option Nat)
  /-- It is over. -/
  | settled (answer : Option α)

namespace Pending

variable {α : Type}

/-- The request that begins at a moment and takes the given time. -/
def start (clock : Clock) (now : Nat) (delay : Option Nat) : Pending α :=
  .awaited (delay.map fun d => Clock.roundUp (clock.within now (now + d)))

/-- The request at a moment at which `answer` is what the client has to say.  Its
answer is taken before its time is checked. -/
def advance (now deadline : Nat) (answer : Option α) : Pending α → Pending α
  | .settled result => .settled result
  | .awaited due =>
      if due.any (· ≤ now) then .settled answer
      else if deadline ≤ now then .settled none
      else .awaited due

/-- The moment at which the request ends. -/
def wake? (deadline : Nat) : Pending α → Option Nat
  | .settled _ => none
  | .awaited due => some (min deadline (due.getD deadline))

end Pending

/-- A poll that is under way. -/
structure Poll where
  /-- When the time for its requests has run out. -/
  deadline : Nat
  health : Pending Health
  license : Pending License

namespace Poll

/-- The poll that begins at a moment. -/
def start (clock : Clock) (timeout : Duration) (now : Nat) (service : Service) : Poll where
  deadline := Clock.roundUp (clock.within now (now + timeout.nanos))
  health := Pending.start clock now service.healthDelay
  license := Pending.start clock now service.licenseDelay

/-- The poll at a moment. -/
def advance (now : Nat) (service : Service) (poll : Poll) : Poll :=
  { poll with
    health := poll.health.advance now poll.deadline service.health
    license := poll.license.advance now poll.deadline service.license }

/-- The observation of a poll of which both requests are over. -/
def result? (poll : Poll) : Option Observation :=
  match poll.health, poll.license with
  | .settled health, .settled license => some ⟨health, license⟩
  | _, _ => none

/-- The next moment at which a request of the poll ends. -/
def wake (poll : Poll) : Nat :=
  min ((poll.health.wake? poll.deadline).getD poll.deadline)
    ((poll.license.wake? poll.deadline).getD poll.deadline)

end Poll

end ClusterWatch.Observation
