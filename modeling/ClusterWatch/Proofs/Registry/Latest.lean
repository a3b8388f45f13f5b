import ClusterWatch.Observation.Session
import ClusterWatch.Proofs.Observer.Answers
import ClusterWatch.Proofs.Registry.Timeliness

/-!
# What an observer has published last

On a clock that waits for the task of an observer, what the observer has published last is what
its latest published poll reports: for each of the two requests the answer that came in time,
and nothing for a request that failed or took too long.
-/

namespace ClusterWatch.Observation

open Elasticsearch.InMemory (Client)

/-! ## Calls of clients -/

/-- A backend once it has been asked some times more for the health, and for the license. -/
def Backend.asked (health license : Nat) (backend : Backend) : Backend :=
  { backend with
    healthCalls := backend.healthCalls + health
    licenseCalls := backend.licenseCalls + license }

theorem Backend.asked_zero : asked 0 0 = id :=
  rfl

theorem Backend.ask_health_comp (health license : Nat) :
    asked health license ∘ (ask · .health) = asked (health + 1) license := by
  funext backend
  simp [asked, ask, Nat.add_assoc, Nat.add_comm 1]

theorem Backend.ask_license_comp (health license : Nat) :
    asked health license ∘ (ask · .license) = asked health (license + 1) := by
  funext backend
  simp [asked, ask, Nat.add_assoc, Nat.add_comm 1]

/-- A session counts the requests of each kind. -/
theorem Session.backends_count {session : Session} {observer : ObserverId}
    {o : Observer Client} (known : session.registry.observers[observer]? = some o)
    (events : List Event) :
    (session.count (events.map fun event => (observer, event))).backends =
      session.backends.modify o.client.id
        (Backend.asked (requestsFor .health events).length
          (requestsFor .license events).length) := by
  induction events generalizing session with
  | nil => simp [Session.count, requestsFor, Backend.asked_zero]
  | cons event events ih =>
      cases event with
      | published time value => exact ih known
      | requested time part =>
          have goesOn : session.count ((observer, .requested time part) ::
                events.map fun event => (observer, event)) =
              (session.ask o.client part).count
                (events.map fun event => (observer, event)) := by
            simp only [Session.count, List.foldl_cons, known]
          have counted := @ih (session.ask o.client part) known
          rw [List.map_cons, goesOn, counted, Session.ask, List.modify_modify_eq]
          cases part with
          | health =>
              rw [Backend.ask_health_comp]
              rfl
          | license =>
              rw [Backend.ask_license_comp]
              rfl

/-! ## The latest poll -/

theorem Event.Precedes.mono {short long : Nat} (le : short ≤ long) {event next : Event}
    (precedes : Precedes short event next) : Precedes long event next := by
  cases precedes with
  | joins => exact .joins
  | ends after inTime => exact .ends after (by omega)
  | begins after => exact .begins after

theorem Visit.IsSilent.not_mem_history {visits : List Visit}
    (silent : ∀ visit ∈ visits, visit.IsSilent) :
    ∀ event ∈ Observer.history visits, ¬event.IsPublication := by
  intro event mem
  obtain ⟨visit, mem, within⟩ := List.mem_flatMap.mp mem
  exact silent visit mem event within

namespace Registry

variable {κ : Type} [Elasticsearch.HasConnection κ]

/-- In every run on a fresh registry, with a clock that does not advance while the task of an
observer can run, and with times in whole milliseconds:

* if no poll of the observer has been published, what it has published last is the unknown
  observation, and otherwise it is the result of the poll that has been published last,
* its health is the answer to the request of that poll for the health, if it has come back no
  later than the time for requests after the poll began, and it is absent if the request has
  failed or has not come back by then; it is the same with the license,
* polls begin one after another, each when the one before is over; each begins with a request
  for the health and one for the license, and there are no other requests,
* so a session counts one health call and one license call for each poll that has begun. -/
theorem last_of_run {s t : State κ} {labels : List (Label κ)}
    {events : List (ObserverId × Event)} (fresh : s.IsFresh) (run : Run s labels t events)
    {id : ObserverId} {o : Observer κ} (known : t.observers[id]? = some o)
    (punctual : Punctual s labels id) (millis : o.settings.InMillis s.clock)
    (start : StartsInMillis (s.visits id labels))
    (delays : ∀ visit ∈ s.visits id labels, visit.service.InMillis) :
    let own := eventsOf id events
    let timeout := o.settings.timeout.nanos
    ((o.last = .unknown ∧ ∀ event ∈ own, ¬event.IsPublication) ∨
      ∃ earlier during later, s.visits id labels = earlier ++ during ++ later ∧
        IsPoll s.clock o.settings.timeout o.last during ∧
        (∀ visit ∈ later, visit.IsSilent) ∧
        Reports s.clock timeout Service.healthDelay Service.health during o.last.health ∧
        Reports s.clock timeout Service.licenseDelay Service.license during o.last.license) ∧
    (∀ event ∈ own.head?, ∃ time, event = .requested time .health) ∧
    own.IsChain (Event.Precedes timeout) ∧
    (∀ part, requestsFor part own = starts own) ∧
    ∀ (session : Session) (observer : Observer Client),
      session.registry.observers[id]? = some observer →
        (session.count (own.map fun event => (id, event))).backends =
          session.backends.modify observer.client.id
            (Backend.asked (starts own).length (starts own).length) := by
  intro own timeout
  have life := run.life fresh punctual known
  have history : own = Observer.history (s.visits id labels) := run.eventsOf_eq_history id
  obtain ⟨paced, -⟩ := life.paced millis start
  rw [← history] at paced
  have asked (part : Part) : requestsFor part own = starts own := by
    cases part with
    | health => rfl
    | license => exact paced.paired
  refine ⟨?_, paced.first, ?_, asked, ?_⟩
  · have traced := (run.recorded fresh).traced id o known
    rcases traced.published.unknown_or_exists_poll with ⟨unknown, silent⟩ | polled
    · left
      rw [history]
      exact ⟨unknown, Visit.IsSilent.not_mem_history silent⟩
    · right
      obtain ⟨earlier, during, later, split, isPoll, silent⟩ := polled
      rw [split] at life start delays
      have delays (visit : Visit) (mem : visit ∈ during) : visit.service.InMillis :=
        delays visit (List.mem_append_left _ (List.mem_append_right _ mem))
      obtain ⟨health, license⟩ := life.reports millis start delays isPoll
      exact ⟨earlier, during, later, split, isPoll, silent, health, license⟩
  · apply paced.sequential.imp
    intro event next precedes
    exact precedes.mono (s.clock.span_le timeout)
  · intro session observer known
    rw [Session.backends_count known, asked, asked]

/-- The second poll takes the health that comes at the very end of its time, and the license,
which comes a millisecond later, is no longer known. -/
theorem last_of_run_late :
    let client : Client := ⟨0, "https://a:9200", none, []⟩
    let settings : Settings := ⟨.ofMillis 150, .ofMillis 200⟩
    let green := Elasticsearch.InMemory.healthOf .green
    let yellow := Elasticsearch.InMemory.healthOf .yellow
    let license := Elasticsearch.InMemory.basicLicense
    let prompt : Service := ⟨some 0, some 0, some green, some license⟩
    let slow : Service :=
      ⟨some (Duration.ofMillis 200).nanos, some (Duration.ofMillis 201).nanos, some yellow,
        some license⟩
    let labels : List (Label Client) :=
      [.spawn ⟨"default", "a"⟩ client settings, .task 0 fun _ => prompt,
        .advance (Duration.ofMillis 150).nanos, .task 0 fun _ => slow,
        .advance (Duration.ofMillis 200).nanos, .task 0 fun _ => slow]
    ∃ t events o, Run { settings := .default, clock := .ofThirtyYears } labels t events ∧
      t.observers[0]? = some o ∧ o.last = ⟨some yellow, none⟩ ∧
      ∃ during, IsPoll .ofThirtyYears o.settings.timeout o.last during ∧
        Reports .ofThirtyYears settings.timeout.nanos Service.licenseDelay Service.license during
          none := by
  intro client settings green yellow license prompt slow labels
  let s : State Client := { settings := .default, clock := .ofThirtyYears }
  have follows : (s.follow? labels).any (fun last =>
      last.1.observers[0]?.any fun o =>
        o.settings = settings ∧ o.last = ⟨some yellow, none⟩) = true := by
    decide +kernel
  obtain ⟨⟨t, events⟩, goes, holds⟩ := (Option.any_eq_true ..).mp follows
  have run : Run s labels t events := run_iff_follow?_eq_some.mpr goes
  obtain ⟨o, known, holds⟩ := (Option.any_eq_true ..).mp holds
  obtain ⟨same, last⟩ := of_decide_eq_true holds
  have punctual : Punctual s labels 0 := punctual_of_waitsFor (by decide +kernel)
  have millis : o.settings.InMillis s.clock := by
    rw [same]
    exact ⟨by decide, by decide, by decide⟩
  have start : StartsInMillis (s.visits 0 labels) := by
    decide +kernel
  have delays : ∀ visit ∈ s.visits 0 labels, visit.service.InMillis := by
    decide +kernel
  obtain ⟨⟨unknown, -⟩ | ⟨-, during, -, -, isPoll, -, -, reports⟩, -⟩ :=
    last_of_run ⟨rfl, rfl, rfl⟩ run known punctual millis start delays
  · rw [last] at unknown
    cases unknown
  · rw [last, same] at reports
    exact ⟨t, events, o, run, known, last, during, isPoll, reports⟩

end Registry

end ClusterWatch.Observation
