import ClusterWatch.Proofs.Observer.Cadence
import ClusterWatch.Proofs.Registry.Refinement
import ClusterWatch.Proofs.Registry.Resolution

/-!
# Tasks on a clock that waits for them

While time passes only when the task of an observer has nothing to do, each run of the task is
at the moment it waited for.  What observers do is then told by the clock: polls begin at their
times, and are over within theirs, however long the answers take.
-/

namespace ClusterWatch.Observation.Registry

open Clock (IsWhole)
open Elasticsearch (HasConnection)
open Kubernetes (Identity)

variable {κ : Type}

/-! ## The events of an observer -/

/-- The events of one observer. -/
def eventsOf (id : ObserverId) (events : List (ObserverId × Event)) : List Event :=
  events.filterMap fun event => if event.1 = id then some event.2 else none

theorem eventsOf_append (id : ObserverId) (events more : List (ObserverId × Event)) :
    eventsOf id (events ++ more) = eventsOf id events ++ eventsOf id more :=
  List.filterMap_append

theorem eventsOf_map_self (id : ObserverId) (events : List Event) :
    eventsOf id (events.map fun event => (id, event)) = events := by
  simp [eventsOf, List.filterMap_map]

theorem eventsOf_map_of_ne {id other : ObserverId} (differs : other ≠ id)
    (events : List Event) : eventsOf id (events.map fun event => (other, event)) = [] := by
  simp [eventsOf, List.filterMap_map, differs]

/-! ## The clock -/

/-- While the given time passes, the task of the observer has nothing to do. -/
def State.Idles (s : State κ) (id : ObserverId) (time : Nat) : Prop :=
  ∀ moment ∈ s.observers[id]?.bind Observer.wake?, s.now + time ≤ max s.now moment

instance (s : State κ) (id : ObserverId) (time : Nat) : Decidable (s.Idles id time) :=
  inferInstanceAs (Decidable (∀ moment ∈ s.observers[id]?.bind Observer.wake?, _))

variable [HasConnection κ]

/-- In a run by the labels, time passes only while the task of the observer has nothing to
do. -/
def Punctual (s : State κ) (labels : List (Label κ)) (id : ObserverId) : Prop :=
  ∀ u time rest, Passes s labels u (.advance time :: rest) → u.Idles id time

/-- Time passes in a run by the labels only while the task of the observer has nothing to
do. -/
def State.waitsFor (s : State κ) (id : ObserverId) : List (Label κ) → Bool
  | [] => true
  | label :: labels =>
      (match label with
        | .advance time => decide (s.Idles id time)
        | _ => true) &&
      (s.step label).all fun next => next.1.waitsFor id labels

theorem punctual_of_waitsFor {s : State κ} {labels : List (Label κ)} {id : ObserverId}
    (waits : s.waitsFor id labels = true) : Punctual s labels id := by
  rintro u time rest ⟨past, events, rfl, run⟩
  induction run with
  | nil s => exact of_decide_eq_true (Bool.and_eq_true_iff.mp waits).1
  | cons goes _ ih =>
      have later := (Bool.and_eq_true_iff.mp waits).2
      rw [goes] at later
      exact ih later

theorem Move.now {s r : State κ} {call : CallId} {p q : Point κ} (move : Move s call p q r) :
    r.now = s.now := by
  cases move <;> rfl

theorem Step.now_cases {s t : State κ} {label : Label κ} (step : Step s label t) :
    (∃ time, label = .advance time ∧ t.now = s.now + time) ∨ t.now = s.now := by
  cases step with
  | @advance time => exact .inl ⟨time, rfl, rfl⟩
  | call _ _ move => exact .inr move.now
  | _ => exact .inr rfl

/-- The events of an observer in a step are those of the run of its task. -/
theorem State.eventsOf_step {s t : State κ} {label : Label κ}
    {events : List (ObserverId × Event)} (goes : s.step label = some (t, events))
    (id : ObserverId) :
    eventsOf id events = Observer.history (s.visit? id label).toList := by
  cases label with
  | begin | advance | spawn | signal =>
      cases goes
      rfl
  | call call =>
      obtain ⟨p, -, goes⟩ := Option.bind_eq_some_iff.mp goes
      obtain ⟨u, -, goes⟩ := Option.bind_eq_some_iff.mp goes
      cases goes
      rfl
  | enumerate call order =>
      simp only [State.step] at goes
      split at goes
      · split at goes
        · cases goes
          rfl
        · cases goes
      · cases goes
  | task other environment =>
      obtain ⟨o, known, goes⟩ := Option.bind_eq_some_iff.mp goes
      generalize ran : o.run s.clock s.now (environment o.client) = result at goes
      cases goes
      by_cases same : other = id
      · subst same
        simp [eventsOf_map_self, Observer.history, State.visit?, known, ran]
      · simp [eventsOf_map_of_ne same, Observer.history, State.visit?, same]

/-- The events of an observer in a run are those of the runs of its task. -/
theorem Run.eventsOf_eq_history {s t : State κ} {labels : List (Label κ)}
    {events : List (ObserverId × Event)} (run : Run s labels t events) (id : ObserverId) :
    eventsOf id events = Observer.history (s.visits id labels) := by
  induction run with
  | nil s => rfl
  | cons goes run ih =>
      rw [eventsOf_append, State.eventsOf_step goes, ih, State.visits]
      simp [goes, Observer.history]

/-- While time passes only when the task of an observer has nothing to do, the observer leads
its life. -/
theorem Run.life {s t : State κ} {labels : List (Label κ)} {events : List (ObserverId × Event)}
    (run : Run s labels t events) (fresh : s.IsFresh) {id : ObserverId}
    (punctual : Punctual s labels id) {o : Observer κ} (known : t.observers[id]? = some o) :
    Observer.Life s.clock (s.visits id labels) o t.now := by
  revert o
  refine run.induction_prefix (P := fun past u => ∀ {o : Observer κ},
    u.observers[id]? = some o → Observer.Life s.clock (s.visits id past) o u.now) ?_ ?_
  · intro o known
    rw [fresh.observers] at known
    cases known
  · intro past label later u v before during split run' goes life o known
    have recorded := run'.recorded fresh
    have step := step_of_eq_some goes
    rw [State.visits_concat run' goes]
    rcases step.observer_cases known with
      ⟨silent, new, task, -⟩ | ⟨silent, o', known', rests⟩ | ⟨service, o', known', rfl, visits⟩
    · rw [silent, recorded.unknown id new]
      exact .created task
    · rw [silent, Option.toList_none, List.append_nil]
      have cancelled : o'.cancelled = true → o.cancelled = true := by
        obtain ⟨o'', known'', continues⟩ := step.evolves id o' known'
        obtain rfl := Option.some.inj (known.symm.trans known'')
        exact continues.cancelled
      rcases step.now_cases with ⟨time, rfl, now⟩ | now
      · -- Time passes before the step changes the observer, since the task idles then.
        rw [now]
        have idles := punctual u time later ⟨past, before, split, run'⟩
        refine .change (.pass (life known') (Nat.le_add_right u.now time) ?_) rests.settings
          rests.task cancelled
        intro moment wakes
        apply idles
        rw [known']
        exact wakes
      · rw [now]
        exact .change (life known') rests.settings rests.task cancelled
    · rw [visits, recorded.sameClock]
      have now : v.now = u.now := by
        rcases step.now_cases with ⟨time, rfl, -⟩ | now
        · cases visits
        · exact now
      rw [now]
      exact .run service (life known')

/-! ## The cadence of polls -/

/-- In every run on a fresh registry, with an unbounded clock that does not advance while the
task of an observer can run, and with settings in whole milliseconds, however long the client
takes for its answers:

* the first poll begins in the first run of the task, at that moment, unless the observer has
  been cancelled before,
* polls do not overlap, and each is over within the time for its requests,
* a poll begins a period after the last one, but for the tolerance of five milliseconds, and no
  later than the longer of the period and the time for requests makes it,
* while the observer is not cancelled, no more time than that passes before the next poll, and
  by then a run of the task begins it, with a request for each part,
* after a run the task waits, so that time may pass. -/
theorem cadence_of_run {s t : State κ} {labels : List (Label κ)}
    {events : List (ObserverId × Event)} (fresh : s.IsFresh) (unbounded : s.clock = {})
    (run : Run s labels t events) {id : ObserverId} {o : Observer κ}
    (known : t.observers[id]? = some o) (punctual : Punctual s labels id)
    (millis : o.settings.InMillis s.clock) (start : StartsInMillis (s.visits id labels)) :
    let own := eventsOf id events
    let period := o.settings.period
    let timeout := o.settings.timeout.nanos
    (∀ first ∈ (s.visits id labels).head?,
      (starts own).head? = some first.time ∨ o.cancelled = true ∧ own = []) ∧
    own.IsChain (Event.Precedes timeout) ∧
    (∀ poll deadline, o.task = .polling poll deadline →
      ∃ begun, (starts own).getLast? = some begun ∧ t.now ≤ begun + timeout) ∧
    (starts own).IsChain (IsSpaced period timeout) ∧
    (o.cancelled = false →
      (∀ begun ∈ (starts own).getLast?, t.now ≤ begun + max period timeout) ∧
      ((∀ begun ∈ (starts own).getLast?, begun + max period timeout ≤ t.now) →
        ∀ service part, .requested t.now part ∈ (o.run s.clock t.now service).2)) ∧
    ∀ service, (s.visits id labels = [] → IsWhole t.now) →
      (o.run s.clock t.now service).1.isReady t.now = false := by
  intro own period timeout
  have life := run.life fresh punctual known
  have history : own = Observer.history (s.visits id labels) := run.eventsOf_eq_history id
  obtain ⟨paced, stands⟩ := life.paced millis start
  rw [← history, unbounded, Clock.span_unbounded, Clock.span_unbounded] at paced stands
  refine ⟨?_, paced.sequential, ?_, paced.spaced, ?_, ?_⟩
  · intro first isFirst
    obtain ⟨rest, visits⟩ := List.head?_eq_some_iff.mp isFirst
    rw [visits] at life history
    rw [history]
    exact life.begins
  · intro poll deadline polls
    rw [polls] at stands
    exact stands.le_of_polling
  · intro goesOn
    have unfinished : o.task.isFinished = false := by
      apply Bool.eq_false_iff.mpr
      intro finished
      rw [life.cancelled_of_isFinished finished] at goesOn
      cases goesOn
    constructor
    · exact stands.le_of_unfinished unfinished
    · intro late service part
      rw [Observer.run_eq, goesOn]
      exact stands.requests unfinished late s.clock o.settings service part
  · intro service first
    exact life.not_isReady_run millis (start.concat first)

/-- The second poll begins late, but within the tolerance, so the third one begins at its time;
the fourth one waits for a license that never comes. -/
theorem cadence_of_run_overrunning :
    let client : Elasticsearch.InMemory.Client := ⟨0, "https://a:9200", none, []⟩
    let settings : Settings := ⟨.ofMillis 150, .ofMillis 200⟩
    let health := Elasticsearch.InMemory.healthOf .green
    let prompt : Service := ⟨some 0, some 0, some health, none⟩
    let slow : Service := ⟨some (Duration.ofMillis 153).nanos, some 0, some health, none⟩
    let stuck : Service := ⟨some 0, none, some health, none⟩
    let labels : List (Label Elasticsearch.InMemory.Client) :=
      [.spawn ⟨"default", "a"⟩ client settings, .task 0 fun _ => slow,
        .advance (Duration.ofMillis 153).nanos, .task 0 fun _ => prompt,
        .advance (Duration.ofMillis 147).nanos, .task 0 fun _ => stuck,
        .advance (Duration.ofMillis 200).nanos, .task 0 fun _ => prompt]
    ∃ t events, Run (.empty .default) labels t events ∧
      starts (eventsOf 0 events) =
        [0, 153, 300, 500].map (fun n => (Duration.ofMillis n).nanos) ∧
      (starts (eventsOf 0 events)).IsChain
        (IsSpaced settings.period settings.timeout.nanos) := by
  intro client settings health prompt slow stuck labels
  have follows : ((State.empty .default).follow? labels).any (fun last =>
      (last.1.observers[0]?.map Observer.settings = some settings) ∧
        starts (eventsOf 0 last.2) =
          [0, 153, 300, 500].map fun n => (Duration.ofMillis n).nanos) = true := by
    decide +kernel
  obtain ⟨⟨t, events⟩, goes, holds⟩ := (Option.any_eq_true ..).mp follows
  have run : Run (.empty .default) labels t events := run_iff_follow?_eq_some.mpr goes
  obtain ⟨configured, begun⟩ := of_decide_eq_true holds
  obtain ⟨o, known, same⟩ := Option.map_eq_some_iff.mp configured
  have punctual : Punctual (.empty .default) labels 0 :=
    punctual_of_waitsFor (by decide +kernel)
  have millis : o.settings.InMillis {} := by
    rw [same]
    exact ⟨nofun, by decide, by decide⟩
  have start : StartsInMillis ((State.empty .default).visits 0 labels) := by
    decide +kernel
  obtain ⟨-, -, -, spaced, -⟩ := cadence_of_run (State.isFresh_empty .default) rfl run known
    punctual millis start
  exact ⟨t, events, run, begun, same ▸ spaced⟩

end ClusterWatch.Observation.Registry
