import ClusterWatch.Proofs.Observer.Timing

/-!
# How polls follow one another

A poll is over when the time for its requests is, and the next one begins at the tick after it,
or at once if that tick has passed.  The deadline of a tick lies a period after the beginning of
the last poll, or up to the tolerance earlier; this is what each run of the task keeps.
-/

namespace ClusterWatch.Observation

open Clock (IsWhole)

/-! ## What has happened in runs of a task -/

namespace Event

/-- The moment of an event. -/
def time : Event → Nat
  | .requested time _ => time
  | .published time _ => time

/-- The moment of a request for a part of an observation. -/
def asked? (part : Part) : Event → Option Nat
  | .requested time other => if other = part then some time else none
  | .published _ _ => none

/-- A poll begins with its two requests, it is over within its time, and the next one begins
after that. -/
inductive Precedes (timeout : Nat) : Event → Event → Prop where
  | joins {begun : Nat} :
      Precedes timeout (.requested begun .health) (.requested begun .license)
  | ends {begun ended : Nat} {value : Observation} :
      begun ≤ ended → ended ≤ begun + timeout →
        Precedes timeout (.requested begun .license) (.published ended value)
  | begins {ended begun : Nat} {value : Observation} :
      ended ≤ begun → Precedes timeout (.published ended value) (.requested begun .health)

end Event

/-- The moments at which the client has been asked for a part of an observation. -/
def requestsFor (part : Part) (events : List Event) : List Nat :=
  events.filterMap (Event.asked? part)

@[simp]
theorem requestsFor_append (part : Part) (events more : List Event) :
    requestsFor part (events ++ more) = requestsFor part events ++ requestsFor part more :=
  List.filterMap_append

@[simp]
theorem requestsFor_poll (part : Part) (now : Nat) :
    requestsFor part (Poll.requests now) = [now] := by
  cases part <;> rfl

@[simp]
theorem requestsFor_published (part : Part) (time : Nat) (value : Observation) :
    requestsFor part [.published time value] = [] :=
  rfl

/-- The moments at which polls have begun: a poll asks for the health first. -/
def starts (events : List Event) : List Nat :=
  requestsFor .health events

@[simp]
theorem starts_append (events more : List Event) :
    starts (events ++ more) = starts events ++ starts more :=
  requestsFor_append .health events more

@[simp]
theorem starts_poll (now : Nat) : starts (Poll.requests now) = [now] :=
  rfl

@[simp]
theorem starts_published (time : Nat) (value : Observation) :
    starts [.published time value] = [] :=
  rfl

/-- A poll begins a period after the last one, but for the tolerance, and no later than the
period and the time for a request make it. -/
def IsSpaced (period timeout begun next : Nat) : Prop :=
  begun + period ≤ next + tolerance ∧ next ≤ begun + max period timeout

/-- Up to a moment, polls have followed one another in their order and at their times. -/
structure Paced (period timeout : Nat) (events : List Event) (now : Nat) : Prop where
  first : ∀ event ∈ events.head?, ∃ time, event = .requested time .health
  sequential : events.IsChain (Event.Precedes timeout)
  paired : requestsFor .license events = starts events
  spaced : (starts events).IsChain (IsSpaced period timeout)
  whole : ∀ begun ∈ starts events, IsWhole begun
  past : ∀ event ∈ events.getLast?, event.time ≤ now

/-- The deadline of the tick after a poll. -/
structure OnSchedule (period begun deadline : Nat) : Prop where
  whole : IsWhole deadline
  earliest : begun + period ≤ deadline + tolerance
  latest : deadline ≤ begun + period

/-- The poll that has begun last began at the given moment and has been published. -/
def HasPublished (events : List Event) (begun : Nat) : Prop :=
  (∃ ended value, events.getLast? = some (.published ended value)) ∧
    (starts events).getLast? = some begun

/-- The poll that has begun last began at the given moment and has not been published. -/
def HasRequested (events : List Event) (begun : Nat) : Prop :=
  events.getLast? = some (.requested begun .license) ∧ (starts events).getLast? = some begun

namespace Paced

variable {period timeout : Nat} {events : List Event} {now begun : Nat}

theorem nil (period timeout now : Nat) : Paced period timeout [] now where
  first := nofun
  sequential := .nil
  paired := rfl
  spaced := .nil
  whole := nofun
  past := nofun

theorem mono {later : Nat} (paced : Paced period timeout events now) (le : now ≤ later) :
    Paced period timeout events later :=
  { paced with past := fun event last => Nat.le_trans (paced.past event last) le }

theorem publish (paced : Paced period timeout events now) (requested : HasRequested events begun)
    (inTime : now ≤ begun + timeout) (value : Observation) :
    Paced period timeout (events ++ [.published now value]) now := by
  obtain ⟨last, -⟩ := requested
  have nonempty : events ≠ [] := by
    rintro rfl
    cases last
  constructor
  · intro event first
    apply paced.first
    rwa [List.head?_append_of_ne_nil _ nonempty] at first
  · apply List.IsChain.append paced.sequential (.singleton _)
    rintro event isLast next isNext
    rw [last] at isLast
    cases isLast
    cases isNext
    exact .ends (paced.past _ last) inTime
  · rw [requestsFor_append, requestsFor_published, starts_append, starts_published, paced.paired]
  · rw [starts_append, starts_published, List.append_nil]
    exact paced.spaced
  · rw [starts_append, starts_published, List.append_nil]
    exact paced.whole
  · intro event isLast
    rw [List.getLast?_concat] at isLast
    cases isLast
    exact Nat.le_refl now

theorem hasPublished (requested : HasRequested events begun) (ended : Nat)
    (value : Observation) : HasPublished (events ++ [.published ended value]) begun := by
  constructor
  · exact ⟨ended, value, List.getLast?_concat⟩
  · rw [starts_append, starts_published, List.append_nil]
    exact requested.2

theorem hasRequested (events : List Event) (now : Nat) :
    HasRequested (events ++ Poll.requests now) now := by
  constructor
  · exact Poll.getLast?_append_requests events now
  · rw [starts_append, starts_poll]
    exact List.getLast?_concat

/-- A poll begins, as the first one or after another one. -/
theorem begin (paced : Paced period timeout events now) (whole : IsWhole now)
    (before : events = [] ∨
      ∃ begun, HasPublished events begun ∧ IsSpaced period timeout begun now) :
    Paced period timeout (events ++ Poll.requests now) now := by
  have past : ∀ event ∈ (events ++ Poll.requests now).getLast?, event.time ≤ now := by
    intro event isLast
    rw [Poll.getLast?_append_requests] at isLast
    cases isLast
    exact Nat.le_refl now
  have joined : (Poll.requests now).IsChain (Event.Precedes timeout) :=
    .cons_cons .joins (.singleton _)
  have paired : requestsFor .license (events ++ Poll.requests now) =
      starts (events ++ Poll.requests now) := by
    rw [requestsFor_append, requestsFor_poll, starts_append, starts_poll, paced.paired]
  have whole : ∀ begun ∈ starts (events ++ Poll.requests now), IsWhole begun := by
    intro begun mem
    rw [starts_append] at mem
    rcases List.mem_append.mp mem with mem | mem
    · exact paced.whole begun mem
    · exact List.mem_singleton.mp mem ▸ whole
  rcases before with rfl | ⟨begun, ⟨⟨ended, value, last⟩, begins⟩, spaced⟩
  · constructor
    · rintro event first
      cases first
      exact ⟨now, rfl⟩
    · exact joined
    · exact paired
    · exact .singleton _
    · exact whole
    · exact past
  · have nonempty : events ≠ [] := by
      rintro rfl
      cases last
    constructor
    · intro event first
      apply paced.first
      rwa [List.head?_append_of_ne_nil _ nonempty] at first
    · apply List.IsChain.append paced.sequential joined
      rintro event isLast next isNext
      rw [last] at isLast
      cases isLast
      cases isNext
      exact .begins (paced.past _ last)
    · exact paired
    · rw [starts_append, starts_poll]
      apply List.IsChain.append paced.spaced (.singleton _)
      rintro earlier isLast next isNext
      rw [begins] at isLast
      cases isLast
      cases isNext
      exact spaced
    · exact whole
    · exact past

end Paced

namespace Task

/-- What a task stands at after the events so far, if it goes on at a later moment at the
latest. -/
inductive Stands (period timeout : Nat) (events : List Event) (later : Nat) : Task → Prop where
  | created : events = [] → Stands period timeout events later .created
  | resting {begun deadline : Nat} :
      HasPublished events begun → OnSchedule period begun deadline → later ≤ deadline →
        Stands period timeout events later (.resting deadline)
  | polling {poll : Poll} {begun deadline : Nat} :
      HasRequested events begun → OnSchedule period begun deadline →
        poll.IsUnderway timeout begun later →
        Stands period timeout events later (.polling poll deadline)
  | finished : Stands period timeout events later .finished

variable {period timeout : Nat} {events : List Event} {now begun deadline : Nat}
  {service : Service} {poll : Poll}

/-- A poll goes on, or it is published. -/
theorem goOn_cases (paced : Paced period timeout events now) (requested : HasRequested events begun)
    (underway : poll.IsUnderway timeout begun now) (service : Service)
    (deadline : Nat) :
    (∃ poll', goOn now service poll deadline = (.polling poll' deadline, []) ∧
        poll'.IsUnderway timeout begun (now + 1)) ∨
      ∃ value, goOn now service poll deadline = (.resting deadline, [.published now value]) ∧
        Paced period timeout (events ++ [.published now value]) now ∧ IsWhole now ∧
          now ≤ begun + timeout := by
  cases ends : (poll.advance now service).result? with
  | none => exact .inl ⟨_, goOn_of_no_result ends deadline, underway.advance ends⟩
  | some value =>
      obtain ⟨whole, inTime⟩ := underway.ends ends
      exact .inr ⟨value, goOn_of_result ends deadline, paced.publish requested inTime value, whole,
        inTime⟩

/-- The deadline after a tick that is taken at a moment. -/
theorem onSchedule_nextDeadline {clock : Clock} {settings : Settings}
    (millis : settings.InMillis clock) (whole : IsWhole now) (wholeDeadline : IsWhole deadline)
    (late : deadline ≤ now) :
    OnSchedule (clock.span settings.period) now
      (clock.within now (nextDeadline settings.period deadline now)) := by
  have wholePeriod := millis.isWhole_period
  have earliest : now + settings.period ≤
      nextDeadline settings.period deadline now + tolerance := by
    unfold nextDeadline
    split <;> omega
  have latest : nextDeadline settings.period deadline now ≤ now + settings.period := by
    unfold nextDeadline
    split <;> omega
  have wholeNext : IsWhole (nextDeadline settings.period deadline now) := by
    unfold nextDeadline
    split
    · exact wholeDeadline.add wholePeriod
    · exact whole.add wholePeriod
  generalize nextDeadline settings.period deadline now = next at earliest latest wholeNext
  constructor
  · exact Clock.isWhole_within millis.isWhole_reach whole wholeNext
  · unfold Clock.span Clock.within
    split <;> omega
  · unfold Clock.span Clock.within
    split <;> omega

/-- What a run of a task at a moment leads to. -/
structure Follows (clock : Clock) (settings : Settings) (events : List Event) (now : Nat)
    (result : Task × List Event) : Prop where
  paced : Paced (clock.span settings.period) (clock.span settings.timeout.nanos)
    (events ++ result.2) now
  stands : Stands (clock.span settings.period) (clock.span settings.timeout.nanos)
    (events ++ result.2) (now + 1) result.1

section Runs

variable {clock : Clock} {settings : Settings}

theorem Follows.tick (millis : settings.InMillis clock)
    (paced : Paced (clock.span settings.period) (clock.span settings.timeout.nanos) events now)
    (before : events = [] ∨ ∃ begun, HasPublished events begun ∧
      IsSpaced (clock.span settings.period) (clock.span settings.timeout.nanos) begun now)
    (whole : IsWhole now) (wholeDeadline : IsWhole deadline) (late : deadline ≤ now)
    (service : Service) :
    Follows clock settings events now (tick clock settings now service deadline) := by
  have begins := paced.begin whole before
  have requested := Paced.hasRequested events now
  have underway := Poll.isUnderway_start whole
    (Clock.isWhole_span millis.isWhole_reach millis.timeout) service
  have schedule := onSchedule_nextDeadline millis whole wholeDeadline late
  simp only [Task.tick]
  generalize clock.within now (nextDeadline settings.period deadline now) = next at schedule
  rcases goOn_cases begins requested underway service next with
    ⟨poll, goes, underway⟩ | ⟨value, goes, published, -, -⟩
  · rw [goes]
    constructor
    · exact begins
    · exact .polling requested schedule underway
  · rw [goes]
    rw [List.append_assoc] at published
    constructor
    · exact published
    · have ended := Paced.hasPublished requested now value
      rw [List.append_assoc] at ended
      apply Stands.resting ended schedule
      -- The tick is not due at the moment at which the poll before it began.
      have lt := millis.tolerance_lt
      have earliest := schedule.earliest
      omega

theorem Follows.rest (millis : settings.InMillis clock)
    (paced : Paced (clock.span settings.period) (clock.span settings.timeout.nanos) events now)
    (published : HasPublished events begun)
    (schedule : OnSchedule (clock.span settings.period) begun deadline)
    (early : now ≤ begun +
      max (clock.span settings.period) (clock.span settings.timeout.nanos))
    (whole : deadline ≤ now → IsWhole now) (service : Service) :
    Follows clock settings events now (rest clock settings now service deadline) := by
  unfold Task.rest
  rw [schedule.whole.roundUp_eq]
  split
  · next late =>
      have spaced : IsSpaced (clock.span settings.period) (clock.span settings.timeout.nanos)
          begun now := by
        have earliest := schedule.earliest
        exact ⟨by omega, early⟩
      exact .tick millis paced (.inr ⟨begun, published, spaced⟩) (whole late) schedule.whole late
        service
  · next waits =>
      constructor
      · rw [List.append_nil]
        exact paced
      · rw [List.append_nil]
        exact .resting published schedule (Nat.not_le.mp waits)

/-- Polls keep following one another in a run of the task. -/
theorem Follows.run {task : Task} (millis : settings.InMillis clock)
    (paced : Paced (clock.span settings.period) (clock.span settings.timeout.nanos) events now)
    (stands : Stands (clock.span settings.period) (clock.span settings.timeout.nanos) events now
      task)
    (whole : task = .created → IsWhole now) (cancelled : Bool) (service : Service) :
    Follows clock settings events now (task.run clock settings cancelled now service) := by
  have ended : Follows clock settings events now (.finished, []) := by
    constructor
    · rw [List.append_nil]
      exact paced
    · exact .finished
  cases cancelled with
  | true =>
      rw [run_of_cancelled]
      exact ended
  | false =>
      cases stands with
      | finished => exact ended
      | created none =>
          rw [run_created]
          exact .tick millis paced (.inl none) (whole rfl) (whole rfl) (Nat.le_refl now) service
      | @resting begun deadline published schedule early =>
          rw [run_resting]
          apply Follows.rest millis paced published schedule
          · have latest := schedule.latest
            omega
          · intro late
            rw [Nat.le_antisymm early late]
            exact schedule.whole
      | @polling poll begun deadline requested schedule underway =>
          rw [run_polling]
          rcases goOn_cases paced requested underway service deadline with
            ⟨poll', goes, underway⟩ | ⟨value, goes, paced, whole, inTime⟩
          · rw [goes, follow_polling]
            constructor
            · rw [List.append_nil]
              exact paced
            · rw [List.append_nil]
              exact .polling requested schedule underway
          · -- The next tick may be taken in the run in which the poll is published.
            have early : now ≤ begun +
                max (clock.span settings.period) (clock.span settings.timeout.nanos) := by
              omega
            have follows := Follows.rest millis paced (Paced.hasPublished requested now value)
              schedule early (fun _ => whole) service
            rw [goes]
            constructor
            · rw [snd_follow_resting, ← List.append_assoc]
              exact follows.paced
            · rw [snd_follow_resting, fst_follow_resting, ← List.append_assoc]
              exact follows.stands

end Runs

theorem Stands.mono {task : Task} {later sooner : Nat}
    (stands : Stands period timeout events later task) (le : sooner ≤ later) :
    Stands period timeout events sooner task := by
  cases stands with
  | created none => exact .created none
  | resting published schedule early =>
      exact .resting published schedule (Nat.le_trans le early)
  | polling requested schedule underway =>
      exact .polling requested schedule (underway.mono le)
  | finished => exact .finished

/-- A task that goes on at a moment at the latest has nothing to do before. -/
theorem Stands.le_wake {task : Task} {later moment : Nat} (started : task ≠ .created)
    (stands : Stands period timeout events later task) (wakes : task.wake? = some moment) :
    later ≤ moment := by
  cases stands with
  | created => exact (started rfl).elim
  | resting _ schedule early =>
      cases wakes
      rw [schedule.whole.roundUp_eq]
      exact early
  | polling _ _ underway =>
      cases wakes
      exact underway.early
  | finished => cases wakes

/-- A poll is under way no longer than its time. -/
theorem Stands.le_of_polling {poll : Poll}
    (stands : Stands period timeout events now (.polling poll deadline)) :
    ∃ begun, (starts events).getLast? = some begun ∧ now ≤ begun + timeout := by
  cases stands with
  | polling requested _ underway =>
      refine ⟨_, requested.2, ?_⟩
      rw [← underway.limit]
      exact Nat.le_trans underway.early poll.wake_le_deadline

/-- The next poll begins before a period and the time for a request have passed. -/
theorem Stands.le_of_unfinished {task : Task} (stands : Stands period timeout events now task)
    (unfinished : task.isFinished = false) :
    ∀ begun ∈ (starts events).getLast?, now ≤ begun + max period timeout := by
  intro last isLast
  cases stands with
  | created none =>
      rw [none] at isLast
      cases isLast
  | resting published schedule early =>
      obtain rfl := Option.some.inj (published.2.symm.trans isLast)
      have latest := schedule.latest
      omega
  | polling requested schedule underway =>
      obtain rfl := Option.some.inj (requested.2.symm.trans isLast)
      have early := Nat.le_trans underway.early (Poll.wake_le_deadline _)
      rw [underway.limit] at early
      omega
  | finished => cases unfinished

/-- Time may pass up to the moment at which the task has something to do. -/
theorem Stands.pass {task : Task} {later : Nat} (stands : Stands period timeout events now task)
    (early : ∀ moment, task.wake? = some moment → later ≤ max now moment) :
    Stands period timeout events later task := by
  cases stands with
  | created none => exact .created none
  | resting published schedule le =>
      apply Stands.resting published schedule
      have early := early _ rfl
      rw [schedule.whole.roundUp_eq] at early
      omega
  | polling requested schedule underway =>
      apply Stands.polling requested schedule
      have early := early _ rfl
      have le := underway.early
      exact { underway with early := by omega }
  | finished => exact .finished

theorem snd_tick (clock : Clock) (settings : Settings) (now : Nat) (service : Service)
    (deadline : Nat) :
    (tick clock settings now service deadline).2 = Poll.requests now ++
      (goOn now service (Poll.start clock settings.timeout now service)
        (clock.within now (nextDeadline settings.period deadline now))).2 := by
  simp only [tick]

/-- When a period and the time for a request have passed since a poll began, the next one
begins. -/
theorem Stands.requests {task : Task} (stands : Stands period timeout events now task)
    (unfinished : task.isFinished = false)
    (late : ∀ begun ∈ (starts events).getLast?, begun + max period timeout ≤ now)
    (clock : Clock) (settings : Settings) (service : Service) (part : Part) :
    .requested now part ∈ (task.run clock settings false now service).2 := by
  have ticks (deadline : Nat) :
      .requested now part ∈ (tick clock settings now service deadline).2 := by
    rw [snd_tick]
    exact List.mem_append_left _ (Poll.mem_requests now part)
  have rests {begun deadline : Nat} (last : (starts events).getLast? = some begun)
      (schedule : OnSchedule period begun deadline) :
      .requested now part ∈ (rest clock settings now service deadline).2 := by
    have late := late begun last
    have latest := schedule.latest
    have isDue : deadline ≤ now := by omega
    unfold Task.rest
    rw [schedule.whole.roundUp_eq, if_pos isDue]
    exact ticks deadline
  cases stands with
  | finished => cases unfinished
  | created =>
      rw [run_created]
      exact ticks now
  | resting published schedule =>
      rw [run_resting]
      exact rests published.2 schedule
  | @polling poll begun deadline requested schedule underway =>
      have late := late begun requested.2
      have reached : poll.deadline ≤ now := by
        rw [underway.limit]
        omega
      obtain ⟨value, ends⟩ := Poll.exists_result_of_le reached service
      rw [run_polling, goOn_of_result ends, snd_follow_resting]
      exact List.mem_append_right _ (rests requested.2 schedule)

end Task

/-! ## The life of an observer -/

namespace Observer

variable {κ : Type} {clock : Clock} {visits : List Visit} {o : Observer κ} {now : Nat}

/-- The first poll begins in the first run of the task, unless the observer has been cancelled
before. -/
theorem Life.begins {first : Visit} {rest : List Visit}
    (life : Life clock (first :: rest) o now) :
    (starts (history (first :: rest))).head? = some first.time ∨
      o.cancelled = true ∧ history (first :: rest) = [] := by
  generalize some : first :: rest = visits at life
  induction life generalizing first rest with
  | created => cases some
  | pass _ _ _ ih => exact ih some
  | change _ _ _ cancelled ih =>
      rcases ih some with begins | ⟨isCancelled, none⟩
      · exact .inl begins
      · exact .inr ⟨cancelled isCancelled, none⟩
  | @run earlier o now service life ih =>
      rw [history_concat, starts_append, Observer.run_eq]
      cases earlier with
      | nil =>
          obtain ⟨rfl, rfl⟩ := List.cons_eq_cons.mp some
          cases cancelled : o.cancelled with
          | true =>
              right
              rw [Task.run_of_cancelled]
              exact ⟨rfl, rfl⟩
          | false =>
              left
              rw [life.task_eq_created, Task.run_created, Task.snd_tick]
              rfl
      | cons visit more =>
          obtain ⟨rfl, -⟩ := List.cons_eq_cons.mp some
          rcases ih rfl with begins | ⟨cancelled, none⟩
          · left
            rw [List.head?_append, begins]
            rfl
          · right
            rw [cancelled, Task.run_of_cancelled, none]
            exact ⟨rfl, rfl⟩

/-- At every moment of its life the polls of an observer have followed one another in time, and
its task is on schedule. -/
theorem Life.paced (life : Life clock visits o now) (millis : o.settings.InMillis clock)
    (start : StartsInMillis visits) :
    Paced (clock.span o.settings.period) (clock.span o.settings.timeout.nanos)
        (history visits) now ∧
      o.task.Stands (clock.span o.settings.period) (clock.span o.settings.timeout.nanos)
        (history visits) now := by
  induction life with
  | created task =>
      rw [task]
      exact ⟨.nil _ _ _, .created rfl⟩
  | pass life le early ih =>
      obtain ⟨paced, stands⟩ := ih millis start
      constructor
      · exact paced.mono le
      · exact stands.pass fun moment => life.le_wake le early
  | change _ settings task _ ih =>
      rw [settings] at millis ⊢
      rw [task]
      exact ih millis start
  | @run visits o now service life ih =>
      obtain ⟨paced, stands⟩ := ih millis start.of_append
      have follows := Task.Follows.run millis paced stands (life.isWhole_of_created start)
        o.cancelled service
      rw [history_concat, Observer.run_eq]
      exact ⟨follows.paced, follows.stands.mono (Nat.le_succ now)⟩

/-- After a run, the task has nothing to do at that moment. -/
theorem Life.not_isReady_run (life : Life clock visits o now)
    (millis : o.settings.InMillis clock) {service : Service}
    (start : StartsInMillis (visits ++ [⟨now, service, (o.run clock now service).2⟩])) :
    (o.run clock now service).1.isReady now = false := by
  obtain ⟨paced, stands⟩ := life.paced millis start.of_append
  have follows := Task.Follows.run millis paced stands (life.isWhole_of_created start)
    o.cancelled service
  have later := follows.stands
  have started := Task.run_ne_created clock o.settings now service o.cancelled o.task
  have finished := Task.isFinished_run clock o.settings now service o.cancelled o.task
  rw [Observer.run_eq]
  generalize o.task.run clock o.settings o.cancelled now service = result at *
  unfold isReady wake?
  dsimp only
  split
  · rfl
  · next unfinished =>
      split
      · next cancelled => simp [finished, cancelled] at unfinished
      · cases wakes : result.1.wake? with
        | none => rfl
        | some moment =>
            have le := later.le_wake started wakes
            exact decide_eq_false (Nat.not_le.mpr le)

end Observer

end ClusterWatch.Observation
