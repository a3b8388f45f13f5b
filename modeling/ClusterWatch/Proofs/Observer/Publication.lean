import ClusterWatch.Observation.Observer

/-!
# Where a published observation comes from

The task of an observer gets on in runs.  A poll begins in one of them and goes on in those
that follow, until it is published or dropped.  So what an observer has published last is
the result of a single poll, and each part of it is an answer that the client gave in a run
between the request of that poll and its publication.
-/

namespace ClusterWatch.Observation

/-- A run of the task of an observer: when it was, how the client served then, and what
happened in it. -/
structure Visit where
  time : Nat
  service : Service
  events : List Event

/-- The event is that an observation is published. -/
def Event.IsPublication : Event → Prop
  | .requested _ _ => False
  | .published _ _ => True

/-- Nothing is published in a run. -/
def Visit.IsSilent (visit : Visit) : Prop :=
  ∀ event ∈ visit.events, ¬event.IsPublication

theorem Poll.not_isPublication_of_mem_requests {time : Nat} {event : Event}
    (mem : event ∈ requests time) : ¬event.IsPublication := by
  cases event with
  | requested => exact id
  | published => simp [requests] at mem

theorem Poll.mem_requests (now : Nat) (part : Part) : .requested now part ∈ requests now := by
  cases part <;> simp [requests]

theorem Poll.getLast?_append_requests (events : List Event) (now : Nat) :
    (events ++ requests now).getLast? = some (.requested now .license) := by
  rw [List.getLast?_append]
  rfl

/-- What a run of its task makes of an observer. -/
theorem Observer.run_eq {κ : Type} (clock : Clock) (now : Nat) (service : Service)
    (o : Observer κ) :
    o.run clock now service =
      ({ o with
          task := (o.task.run clock o.settings o.cancelled now service).1
          last := latest o.last (o.task.run clock o.settings o.cancelled now service).2 },
        (o.task.run clock o.settings o.cancelled now service).2) := by
  rfl

theorem Observer.latest_append (last : Observation) (events more : List Event) :
    latest last (events ++ more) = latest (latest last events) more := by
  induction events generalizing last with
  | nil => rfl
  | cons event events ih =>
      cases event with
      | requested time part => exact ih last
      | published time value => exact ih value

@[simp]
theorem Observer.latest_requests (last : Observation) (now : Nat) :
    latest last (Poll.requests now) = last :=
  rfl

/-! ## Requests and polls in the course of runs -/

namespace Pending

variable {α : Type}

/-- The request once it has gone on in runs. -/
def after (answer : Service → Option α) (deadline : Nat) (request : Pending α)
    (visits : List Visit) : Pending α :=
  visits.foldl (fun request visit => request.advance visit.time deadline (answer visit.service))
    request

theorem settled_or_answered_of_advance {now deadline : Nat} {answer : Option α}
    {request : Pending α} {a : α}
    (settles : request.advance now deadline answer = .settled (some a)) :
    request = .settled (some a) ∨ answer = some a := by
  cases request with
  | settled result => exact .inl settles
  | awaited due =>
      simp only [advance] at settles
      split at settles
      · injection settles with answered
        exact .inr answered
      · split at settles <;> simp at settles

/-- An answer that a request has got in the end was there from the start, or was given in
one of the runs. -/
theorem settled_or_answered_of_after {answer : Service → Option α} {deadline : Nat}
    {request : Pending α} {visits : List Visit} {a : α}
    (settles : request.after answer deadline visits = .settled (some a)) :
    request = .settled (some a) ∨ ∃ visit ∈ visits, answer visit.service = some a := by
  induction visits generalizing request with
  | nil => exact .inl settles
  | cons visit visits ih =>
      rcases ih settles with advanced | ⟨later, mem, answered⟩
      · rcases settled_or_answered_of_advance advanced with settled | answered
        · exact .inl settled
        · exact .inr ⟨visit, List.mem_cons_self, answered⟩
      · exact .inr ⟨later, List.mem_cons_of_mem visit mem, answered⟩

end Pending

namespace Poll

/-- The poll once it has gone on in runs. -/
def after (poll : Poll) (visits : List Visit) : Poll :=
  visits.foldl (fun poll visit => poll.advance visit.time visit.service) poll

theorem health_after (poll : Poll) (visits : List Visit) :
    (poll.after visits).health = poll.health.after Service.health poll.deadline visits := by
  induction visits generalizing poll with
  | nil => rfl
  | cons visit visits ih => exact ih (poll.advance visit.time visit.service)

theorem license_after (poll : Poll) (visits : List Visit) :
    (poll.after visits).license = poll.license.after Service.license poll.deadline visits := by
  induction visits generalizing poll with
  | nil => rfl
  | cons visit visits ih => exact ih (poll.advance visit.time visit.service)

/-- The poll that begins in the first of some runs, once it has gone on in all of them. -/
def through? (clock : Clock) (timeout : Duration) : List Visit → Option Poll
  | [] => none
  | first :: more => some ((start clock timeout first.time first.service).after (first :: more))

theorem through?_concat {clock : Clock} {timeout : Duration} {visits : List Visit} {poll : Poll}
    (goes : through? clock timeout visits = some poll) (visit : Visit) :
    through? clock timeout (visits ++ [visit]) =
      some (poll.advance visit.time visit.service) := by
  cases visits with
  | nil => cases goes
  | cons first more =>
      cases goes
      simp [through?, after]

theorem result?_eq_some_iff {poll : Poll} {value : Observation} :
    poll.result? = some value ↔
      poll.health = .settled value.health ∧ poll.license = .settled value.license := by
  unfold result?
  split
  · next settled settled' =>
      rw [settled, settled']
      constructor
      · intro same
        cases same
        exact ⟨rfl, rfl⟩
      · rintro ⟨same, same'⟩
        cases same
        cases same'
        rfl
  · next unsettled =>
      constructor
      · intro same
        cases same
      · rintro ⟨settled, settled'⟩
        exact (unsettled _ _ settled settled').elim

end Poll

/-! ## The poll that was published last -/

/-- A poll begins in the first of some runs, and is published in the last of them, with the
observation as its result. -/
inductive IsPoll (clock : Clock) (timeout : Duration) (value : Observation) :
    List Visit → Prop where
  | atOnce {visit : Visit} {earlier : List Event} :
      (Poll.through? clock timeout [visit]).bind Poll.result? = some value →
        visit.events = earlier ++ Poll.requests visit.time ++ [.published visit.time value] →
        IsPoll clock timeout value [visit]
  | inTime {first last : Visit} {between : List Visit} {earlier later : List Event} :
      (Poll.through? clock timeout (first :: between ++ [last])).bind Poll.result? = some value →
        first.events = earlier ++ Poll.requests first.time →
        (∀ visit ∈ between, visit.events = []) →
        last.events = .published last.time value :: later →
        (∀ event ∈ later, ¬event.IsPublication) →
        IsPoll clock timeout value (first :: between ++ [last])

/-- The observation is what was published last in some runs: the result of a poll, or the
unknown observation if there has not been any. -/
inductive Published (clock : Clock) (timeout : Duration) : List Visit → Observation → Prop where
  | never {visits : List Visit} :
      (∀ visit ∈ visits, visit.IsSilent) → Published clock timeout visits .unknown
  | polled {before during after : List Visit} {value : Observation} :
      IsPoll clock timeout value during → (∀ visit ∈ after, visit.IsSilent) →
        Published clock timeout (before ++ during ++ after) value

/-- The poll is under way: it began in one of the runs and has gone on in all since. -/
def Poll.IsGoing (clock : Clock) (timeout : Duration) (visits : List Visit) (poll : Poll) : Prop :=
  ∃ before first between earlier, visits = before ++ first :: between ∧
    through? clock timeout (first :: between) = some poll ∧
    first.events = earlier ++ requests first.time ∧
    ∀ visit ∈ between, visit.events = []

section Runs

variable {clock : Clock} {timeout : Duration} {visits during : List Visit}
  {value last : Observation}

theorem IsPoll.exists_result (isPoll : IsPoll clock timeout value during) :
    ∃ first more, during = first :: more ∧
      ((Poll.start clock timeout first.time first.service).after during).result? = some value := by
  cases isPoll with
  | @atOnce visit earlier result events => exact ⟨visit, [], rfl, result⟩
  | @inTime first last between earlier later result => exact ⟨first, between ++ [last], rfl, result⟩

/-- The health in the result of a poll was given in one of its runs. -/
theorem IsPoll.exists_health (isPoll : IsPoll clock timeout value during) {health : Health}
    (known : value.health = some health) :
    ∃ visit ∈ during, visit.service.health = some health := by
  obtain ⟨first, more, rfl, result⟩ := isPoll.exists_result
  have settled := (Poll.result?_eq_some_iff.mp result).1
  rw [Poll.health_after, known] at settled
  rcases Pending.settled_or_answered_of_after settled with atStart | answered
  · cases atStart
  · exact answered

/-- The license in the result of a poll was given in one of its runs. -/
theorem IsPoll.exists_license (isPoll : IsPoll clock timeout value during) {license : License}
    (known : value.license = some license) :
    ∃ visit ∈ during, visit.service.license = some license := by
  obtain ⟨first, more, rfl, result⟩ := isPoll.exists_result
  have settled := (Poll.result?_eq_some_iff.mp result).2
  rw [Poll.license_after, known] at settled
  rcases Pending.settled_or_answered_of_after settled with atStart | answered
  · cases atStart
  · exact answered

theorem Published.unknown_or_exists_poll (published : Published clock timeout visits value) :
    (value = .unknown ∧ ∀ visit ∈ visits, visit.IsSilent) ∨
      ∃ earlier during later, visits = earlier ++ during ++ later ∧
        IsPoll clock timeout value during ∧ ∀ visit ∈ later, visit.IsSilent := by
  cases published with
  | never silent => exact .inl ⟨rfl, silent⟩
  | polled isPoll silent => exact .inr ⟨_, _, _, rfl, isPoll, silent⟩

/-- A run in which nothing is published leaves the last publication as it is. -/
theorem Published.concat (published : Published clock timeout visits last) {visit : Visit}
    (silent : visit.IsSilent) : Published clock timeout (visits ++ [visit]) last := by
  cases published with
  | never silent' =>
      apply Published.never
      intro other mem
      rcases List.mem_append.mp mem with mem | mem
      · exact silent' other mem
      · exact List.mem_singleton.mp mem ▸ silent
  | @polled before during after value isPoll silent' =>
      rw [List.append_assoc]
      apply Published.polled isPoll
      intro other mem
      rcases List.mem_append.mp mem with mem | mem
      · exact silent' other mem
      · exact List.mem_singleton.mp mem ▸ silent

/-- The poll that is under way goes on in another run, without an end. -/
theorem Poll.IsGoing.concat {poll : Poll} (going : poll.IsGoing clock timeout visits)
    (visit : Visit) (events : visit.events = []) :
    (poll.advance visit.time visit.service).IsGoing clock timeout (visits ++ [visit]) := by
  obtain ⟨before, first, between, earlier, rfl, through, asked, idle⟩ := going
  refine ⟨before, first, between ++ [visit], earlier, by simp, ?_, asked, ?_⟩
  · exact Poll.through?_concat through visit
  · intro other mem
    rcases List.mem_append.mp mem with mem | mem
    · exact idle other mem
    · exact List.mem_singleton.mp mem ▸ events

/-- The poll that is under way is published in another run. -/
theorem Poll.IsGoing.published {poll : Poll} (going : poll.IsGoing clock timeout visits)
    {visit : Visit} (ends : (poll.advance visit.time visit.service).result? = some value)
    {later : List Event} (events : visit.events = .published visit.time value :: later)
    (silent : ∀ event ∈ later, ¬event.IsPublication) :
    Published clock timeout (visits ++ [visit]) value := by
  obtain ⟨before, first, between, earlier, rfl, through, asked, idle⟩ := going
  have result :
      (Poll.through? clock timeout (first :: between ++ [visit])).bind Poll.result? =
        some value := by
    rw [Poll.through?_concat through visit]
    exact ends
  have published := @Published.polled clock timeout before _ [] value
    (.inTime result asked idle events silent) (by simp)
  simpa using published

end Runs

/-! ## Runs of a task -/

/-- What a task stands at, and what has been published last, come from the runs of the
task. -/
structure Task.Traced (clock : Clock) (timeout : Duration) (visits : List Visit) (task : Task)
    (last : Observation) : Prop where
  published : Published clock timeout visits last
  going : ∀ poll deadline, task = .polling poll deadline → poll.IsGoing clock timeout visits

namespace Task

variable {clock : Clock} {settings : Settings} {visits : List Visit} {last : Observation}
  {service : Service} {now : Nat}

theorem goOn_of_result {poll : Poll} {value : Observation}
    (ends : (poll.advance now service).result? = some value) (deadline : Nat) :
    goOn now service poll deadline = (.resting deadline, [.published now value]) := by
  simp [goOn, ends]

theorem goOn_of_no_result {poll : Poll} (ends : (poll.advance now service).result? = none)
    (deadline : Nat) :
    goOn now service poll deadline = (.polling (poll.advance now service) deadline, []) := by
  simp [goOn, ends]

theorem Traced.of_tick (earlier : List Event) (deadline : Nat)
    (kept : Published clock settings.timeout
      (visits ++ [⟨now, service, earlier ++ Poll.requests now⟩]) last) :
    Traced clock settings.timeout
      (visits ++ [⟨now, service, earlier ++ (tick clock settings now service deadline).2⟩])
      (tick clock settings now service deadline).1
      (Observer.latest last (tick clock settings now service deadline).2) := by
  have through (events : List Event) :
      Poll.through? clock settings.timeout [⟨now, service, events⟩] =
        some ((Poll.start clock settings.timeout now service).advance now service) := rfl
  cases ends : ((Poll.start clock settings.timeout now service).advance now service).result? with
  | some value =>
      rw [tick, goOn_of_result ends]
      constructor
      · have isPoll : IsPoll clock settings.timeout value
            [⟨now, service, earlier ++ Poll.requests now ++ [.published now value]⟩] :=
          .atOnce (by rw [through]; exact ends) rfl
        have published :=
          @Published.polled clock settings.timeout visits _ [] value isPoll (by simp)
        simpa [Observer.latest_append, Observer.latest] using published
      · intro poll deadline polls
        cases polls
  | none =>
      rw [tick, goOn_of_no_result ends]
      constructor
      · exact kept
      · intro poll deadline polls
        cases polls
        exact ⟨visits, _, [], earlier, rfl, through _, rfl, by simp⟩

theorem Traced.of_rest (earlier : List Event) (deadline : Nat)
    (kept : ∀ later : List Event, (∀ event ∈ later, ¬event.IsPublication) →
      Published clock settings.timeout (visits ++ [⟨now, service, earlier ++ later⟩]) last) :
    Traced clock settings.timeout
      (visits ++ [⟨now, service, earlier ++ (rest clock settings now service deadline).2⟩])
      (rest clock settings now service deadline).1
      (Observer.latest last (rest clock settings now service deadline).2) := by
  unfold rest
  split
  · exact .of_tick earlier deadline (kept _ fun _ => Poll.not_isPublication_of_mem_requests)
  · constructor
    · exact kept [] (by simp)
    · intro poll deadline polls
      cases polls

/-- What comes of going on with a poll: once it is over, the next tick is taken if it is
time. -/
def follow (onward : Nat → Task × List Event) : Task × List Event → Task × List Event
  | (.resting deadline, events) =>
      let (task, more) := onward deadline
      (task, events ++ more)
  | result => result

theorem fst_follow_resting (onward : Nat → Task × List Event) (deadline : Nat)
    (events : List Event) :
    (follow onward (.resting deadline, events)).1 = (onward deadline).1 := by
  rfl

theorem snd_follow_resting (onward : Nat → Task × List Event) (deadline : Nat)
    (events : List Event) :
    (follow onward (.resting deadline, events)).2 = events ++ (onward deadline).2 := by
  rfl

theorem follow_polling (onward : Nat → Task × List Event) (poll : Poll) (deadline : Nat)
    (events : List Event) :
    follow onward (.polling poll deadline, events) = (.polling poll deadline, events) := by
  rfl

section Cases

variable (clock settings now service)

theorem run_finished (cancelled : Bool) :
    Task.run clock settings cancelled now service .finished = (.finished, []) :=
  rfl

theorem run_of_cancelled (task : Task) :
    task.run clock settings true now service = (.finished, []) := by
  cases task <;> simp [Task.run]

theorem run_created :
    Task.run clock settings false now service .created = tick clock settings now service now := by
  simp [Task.run]

theorem run_resting (deadline : Nat) :
    Task.run clock settings false now service (.resting deadline) =
      rest clock settings now service deadline := by
  simp [Task.run]

theorem run_polling (poll : Poll) (deadline : Nat) :
    Task.run clock settings false now service (.polling poll deadline) =
      follow (rest clock settings now service) (goOn now service poll deadline) := by
  unfold Task.run
  rfl

end Cases

/-- A run of a task takes over from the runs before it: a poll that is published in it is
the one that was under way, or one that begins in it. -/
theorem Traced.run {task : Task} (traced : Traced clock settings.timeout visits task last)
    (cancelled : Bool) :
    Traced clock settings.timeout
      (visits ++ [⟨now, service, (task.run clock settings cancelled now service).2⟩])
      (task.run clock settings cancelled now service).1
      (Observer.latest last (task.run clock settings cancelled now service).2) := by
  have kept (later : List Event) (silent : ∀ event ∈ later, ¬event.IsPublication) :
      Published clock settings.timeout (visits ++ [⟨now, service, later⟩]) last :=
    traced.published.concat silent
  have ended : Traced clock settings.timeout (visits ++ [⟨now, service, []⟩]) .finished last :=
    ⟨kept [] (by simp), nofun⟩
  cases cancelled with
  | true =>
      rw [run_of_cancelled]
      exact ended
  | false =>
      cases task with
      | finished => exact ended
      | created =>
          rw [run_created]
          have traced' := Traced.of_tick [] now
            (kept (Poll.requests now) fun _ => Poll.not_isPublication_of_mem_requests)
          rw [List.nil_append] at traced'
          exact traced'
      | resting deadline =>
          rw [run_resting]
          have traced' := Traced.of_rest [] deadline kept
          rw [List.nil_append] at traced'
          exact traced'
      | polling poll deadline =>
          have going := traced.going poll deadline rfl
          cases ends : (poll.advance now service).result? with
          | none =>
              rw [run_polling, goOn_of_no_result ends, follow_polling]
              constructor
              · exact kept [] (by simp)
              · intro poll' deadline' polls
                cases polls
                exact going.concat ⟨now, service, []⟩ rfl
          | some value =>
              -- The next tick may be taken in the run in which the poll is published.
              have latest : Observer.latest last [.published now value] = value := rfl
              rw [run_polling, goOn_of_result ends, fst_follow_resting, snd_follow_resting,
                Observer.latest_append, latest]
              exact Traced.of_rest [.published now value] deadline
                fun later silent => going.published ends rfl silent

end Task

end ClusterWatch.Observation
