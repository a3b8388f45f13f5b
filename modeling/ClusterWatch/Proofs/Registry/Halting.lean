import ClusterWatch.Proofs.Registry.Queue
import ClusterWatch.Proofs.Registry.Shutdown
import ClusterWatch.Proofs.Registry.Timeliness

/-!
# Stopping an observer

A stop sets the cancel flag of an observer and waits for the end of its task.  From the moment
at which the flag is set the task does nothing but end, so what the observer published last
stays; and a call that stops it goes on only once the task has ended, whoever else stops it at
the same time.
-/

namespace ClusterWatch.Observation.Registry

open Elasticsearch (HasConnection)
open Kubernetes (Identity)

variable {κ : Type} [HasConnection κ]

/-! ## Cancelled observers -/

section Step

variable {s t : State κ} {label : Label κ} {id : ObserverId} {o o' : Observer κ}

/-- A step after which an observer is cancelled, be it the one that sets the flag or a later
one, requests and publishes nothing. -/
theorem State.silent_of_step {events : List (ObserverId × Event)}
    (goes : s.step label = some (t, events)) (known : s.observers[id]? = some o)
    (known' : t.observers[id]? = some o') (cancelled : o'.cancelled = true) :
    eventsOf id events = [] ∧ o'.last = o.last := by
  rw [State.eventsOf_step goes]
  rcases (step_of_eq_some goes).observer_cases known' with
    ⟨-, new, -⟩ | ⟨silent, x, found, rests⟩ | ⟨service, x, found, rfl, visits⟩
  · cases known.symm.trans new
  · cases known.symm.trans found
    rw [silent]
    exact ⟨rfl, rests.last⟩
  · cases known.symm.trans found
    have before : o.cancelled = true := cancelled
    rw [visits, Observer.run_of_cancelled before]
    exact ⟨rfl, rfl⟩

/-- Only the lock of an observer that has been joined may change. -/
theorem Step.eq_of_joined (step : Step s label t) (known : s.observers[id]? = some o)
    (joined : o.joined = true) (cancelled : o.cancelled = true)
    (finished : o.task.isFinished = true) (known' : t.observers[id]? = some o') :
    o' = { o with queue := o'.queue } := by
  obtain ⟨o'', known'', continues⟩ := step.evolves id o known
  obtain rfl := Option.some.inj (known'.symm.trans known'')
  have flags := continues.cancelled cancelled
  have flags' := continues.joined joined
  rcases step.observer_cases known' with ⟨-, new, -⟩ | ⟨-, x, found, rests⟩ |
    ⟨service, x, found, rfl, -⟩
  · cases known.symm.trans new
  · cases known.symm.trans found
    obtain ⟨cluster, client, settings, isCancelled, task, last, isJoined, queue⟩ := o'
    obtain ⟨rfl, rfl, rfl, -, -, -⟩ := continues
    obtain ⟨-, rfl, rfl⟩ := rests
    rw [← cancelled] at flags
    rw [← joined] at flags'
    cases flags
    cases flags'
    rfl
  · cases known.symm.trans found
    rw [Observer.run_of_cancelled cancelled, ← Task.isFinished_iff.mp finished]

end Step

/-- After the step that the label says, the observer is cancelled. -/
def State.Cancels (s : State κ) (id : ObserverId) (label : Label κ) : Prop :=
  ∃ t events o, s.step label = some (t, events) ∧ t.observers[id]? = some o ∧
    o.cancelled = true

instance (s : State κ) (id : ObserverId) (label : Label κ) : Decidable (s.Cancels id label) :=
  decidable_of_iff
    ((s.step label).any fun next => next.1.observers[id]?.any Observer.cancelled) <| by
      constructor
      · intro holds
        obtain ⟨⟨t, events⟩, goes, holds⟩ := (Option.any_eq_true ..).mp holds
        obtain ⟨o, known, cancelled⟩ := (Option.any_eq_true ..).mp holds
        exact ⟨t, events, o, goes, known, cancelled⟩
      · rintro ⟨t, events, o, goes, known, cancelled⟩
        simp [goes, known, cancelled]

/-- A task has ended only if its observer has been cancelled. -/
theorem Run.cancelled_of_isFinished {s t : State κ} {labels : List (Label κ)}
    {events : List (ObserverId × Event)} (run : Run s labels t events) (fresh : s.IsFresh)
    {id : ObserverId} {o : Observer κ} (known : t.observers[id]? = some o)
    (finished : o.task.isFinished = true) : o.cancelled = true := by
  revert id o
  refine run.induction (P := fun t => ∀ {id : ObserverId} {o : Observer κ},
    t.observers[id]? = some o → o.task.isFinished = true → o.cancelled = true) ?_ ?_
  · intro id o known
    rw [fresh.observers] at known
    cases known
  · intro u v label _ before step id o known finished
    rcases step.observer_cases known with ⟨-, -, task, -⟩ | ⟨-, x, found, rests⟩ |
      ⟨service, x, found, rfl, -⟩
    · rw [task] at finished
      cases finished
    · rw [rests.task] at finished
      obtain ⟨o', known', continues⟩ := step.evolves id x found
      cases known.symm.trans known'
      exact continues.cancelled (before found finished)
    · rcases Observer.isFinished_run_iff.mp finished with finished | cancelled
      · have cancelled : x.cancelled = true := before found finished
        exact cancelled
      · exact cancelled

/-- A cancelled observer stays as it is but for the end of its task and for its lock. -/
theorem Run.silent_of_cancelled {s t : State κ} {labels : List (Label κ)}
    {events : List (ObserverId × Event)} (run : Run s labels t events) {id : ObserverId}
    {o : Observer κ} (known : s.observers[id]? = some o) (cancelled : o.cancelled = true) :
    eventsOf id events = [] ∧
      ∃ o', t.observers[id]? = some o' ∧ o'.cancelled = true ∧ o'.last = o.last := by
  induction run generalizing o with
  | nil => exact ⟨rfl, o, known, cancelled, rfl⟩
  | cons goes run ih =>
      obtain ⟨o', known', continues⟩ := (step_of_eq_some goes).evolves id o known
      have cancelled' := continues.cancelled cancelled
      obtain ⟨silent, last⟩ := State.silent_of_step goes known known' cancelled'
      obtain ⟨silent', o'', known'', cancelled'', last'⟩ := ih known' cancelled'
      rw [eventsOf_append, silent, silent']
      exact ⟨rfl, o'', known'', cancelled'', last'.trans last⟩

/-- From the step in which an observer is cancelled on it requests and publishes nothing. -/
theorem Run.silent_of_cancels {s t : State κ} {labels : List (Label κ)}
    {events : List (ObserverId × Event)} (run : Run s labels t events) {id : ObserverId}
    {o : Observer κ} (known : s.observers[id]? = some o) {label : Label κ}
    (first : label ∈ labels.head?) (cancels : s.Cancels id label) :
    eventsOf id events = [] ∧
      ∃ o', t.observers[id]? = some o' ∧ o'.cancelled = true ∧ o'.last = o.last := by
  obtain ⟨u, before, x, goes, found, cancelled⟩ := cancels
  cases run with
  | nil => cases first
  | cons goes' run =>
      cases first
      cases goes.symm.trans goes'
      obtain ⟨silent, last⟩ := State.silent_of_step goes known found cancelled
      obtain ⟨silent', o', known', cancelled', last'⟩ := run.silent_of_cancelled found cancelled
      rw [eventsOf_append, silent, silent']
      exact ⟨rfl, o', known', cancelled', last'.trans last⟩

theorem Run.eq_of_joined {s t : State κ} {labels : List (Label κ)}
    {events : List (ObserverId × Event)} (run : Run s labels t events) {id : ObserverId}
    {o : Observer κ} (known : s.observers[id]? = some o) (joined : o.joined = true)
    (cancelled : o.cancelled = true) (finished : o.task.isFinished = true) :
    ∃ queue, t.observers[id]? = some { o with queue } := by
  refine run.induction (P := fun t => ∃ queue, t.observers[id]? = some { o with queue })
    ⟨o.queue, known⟩ ?_
  rintro u v label - ⟨queue, before⟩ step
  obtain ⟨o', known', -⟩ := step.evolves id _ before
  have same := step.eq_of_joined before joined cancelled finished known'
  rw [same] at known'
  exact ⟨o'.queue, known'⟩

/-! ## Calls that stop an observer -/

/-- The observer has been stopped: its task has ended and has been waited for. -/
def State.HasHalted (s : State κ) (id : ObserverId) : Prop :=
  ∃ o, s.observers[id]? = some o ∧ o.task.isFinished = true ∧ o.joined = true

/-- A call that stops an observer goes on with that, or the observer has been stopped. -/
theorem Step.halt_or_hasHalted {s t : State κ} {label : Label κ} (step : Step s label t)
    (coherent : Coherent s) {call : CallId} {stage : Stage} {id : ObserverId}
    {after : Option (Identity × Next κ)} (stands : s.calls[call]? = some (.halt stage id after)) :
    (∃ stage', t.calls[call]? = some (.halt stage' id after)) ∨ t.HasHalted id := by
  rcases step.stands_cases stands with same | ⟨q, r, -, move, rfl, stands'⟩
  · exact .inl ⟨stage, same⟩
  · cases move with
    | cancel | enqueue | acquire => exact .inl ⟨_, stands'⟩
    | pass known _ joined =>
        have finished := coherent.joined _ _ known joined
        exact .inr ⟨_, getElem?_modify_self known Observer.release, finished, rfl⟩
    | join known finished =>
        exact .inr ⟨_, getElem?_modify_self known Observer.release, finished, rfl⟩

theorem Run.halt_or_hasHalted {s t : State κ} {labels : List (Label κ)}
    {events : List (ObserverId × Event)} (run : Run s labels t events) (coherent : Coherent s)
    {call : CallId} {stage : Stage} {id : ObserverId} {after : Option (Identity × Next κ)}
    (stands : s.calls[call]? = some (.halt stage id after)) :
    (∃ stage', t.calls[call]? = some (.halt stage' id after)) ∨ t.HasHalted id := by
  refine (run.induction (P := fun t => Coherent t ∧
    ((∃ stage', t.calls[call]? = some (.halt stage' id after)) ∨ t.HasHalted id))
    ⟨coherent, .inl ⟨stage, stands⟩⟩ ?_).2
  rintro u v label - ⟨coherent, ⟨stage, stands⟩ | ⟨o, known, finished, joined⟩⟩ step
  · exact ⟨coherent.step step, step.halt_or_hasHalted coherent stands⟩
  · obtain ⟨o', known', continues⟩ := step.evolves id o known
    exact ⟨coherent.step step,
      .inr ⟨o', known', continues.finished finished, continues.joined joined⟩⟩

/-- A call that has begun to stop an observer can be driven to the end of the stop from
wherever it has come. -/
theorem Run.canLeave {s t : State κ} {labels : List (Label κ)}
    {events : List (ObserverId × Event)} (run : Run s labels t events) (lined : Lined s)
    {call : CallId} {id : ObserverId} {after : Option (Identity × Next κ)} {o : Observer κ}
    (begins : s.calls[call]? = some (.halt .cancel id after))
    (known : s.observers[id]? = some o) {stage : Stage}
    (stands : t.calls[call]? = some (.halt stage id after)) (environment : Environment κ) :
    t.CanLeave call id after environment := by
  -- Only of a call that is seen from its start is it known what it has done to the observer.
  have first (stage : Stage) (stands : s.calls[call]? = some (.halt stage id after)) :
      s.Halts call stage id after o := by
    cases begins.symm.trans stands
    exact ⟨begins, known, fun past => absurd rfl past, nofun⟩
  obtain ⟨lined, o', -, halts⟩ := run.induction (P := fun t => Lined t ∧
    ∃ o, t.observers[id]? = some o ∧ ∀ stage, t.calls[call]? = some (.halt stage id after) →
      t.Halts call stage id after o) ⟨lined, o, known, first⟩
    fun u v label _ ⟨lined, o, known, halts⟩ step =>
      ⟨lined.step step, State.Halts.step lined known halts step⟩
  exact (halts stage stands).canLeave lined environment

/-- In every run on a fresh registry, with any calls that stop an observer and any signals to
it, one after another or overlapping, and whatever its task is at:

* a call that stops an observer gets past the stop only once the task has ended and has been
  waited for,
* it can be driven there from wherever it stands, by steps of calls and runs of the task,
* from the step in which the observer is cancelled on it requests nothing and publishes nothing,
  and what it published last stays; once it has been stopped nothing changes but who has its
  lock,
* a run of its task, whatever poll is under way and would be over now, only ends the task. -/
theorem halt_of_run {s u t : State κ} {past later : List (Label κ)}
    {events₁ events₂ : List (ObserverId × Event)} (fresh : s.IsFresh)
    (run : Run s past u events₁) (onward : Run u later t events₂) :
    (∀ (call : CallId) (stage : Stage) (id : ObserverId) (after : Option (Identity × Next κ)),
      u.calls[call]? = some (.halt stage id after) →
        (∃ stage', t.calls[call]? = some (.halt stage' id after)) ∨
          ∃ o, t.observers[id]? = some o ∧ o.cancelled = true ∧ o.task.isFinished = true ∧
            o.joined = true) ∧
    (∀ (call : CallId) (id : ObserverId) (after : Option (Identity × Next κ)) (o : Observer κ),
      u.calls[call]? = some (.halt .cancel id after) → u.observers[id]? = some o →
        ∀ stage, t.calls[call]? = some (.halt stage id after) →
          ∀ environment, t.CanLeave call id after environment) ∧
    (∀ (id : ObserverId) (o : Observer κ), u.observers[id]? = some o →
      (o.cancelled = true ∨ ∃ label ∈ later.head?, u.Cancels id label) →
        eventsOf id events₂ = [] ∧
          ∃ o', t.observers[id]? = some o' ∧ o'.cancelled = true ∧ o'.last = o.last ∧
            (o.joined = true → o' = { o with queue := o'.queue })) ∧
    ∀ (id : ObserverId) (o : Observer κ), u.observers[id]? = some o → o.cancelled = true →
      ∀ service, o.run u.clock u.now service = ({ o with task := .finished }, []) := by
  have coherent := run.coherent fresh.coherent
  refine ⟨?_, ?_, ?_, ?_⟩
  · intro call stage id after stands
    rcases onward.halt_or_hasHalted coherent stands with halting | ⟨o, known, finished, joined⟩
    · exact .inl halting
    · have cancelled := (run.append onward).cancelled_of_isFinished fresh known finished
      exact .inr ⟨o, known, cancelled, finished, joined⟩
  · intro call id after o begins known stage stands environment
    exact onward.canLeave (run.lined fresh.lined) begins known stands environment
  · intro id o known stopped
    have ended : eventsOf id events₂ = [] ∧
        ∃ o', t.observers[id]? = some o' ∧ o'.cancelled = true ∧ o'.last = o.last := by
      rcases stopped with cancelled | ⟨label, first, cancels⟩
      · exact onward.silent_of_cancelled known cancelled
      · exact onward.silent_of_cancels known first cancels
    obtain ⟨silent, o', known', cancelled, last⟩ := ended
    refine ⟨silent, o', known', cancelled, last, ?_⟩
    intro joined
    have finished := coherent.joined id o known joined
    have cancelled := run.cancelled_of_isFinished fresh known finished
    obtain ⟨queue, known''⟩ := onward.eq_of_joined known joined cancelled finished
    cases known'.symm.trans known''
    rfl
  · intro id o known cancelled service
    exact Observer.run_of_cancelled cancelled u.clock u.now service

/-- Two calls stop an observer while it is signalled, in the middle of a poll that would be over
in the very run in which its task ends. -/
theorem halt_of_run_overlapping :
    let client : Elasticsearch.InMemory.Client := ⟨0, "https://a:9200", none, []⟩
    let settings : Settings := ⟨.ofMillis 150, .ofMillis 200⟩
    let health := Elasticsearch.InMemory.healthOf .green
    let slow : Service := ⟨some (Duration.ofMillis 10).nanos, some 0, some health, none⟩
    let past : List (Label Elasticsearch.InMemory.Client) :=
      [.spawn ⟨"default", "a"⟩ client settings, .task 0 fun _ => slow, .begin (.halt 0),
        .begin (.halt 0), .advance (Duration.ofMillis 10).nanos]
    let later : List (Label Elasticsearch.InMemory.Client) :=
      [.call 0, .signal 0, .call 1, .call 1, .call 0, .task 0 fun _ => slow, .call 1, .call 1,
        .call 0]
    ∃ u t events₁ events₂, Run (.empty .default) past u events₁ ∧ Run u later t events₂ ∧
      u.observers[0]?.any (fun o =>
        Observer.latest o.last (o.run u.clock u.now slow).2 = ⟨some health, none⟩) ∧
      eventsOf 0 events₂ = [] ∧
      ∃ o, t.observers[0]? = some o ∧ o.last = .unknown ∧ o.task.isFinished = true ∧
        o.joined = true := by
  intro client settings health slow past later
  have begun : ((State.empty .default).follow? past).map (fun begun => begun.1.calls) =
      some [.halt .cancel 0 none, .halt .cancel 0 none] :=
    rfl
  have follows : ((State.empty .default).follow? past).any (fun begun =>
      (begun.1.observers[0]?.any fun o => o.last = .unknown ∧
        Observer.latest o.last (o.run begun.1.clock begun.1.now slow).2 = ⟨some health, none⟩) ∧
      begun.1.Cancels 0 (.call 0) ∧
      (begun.1.follow? later).any fun ended =>
        ended.1.calls[0]?.any fun p => p.remaining = 0) = true := by
    decide +kernel
  obtain ⟨⟨u, events₁⟩, goes, stood⟩ := Option.map_eq_some_iff.mp begun
  rw [goes] at follows
  obtain ⟨due, cancels, follows⟩ := of_decide_eq_true follows
  obtain ⟨o, known, due⟩ := (Option.any_eq_true ..).mp due
  obtain ⟨unknown, due⟩ := of_decide_eq_true due
  obtain ⟨⟨t, events₂⟩, goes', follows⟩ := (Option.any_eq_true ..).mp follows
  obtain ⟨p, stands, remains⟩ := (Option.any_eq_true ..).mp follows
  obtain ⟨outcome, rfl⟩ := exists_finished_of_remaining (of_decide_eq_true remains)
  have run : Run (.empty .default) past u events₁ := run_iff_follow?_eq_some.mpr goes
  have onward : Run u later t events₂ := run_iff_follow?_eq_some.mpr goes'
  have stops : u.calls[0]? = some (.halt .cancel 0 none) := by
    rw [stood]
    rfl
  obtain ⟨leaves, -, stays, -⟩ := halt_of_run (State.isFresh_empty .default) run onward
  obtain ⟨silent, o', known', -, last, -⟩ := stays 0 o known (.inr ⟨_, rfl, cancels⟩)
  rcases leaves 0 .cancel 0 none stops with ⟨stage, halting⟩ | ⟨o'', known'', -, finished, joined⟩
  · cases stands.symm.trans halting
  · cases known'.symm.trans known''
    refine ⟨u, t, events₁, events₂, run, onward, ?_, silent, o', known', last.trans unknown,
      finished, joined⟩
    rw [known]
    exact decide_eq_true due

end ClusterWatch.Observation.Registry
