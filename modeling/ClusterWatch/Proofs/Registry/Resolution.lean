import ClusterWatch.Elasticsearch.InMemory
import ClusterWatch.Proofs.Observer.Publication
import ClusterWatch.Proofs.Registry.Purpose

/-!
# Where a resolved observation comes from

A call that resolves a cluster reads what one observer has published last.  That observer is
one of the cluster, with a client that is interchangeable with the given one, and what it
has published comes from a single poll of its own.
-/

namespace ClusterWatch.Observation.Registry

open Elasticsearch (HasConnection Interchangeable)
open Kubernetes (Identity)

variable {κ : Type}

/-! ## The runs of the task of an observer -/

/-- The run of the task of an observer that a label says. -/
def State.visit? (s : State κ) (id : ObserverId) : Label κ → Option Visit
  | .task other environment =>
      if other = id then
        s.observers[id]?.map fun o =>
          ⟨s.now, environment o.client, (o.run s.clock s.now (environment o.client)).2⟩
      else none
  | _ => none

/-- A run of the task of an observer is one with its client. -/
theorem State.visit?_eq_some_iff {s : State κ} {id : ObserverId} {label : Label κ}
    {visit : Visit} :
    s.visit? id label = some visit ↔
      ∃ environment o, label = .task id environment ∧ s.observers[id]? = some o ∧
        visit = ⟨s.now, environment o.client, (o.run s.clock s.now (environment o.client)).2⟩ := by
  constructor
  · intro visits
    cases label with
    | task other environment =>
        simp only [State.visit?] at visits
        split at visits
        · next same =>
            obtain ⟨o, known, rfl⟩ := Option.map_eq_some_iff.mp visits
            exact ⟨environment, o, by rw [same], known, rfl⟩
        · cases visits
    | _ => cases visits
  · rintro ⟨environment, o, rfl, known, rfl⟩
    simp [State.visit?, known]

/-- The task of an observer stands where it stood, and nothing has been published. -/
structure Rests (before after : Observer κ) : Prop where
  settings : after.settings = before.settings
  task : after.task = before.task
  last : after.last = before.last

theorem rests_cancel (o : Observer κ) : Rests o o.cancel :=
  ⟨rfl, rfl, rfl⟩

theorem rests_enqueue (call : CallId) (o : Observer κ) : Rests o (o.enqueue call) :=
  ⟨rfl, rfl, rfl⟩

theorem rests_release (o : Observer κ) : Rests o o.release :=
  ⟨rfl, rfl, rfl⟩

theorem exists_rests_of_modify {change : Observer κ → Observer κ}
    (rests : ∀ o : Observer κ, Rests o (change o)) {observers : List (Observer κ)}
    {id other : ObserverId} {o : Observer κ}
    (known : (observers.modify other change)[id]? = some o) :
    ∃ o', observers[id]? = some o' ∧ Rests o' o := by
  rw [getElem?_modify_eq_ite] at known
  split at known
  · obtain ⟨o', known', rfl⟩ := Option.map_eq_some_iff.mp known
    exact ⟨o', known', rests o'⟩
  · exact ⟨o, known, rfl, rfl, rfl⟩

/-! ## Observations that are given back -/

/-- The observation that a call has given back. -/
def Point.told? : Point κ → Option Observation
  | .finished (.observation value) => some value
  | _ => none

theorem told?_eq_some_iff {p : Point κ} {value : Observation} :
    p.told? = some value ↔ p = .finished (.observation value) := by
  constructor
  · intro told
    unfold Point.told? at told
    split at told
    · cases told
      rfl
    · cases told
  · rintro rfl
    rfl

@[simp]
theorem Next.told?_point (next : Next κ) : next.point.told? = none := by
  rcases next with ⟨_, _, _⟩ | ⟨_ | ⟨_, _⟩⟩ <;> rfl

@[simp]
theorem Use.told?_point (use : Use) (id : ObserverId) : (use.point id : Point κ).told? = none := by
  cases use <;> rfl

variable [HasConnection κ]

/-! ## What observers have published -/

/-- The runs of the task of an observer, in their order, on the way from a state. -/
def State.visits (id : ObserverId) : State κ → List (Label κ) → List Visit
  | _, [] => []
  | s, label :: labels =>
      match s.step label with
      | none => []
      | some (t, _) => (s.visit? id label).toList ++ visits id t labels

theorem State.visits_concat {s u v : State κ} {labels : List (Label κ)} {label : Label κ}
    {events during : List (ObserverId × Event)} (run : Run s labels u events)
    (goes : u.step label = some (v, during)) (id : ObserverId) :
    s.visits id (labels ++ [label]) = s.visits id labels ++ (u.visit? id label).toList := by
  induction run with
  | nil s => simp [State.visits, goes]
  | cons first run ih =>
      rw [List.cons_append, State.visits, State.visits]
      simp only [first, ih goes, List.append_assoc]

/-- In the runs of its task an observer is served by its client. -/
theorem Run.service_of_mem_visits {s t : State κ} {labels : List (Label κ)}
    {events : List (ObserverId × Event)} (run : Run s labels t events) {id : ObserverId}
    {o : Observer κ} (known : t.observers[id]? = some o) :
    ∀ visit ∈ s.visits id labels,
      ∃ environment, .task id environment ∈ labels ∧ visit.service = environment o.client := by
  induction run with
  | nil => nofun
  | @cons s u t label labels events more goes run ih =>
      intro visit mem
      simp only [State.visits, goes, List.mem_append, Option.mem_toList] at mem
      rcases mem with visits | later
      · obtain ⟨environment, o', rfl, known', rfl⟩ := State.visit?_eq_some_iff.mp visits
        have evolves := (step_of_eq_some goes).evolves.trans run.evolves
        obtain ⟨o'', known'', continues⟩ := evolves id o' known'
        obtain rfl := Option.some.inj (known.symm.trans known'')
        exact ⟨environment, List.mem_cons_self, congrArg environment continues.client.symm⟩
      · obtain ⟨environment, mem, served⟩ := ih known visit later
        exact ⟨environment, List.mem_cons_of_mem _ mem, served⟩

theorem Move.clock {s r : State κ} {call : CallId} {p q : Point κ} (move : Move s call p q r) :
    r.clock = s.clock := by
  cases move <;> rfl

theorem Step.clock {s t : State κ} {label : Label κ} (step : Step s label t) :
    t.clock = s.clock := by
  cases step with
  | call _ _ move => exact move.clock
  | _ => rfl

/-- An observer is new, its task rests, or its task runs. -/
theorem Step.observer_cases {s t : State κ} {label : Label κ} (step : Step s label t)
    {id : ObserverId} {o : Observer κ} (known : t.observers[id]? = some o) :
    (s.visit? id label = none ∧ s.observers[id]? = none ∧ o.task = .created ∧
        o.last = .unknown) ∨
      (s.visit? id label = none ∧ ∃ o', s.observers[id]? = some o' ∧ Rests o' o) ∨
      ∃ service o', s.observers[id]? = some o' ∧ o = (o'.run s.clock s.now service).1 ∧
        s.visit? id label = some ⟨s.now, service, (o'.run s.clock s.now service).2⟩ := by
  have same (known : s.observers[id]? = some o) :
      ∃ o', s.observers[id]? = some o' ∧ Rests o' o := ⟨o, known, rfl, rfl, rfl⟩
  cases step with
  | begin | advance => exact .inr (.inl ⟨rfl, same known⟩)
  | @call label call p q r goes stands move =>
      have silent : s.visit? id label = none := by
        cases label with
        | task => cases goes
        | _ => rfl
      cases move with
      | cancel | supersede =>
          exact .inr (.inl ⟨silent, exists_rests_of_modify rests_cancel known⟩)
      | enqueue =>
          exact .inr (.inl ⟨silent, exists_rests_of_modify (rests_enqueue call) known⟩)
      | pass | join =>
          exact .inr (.inl ⟨silent, exists_rests_of_modify rests_release known⟩)
      | spawn =>
          rcases getElem?_concat_cases known with known | ⟨rfl, rfl⟩
          · exact .inr (.inl ⟨silent, same known⟩)
          · exact .inl ⟨silent, List.getElem?_eq_none (Nat.le_refl _), rfl, rfl⟩
      | _ => exact .inr (.inl ⟨silent, same known⟩)
  | @task other environment o' known' =>
      rcases getElem?_set_cases known with ⟨rfl, rfl⟩ | ⟨differs, known⟩
      · refine .inr (.inr ⟨environment o'.client, o', known', rfl, ?_⟩)
        simp [State.visit?, known']
      · refine .inr (.inl ⟨?_, same known⟩)
        simp [State.visit?, Ne.symm differs]
  | spawn =>
      rcases getElem?_concat_cases known with known | ⟨rfl, rfl⟩
      · exact .inr (.inl ⟨rfl, same known⟩)
      · exact .inl ⟨rfl, List.getElem?_eq_none (Nat.le_refl _), rfl, rfl⟩
  | signal =>
      exact .inr (.inl ⟨rfl, exists_rests_of_modify rests_cancel known⟩)

/-- What observers have published comes from the runs of their tasks. -/
structure Recorded (clock : Clock) (visits : ObserverId → List Visit) (s : State κ) : Prop where
  sameClock : s.clock = clock
  unknown : ∀ id : ObserverId, s.observers[id]? = none → visits id = []
  traced : ∀ (id : ObserverId) (o : Observer κ), s.observers[id]? = some o →
    o.task.Traced clock o.settings.timeout (visits id) o.last

theorem Recorded.step {clock : Clock} {visits : ObserverId → List Visit} {s t : State κ}
    {label : Label κ} (recorded : Recorded clock visits s) (step : Step s label t) :
    Recorded clock (fun id => visits id ++ (s.visit? id label).toList) t := by
  constructor
  · exact step.clock.trans recorded.sameClock
  · intro id absent
    have before : s.observers[id]? = none := by
      cases known : s.observers[id]? with
      | none => rfl
      | some o =>
          obtain ⟨o', known', -⟩ := step.evolves id o known
          cases absent.symm.trans known'
    have silent : s.visit? id label = none := by
      cases label with
      | task other environment => simp [State.visit?, before]
      | _ => rfl
    rw [recorded.unknown id before, silent]
    rfl
  · intro id o known
    rcases step.observer_cases known with
      ⟨silent, new, task, last⟩ | ⟨silent, o', known', rests⟩ | ⟨service, o', known', rfl, runs⟩
    · rw [silent, recorded.unknown id new, task, last]
      exact ⟨.never nofun, nofun⟩
    · rw [silent, rests.task, rests.last, rests.settings]
      simpa using recorded.traced id o' known'
    · rw [runs, recorded.sameClock, Observer.run_eq]
      exact (recorded.traced id o' known').run o'.cancelled

theorem State.IsFresh.recorded {s : State κ} (fresh : s.IsFresh) :
    Recorded s.clock (fun id => s.visits id []) s where
  sameClock := rfl
  unknown := fun _ _ => rfl
  traced := by simp [fresh.observers]

theorem Run.recorded {s t : State κ} {labels : List (Label κ)}
    {events : List (ObserverId × Event)} (run : Run s labels t events) (fresh : s.IsFresh) :
    Recorded s.clock (fun id => s.visits id labels) t := by
  refine run.induction_prefix (P := fun past u => Recorded s.clock (fun id => s.visits id past) u)
    fresh.recorded ?_
  intro past label later u v before during _ run goes recorded
  have same : (fun id => s.visits id (past ++ [label])) =
      fun id => s.visits id past ++ (u.visit? id label).toList :=
    funext (State.visits_concat run goes)
  rw [same]
  exact recorded.step (step_of_eq_some goes)

/-! ## What calls read -/

/-- A call that has come to give back an observation has just read it. -/
theorem Move.of_told {s r : State κ} {call : CallId} {p q : Point κ} {value : Observation}
    (move : Move s call p q r) (told : q.told? = some value) :
    ∃ id o, p = .read id ∧ s.observers[id]? = some o ∧ o.last = value := by
  cases move with
  | read known =>
      cases told
      exact ⟨_, _, rfl, known, rfl⟩
  | reuse | insert | supersede =>
      rw [Use.told?_point] at told
      cases told
  | absent | remove | keep =>
      rw [Next.told?_point] at told
      cases told
  | @pass _ after | @join _ after => cases after <;> cases told
  | @list stopping order =>
      cases stopping with
      | false => cases told
      | true =>
          rw [pointAfterList, if_pos rfl, Next.told?_point] at told
          cases told
  | _ => cases told

/-- A call that gives back an observation has given it back before, or reads it now. -/
theorem State.observation_of_step {s t : State κ} {label : Label κ}
    {events : List (ObserverId × Event)} (goes : s.step label = some (t, events))
    {call : CallId} {value : Observation}
    (gives : t.calls[call]? = some (.finished (.observation value))) :
    s.calls[call]? = some (.finished (.observation value)) ∨
      label = .call call ∧ ∃ id o, s.calls[call]? = some (.read id) ∧
        s.observers[id]? = some o ∧ o.last = value := by
  rcases (step_of_eq_some goes).stood_cases gives with
    gave | ⟨p, r, moves, stood, move, -⟩ | ⟨request, -, -, starts⟩
  · exact .inl gave
  · obtain ⟨id, o, rfl, known, last⟩ := move.of_told (told?_eq_some_iff.mpr rfl)
    cases label with
    | call other =>
        cases moves
        exact .inr ⟨rfl, id, o, stood, known, last⟩
    | enumerate other order =>
        cases moves
        simp [State.step, stood] at goes
    | _ => cases moves
  · cases request <;> cases starts

/-- A call that has given back an observation has read it on the way. -/
theorem Run.exists_read {s t : State κ} {labels : List (Label κ)}
    {events : List (ObserverId × Event)} (run : Run s labels t events) (fresh : s.IsFresh)
    {call : CallId} {value : Observation}
    (gives : t.calls[call]? = some (.finished (.observation value))) :
    ∃ past rest u before id o, labels = past ++ .call call :: rest ∧ Run s past u before ∧
      u.calls[call]? = some (.read id) ∧ u.observers[id]? = some o ∧ o.last = value := by
  revert gives
  refine run.induction_prefix (P := fun labels t =>
    t.calls[call]? = some (.finished (.observation value)) →
      ∃ past rest u before id o, labels = past ++ .call call :: rest ∧ Run s past u before ∧
        u.calls[call]? = some (.read id) ∧ u.observers[id]? = some o ∧ o.last = value) ?_ ?_
  · simp [fresh.calls]
  · intro past label later u v before during _ run goes ih gives
    rcases State.observation_of_step goes gives with gave | ⟨rfl, id, o, stands, known, last⟩
    · obtain ⟨past', rest, u', before', id, o, rfl, read⟩ := ih gave
      exact ⟨past', rest ++ [label], u', before', id, o, by simp, read⟩
    · exact ⟨past, [], u, before, id, o, rfl, run, stands, known, last⟩

/-- In every run on a fresh registry, whatever the order of calls and tasks and whatever the
clients answer, a call that resolves a cluster gives back what an observer has published last
at the moment of the read:

* the observer is one of that cluster, and its client is interchangeable with the given one,
* either it has not published anything, and the observation is the unknown one, or the
  observation is the result of the poll that it has published last,
* a health and a license in it were given by its client, in runs of its task from the request of
  that poll to its publication. -/
theorem resolved_observation_of_run {s t : State κ} {labels : List (Label κ)}
    {events : List (ObserverId × Event)} (fresh : s.IsFresh) (run : Run s labels t events)
    {call : CallId} {cluster : Identity} {client : κ} {outcome : Outcome}
    (asked : (requests labels)[call]? = some (.resolve cluster client))
    (ended : t.calls[call]? = some (.finished outcome)) :
    ∃ value past rest u before id o,
      outcome = .observation value ∧ labels = past ++ .call call :: rest ∧
      Run s past u before ∧ u.calls[call]? = some (.read id) ∧
      u.observers[id]? = some o ∧ o.cluster = cluster ∧ Interchangeable o.client client ∧
      o.last = value ∧
      ((value = .unknown ∧ ∀ visit ∈ s.visits id past, visit.IsSilent) ∨
        ∃ earlier during later, s.visits id past = earlier ++ during ++ later ∧
          IsPoll s.clock o.settings.timeout value during ∧
          (∀ visit ∈ later, visit.IsSilent) ∧
          (∀ visit ∈ during,
            ∃ environment, .task id environment ∈ past ∧ visit.service = environment o.client) ∧
          (∀ health, value.health = some health →
            ∃ visit ∈ during, visit.service.health = some health) ∧
          ∀ license, value.license = some license →
            ∃ visit ∈ during, visit.service.license = some license) := by
  have purposeful := run.purposeful fresh
  have obtains := purposeful.obtains call _ _ cluster client .read ended asked rfl
  cases obtains with
  | @told value =>
      obtain ⟨past, rest, u, before, id, o, rfl, run', stands, known, last⟩ :=
        run.exists_read fresh ended
      have purposeful' := run'.purposeful fresh
      rw [purposeful'.getElem?_requests stands] at asked
      have serves := purposeful'.obtains call _ _ cluster client .read stands asked rfl
      cases serves with
      | read serves =>
          obtain ⟨o', known', named, equal⟩ := serves
          obtain rfl : o = o' := Option.some.inj (known.symm.trans known')
          refine ⟨value, past, rest, u, before, id, o, rfl, rfl, run', stands, known, named,
            equal, last, ?_⟩
          have traced := (run'.recorded fresh).traced id o known
          rcases traced.published.unknown_or_exists_poll with unknown | polled
          · exact .inl (last ▸ unknown)
          · obtain ⟨earlier, during, later, split, isPoll, silent⟩ := polled
            rw [last] at isPoll
            refine .inr ⟨earlier, during, later, split, isPoll, silent, fun visit mem => ?_,
              fun _ => isPoll.exists_health, fun _ => isPoll.exists_license⟩
            apply run'.service_of_mem_visits known
            rw [split]
            exact List.mem_append_left later (List.mem_append_right earlier mem)

/-- A call reads an observer that another call has displaced in the meantime, so it gives
back what the client that was asked for has answered; no other client answers. -/
theorem resolved_observation_of_run_displaced :
    let old : Elasticsearch.InMemory.Client := ⟨0, "https://a:9200", none, []⟩
    let new : Elasticsearch.InMemory.Client := ⟨1, "https://b:9200", none, []⟩
    let cluster : Identity := ⟨"default", "a"⟩
    let health := Elasticsearch.InMemory.healthOf .green
    let license := Elasticsearch.InMemory.basicLicense
    let answers : Environment Elasticsearch.InMemory.Client := fun client =>
      if client = old then ⟨some 0, some 0, some health, some license⟩ else .unreachable
    let labels : List (Label Elasticsearch.InMemory.Client) :=
      [.begin (.resolve cluster old), .call 0, .call 0, .call 0, .task 0 answers,
        .begin (.create cluster new), .call 1, .call 1, .call 1, .call 0]
    ∃ t events, Run (.empty .default) labels t events ∧ t.entry? cluster = some 1 ∧
      t.calls[0]? = some (.finished (.observation ⟨some health, some license⟩)) ∧
      ∃ past u before id o, Run (.empty .default) past u before ∧ u.observers[id]? = some o ∧
        o.cluster = cluster ∧ Interchangeable o.client old ∧
        o.last = ⟨some health, some license⟩ ∧
        (∃ environment, .task id environment ∈ past ∧
          (environment o.client).health = some health) ∧
        ∃ environment, .task id environment ∈ past ∧
          (environment o.client).license = some license := by
  intro old new cluster health license answers labels
  have follows : ((State.empty .default).follow? labels).any (fun last =>
      State.entry? last.1 cluster = some 1 ∧
        last.1.calls[0]?.bind Point.told? = some ⟨some health, some license⟩) = true := by
    decide +kernel
  obtain ⟨⟨t, events⟩, goes, holds⟩ := (Option.any_eq_true ..).mp follows
  have run : Run (.empty .default) labels t events := run_iff_follow?_eq_some.mpr goes
  obtain ⟨entered, told⟩ := of_decide_eq_true holds
  obtain ⟨p, ended, told⟩ := Option.bind_eq_some_iff.mp told
  obtain rfl := told?_eq_some_iff.mp told
  obtain ⟨value, past, rest, u, before, id, o, same, -, run', -, known, named, equal, last,
    source⟩ := resolved_observation_of_run (State.isFresh_empty .default) run rfl ended
  cases same
  refine ⟨t, events, run, entered, ended, past, u, before, id, o, run', known, named, equal,
    last, ?_⟩
  rcases source with
    ⟨unknown, -⟩ | ⟨earlier, during, later, -, -, -, served, healths, licenses⟩
  · cases unknown
  · obtain ⟨visit, mem, answered⟩ := healths health rfl
    obtain ⟨visit', mem', answered'⟩ := licenses license rfl
    obtain ⟨environment, ran, same⟩ := served visit mem
    obtain ⟨environment', ran', same'⟩ := served visit' mem'
    exact ⟨⟨environment, ran, same ▸ answered⟩, environment', ran', same' ▸ answered'⟩

end ClusterWatch.Observation.Registry
