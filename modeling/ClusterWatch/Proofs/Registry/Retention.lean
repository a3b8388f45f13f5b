import ClusterWatch.Proofs.Registry.Purpose
import ClusterWatch.Proofs.Registry.Refinement

/-!
# Why no registration is lost

A call that replaces the observer of a cluster removes the entry first and enters another one
later.  Other calls see the gap, or tear down what has been entered in the meantime.  But
unless a cluster is stopped on request, each call that removes its entry is then about to enter
an observer of its own, so there is an entry in the end once any call has come by an observer.
-/

namespace ClusterWatch.Observation.Registry

open Elasticsearch (HasConnection Interchangeable)
open Kubernetes (Identity)

variable {κ : Type}

/-- The cluster that a call stops on request, so that it does not enter another observer. -/
def Point.abandons? : Point κ → Option Identity
  | .find cluster (.stop _) => some cluster
  | .halt _ _ (some (cluster, .stop _)) => some cluster
  | .remove cluster _ (.stop _) => some cluster
  | _ => none

/-- A call is about to enter an observer of the cluster. -/
inductive Point.Refills (cluster : Identity) : Point κ → Prop where
  | spawn {client : κ} {use : Use} : Refills cluster (.spawn cluster client use)
  | insert {id : ObserverId} {use : Use} : Refills cluster (.insert cluster id use)

/-- A call that wants an observer has one that is entered, or has been. -/
def Point.IsServed : Point κ → Prop
  | .displace _ _ _ => True
  | .read _ => True
  | .finished _ => True
  | _ => False

/-- A cluster has an observer, or a call is about to enter one. -/
def State.IsCovered (s : State κ) (cluster : Identity) : Prop :=
  (∃ id, s.entry? cluster = some id) ∨
    ∃ (call : CallId) (p : Point κ), s.calls[call]? = some p ∧ p.Refills cluster

theorem abandons?_pointAfterHalt (stage : Stage) (id : ObserverId)
    (after : Option (Identity × Next κ)) :
    (pointAfterHalt id after).abandons? = (Point.halt stage id after).abandons? := by
  rcases after with _ | ⟨cluster, _ | _⟩ <;> rfl

theorem Next.opened?_of_abandons? {next : Next κ} {cluster : Identity}
    (abandons : next.point.abandons? = some cluster) : next.point.opened? = some cluster := by
  rcases next with ⟨_, _, _⟩ | ⟨_ | ⟨_, _⟩⟩
  · cases abandons
  · cases abandons
  · exact abandons

theorem Request.not_isServed_point (request : Request κ) : ¬request.point.IsServed := by
  cases request <;> exact id

/-! ## Clusters on which no call works -/

section Idle

variable {s : State κ} {cluster : Identity} (coherent : Coherent s) (guarded : Guarded s)
  (idle : ∀ call, s.busy? call ≠ some cluster)

theorem Point.Refills.cluster? {p : Point κ} (refills : p.Refills cluster)
    (observers : List (Observer κ)) : p.cluster? observers = some cluster := by
  cases refills <;> rfl

theorem Point.cluster?_of_stopping? {p : Point κ} {id : ObserverId}
    (stops : p.stopping? = some (cluster, id)) (observers : List (Observer κ)) :
    p.cluster? observers = some cluster := by
  cases p with
  | halt stage other after =>
      rcases after with _ | ⟨cluster', next⟩
      · cases stage <;> cases stops
      · cases stage <;> cases stops <;> rfl
  | remove =>
      cases stops
      rfl
  | _ => cases stops

theorem Point.cluster?_of_creating? {p : Point κ} {observers : List (Observer κ)}
    (creates : p.creating? observers = some cluster) : p.cluster? observers = some cluster := by
  cases p with
  | spawn | insert | displace => exact creates
  | _ => cases creates

/-- A call that wants an observer of a cluster works on the cluster, or is served. -/
theorem Point.Obtains.cluster?_or_isServed [HasConnection κ] {p : Point κ}
    {observers : List (Observer κ)} {client : κ} {use : Use}
    (obtains : p.Obtains observers cluster client use) :
    p.cluster? observers = some cluster ∨ p.IsServed := by
  cases obtains with
  | displace | read | given | told => exact .inr trivial
  | _ => exact .inl rfl

include idle

theorem State.IsCovered.exists_entry (covered : s.IsCovered cluster) :
    ∃ id, s.entry? cluster = some id := by
  rcases covered with entered | ⟨call, p, stands, refills⟩
  · exact entered
  · exact (idle call (State.busy?_eq_some_iff.mpr ⟨p, stands, refills.cluster? _⟩)).elim

include coherent guarded

/-- A live observer of a cluster on which no call works is the registered one. -/
theorem Guarded.entry_of_mem_live {id : ObserverId} (mem : id ∈ s.live cluster) :
    s.entry? cluster = some id := by
  obtain ⟨o, known, named, live⟩ := State.mem_live_iff.mp mem
  by_cases registered : s.IsRegistered id
  · exact named ▸ coherent.entry_of_isRegistered known registered
  · have flag := State.cancelled?_eq_some_iff.mpr ⟨o, known, live⟩
    obtain ⟨call, p, stands, stray⟩ := guarded.stray id flag registered
    have creates := coherent.creating?_of_stray? stands stray known
    have works := Point.cluster?_of_creating? creates
    exact (idle call (State.busy?_eq_some_iff.mpr ⟨p, stands, named ▸ works⟩)).elim

/-- The registered observer of a cluster on which no call works is live. -/
theorem Guarded.mem_live_of_entry {id : ObserverId} (entered : s.entry? cluster = some id) :
    id ∈ s.live cluster := by
  obtain ⟨o, known, named⟩ := coherent.entered cluster id entered
  refine State.mem_live_iff.mpr ⟨o, known, named, ?_⟩
  cases flag : o.cancelled with
  | false => rfl
  | true =>
      have cancelled := State.cancelled?_eq_some_iff.mpr ⟨o, known, flag⟩
      obtain ⟨call, p, stands, stops⟩ := guarded.stopping cluster id entered cancelled
      have works := Point.cluster?_of_stopping? stops s.observers
      exact (idle call (State.busy?_eq_some_iff.mpr ⟨p, stands, works⟩)).elim

theorem Guarded.live_of_idle {id : ObserverId} (entered : s.entry? cluster = some id) :
    s.live cluster = [id] := by
  have distinct : (s.live cluster).Nodup := List.nodup_range.filter _
  apply List.perm_singleton.mp
  apply (List.perm_ext_iff_of_nodup distinct (by simp)).mpr
  intro other
  rw [List.mem_singleton]
  constructor
  · intro mem
    have entered' := guarded.entry_of_mem_live coherent idle mem
    exact Option.some.inj (entered'.symm.trans entered)
  · rintro rfl
    exact guarded.mem_live_of_entry coherent idle entered

end Idle

variable [HasConnection κ]

section Move

variable {s r : State κ} {call : CallId} {p q : Point κ} {cluster : Identity}

/-- A call that stops a cluster on request has begun with a look at its entry. -/
theorem Move.abandons? (move : Move s call p q r) (abandons : q.abandons? = some cluster) :
    p.abandons? = some cluster ∨ q.opened? = some cluster := by
  cases move with
  | @found _ next =>
      left
      cases next with
      | create => cases abandons
      | stop => exact abandons
  | @cancel _ after | @enqueue _ after | @acquire _ after =>
      left
      rcases after with _ | ⟨_, _ | _⟩
      · cases abandons
      · cases abandons
      · exact abandons
  | @pass _ after => exact .inl (abandons?_pointAfterHalt .acquire _ after ▸ abandons)
  | @join _ after => exact .inl (abandons?_pointAfterHalt .join _ after ▸ abandons)
  | absent | remove | keep => exact .inr (Next.opened?_of_abandons? abandons)
  | @list stopping order =>
      cases stopping with
      | false => cases abandons
      | true => exact .inr (Next.opened?_of_abandons? abandons)
  | @reuse _ _ use | @insert _ _ use | @supersede _ _ use => cases use <;> cases abandons
  | _ => cases abandons

/-- A call is served once it has found an observer that is entered, or has entered its own. -/
theorem Move.isServed (move : Move s call p q r) {client : κ} {use : Use}
    (obtains : p.Obtains s.observers cluster client use) (served : q.IsServed) :
    p.IsServed ∨ ∃ id, r.entry? cluster = some id := by
  cases obtains with
  | lookup =>
      cases move with
      | reuse entered => exact .inr ⟨_, entered⟩
      | _ => exact served.elim
  | find | halt | remove | spawn => cases move <;> exact served.elim
  | insert =>
      right
      cases move with
      | insert | displace => exact ⟨_, by rw [State.entry_enter, if_pos rfl]⟩
  | displace | read | given | told => exact .inl trivial

end Move

section Step

variable {s t : State κ} {label : Label κ} {cluster : Identity}

/-- The entry of a cluster that is not stopped on request is removed only by a call that is
about to enter another observer. -/
theorem State.IsCovered.step (covered : s.IsCovered cluster) (coherent : Coherent s)
    (spared : ∀ (call : CallId) (p : Point κ), s.calls[call]? = some p →
      p.abandons? ≠ some cluster) (step : Step s label t) : t.IsCovered cluster := by
  rcases covered with ⟨id, entered⟩ | ⟨call, p, stands, refills⟩
  · cases step with
    | @call label call p q r goes stands move =>
        rcases move.entry_cases cluster with same | ⟨old, next, rfl, -, -⟩ | ⟨new, -, -, put, -⟩
        · exact .inl ⟨id, same.trans entered⟩
        · have there : (r.goto call q).calls[call]? = some q := by
            rw [move.calls_goto]
            exact List.getElem?_set_self (List.getElem?_eq_some_iff.mp stands).1
          cases next with
          | stop => exact (spared call _ stands rfl).elim
          | create other client use =>
              obtain ⟨fits, -⟩ := coherent.fits call _ stands
              obtain rfl : other = cluster := fits
              cases move with
              | remove | keep => exact .inr ⟨call, _, there, .spawn⟩
        · exact .inl ⟨new, put⟩
    | _ => exact .inl ⟨id, entered⟩
  · rcases step.stands_cases stands with same | ⟨q, r, -, move, rfl, stands'⟩
    · exact .inr ⟨call, p, same, refills⟩
    · cases refills with
      | spawn =>
          cases move with
          | spawn => exact .inr ⟨call, _, stands', .insert⟩
      | @insert new use =>
          left
          refine ⟨new, ?_⟩
          cases move with
          | insert | displace =>
              rw [State.entry_goto, State.entry_enter, if_pos rfl]

/-- An observer that has just come up has been created by a call, with the settings of the
registry. -/
theorem Step.exists_creation (step : Step s label t) (own : label.IsOwn) {id : ObserverId}
    {o : Observer κ} (unknown : s.observers[id]? = none) (known : t.observers[id]? = some o) :
    o.settings = s.settings ∧
      ∃ (call : CallId) (use : Use), s.calls[call]? = some (.spawn o.cluster o.client use) := by
  have nothing {other : ObserverId} {change : Observer κ → Observer κ} :
      (s.observers.modify other change)[id]? = none := by
    rw [getElem?_modify_eq_ite, unknown]
    split <;> rfl
  cases step with
  | @call label call p q r goes stands move =>
      cases move with
      | @spawn cluster client use =>
          rcases getElem?_concat_cases known with there | ⟨-, rfl⟩
          · cases unknown.symm.trans there
          · exact ⟨rfl, call, use, stands⟩
      | cancel | enqueue | pass | join | supersede => cases nothing.symm.trans known
      | _ => cases unknown.symm.trans known
  | @task other environment o' known' =>
      rcases getElem?_set_cases known with ⟨rfl, -⟩ | ⟨-, there⟩
      · cases unknown.symm.trans known'
      · cases unknown.symm.trans there
  | spawn => exact own.elim
  | signal => exact own.elim
  | _ => cases unknown.symm.trans known

theorem Step.exists_spawn (step : Step s label t) (own : label.IsOwn) {id : ObserverId}
    {o : Observer κ} (unknown : s.observers[id]? = none) (known : t.observers[id]? = some o) :
    ∃ (call : CallId) (use : Use), s.calls[call]? = some (.spawn o.cluster o.client use) :=
  (step.exists_creation own unknown known).2

end Step

/-- After some labels, observers come from requests for them, and no cluster that is wanted is
left without one, unless a call is about to enter it. -/
structure Retained (past : List (Label κ)) (cluster : Identity) (s : State κ) : Prop where
  spared : ∀ (call : CallId) (p : Point κ), s.calls[call]? = some p → p.abandons? ≠ some cluster
  covered : ∀ (call : CallId) (p : Point κ) request client use, s.calls[call]? = some p →
    (requests past)[call]? = some request → request.wants? = some (cluster, client, use) →
      p.IsServed → s.IsCovered cluster
  wanted : ∀ (id : ObserverId) (o : Observer κ), s.observers[id]? = some o →
    ∃ (call : CallId) (request : Request κ) (use : Use), (requests past)[call]? = some request ∧
      request.wants? = some (o.cluster, o.client, use)

theorem Retained.step {s t : State κ} {past : List (Label κ)} {label : Label κ}
    {cluster : Identity} (retained : Retained past cluster s) (coherent : Coherent s)
    (purposeful : Purposeful past s) (own : label.IsOwn)
    (unopened : ∀ (call : CallId) (p : Point κ), t.calls[call]? = some p →
      p.opened? ≠ some cluster) (step : Step s label t) :
    Retained (past ++ [label]) cluster t := by
  constructor
  · intro call q stands abandons
    rcases step.stood_cases stands with stood | ⟨p, r, -, stood, move, -⟩ | ⟨request, -, -, rfl⟩
    · exact retained.spared call q stood abandons
    · rcases move.abandons? abandons with abandoned | opens
      · exact retained.spared call p stood abandoned
      · exact unopened call q stands opens
    · have opens : request.point.opened? = some cluster := by
        cases request with
        | stop => exact abandons
        | _ => cases abandons
      exact unopened call _ stands opens
  · intro call q request client use stands asked wants served
    rcases step.stood_cases stands with stood | ⟨p, r, -, stood, move, rfl⟩ | ⟨other, -, -, rfl⟩
    · rw [purposeful.getElem?_requests stood] at asked
      have covered := retained.covered call q request client use stood asked wants served
      exact covered.step coherent retained.spared step
    · rw [purposeful.getElem?_requests stood] at asked
      have obtains := purposeful.obtains call p request cluster client use stood asked wants
      rcases move.isServed obtains served with before | entered
      · have covered := retained.covered call p request client use stood asked wants before
        exact covered.step coherent retained.spared step
      · exact .inl entered
    · exact (other.not_isServed_point served).elim
  · intro id o known
    cases before : s.observers[id]? with
    | none =>
        obtain ⟨call, use, stands⟩ := step.exists_spawn own before known
        obtain ⟨request, asked, wants⟩ := purposeful.wants call _ _ stands rfl
        exact ⟨call, request, use, getElem?_requests_append asked _, wants⟩
    | some o' =>
        obtain ⟨o'', known', continues⟩ := step.evolves id o' before
        cases known.symm.trans known'
        obtain ⟨call, request, use, asked, wants⟩ := retained.wanted id o' before
        rw [continues.cluster, continues.client]
        exact ⟨call, request, use, getElem?_requests_append asked _, wants⟩

omit [HasConnection κ] in
theorem State.IsFresh.retained {s : State κ} (fresh : s.IsFresh) (cluster : Identity) :
    Retained [] cluster s where
  spared := by simp [fresh.calls]
  covered := by simp [fresh.calls]
  wanted := by simp [fresh.observers]

theorem Run.retained {s t : State κ} {labels : List (Label κ)}
    {events : List (ObserverId × Event)} (run : Run s labels t events) (fresh : s.IsFresh)
    (own : ∀ label ∈ labels, label.IsOwn) {cluster : Identity}
    (unopened : ∀ u rest, Passes s labels u rest → ∀ (call : CallId) (p : Point κ),
      u.calls[call]? = some p → p.opened? ≠ some cluster) : Retained labels cluster t := by
  refine run.induction_prefix (P := fun past u => Retained past cluster u)
    (fresh.retained cluster) ?_
  intro past label later u v before during split run goes retained
  have passes : Passes s labels v later :=
    ⟨past ++ [label], _, by simp [split], run.append (.cons goes (.nil v))⟩
  exact retained.step (run.coherent fresh.coherent) (run.purposeful fresh)
    (own label (split ▸ by simp)) (unopened v later passes) (step_of_eq_some goes)

/-! ## Runs without stops -/

/-- The request is not to stop what is observed. -/
def Request.spares : Request κ → Bool
  | .stop _ => false
  | .stopAll => false
  | _ => true

/-- A call that stops an observer goes on with the creation of another one. -/
def Next.spares : Next κ → Bool
  | .create _ _ _ => true
  | .stop _ => false

/-- A call does not stop an observer on request, nor is it about to. -/
def Point.spares : Point κ → Bool
  | .find _ next => next.spares
  | .halt _ _ after => after.all fun following => following.2.spares
  | .remove _ _ next => next.spares
  | .enumerate stopping => !stopping
  | _ => true

omit [HasConnection κ] in
theorem Request.spares_point (request : Request κ) : request.point.spares = request.spares := by
  cases request <;> rfl

omit [HasConnection κ] in
theorem Use.spares_point (use : Use) (id : ObserverId) :
    (use.point id : Point κ).spares = true := by
  cases use <;> rfl

omit [HasConnection κ] in
theorem Next.spares_point {next : Next κ} (spares : next.spares = true) :
    next.point.spares = true := by
  cases next with
  | create => rfl
  | stop => cases spares

omit [HasConnection κ] in
theorem Point.opened?_of_spares {p : Point κ} (spares : p.spares = true) : p.opened? = none := by
  cases p with
  | find cluster next =>
      cases next with
      | create => rfl
      | stop => cases spares
  | _ => rfl

theorem Move.spares {s r : State κ} {call : CallId} {p q : Point κ} (move : Move s call p q r)
    (spares : p.spares = true) : q.spares = true := by
  cases move with
  | absent | remove | keep => exact Next.spares_point spares
  | reuse | insert | supersede => exact Use.spares_point _ _
  | found | cancel | enqueue | acquire => exact spares
  | @pass _ after | @join _ after =>
      cases after with
      | none => rfl
      | some => exact spares
  | @list stopping =>
      cases stopping with
      | false => rfl
      | true => cases spares
  | _ => rfl

/-- Without a request to stop what is observed, no call comes to do so. -/
theorem Run.opened?_eq_none {s t : State κ} {labels : List (Label κ)}
    {events : List (ObserverId × Event)} (run : Run s labels t events) (fresh : s.IsFresh)
    (sparing : ∀ label ∈ labels, label.request?.all Request.spares = true) :
    ∀ (call : CallId) (p : Point κ), t.calls[call]? = some p → p.opened? = none := by
  have spares : ∀ (call : CallId) (p : Point κ), t.calls[call]? = some p → p.spares = true := by
    apply run.induction (P := fun u => ∀ (call : CallId) (p : Point κ),
      u.calls[call]? = some p → p.spares = true)
    · simp [fresh.calls]
    · intro u v label mem spares step call q stands
      rcases step.stood_cases stands with stood | ⟨p, r, -, stood, move, -⟩ | ⟨request, rfl, -, rfl⟩
      · exact spares call q stood
      · exact move.spares (spares call p stood)
      · rw [Request.spares_point]
        exact sparing _ mem
  intro call p stands
  exact Point.opened?_of_spares (spares call p stands)

/-! ## The observer in the end -/

/-- In a run on a fresh registry in which no call comes to stop the observer of the cluster on
request, whatever the order of the calls: if some call has wanted an observer of the cluster,
and no call works on the cluster, so that this one is over too, then the cluster has an
observer.  That is the only live one of the cluster, and its client is one that has been given
with a request for the cluster. -/
theorem registered_observer_of_run {s t : State κ} {labels : List (Label κ)}
    {events : List (ObserverId × Event)} (fresh : s.IsFresh)
    (own : ∀ label ∈ labels, label.IsOwn) (run : Run s labels t events) {cluster : Identity}
    (unopened : ∀ u rest, Passes s labels u rest → ∀ (call : CallId) (p : Point κ),
      u.calls[call]? = some p → p.opened? ≠ some cluster)
    (idle : ∀ call, t.busy? call ≠ some cluster) {call : CallId} {request : Request κ}
    {client : κ} {use : Use} (asked : (requests labels)[call]? = some request)
    (wants : request.wants? = some (cluster, client, use)) :
    ∃ id o, t.entry? cluster = some id ∧ t.observers[id]? = some o ∧ o.cluster = cluster ∧
      o.cancelled = false ∧ t.live cluster = [id] ∧
      ∃ (call' : CallId) (request' : Request κ) (use' : Use),
        (requests labels)[call']? = some request' ∧
          request'.wants? = some (cluster, o.client, use') := by
  obtain ⟨coherent, guarded⟩ := run.guarded fresh.coherent fresh.guarded own
  have retained := run.retained fresh own unopened
  have purposeful := run.purposeful fresh
  have began : call < t.calls.length := by
    rw [purposeful.begun]
    exact (List.getElem?_eq_some_iff.mp asked).1
  have stands : t.calls[call]? = some t.calls[call] := List.getElem?_eq_getElem began
  have obtains := purposeful.obtains call _ request cluster client use stands asked wants
  have served : t.calls[call].IsServed := by
    rcases obtains.cluster?_or_isServed with works | served
    · exact (idle call (State.busy?_eq_some_iff.mpr ⟨_, stands, works⟩)).elim
    · exact served
  have covered := retained.covered call _ request client use stands asked wants served
  obtain ⟨id, entered⟩ := covered.exists_entry idle
  have only := guarded.live_of_idle coherent idle entered
  have mem : id ∈ t.live cluster := only ▸ List.mem_singleton_self id
  obtain ⟨o, known, named, live⟩ := State.mem_live_iff.mp mem
  obtain ⟨call', request', use', asked', wants'⟩ := retained.wanted id o known
  exact ⟨id, o, entered, known, named, live, only, call', request', use', asked',
    named ▸ wants'⟩

/-- Two calls replace the observer of a cluster at the same time.  The second of them is the
first to enter its observer, which is then displaced. -/
theorem registered_observer_of_run_replacing :
    let old : Elasticsearch.InMemory.Client := ⟨0, "https://a:9200", none, []⟩
    let new : Elasticsearch.InMemory.Client := ⟨1, "https://b:9200", none, []⟩
    let other : Elasticsearch.InMemory.Client := ⟨2, "https://c:9200", none, []⟩
    let cluster : Identity := ⟨"default", "a"⟩
    let labels : List (Label Elasticsearch.InMemory.Client) :=
      [.begin (.observe cluster old), .call 0, .call 0, .call 0, .begin (.observe cluster new),
        .begin (.resolve cluster other), .call 1, .call 2, .call 1, .call 1, .call 1,
        .task 0 .unreachable, .call 1, .call 1, .call 1, .call 2, .call 1, .call 2, .call 2,
        .call 1, .call 1, .call 2]
    ∃ t events o, Run (.empty .default) labels t events ∧ t.entry? cluster = some 1 ∧
      t.observers[1]? = some o ∧ o.cancelled = false ∧ t.live cluster = [1] ∧
      ∃ request ∈ requests labels, ∃ use, request.wants? = some (cluster, o.client, use) := by
  intro old new other cluster labels
  have follows : ((State.empty .default).follow? labels).any (fun last =>
      State.entry? last.1 cluster = some 1 ∧
      last.1.calls.all fun p => (p.cluster? last.1.observers).isNone) = true := by
    decide +kernel
  obtain ⟨⟨t, events⟩, goes, holds⟩ := (Option.any_eq_true ..).mp follows
  obtain ⟨entered, quiet⟩ := of_decide_eq_true holds
  have run : Run (.empty .default) labels t events := run_iff_follow?_eq_some.mpr goes
  have own : ∀ label ∈ labels, label.IsOwn := by
    simp [labels, Label.IsOwn]
  have sparing : ∀ label ∈ labels, label.request?.all Request.spares = true := by
    decide +kernel
  have unopened (u : State Elasticsearch.InMemory.Client) rest
      (passes : Passes (.empty .default) labels u rest) (call : CallId) p
      (stands : u.calls[call]? = some p) : p.opened? ≠ some cluster := by
    obtain ⟨past, seen, split, run'⟩ := passes
    have spared := run'.opened?_eq_none (State.isFresh_empty .default)
      (fun label mem => sparing label (split ▸ List.mem_append_left rest mem)) call p stands
    intro opens
    rw [spared] at opens
    cases opens
  have idle (call : CallId) : t.busy? call ≠ some cluster := by
    intro works
    obtain ⟨p, stands, works⟩ := State.busy?_eq_some_iff.mp works
    have none := List.all_eq_true.mp quiet p (List.mem_of_getElem? stands)
    rw [works] at none
    cases none
  have asked : (requests labels)[0]? = some (.observe cluster old) := rfl
  obtain ⟨id, o, entered', known, -, live, only, call, request, use, asked', wants⟩ :=
    registered_observer_of_run (State.isFresh_empty .default) own run unopened idle asked rfl
  cases entered.symm.trans entered'
  exact ⟨t, events, o, run, entered, known, live, only, request, List.mem_of_getElem? asked',
    use, wants⟩

end ClusterWatch.Observation.Registry
