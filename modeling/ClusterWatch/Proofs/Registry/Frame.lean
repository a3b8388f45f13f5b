import ClusterWatch.Proofs.Registry.Matching

/-!
# What calls on other clusters leave alone

A call works on one cluster at a time, and does nothing to the entry or to the observers
of any other.  A call that stops all observers is on with a stop of one cluster after
another.
-/

namespace ClusterWatch.Observation.Registry

open Elasticsearch (HasConnection)
open Kubernetes (Identity)

variable {κ : Type}

/-- The cluster that a call works on. -/
def Point.cluster? (observers : List (Observer κ)) : Point κ → Option Identity
  | .lookup cluster _ _ => some cluster
  | .find cluster _ => some cluster
  | .halt _ _ after => after.map Prod.fst
  | .remove cluster _ _ => some cluster
  | .spawn cluster _ _ => some cluster
  | .insert cluster _ _ => some cluster
  | .displace id _ _ => observers[id]?.map Observer.cluster
  | .read id => observers[id]?.map Observer.cluster
  | .get cluster => some cluster
  | .enumerate _ => none
  | .finished _ => none

namespace State

/-- The cluster that a call is working on, if it is under way. -/
def busy? (s : State κ) (call : CallId) : Option Identity :=
  s.calls[call]?.bind fun p => p.cluster? s.observers

theorem busy?_eq_some_iff {s : State κ} {call : CallId} {cluster : Identity} :
    s.busy? call = some cluster ↔
      ∃ p, s.calls[call]? = some p ∧ p.cluster? s.observers = some cluster :=
  Option.bind_eq_some_iff

/-- No two calls work on one cluster. -/
def IsExclusive (s : State κ) : Prop :=
  ∀ (call other : CallId) (cluster : Identity), s.busy? call = some cluster →
    s.busy? other = some cluster → call = other

end State

theorem map_cluster_eq_some {observers : List (Observer κ)} {id : ObserverId} {o : Observer κ}
    {cluster : Identity} (known : observers[id]? = some o) (named : o.cluster = cluster) :
    observers[id]?.map Observer.cluster = some cluster := by
  rw [known, Option.map_some, named]

/-- The cluster that a call works on stays the same while other things go on. -/
theorem Point.cluster?_of_evolves {before after : List (Observer κ)} {p : Point κ}
    (fits : p.Fits before) (evolves : Evolves before after) :
    p.cluster? after = p.cluster? before := by
  have same {id : ObserverId} {o : Observer κ} (known : before[id]? = some o) :
      after[id]?.map Observer.cluster = before[id]?.map Observer.cluster := by
    obtain ⟨o', known', continues⟩ := evolves id o known
    rw [known, known', Option.map_some, Option.map_some, continues.cluster]
  cases p with
  | displace id old use =>
      obtain ⟨o, -, known, -⟩ := fits
      exact same known
  | read id =>
      obtain ⟨o, known⟩ := fits
      exact same known
  | _ => rfl

/-! ## Where a call goes on -/

/-- The cluster whose observer a call is about to stop on request. -/
def Point.opened? : Point κ → Option Identity
  | .find cluster (.stop _) => some cluster
  | _ => none

/-- A call goes on with the cluster that it has worked on, is over, or begins to stop the
observer of another cluster. -/
inductive Onward (observers : List (Observer κ)) (working : Option Identity) : Point κ → Prop where
  | stays {q : Point κ} :
      q.cluster? observers = working → q.opened? = none → Onward observers working q
  | ends {outcome : Outcome} : Onward observers working (.finished outcome)
  | opens {cluster : Identity} {rest : List Identity} :
      working ≠ some cluster → Onward observers working (.find cluster (.stop rest))

theorem Next.Fits.onward {next : Next κ} {cluster : Identity} (fits : next.Fits cluster)
    (observers : List (Observer κ)) : Onward observers (some cluster) next.point := by
  rcases next with ⟨other, client, use⟩ | ⟨_ | ⟨other, rest⟩⟩
  · exact .stays (congrArg some fits) rfl
  · exact .ends
  · refine .opens fun same => ?_
    cases same
    exact (List.nodup_cons.mp fits).1 List.mem_cons_self

theorem Use.onward {use : Use} {id : ObserverId} {observers : List (Observer κ)}
    {cluster : Identity} {o : Observer κ} (known : observers[id]? = some o)
    (named : o.cluster = cluster) : Onward observers (some cluster) (use.point id) := by
  cases use with
  | give => exact .ends
  | read => exact .stays (map_cluster_eq_some known named) rfl

theorem onward_pointAfterList (stopping : Bool) (order : List Identity)
    (observers : List (Observer κ)) : Onward observers none (pointAfterList stopping order) := by
  cases stopping with
  | false => exact .ends
  | true =>
      cases order with
      | nil => exact .ends
      | cons cluster rest => exact .opens nofun

namespace State

variable {s t : State κ}

theorem busy?_of_evolves (coherent : Coherent s) (calls : t.calls = s.calls)
    (evolves : Evolves s.observers t.observers) : t.busy? = s.busy? := by
  funext call
  rw [busy?, busy?, calls]
  cases stands : s.calls[call]? with
  | none => rfl
  | some p => exact Point.cluster?_of_evolves (coherent.fits call p stands) evolves

/-- What calls work on once one of them has gone on. -/
theorem busy?_goto {call : CallId} {p : Point κ} (q : Point κ) (coherent : Coherent s)
    (stands : s.calls[call]? = some p) (calls : t.calls = s.calls)
    (evolves : Evolves s.observers t.observers) (other : CallId) :
    (t.goto call q).busy? other =
      if other = call then q.cluster? t.observers else s.busy? other := by
  have within : call < t.calls.length := calls ▸ (List.getElem?_eq_some_iff.mp stands).1
  rw [← busy?_of_evolves coherent calls evolves, busy?, calls_goto]
  split
  · next same =>
      subst same
      rw [List.getElem?_set_self within]
      rfl
  · next differs =>
      rw [List.getElem?_set_ne (Ne.symm differs)]
      rfl

/-- What calls work on once another one has begun. -/
theorem busy?_begin (s : State κ) (p : Point κ) (call : CallId) :
    State.busy? { s with calls := s.calls ++ [p] } call =
      if call = s.calls.length then p.cluster? s.observers else s.busy? call := by
  rw [busy?, getElem?_concat_eq_ite]
  split <;> rfl

end State

/-- What happens in a step has not touched a cluster. -/
structure Undisturbed (s t : State κ) (cluster : Identity) : Prop where
  settings : t.settings = s.settings
  evolves : Evolves s.observers t.observers
  created : t.created cluster = s.created cluster
  entry : t.entry? cluster = s.entry? cluster
  live : ∀ id ∈ s.created cluster, t.cancelled? id = s.cancelled? id

/-- What does not change the observers and the entries has not touched any cluster. -/
theorem Undisturbed.of_eq {s t : State κ} {cluster : Identity} (settings : t.settings = s.settings)
    (observers : t.observers = s.observers) (entries : t.entries = s.entries) :
    Undisturbed s t cluster where
  settings := settings
  evolves := observers ▸ .refl _
  created := by rw [State.created, State.created, observers]
  entry := by rw [State.entry?, State.entry?, entries]
  live id _ := by rw [State.cancelled?, State.cancelled?, observers]

section Undisturbed

variable {s t : State κ} {cluster : Identity} (undisturbed : Undisturbed s t cluster)

include undisturbed

theorem Undisturbed.rows {ids : List ObserverId} {slot : Slot κ}
    {current current' : ObserverId → Observer κ → Prop}
    (rows : Rows s cluster current ids slot)
    (keeps : ∀ id ∈ ids, ∀ o o', s.observers[id]? = some o → t.observers[id]? = some o' →
      o.Continues o' → current id o → current' id o') : Rows t cluster current' ids slot :=
  rows.mono undisturbed.settings undisturbed.evolves
    (fun id _ former => by rwa [undisturbed.entry]) keeps

theorem Undisturbed.isCurrent {id : ObserverId} {o o' : Observer κ}
    (mem : id ∈ s.created cluster) (known : s.observers[id]? = some o)
    (known' : t.observers[id]? = some o') (current : s.IsCurrent cluster id o) :
    t.IsCurrent cluster id o' := by
  have same := undisturbed.live id mem
  rw [State.cancelled?, State.cancelled?, known, known', Option.map_some, Option.map_some] at same
  exact ⟨undisturbed.entry.trans current.1, (Option.some.inj same).trans current.2⟩

theorem Undisturbed.matches {slot : Slot κ} (agrees : Matches s cluster slot) :
    Matches t cluster slot := by
  rw [Matches, undisturbed.created]
  exact undisturbed.rows agrees fun id mem _ _ known known' _ =>
    undisturbed.isCurrent mem known known'

end Undisturbed

variable [HasConnection κ]

section Move

variable {s r : State κ} {call : CallId} {p q : Point κ}

theorem Move.onward (coherent : Coherent s) (fits : p.Fits s.observers) (bound : p.IsBound)
    (move : Move s call p q r) : Onward r.observers (p.cluster? s.observers) q := by
  have evolves := move.evolves
  cases move with
  | reuse entered =>
      obtain ⟨o, known, named⟩ := coherent.entered _ _ entered
      exact Use.onward known named
  | absent => exact fits.onward _
  | remove | keep => exact fits.1.onward _
  | @pass _ after | @join _ after =>
      cases after with
      | none => exact bound.elim
      | some after => exact .stays rfl rfl
  | insert =>
      obtain ⟨o, known, named⟩ := fits
      exact Use.onward known named
  | displace =>
      obtain ⟨o, known, named⟩ := fits
      exact .stays (map_cluster_eq_some known named) rfl
  | @supersede id =>
      obtain ⟨o, -, known, -⟩ := fits
      obtain ⟨o', known', continues⟩ := evolves id o known
      rw [Point.cluster?, known]
      exact Use.onward known' continues.cluster
  | read | get => exact .ends
  | list => exact onward_pointAfterList _ _ _
  | _ => exact .stays rfl rfl

/-- A move creates an observer for the cluster that the call works on, or none. -/
theorem Move.created_cases (move : Move s call p q r) (cluster : Identity) :
    r.created cluster = s.created cluster ∨
      (∃ client use, p = .spawn cluster client use) ∧
        r.created cluster = s.created cluster ++ [s.observers.length] := by
  cases move with
  | @spawn other client use =>
      rw [State.created_add]
      split
      · next same => exact .inr ⟨⟨client, use, same ▸ rfl⟩, rfl⟩
      · exact .inl (List.append_nil _)
  | cancel | supersede => exact .inl (State.created_update Observer.continues_cancel ..)
  | enqueue => exact .inl (State.created_update (Observer.continues_enqueue call) ..)
  | pass | join => exact .inl (State.created_update Observer.continues_release ..)
  | _ => exact .inl rfl

/-- A call does nothing to a cluster that it does not work on. -/
theorem Move.undisturbed (fits : p.Fits s.observers) (bound : p.IsBound)
    (move : Move s call p q r) {cluster : Identity}
    (elsewhere : p.cluster? s.observers ≠ some cluster) : Undisturbed s r cluster := by
  constructor
  case settings => exact move.settings
  case evolves => exact move.evolves
  case created =>
    rcases move.created_cases cluster with same | ⟨⟨client, use, rfl⟩, -⟩
    · exact same
    · exact (elsewhere rfl).elim
  case entry =>
    rcases move.entry_cases cluster with same | ⟨_, _, rfl, -⟩ | ⟨_, _, rfl, -⟩
    · exact same
    · exact (elsewhere rfl).elim
    · exact (elsewhere rfl).elim
  case live =>
    intro id mem
    obtain ⟨o, known, named⟩ := State.mem_created_iff.mp mem
    rcases move.cancelled_cases id with same | ⟨-, ⟨after, rfl⟩ | ⟨new, use, rfl⟩⟩ | ⟨fresh, -⟩
    · exact same
    · rcases after with _ | ⟨other, next⟩
      · exact bound.elim
      · obtain ⟨-, o', known', named', -⟩ := fits
        obtain rfl : o = o' := Option.some.inj (known.symm.trans known')
        exact (elsewhere (congrArg some (named'.symm.trans named))).elim
    · obtain ⟨x, o', found, known', named'⟩ := fits
      obtain rfl : o = o' := Option.some.inj (known.symm.trans known')
      exact (elsewhere (map_cluster_eq_some found (named'.symm.trans named))).elim
    · rw [State.cancelled?_eq_none_iff, known] at fresh
      cases fresh

end Move

section Step

variable {s t : State κ} {label : Label κ}

/-- The observers that a cluster has had are not forgotten. -/
theorem Step.created_prefix (step : Step s label t) (cluster : Identity) :
    s.created cluster <+: t.created cluster := by
  have evolves := step.evolves
  cases step with
  | call _ _ move =>
      rcases move.created_cases cluster with same | ⟨-, more⟩
      · exact same ▸ List.prefix_rfl
      · exact ⟨_, more.symm⟩
  | task => exact State.created_of_evolves evolves (List.length_set ..) cluster ▸ List.prefix_rfl
  | spawn => exact ⟨_, (State.created_add ..).symm⟩
  | @signal id =>
      exact State.created_update Observer.continues_cancel s id cluster ▸ List.prefix_rfl
  | begin | advance => exact List.prefix_rfl

/-- A step in which no call goes on that works on a cluster does nothing to it. -/
theorem Step.undisturbed (step : Step s label t) (coherent : Coherent s) (guarded : Guarded s)
    (own : label.IsOwn) {cluster : Identity}
    (elsewhere : ∀ call, label.call? = some call → s.busy? call ≠ some cluster) :
    Undisturbed s t cluster := by
  have evolves := step.evolves
  cases step with
  | begin => exact .of_eq rfl rfl rfl
  | @call _ call p _ _ goes stands move =>
      have undisturbed := move.undisturbed (coherent.fits call p stands)
        (guarded.bound call p stands) fun here =>
          elsewhere call goes (State.busy?_eq_some_iff.mpr ⟨p, stands, here⟩)
      exact ⟨undisturbed.settings, undisturbed.evolves, undisturbed.created, undisturbed.entry,
        undisturbed.live⟩
  | @task id environment observer known =>
      have same : (s.replace id
          (observer.run s.clock s.now (environment observer.client)).1).cancelled? =
          s.cancelled? :=
        State.cancelled?_replace known rfl
      exact ⟨rfl, evolves, State.created_of_evolves evolves (List.length_set ..) _, rfl,
        fun other _ => congrFun same other⟩
  | advance => exact .of_eq rfl rfl rfl
  | spawn | signal => exact own.elim

end Step

end ClusterWatch.Observation.Registry
