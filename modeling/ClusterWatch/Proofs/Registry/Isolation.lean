import ClusterWatch.Proofs.Registry.Retention

/-!
# Runs in which calls keep off a cluster

What goes on in a registry does nothing to a cluster on which no call works, whatever goes on with
other clusters meanwhile.
-/

namespace ClusterWatch.Observation.Registry

open Elasticsearch (HasConnection)
open Kubernetes (Identity)

variable {κ : Type}

/-- All observers have the settings of the registry. -/
def State.IsUniform (s : State κ) : Prop :=
  ∀ (id : ObserverId) (o : Observer κ), s.observers[id]? = some o → o.settings = s.settings

theorem State.IsFresh.isUniform {s : State κ} (fresh : s.IsFresh) : s.IsUniform := by
  simp [State.IsUniform, fresh.observers]

theorem Undisturbed.refl (s : State κ) (cluster : Identity) : Undisturbed s s cluster :=
  .of_eq rfl rfl rfl

theorem Undisturbed.trans {s t u : State κ} {cluster : Identity} (first : Undisturbed s t cluster)
    (second : Undisturbed t u cluster) : Undisturbed s u cluster where
  settings := second.settings.trans first.settings
  evolves := first.evolves.trans second.evolves
  created := second.created.trans first.created
  entry := second.entry.trans first.entry
  live id mem := (second.live id (first.created ▸ mem)).trans (first.live id mem)

variable [HasConnection κ]

theorem State.IsUniform.step {s t : State κ} {label : Label κ} (uniform : s.IsUniform)
    (own : label.IsOwn) (step : Step s label t) : t.IsUniform := by
  have settings : t.settings = s.settings := by
    cases step with
    | call _ _ move => exact move.settings
    | _ => rfl
  intro id o known
  rw [settings]
  cases before : s.observers[id]? with
  | none => exact (step.exists_creation own before known).1
  | some o' =>
      obtain ⟨o'', known', continues⟩ := step.evolves id o' before
      cases known.symm.trans known'
      exact continues.settings.trans (uniform id o' before)

/-- What is known of a registry in which calls have been under way, with its observers. -/
structure Regular (s : State κ) : Prop where
  sound : Sound s
  uniform : s.IsUniform

theorem Regular.step {s t : State κ} {label : Label κ} (regular : Regular s) (own : label.IsOwn)
    (step : Step s label t) : Regular t :=
  ⟨regular.sound.step own step, regular.uniform.step own step⟩

theorem Run.regular {s t : State κ} {labels : List (Label κ)}
    {events : List (ObserverId × Event)} (run : Run s labels t events) (fresh : s.IsFresh)
    (own : ∀ label ∈ labels, label.IsOwn) : Regular t :=
  run.induction (P := Regular) ⟨fresh.sound, fresh.isUniform⟩ fun _ _ label mem regular step =>
    regular.step (own label mem) step

/-! ## What runs pass -/

theorem Passes.start {s : State κ} {labels : List (Label κ)} : Passes s labels s labels :=
  ⟨[], [], rfl, .nil s⟩

theorem Passes.next {s u v : State κ} {labels later : List (Label κ)} {label : Label κ}
    {events : List (ObserverId × Event)} (passes : Passes s labels u (label :: later))
    (goes : u.step label = some (v, events)) : Passes s labels v later := by
  obtain ⟨past, before, rfl, run⟩ := passes
  exact ⟨past ++ [label], _, by simp, run.append (.cons goes (.nil v))⟩

theorem Passes.cons {s u v : State κ} {labels later : List (Label κ)} {label : Label κ}
    {events : List (ObserverId × Event)} (goes : s.step label = some (u, events))
    (passes : Passes u labels v later) : Passes s (label :: labels) v later := by
  obtain ⟨past, before, rfl, run⟩ := passes
  exact ⟨label :: past, _, rfl, .cons goes run⟩

/-- A run by labels that are put together goes through the state between them. -/
theorem Run.exists_between {s t : State κ} {first second : List (Label κ)}
    {events : List (ObserverId × Event)} (run : Run s (first ++ second) t events) :
    ∃ u before after, Run s first u before ∧ Run u second t after := by
  induction first generalizing s events with
  | nil => exact ⟨s, [], events, .nil s, run⟩
  | cons label first ih =>
      cases run with
      | cons goes run =>
          obtain ⟨u, before, after, run', run''⟩ := ih run
          exact ⟨u, _, after, .cons goes run', run''⟩

/-- Labels lead to one state. -/
theorem Run.unique {s t u : State κ} {labels : List (Label κ)}
    {events more : List (ObserverId × Event)} (run : Run s labels t events)
    (other : Run s labels u more) : u = t := by
  have same := (run_iff_follow?_eq_some.mp other).symm.trans (run_iff_follow?_eq_some.mp run)
  cases same
  rfl

/-- What a run by labels that are put together passes is passed by one of its parts. -/
theorem Passes.append_cases {s t u : State κ} {first second rest : List (Label κ)}
    {events : List (ObserverId × Event)} (run : Run s first t events)
    (passes : Passes s (first ++ second) u rest) :
    (∃ later, Passes s first u later) ∨ Passes t second u rest := by
  obtain ⟨past, before, split, run'⟩ := passes
  rcases List.append_eq_append_iff.mp split with ⟨more, rfl, rfl⟩ | ⟨more, rfl, -⟩
  · obtain ⟨v, _, after, reached, onward⟩ := run'.exists_between
    cases run.unique reached
    exact .inr ⟨more, after, rfl, onward⟩
  · exact .inl ⟨more, past, before, rfl, run'⟩

/-! ## Runs that keep calls off a cluster -/

/-- The labels lead from `s` to `t`, and all calls that work on the cluster meanwhile are among
the given ones. -/
structure Secludes (cluster : Identity) (mine : CallId → Prop) (s : State κ)
    (labels : List (Label κ)) (t : State κ) : Prop where
  own : ∀ label ∈ labels, label.IsOwn
  run : ∃ events, Run s labels t events
  alone : ∀ u rest, Passes s labels u rest → ∀ call, u.busy? call = some cluster → mine call

/-- The labels lead from `s` to `t`, and no call works on the cluster meanwhile. -/
abbrev Avoids (cluster : Identity) (s : State κ) (labels : List (Label κ)) (t : State κ) : Prop :=
  Secludes cluster (fun _ => False) s labels t

/-- Runs in which calls keep off a cluster go on from one another. -/
theorem Secludes.trans {s t u : State κ} {cluster : Identity} {mine : CallId → Prop}
    {first second : List (Label κ)} (one : Secludes cluster mine s first t)
    (two : Secludes cluster mine t second u) : Secludes cluster mine s (first ++ second) u := by
  obtain ⟨events, run⟩ := one.run
  obtain ⟨more, run'⟩ := two.run
  refine ⟨fun label mem => ?_, ⟨_, run.append run'⟩, fun v rest passes => ?_⟩
  · rcases List.mem_append.mp mem with mem | mem
    · exact one.own label mem
    · exact two.own label mem
  · rcases passes.append_cases run with ⟨later, passes⟩ | passes
    · exact one.alone v later passes
    · exact two.alone v rest passes

/-- What is known of a run is known of the rest of it. -/
theorem Secludes.tail {s t : State κ} {cluster : Identity} {mine : CallId → Prop}
    {label : Label κ} {labels : List (Label κ)}
    (secludes : Secludes cluster mine s (label :: labels) t) :
    ∃ u events, s.step label = some (u, events) ∧ Secludes cluster mine u labels t := by
  obtain ⟨events, run⟩ := secludes.run
  cases run with
  | cons goes run =>
      refine ⟨_, _, goes, fun label mem => secludes.own label (List.mem_cons_of_mem _ mem),
        ⟨_, run⟩, ?_⟩
      exact fun v later passes => secludes.alone v later (passes.cons goes)

/-- A property that holds of regular states on the way is one of the last, if each step keeps
it. -/
theorem Secludes.induction {cluster : Identity} {mine : CallId → Prop} {s t : State κ}
    {labels : List (Label κ)} (secludes : Secludes cluster mine s labels t) (regular : Regular s)
    {P : State κ → Prop} (first : P s)
    (keeps : ∀ u v label later events, Passes s labels u (label :: later) →
      u.step label = some (v, events) → label.IsOwn → Regular u → P u → P v) :
    Regular t ∧ P t := by
  obtain ⟨events, run⟩ := secludes.run
  refine run.induction_prefix (P := fun _ u => Regular u ∧ P u) ⟨regular, first⟩ ?_
  rintro past label later u v before during split run goes ⟨regular, holds⟩
  have own := secludes.own label (split ▸ by simp)
  have step := step_of_eq_some goes
  exact ⟨regular.step own step,
    keeps u v label later during ⟨past, before, split, run⟩ goes own regular holds⟩

/-- Where no call works on a cluster, nothing is done to it. -/
theorem Avoids.undisturbed {cluster : Identity} {s t : State κ} {labels : List (Label κ)}
    (avoids : Avoids cluster s labels t) (regular : Regular s) :
    Regular t ∧ Undisturbed s t cluster := by
  refine avoids.induction regular (P := fun u => Undisturbed s u cluster) (.refl s cluster) ?_
  intro u v label later events passes goes own regular undisturbed
  have step := step_of_eq_some goes
  refine undisturbed.trans (step.undisturbed regular.sound.coherent regular.sound.guarded own ?_)
  exact fun call _ works => avoids.alone u _ passes call works

instance : (label : Label κ) → Decidable label.IsOwn
  | .begin (.halt _) | .spawn _ _ _ | .signal _ => .isFalse id
  | .begin (.observe _ _) | .begin (.resolve _ _) | .begin (.create _ _) | .begin (.stop _)
  | .begin .stopAll | .begin (.get _) | .begin .list | .call _ | .enumerate _ _ | .task _ _
  | .advance _ => .isTrue trivial

/-- All calls that work on the cluster are among the given ones. -/
def State.isSecluded (s : State κ) (cluster : Identity) (mine : CallId → Prop)
    [DecidablePred mine] : Bool :=
  (List.range s.calls.length).all fun call => s.busy? call ≠ some cluster ∨ mine call

/-- The state after labels, if they can go on and all calls that work on the cluster meanwhile
are among the given ones. -/
def State.seclude? (cluster : Identity) (mine : CallId → Prop) [DecidablePred mine] :
    List (Label κ) → State κ → Option (State κ)
  | [], s => if s.isSecluded cluster mine then some s else none
  | label :: labels, s =>
      if label.IsOwn ∧ s.isSecluded cluster mine then
        (s.step label).bind fun next => next.1.seclude? cluster mine labels
      else none

omit [HasConnection κ] in
theorem State.mine_of_isSecluded {s : State κ} {cluster : Identity} {mine : CallId → Prop}
    [DecidablePred mine] (secluded : s.isSecluded cluster mine) {call : CallId}
    (works : s.busy? call = some cluster) : mine call := by
  obtain ⟨p, stands, -⟩ := State.busy?_eq_some_iff.mp works
  have among := List.mem_range.mpr (List.getElem?_eq_some_iff.mp stands).1
  exact (of_decide_eq_true (List.all_eq_true.mp secluded call among)).resolve_left (· works)

theorem secludes_of_seclude? {s t : State κ} {cluster : Identity} {mine : CallId → Prop}
    [DecidablePred mine] {labels : List (Label κ)}
    (follows : s.seclude? cluster mine labels = some t) : Secludes cluster mine s labels t := by
  induction labels generalizing s with
  | nil =>
      rw [State.seclude?] at follows
      split at follows
      · next secluded =>
          cases follows
          refine ⟨by simp, ⟨_, .nil _⟩, ?_⟩
          rintro u rest ⟨past, before, split, run⟩ call works
          obtain ⟨rfl, rfl⟩ := List.append_eq_nil_iff.mp split.symm
          cases run
          exact State.mine_of_isSecluded secluded works
      · cases follows
  | cons label labels ih =>
      rw [State.seclude?] at follows
      split at follows
      · next allowed =>
          obtain ⟨⟨u, events⟩, goes, follows⟩ := Option.bind_eq_some_iff.mp follows
          obtain ⟨own, ⟨more, run⟩, alone⟩ := ih follows
          refine ⟨List.forall_mem_cons.mpr ⟨allowed.1, own⟩, ⟨_, .cons goes run⟩, ?_⟩
          rintro v rest ⟨past, before, split, run'⟩ call works
          cases run' with
          | nil => exact State.mine_of_isSecluded allowed.2 works
          | cons goes' run' =>
              obtain ⟨rfl, rfl⟩ := List.cons.inj split
              cases goes.symm.trans goes'
              exact alone v rest ⟨_, _, rfl, run'⟩ call works
      · cases follows

/-! ## What goes on by itself -/

/-- A task runs, or time passes. -/
def Label.isBackground : Label κ → Bool
  | .task _ _ => true
  | .advance _ => true
  | _ => false

/-- What callers are concerned with of an observer: the cluster, the client and the cancel flag. -/
def look (o : Observer κ) : Identity × κ × Bool :=
  (o.cluster, o.client, o.cancelled)

/-- Tasks and time change neither who is registered nor what callers are concerned with of
observers. -/
theorem Run.looks_of_background {s t : State κ} {labels : List (Label κ)}
    {events : List (ObserverId × Event)} (run : Run s labels t events)
    (background : ∀ label ∈ labels, label.isBackground = true) :
    t.entries = s.entries ∧ t.observers.map look = s.observers.map look := by
  refine run.induction
    (P := fun u => u.entries = s.entries ∧ u.observers.map look = s.observers.map look)
    ⟨rfl, rfl⟩ ?_
  rintro u v label mem ⟨entries, looks⟩ step
  have goes := background label mem
  cases step with
  | @task id environment o known =>
      refine ⟨entries, Eq.trans (List.ext_getElem? fun n => ?_) looks⟩
      have same : look (o.run u.clock u.now (environment o.client)).1 = look o := rfl
      rw [List.getElem?_map, List.getElem?_map]
      exact map_getElem?_set known same n
  | advance => exact ⟨entries, looks⟩
  | call moves =>
      cases label with
      | task | advance => cases moves
      | _ => cases goes
  | _ => cases goes

end ClusterWatch.Observation.Registry
