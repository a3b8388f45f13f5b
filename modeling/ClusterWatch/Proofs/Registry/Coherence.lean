import ClusterWatch.Proofs.Registry.Evolution

/-!
# Entries, calls and observers fit together

A cluster has one entry at most, and that is an observer of the cluster; what a call
has in hand are observers of the cluster that it works on, which it has cancelled and
joined as far as its point says.  Every step keeps this, whoever takes it.
-/

namespace ClusterWatch.Observation.Registry

open Elasticsearch (HasConnection)
open Kubernetes (Identity)

variable {κ : Type}

/-- What a call does next, after it has stopped an observer of the given cluster, is to
create another one for it, or to stop those of other clusters. -/
def Next.Fits (cluster : Identity) : Next κ → Prop
  | .create other _ _ => other = cluster
  | .stop clusters => (cluster :: clusters).Nodup

/-- The observers that a call has in hand at a point are what the point takes them
for. -/
def Point.Fits (observers : List (Observer κ)) : Point κ → Prop
  | .find cluster next => next.Fits cluster
  | .halt stage id (some (cluster, next)) =>
      next.Fits cluster ∧
        ∃ o, observers[id]? = some o ∧ o.cluster = cluster ∧
          (stage ≠ .cancel → o.cancelled = true)
  | .remove cluster id next =>
      next.Fits cluster ∧
        ∃ o, observers[id]? = some o ∧ o.cluster = cluster ∧ o.cancelled = true ∧
          o.task.isFinished = true
  | .insert cluster id _ => ∃ o, observers[id]? = some o ∧ o.cluster = cluster
  | .displace id old _ =>
      ∃ o o', observers[id]? = some o ∧ observers[old]? = some o' ∧ o'.cluster = o.cluster
  | .read id => ∃ o, observers[id]? = some o
  | _ => True

theorem Point.Fits.mono {before after : List (Observer κ)} (evolves : Evolves before after)
    {p : Point κ} (fits : p.Fits before) : p.Fits after := by
  cases p with
  | halt stage id following =>
      cases following with
      | none => trivial
      | some following =>
          obtain ⟨next, o, known, cluster, cancelled⟩ := fits
          obtain ⟨o', known', continues⟩ := evolves id o known
          exact ⟨next, o', known', continues.cluster.trans cluster,
            fun stage => continues.cancelled (cancelled stage)⟩
  | remove cluster id next =>
      obtain ⟨next, o, known, cluster, cancelled, finished⟩ := fits
      obtain ⟨o', known', continues⟩ := evolves id o known
      exact ⟨next, o', known', continues.cluster.trans cluster, continues.cancelled cancelled,
        continues.finished finished⟩
  | insert cluster id use =>
      obtain ⟨o, known, cluster⟩ := fits
      obtain ⟨o', known', continues⟩ := evolves id o known
      exact ⟨o', known', continues.cluster.trans cluster⟩
  | displace id old use =>
      obtain ⟨o, x, known, found, cluster⟩ := fits
      obtain ⟨o', known', continues⟩ := evolves id o known
      obtain ⟨x', found', continues'⟩ := evolves old x found
      exact ⟨o', x', known', found',
        continues'.cluster.trans (cluster.trans continues.cluster.symm)⟩
  | read id =>
      obtain ⟨o, known⟩ := fits
      obtain ⟨o', known', -⟩ := evolves id o known
      exact ⟨o', known'⟩
  | _ => exact fits

/-- Once the observer has been cancelled, how far a call has come with stopping it does
not matter. -/
theorem Point.Fits.later {observers : List (Observer κ)} {stage later : Stage}
    {id : ObserverId} {after : Option (Identity × Next κ)}
    (fits : (Point.halt stage id after).Fits observers) (past : stage ≠ .cancel) :
    (Point.halt later id after).Fits observers := by
  rcases after with _ | ⟨cluster, next⟩
  · trivial
  · obtain ⟨next, o, known, cluster, cancelled⟩ := fits
    exact ⟨next, o, known, cluster, fun _ => cancelled past⟩

theorem Point.Fits.stopped {observers : List (Observer κ)} {stage : Stage} {id : ObserverId}
    {after : Option (Identity × Next κ)} {o : Observer κ}
    (fits : (Point.halt stage id after).Fits observers) (past : stage ≠ .cancel)
    (known : observers[id]? = some o) (finished : o.task.isFinished = true) :
    (pointAfterHalt id after).Fits observers := by
  rcases after with _ | ⟨cluster, next⟩
  · trivial
  · obtain ⟨next, o', known', cluster, cancelled⟩ := fits
    obtain rfl : o = o' := Option.some.inj (known.symm.trans known')
    exact ⟨next, o, known, cluster, cancelled past, finished⟩

/-- Entries, calls and observers fit together. -/
structure Coherent (s : State κ) : Prop where
  distinct : s.clusters.Nodup
  entered : ∀ cluster id, s.entry? cluster = some id →
    ∃ o, s.observers[id]? = some o ∧ o.cluster = cluster
  fits : ∀ (call : CallId) (p : Point κ), s.calls[call]? = some p → p.Fits s.observers
  joined : ∀ (id : ObserverId) (o : Observer κ), s.observers[id]? = some o → o.joined = true →
    o.task.isFinished = true

/-- A change of one observer keeps what joining says if it does so for that one. -/
theorem joined_of_modify {observers : List (Observer κ)} {id : ObserverId}
    {change : Observer κ → Observer κ}
    (joined : ∀ (other : ObserverId) (o : Observer κ), observers[other]? = some o →
      o.joined = true → o.task.isFinished = true)
    (keeps : ∀ o, observers[id]? = some o → (change o).joined = true →
      (change o).task.isFinished = true) :
    ∀ (other : ObserverId) (o : Observer κ), (observers.modify id change)[other]? = some o →
      o.joined = true → o.task.isFinished = true := by
  intro other o known isJoined
  rw [getElem?_modify_eq_ite] at known
  split at known
  · next same =>
      subst same
      obtain ⟨x, found, rfl⟩ := Option.map_eq_some_iff.mp known
      exact keeps x found isJoined
  · exact joined other o known isJoined

/-- An observer that is created has not been joined. -/
theorem joined_of_append {observers : List (Observer κ)} {observer : Observer κ}
    (joined : ∀ (other : ObserverId) (o : Observer κ), observers[other]? = some o →
      o.joined = true → o.task.isFinished = true)
    (fresh : observer.joined = false) :
    ∀ (other : ObserverId) (o : Observer κ), (observers ++ [observer])[other]? = some o →
      o.joined = true → o.task.isFinished = true := by
  intro other o known isJoined
  rcases getElem?_concat_cases known with known | ⟨rfl, rfl⟩
  · exact joined other o known isJoined
  · rw [fresh] at isJoined
    cases isJoined

theorem Coherent.entered_later {s : State κ} (coherent : Coherent s)
    {after : List (Observer κ)} (evolves : Evolves s.observers after) {cluster : Identity}
    {id : ObserverId} (entered : s.entry? cluster = some id) :
    ∃ o, after[id]? = some o ∧ o.cluster = cluster := by
  obtain ⟨o, known, named⟩ := coherent.entered cluster id entered
  obtain ⟨o', known', continues⟩ := evolves id o known
  exact ⟨o', known', continues.cluster.trans named⟩

/-! ## Points at which calls begin and go on -/

theorem Request.fits_point (request : Request κ) (observers : List (Observer κ)) :
    request.point.Fits observers := by
  cases request with
  | stop cluster => exact List.nodup_cons.mpr ⟨List.not_mem_nil, List.nodup_nil⟩
  | _ => trivial

theorem Next.Fits.point {next : Next κ} {cluster : Identity} (fits : next.Fits cluster)
    (observers : List (Observer κ)) : next.point.Fits observers := by
  rcases next with ⟨_, _, _⟩ | ⟨_ | ⟨other, rest⟩⟩
  · trivial
  · trivial
  · exact (List.nodup_cons.mp fits).2

theorem Use.fits_point {use : Use} {id : ObserverId} {observers : List (Observer κ)}
    {o : Observer κ} (known : observers[id]? = some o) :
    (use.point id : Point κ).Fits observers := by
  cases use with
  | give => trivial
  | read => exact ⟨o, known⟩

theorem fits_pointAfterList {order : List Identity} (distinct : order.Nodup) (stopping : Bool)
    (observers : List (Observer κ)) : (pointAfterList stopping order).Fits observers := by
  cases stopping with
  | false => trivial
  | true =>
      cases order with
      | nil => trivial
      | cons cluster rest => exact distinct

variable [HasConnection κ]

/-! ## What a move keeps -/

section Move

variable {s r : State κ} {call : CallId} {p q : Point κ}

theorem Coherent.distinct_of_move (coherent : Coherent s) (move : Move s call p q r) :
    r.clusters.Nodup := by
  cases move with
  | remove => exact nodup_keys_erase coherent.distinct
  | insert => exact nodup_keys_put coherent.distinct
  | displace => exact nodup_keys_put coherent.distinct
  | _ => exact coherent.distinct

theorem Coherent.entered_of_move (coherent : Coherent s) (fits : p.Fits s.observers)
    (move : Move s call p q r) (cluster : Identity) (id : ObserverId)
    (entered : r.entry? cluster = some id) :
    ∃ o, r.observers[id]? = some o ∧ o.cluster = cluster := by
  have before {cluster : Identity} {id : ObserverId} (entered : s.entry? cluster = some id) :=
    coherent.entered_later move.evolves entered
  cases move with
  | remove =>
      rw [State.entry_leave] at entered
      split at entered
      · cases entered
      · exact before entered
  | insert | displace =>
      rw [State.entry_enter] at entered
      split at entered
      · next same =>
          cases entered
          subst same
          exact fits
      · exact before entered
  | _ => exact before entered

theorem Coherent.fits_of_move (coherent : Coherent s) (fits : p.Fits s.observers)
    (move : Move s call p q r) : q.Fits r.observers := by
  have evolves := move.evolves
  cases move with
  | reuse _ known => exact Use.fits_point known
  | replace => exact rfl
  | absent => exact fits.point _
  | remove | keep => exact fits.1.point _
  | found entered =>
      obtain ⟨o, known, cluster⟩ := coherent.entered _ _ entered
      exact ⟨fits, o, known, cluster, fun stage => absurd rfl stage⟩
  | @cancel id after =>
      rcases after with _ | ⟨cluster, next⟩
      · trivial
      · obtain ⟨next, o, known, cluster, -⟩ := fits
        exact ⟨next, o.cancel, getElem?_modify_self known _, cluster, fun _ => rfl⟩
  | enqueue | acquire => exact (fits.mono evolves).later nofun
  | pass known _ joined =>
      have finished := coherent.joined _ _ known joined
      exact (fits.mono evolves).stopped nofun (getElem?_modify_self known Observer.release) finished
  | join known finished =>
      exact (fits.mono evolves).stopped nofun (getElem?_modify_self known Observer.release) finished
  | spawn => exact ⟨_, List.getElem?_concat_length, rfl⟩
  | insert =>
      obtain ⟨o, known, -⟩ := fits
      exact Use.fits_point known
  | displace entered =>
      obtain ⟨o, known, cluster⟩ := fits
      obtain ⟨o', known', cluster'⟩ := coherent.entered _ _ entered
      exact ⟨o, o', known, known', cluster'.trans cluster.symm⟩
  | supersede =>
      obtain ⟨o, -, known, -⟩ := fits
      obtain ⟨o', known', -⟩ := evolves _ o known
      exact Use.fits_point known'
  | list perm => exact fits_pointAfterList (perm.nodup_iff.mpr coherent.distinct) _ _
  | _ => trivial

theorem Coherent.joined_of_move (coherent : Coherent s) (move : Move s call p q r)
    (id : ObserverId) (o : Observer κ) (known : r.observers[id]? = some o)
    (joined : o.joined = true) : o.task.isFinished = true := by
  revert id o
  cases move with
  | @cancel id | @enqueue id | @supersede _ id =>
      exact joined_of_modify coherent.joined fun o known => coherent.joined id o known
  | @pass id after observer found _ joined =>
      refine joined_of_modify coherent.joined fun o known _ => ?_
      obtain rfl : o = observer := Option.some.inj (known.symm.trans found)
      exact coherent.joined id o known joined
  | @join id after observer found finished =>
      refine joined_of_modify coherent.joined fun o known _ => ?_
      obtain rfl : o = observer := Option.some.inj (known.symm.trans found)
      exact finished
  | spawn => exact joined_of_append coherent.joined rfl
  | _ => exact coherent.joined

end Move

/-! ## Every step keeps it -/

theorem Coherent.step {s t : State κ} {label : Label κ} (coherent : Coherent s)
    (step : Step s label t) : Coherent t := by
  have evolves := step.evolves
  have stays {call : CallId} {p : Point κ} (stands : s.calls[call]? = some p) :
      p.Fits t.observers :=
    (coherent.fits call p stands).mono evolves
  cases step with
  | @begin request =>
      refine ⟨coherent.distinct, coherent.entered, fun call p stands => ?_, coherent.joined⟩
      rcases getElem?_concat_cases stands with stands | ⟨-, rfl⟩
      · exact stays stands
      · exact request.fits_point _
  | @call label call p q r _ stands move =>
      have fits := coherent.fits call p stands
      have distinct := coherent.distinct_of_move move
      have entered := coherent.entered_of_move fits move
      have joined := coherent.joined_of_move move
      have fits' := coherent.fits_of_move fits move
      refine ⟨distinct, entered, fun other p' stands' => ?_, joined⟩
      rcases getElem?_set_cases stands' with ⟨-, rfl⟩ | ⟨-, stands'⟩
      · exact fits'
      · exact stays (by rwa [move.calls] at stands')
  | @task id environment observer known =>
      refine ⟨coherent.distinct, fun _ _ => coherent.entered_later evolves, fun _ _ => stays, ?_⟩
      · intro other o known' joined
        rcases getElem?_set_cases known' with ⟨rfl, rfl⟩ | ⟨-, known'⟩
        · have finished := coherent.joined other observer known joined
          exact (Observer.continues_run _ _ _ observer).finished finished
        · exact coherent.joined other o known' joined
  | advance => exact ⟨coherent.distinct, coherent.entered, fun _ _ => stays, coherent.joined⟩
  | spawn =>
      exact ⟨coherent.distinct, fun _ _ => coherent.entered_later evolves, fun _ _ => stays,
        joined_of_append coherent.joined rfl⟩
  | @signal id =>
      exact ⟨coherent.distinct, fun _ _ => coherent.entered_later evolves, fun _ _ => stays,
        joined_of_modify coherent.joined fun o known => coherent.joined id o known⟩

/-- A registry of which nothing has been asked yet. -/
structure State.IsFresh (s : State κ) : Prop where
  observers : s.observers = []
  entries : s.entries = []
  calls : s.calls = []

omit [HasConnection κ] in
theorem State.isFresh_empty (settings : Settings) : (State.empty settings : State κ).IsFresh :=
  ⟨rfl, rfl, rfl⟩

omit [HasConnection κ] in
theorem State.IsFresh.coherent {s : State κ} (fresh : s.IsFresh) : Coherent s where
  distinct := by simp [State.clusters, fresh.entries]
  entered := by simp [State.entry_eq_lookup, fresh.entries]
  fits := by simp [fresh.calls]
  joined := by simp [fresh.observers]

theorem Run.coherent {s t : State κ} {labels : List (Label κ)}
    {events : List (ObserverId × Event)} (run : Run s labels t events)
    (coherent : Coherent s) : Coherent t :=
  run.induction coherent fun _ _ _ _ coherent step => coherent.step step

end ClusterWatch.Observation.Registry
