import ClusterWatch.Elasticsearch.InMemory
import ClusterWatch.Proofs.Registry.Effect

/-!
# Which observers are live

In whatever order calls go on, a registered observer that is cancelled is about to be
removed by the call that cancelled it, and an observer that is neither registered nor
cancelled is in the hands of the call that creates it, or of the one that has displaced
it.  So once no call is under way, exactly the registered observers are live.

The argument needs to know who has what at hand.  An observer that a call is about to
enter is known to that call alone, and one that has been displaced is not entered again.
-/

namespace ClusterWatch.Observation.Registry

open Elasticsearch (HasConnection)
open Kubernetes (Identity)

variable {κ : Type}

/-- The label concerns observers only by means of the registry. -/
def Label.IsOwn : Label κ → Prop
  | .begin (.halt _) => False
  | .spawn _ _ _ => False
  | .signal _ => False
  | _ => True

/-- Something goes on that has begun already. -/
def Label.isOngoing : Label κ → Bool
  | .call _ => true
  | .enumerate _ _ => true
  | .task _ _ => true
  | .advance _ => true
  | _ => false

theorem Label.isOwn_of_isOngoing {label : Label κ} (ongoing : label.isOngoing = true) :
    label.IsOwn := by
  cases label with
  | begin | spawn | signal => cases ongoing
  | _ => trivial

/-- The observer that a call has cancelled and has yet to remove, with its cluster. -/
def Point.stopping? : Point κ → Option (Identity × ObserverId)
  | .halt .cancel _ _ => none
  | .halt _ id (some (cluster, _)) => some (cluster, id)
  | .remove cluster id _ => some (cluster, id)
  | _ => none

/-- The observer that a call has yet to enter, or else to cancel because it has
displaced it. -/
def Point.stray? : Point κ → Option ObserverId
  | .insert _ id _ => some id
  | .displace _ old _ => some old
  | _ => none

/-- The cluster for which a call is creating an observer. -/
def Point.creating? (observers : List (Observer κ)) : Point κ → Option Identity
  | .spawn cluster _ _ => some cluster
  | .insert cluster _ _ => some cluster
  | .displace id _ _ => observers[id]?.map Observer.cluster
  | _ => none

/-- The call stops no observer for itself. -/
def Point.IsBound : Point κ → Prop
  | .halt _ _ none => False
  | _ => True

namespace State

/-- An observer is registered for some cluster. -/
def IsRegistered (s : State κ) (id : ObserverId) : Prop :=
  ∃ cluster, s.entry? cluster = some id

/-- All calls are over. -/
def IsQuiet (s : State κ) : Prop :=
  ∀ (call : CallId) (p : Point κ), s.calls[call]? = some p → ∃ outcome, p = .finished outcome

/-- The observers of a cluster that are not cancelled. -/
def live (s : State κ) (cluster : Identity) : List ObserverId :=
  (List.range s.observers.length).filter fun id =>
    s.observers[id]?.any fun o => o.cluster = cluster && !o.cancelled

/-- An observer of a cluster is neither registered nor cancelled. -/
def IsStray (s : State κ) (cluster : Identity) (id : ObserverId) : Prop :=
  id ∈ s.live cluster ∧ ¬s.IsRegistered id

/-- The first call that has an observer to enter or to cancel. -/
def holder (s : State κ) (id : ObserverId) : CallId :=
  s.calls.findIdx fun p => p.stray? = some id

/-- The calls that are creating an observer for a cluster. -/
def creating (s : State κ) (cluster : Identity) : List CallId :=
  (List.range s.calls.length).filter fun call =>
    s.calls[call]?.any fun p => p.creating? s.observers = some cluster

theorem mem_live_iff {s : State κ} {cluster : Identity} {id : ObserverId} :
    id ∈ s.live cluster ↔
      ∃ o, s.observers[id]? = some o ∧ o.cluster = cluster ∧ o.cancelled = false := by
  simp only [live, List.mem_filter, List.mem_range, Option.any_eq_true, Bool.and_eq_true,
    decide_eq_true_eq, Bool.not_eq_true']
  constructor
  · exact And.right
  · rintro ⟨o, known, is⟩
    exact ⟨(List.getElem?_eq_some_iff.mp known).1, o, known, is⟩

theorem stray?_holder {s : State κ} {call : CallId} {p : Point κ} {id : ObserverId}
    (stands : s.calls[call]? = some p) (stray : p.stray? = some id) :
    ∃ p, s.calls[s.holder id]? = some p ∧ p.stray? = some id := by
  have within : s.holder id < s.calls.length :=
    List.findIdx_lt_length_of_exists
      ⟨p, List.mem_of_getElem? stands, decide_eq_true stray⟩
  have is : decide (s.calls[s.holder id].stray? = some id) = true :=
    List.findIdx_getElem (w := within)
  exact ⟨_, List.getElem?_eq_getElem within, of_decide_eq_true is⟩

theorem mem_creating_iff {s : State κ} {cluster : Identity} {call : CallId} :
    call ∈ s.creating cluster ↔
      ∃ p, s.calls[call]? = some p ∧ p.creating? s.observers = some cluster := by
  simp only [creating, List.mem_filter, List.mem_range, Option.any_eq_true, decide_eq_true_eq]
  constructor
  · exact And.right
  · rintro ⟨p, stands, is⟩
    exact ⟨(List.getElem?_eq_some_iff.mp stands).1, p, stands, is⟩

end State

/-- Who has which observers at hand. -/
structure Guarded (s : State κ) : Prop where
  /-- No call stops an observer for itself. -/
  bound : ∀ (call : CallId) (p : Point κ), s.calls[call]? = some p → p.IsBound
  /-- An observer that is about to be entered is live, and known to one call only. -/
  pending : ∀ (call : CallId) (cluster : Identity) (id : ObserverId) (use : Use),
    s.calls[call]? = some (.insert cluster id use) →
      s.cancelled? id = some false ∧ ¬s.IsRegistered id ∧
        ∀ (other : CallId) (p : Point κ), s.calls[other]? = some p → p.atHand? = some id →
          other = call
  /-- An observer that has been displaced is not registered. -/
  displaced : ∀ (call : CallId) (id old : ObserverId) (use : Use),
    s.calls[call]? = some (.displace id old use) → ¬s.IsRegistered old
  /-- An observer that is registered and cancelled is about to be removed. -/
  stopping : ∀ (cluster : Identity) (id : ObserverId), s.entry? cluster = some id →
    s.cancelled? id = some true →
      ∃ (call : CallId) (p : Point κ), s.calls[call]? = some p ∧
        p.stopping? = some (cluster, id)
  /-- An observer that is neither registered nor cancelled is in some call's hands. -/
  stray : ∀ id : ObserverId, s.cancelled? id = some false → ¬s.IsRegistered id →
    ∃ (call : CallId) (p : Point κ), s.calls[call]? = some p ∧ p.stray? = some id

/-- What a call has at hand exists. -/
theorem Point.Fits.exists_atHand {observers : List (Observer κ)} {p : Point κ}
    {id : ObserverId} (fits : p.Fits observers) (bound : p.IsBound)
    (holds : p.atHand? = some id) : ∃ o, observers[id]? = some o := by
  cases p with
  | halt stage other after =>
      cases holds
      rcases after with _ | ⟨cluster, next⟩
      · exact bound.elim
      · obtain ⟨-, o, known, -⟩ := fits
        exact ⟨o, known⟩
  | remove cluster other next =>
      cases holds
      obtain ⟨-, o, known, -⟩ := fits
      exact ⟨o, known⟩
  | insert cluster other use =>
      cases holds
      obtain ⟨o, known, -⟩ := fits
      exact ⟨o, known⟩
  | displace new old use =>
      cases holds
      obtain ⟨-, o, -, known, -⟩ := fits
      exact ⟨o, known⟩
  | _ => cases holds

/-! ## Calls on the registry -/

theorem Request.isBound_point {request : Request κ} (own : (Label.begin request).IsOwn) :
    request.point.IsBound := by
  cases request with
  | halt id => exact own.elim
  | _ => trivial

theorem Request.atHand?_point {request : Request κ} (own : (Label.begin request).IsOwn) :
    request.point.atHand? = none := by
  cases request with
  | halt id => exact own.elim
  | _ => rfl

theorem Next.isBound_point (next : Next κ) : next.point.IsBound := by
  rcases next with ⟨_, _, _⟩ | ⟨_ | ⟨_, _⟩⟩ <;> trivial

theorem Use.isBound_point (use : Use) (id : ObserverId) :
    (use.point id : Point κ).IsBound := by
  cases use <;> trivial

theorem isBound_pointAfterList (stopping : Bool) (order : List Identity) :
    (pointAfterList stopping order : Point κ).IsBound := by
  cases stopping with
  | false => trivial
  | true => exact Next.isBound_point (.stop order)

variable [HasConnection κ]

section Move

variable {s r : State κ} {call : CallId} {p q : Point κ}

theorem Move.isBound (move : Move s call p q r) (bound : p.IsBound) : q.IsBound := by
  cases move with
  | reuse | insert | supersede => exact Use.isBound_point _ _
  | absent | remove | keep => exact Next.isBound_point _
  | list => exact isBound_pointAfterList _ _
  | @cancel _ after | @enqueue _ after | @acquire _ after =>
      cases after with
      | none => exact bound.elim
      | some => trivial
  | @pass _ after | @join _ after => cases after <;> trivial
  | _ => trivial

/-- A call that has cancelled an observer holds on to it until it has removed it. -/
theorem Move.stopping? (move : Move s call p q r) {cluster : Identity} {id : ObserverId}
    (stops : p.stopping? = some (cluster, id)) :
    q.stopping? = some (cluster, id) ∨ r.entry? cluster ≠ some id := by
  cases move with
  | cancel => cases stops
  | @enqueue _ after | @acquire _ after | @pass _ after | @join _ after =>
      cases after with
      | none => cases stops
      | some after => exact .inl stops
  | remove entered =>
      cases stops
      right
      rw [State.entry_leave, if_pos rfl]
      nofun
  | keep other =>
      cases stops
      exact .inr other
  | _ => cases stops

/-- What a call does with an observer at hand is to enter it or to cancel it. -/
theorem Move.stray? (move : Move s call p q r) {id : ObserverId} (stray : p.stray? = some id) :
    r.IsRegistered id ∨ r.cancelled? id = (s.cancelled? id).map fun _ => true := by
  cases move with
  | @insert cluster | @displace cluster =>
      cases stray
      exact .inl ⟨cluster, by rw [State.entry_enter, if_pos rfl]⟩
  | supersede =>
      cases stray
      exact .inr (by rw [State.cancelled?_update_cancel, if_pos rfl])
  | _ => cases stray

/-- An observer that is about to be entered stays live and unregistered as long as the
call that is about to enter it does nothing. -/
theorem Guarded.pending_of_move (guarded : Guarded s) (coherent : Coherent s)
    (stands : s.calls[call]? = some p) (move : Move s call p q r) {k : CallId}
    {cluster : Identity} {id : ObserverId} {use : Use}
    (inserts : (s.calls.set call q)[k]? = some (.insert cluster id use)) :
    r.cancelled? id = some false ∧ ¬r.IsRegistered id ∧
      ∀ (other : CallId) (p : Point κ), (s.calls.set call q)[other]? = some p →
        p.atHand? = some id → other = k := by
  have exists_of_atHand {other : CallId} {p : Point κ} (stands : s.calls[other]? = some p)
      (holds : p.atHand? = some id) : ∃ o, s.observers[id]? = some o :=
    (coherent.fits other p stands).exists_atHand (guarded.bound other p stands) holds
  rcases getElem?_set_cases inserts with ⟨rfl, rfl⟩ | ⟨elsewhere, stood⟩
  · -- The call has just created the observer, so its number is new.
    obtain ⟨rfl, client, rfl, rfl⟩ := move.of_insert
    have unknown : ¬∃ o, s.observers[s.observers.length]? = some o := by simp
    refine ⟨?_, ?_, fun other p' stands' holds => ?_⟩
    · rw [State.cancelled?_add, if_pos rfl]
    · rintro ⟨other, entered⟩
      obtain ⟨o, known, -⟩ := coherent.entered other _ entered
      exact unknown ⟨o, known⟩
    · rcases getElem?_set_cases stands' with ⟨rfl, -⟩ | ⟨-, stands'⟩
      · rfl
      · exact (unknown (exists_of_atHand stands' holds)).elim
  · obtain ⟨live, unregistered, unique⟩ := guarded.pending k cluster id use stood
    have apart : p.atHand? ≠ some id := fun holds =>
      elsewhere (unique call p stands holds).symm
    refine ⟨?_, ?_, fun other p' stands' holds => ?_⟩
    · rcases move.cancelled_cases id with same | ⟨-, ⟨after, rfl⟩ | ⟨new, use, rfl⟩⟩ | ⟨fresh, -⟩
      · exact same.trans live
      · exact (apart rfl).elim
      · exact (apart rfl).elim
      · rw [live] at fresh
        cases fresh
    · rintro ⟨other, entered⟩
      rcases move.entry_cases other with same | ⟨-, -, -, -, gone⟩ | ⟨new, use, rfl, put, -⟩
      · exact unregistered ⟨other, same ▸ entered⟩
      · rw [gone] at entered
        cases entered
      · exact apart (put.symm.trans entered)
    · rcases getElem?_set_cases stands' with ⟨rfl, rfl⟩ | ⟨-, stands'⟩
      · rcases move.atHand? holds with holds | registered | rfl
        · exact (apart holds).elim
        · exact (unregistered registered).elim
        · obtain ⟨o, known, -⟩ := coherent.fits k _ stood
          simp at known
      · exact unique other p' stands' holds

/-- An observer that has been displaced is not entered again. -/
theorem Guarded.displaced_of_move (guarded : Guarded s) (coherent : Coherent s)
    (stands : s.calls[call]? = some p) (move : Move s call p q r) {k : CallId}
    {id old : ObserverId} {use : Use}
    (displaces : (s.calls.set call q)[k]? = some (.displace id old use)) :
    ¬r.IsRegistered old := by
  rintro ⟨cluster, entered⟩
  rcases getElem?_set_cases displaces with ⟨rfl, rfl⟩ | ⟨elsewhere, displaces⟩
  · obtain ⟨other, rfl, before, rfl⟩ := move.of_displace
    obtain ⟨-, unregistered, -⟩ := guarded.pending k other id use stands
    rw [State.entry_enter] at entered
    split at entered
    · next same =>
        cases entered
        exact unregistered ⟨other, before⟩
    · next differs =>
        obtain ⟨o, known, named⟩ := coherent.entered cluster old entered
        obtain ⟨o', known', named'⟩ := coherent.entered other old before
        obtain rfl : o = o' := Option.some.inj (known.symm.trans known')
        exact differs (named.symm.trans named')
  · have unregistered := guarded.displaced k id old use displaces
    rcases move.entry_cases cluster with same | ⟨-, -, -, -, gone⟩ | ⟨new, use', rfl, put, -⟩
    · exact unregistered ⟨cluster, same ▸ entered⟩
    · rw [gone] at entered
      cases entered
    · obtain rfl : new = old := Option.some.inj (put.symm.trans entered)
      obtain ⟨-, -, unique⟩ := guarded.pending call cluster new use' stands
      exact elsewhere (unique k _ displaces rfl)

/-- An observer that is registered and cancelled stays in the hands of a call until it
is removed. -/
theorem Guarded.stopping_of_move (guarded : Guarded s) (coherent : Coherent s)
    (stands : s.calls[call]? = some p)
    (move : Move s call p q r) {cluster : Identity} {id : ObserverId}
    (entered : r.entry? cluster = some id) (cancelled : r.cancelled? id = some true) :
    ∃ (k : CallId) (p : Point κ), (s.calls.set call q)[k]? = some p ∧
      p.stopping? = some (cluster, id) := by
  have here : (s.calls.set call q)[call]? = some q :=
    List.getElem?_set_self (List.getElem?_eq_some_iff.mp stands).1
  have before : s.entry? cluster = some id := by
    rcases move.entry_cases cluster with same | ⟨-, -, -, -, gone⟩ | ⟨new, use, rfl, put, -⟩
    · exact same ▸ entered
    · rw [gone] at entered
      cases entered
    · -- An observer that has just been entered is live.
      obtain rfl : new = id := Option.some.inj (put.symm.trans entered)
      obtain ⟨live, -, -⟩ := guarded.pending call cluster new use stands
      rcases move.cancelled_cases new with same | ⟨-, ⟨_, eq⟩ | ⟨_, _, eq⟩⟩ | ⟨-, live', -⟩
      · rw [same, live] at cancelled
        cases cancelled
      · cases eq
      · cases eq
      · rw [live'] at cancelled
        cases cancelled
  rcases move.cancelled_cases id with same | ⟨-, ⟨after, rfl⟩ | ⟨new, use, rfl⟩⟩ | ⟨-, live, -⟩
  · obtain ⟨k, p', stands', stops⟩ := guarded.stopping cluster id before (same ▸ cancelled)
    by_cases own : k = call
    · subst own
      obtain rfl : p = p' := Option.some.inj (stands.symm.trans stands')
      rcases move.stopping? stops with stops | removed
      · exact ⟨k, q, here, stops⟩
      · exact (removed entered).elim
    · exact ⟨k, p', (List.getElem?_set_ne (Ne.symm own)).trans stands', stops⟩
  · -- The flag has just been set by a call that stops the observer.
    have bound := guarded.bound call _ stands
    have fits := coherent.fits call _ stands
    rcases after with _ | ⟨other, next⟩
    · exact bound.elim
    · obtain ⟨-, o, known, named, -⟩ := fits
      obtain ⟨o', known', named'⟩ := coherent.entered cluster id before
      obtain rfl : o = o' := Option.some.inj (known.symm.trans known')
      obtain rfl : other = cluster := named.symm.trans named'
      cases move with
      | cancel => exact ⟨call, _, here, rfl⟩
  · exact (guarded.displaced call new id use stands ⟨cluster, before⟩).elim
  · rw [live] at cancelled
    cases cancelled

/-- An observer that is neither registered nor cancelled stays in the hands of a call. -/
theorem Guarded.stray_of_move (guarded : Guarded s) (coherent : Coherent s)
    (stands : s.calls[call]? = some p) (move : Move s call p q r) {id : ObserverId}
    (live : r.cancelled? id = some false) (unregistered : ¬r.IsRegistered id) :
    ∃ (k : CallId) (p : Point κ), (s.calls.set call q)[k]? = some p ∧
      p.stray? = some id := by
  have here : (s.calls.set call q)[call]? = some q :=
    List.getElem?_set_self (List.getElem?_eq_some_iff.mp stands).1
  have before : s.cancelled? id = some false ∨ ∃ cluster use, q = .insert cluster id use := by
    rcases move.cancelled_cases id with same | ⟨cancelled, -⟩ | ⟨-, -, -, created⟩
    · exact .inl (same ▸ live)
    · rw [cancelled] at live
      cases live
    · exact .inr created
  rcases before with before | ⟨cluster, use, rfl⟩
  · by_cases registered : s.IsRegistered id
    · -- The entry has just been taken from it.
      obtain ⟨cluster, entered⟩ := registered
      rcases move.entry_cases cluster with same | ⟨id', next, rfl, entered', -⟩ |
          ⟨new, use, rfl, -, absent | ⟨old, entered', rfl⟩⟩
      · exact (unregistered ⟨cluster, same.trans entered⟩).elim
      · obtain rfl : id = id' := Option.some.inj (entered.symm.trans entered')
        obtain ⟨-, o, known, -, cancelled, -⟩ := coherent.fits call _ stands
        obtain ⟨o', known', live⟩ := State.cancelled?_eq_some_iff.mp before
        obtain rfl : o = o' := Option.some.inj (known.symm.trans known')
        rw [cancelled] at live
        cases live
      · rw [absent] at entered
        cases entered
      · obtain rfl : id = old := Option.some.inj (entered.symm.trans entered')
        exact ⟨call, _, here, rfl⟩
    · obtain ⟨k, p', stands', stray⟩ := guarded.stray id before registered
      by_cases own : k = call
      · subst own
        obtain rfl : p = p' := Option.some.inj (stands.symm.trans stands')
        rcases move.stray? stray with registered | cancelled
        · exact (unregistered registered).elim
        · rw [cancelled, before] at live
          cases live
      · exact ⟨k, p', (List.getElem?_set_ne (Ne.symm own)).trans stands', stray⟩
  · exact ⟨call, _, here, rfl⟩

end Move

/-! ## Every step keeps it -/

omit [HasConnection κ] in
/-- Calls that have nothing at hand may join in. -/
theorem Guarded.frame {s t : State κ} (guarded : Guarded s) (entries : t.entry? = s.entry?)
    (flags : t.cancelled? = s.cancelled?)
    (kept : ∀ (k : CallId) (p : Point κ), s.calls[k]? = some p → t.calls[k]? = some p)
    (new : ∀ (k : CallId) (p : Point κ), t.calls[k]? = some p →
      s.calls[k]? = some p ∨ (p.IsBound ∧ p.atHand? = none)) : Guarded t := by
  have registered (id : ObserverId) : t.IsRegistered id ↔ s.IsRegistered id := by
    rw [State.IsRegistered, State.IsRegistered, entries]
  have old {k : CallId} {p : Point κ} {id : ObserverId} (stands : t.calls[k]? = some p)
      (holds : p.atHand? = some id) : s.calls[k]? = some p := by
    rcases new k p stands with stood | ⟨-, nothing⟩
    · exact stood
    · rw [nothing] at holds
      cases holds
  refine ⟨fun k p stands => ?_, fun k cluster id use inserts => ?_,
    fun k id old' use displaces => ?_, fun cluster id entered cancelled => ?_,
    fun id live unregistered => ?_⟩
  · rcases new k p stands with stood | ⟨bound, -⟩
    · exact guarded.bound k p stood
    · exact bound
  · obtain ⟨live, unregistered, unique⟩ :=
      guarded.pending k cluster id use (old inserts rfl)
    refine ⟨flags ▸ live, fun entered => unregistered ((registered id).mp entered), ?_⟩
    intro other p stands holds
    exact unique other p (old stands holds) holds
  · exact fun entered =>
      guarded.displaced k id old' use (old displaces rfl) ((registered old').mp entered)
  · obtain ⟨k, p, stood, stops⟩ :=
      guarded.stopping cluster id (entries ▸ entered) (flags ▸ cancelled)
    exact ⟨k, p, kept k p stood, stops⟩
  · obtain ⟨k, p, stood, stray⟩ :=
      guarded.stray id (flags ▸ live) fun entered => unregistered ((registered id).mpr entered)
    exact ⟨k, p, kept k p stood, stray⟩

theorem Guarded.step {s t : State κ} {label : Label κ} (guarded : Guarded s)
    (coherent : Coherent s) (own : label.IsOwn) (step : Step s label t) : Guarded t := by
  cases step with
  | @begin request =>
      refine guarded.frame rfl rfl (fun k p stood => ?_) fun k p stands => ?_
      · exact (List.getElem?_append_left (List.getElem?_eq_some_iff.mp stood).1).trans stood
      · rcases getElem?_concat_cases stands with stood | ⟨-, rfl⟩
        · exact .inl stood
        · exact .inr ⟨Request.isBound_point own, Request.atHand?_point own⟩
  | @call label call p q r _ stands move =>
      have calls := move.calls_goto
      refine ⟨fun k p' stands' => ?_, fun k cluster id use inserts => ?_,
        fun k id old use displaces => ?_, fun cluster id entered cancelled => ?_,
        fun id live unregistered => ?_⟩
      · rcases getElem?_set_cases (calls ▸ stands') with ⟨-, rfl⟩ | ⟨-, stood⟩
        · exact move.isBound (guarded.bound call p stands)
        · exact guarded.bound k p' stood
      · rw [calls] at inserts ⊢
        exact guarded.pending_of_move coherent stands move inserts
      · rw [calls] at displaces
        exact guarded.displaced_of_move coherent stands move displaces
      · rw [calls]
        exact guarded.stopping_of_move coherent stands move entered cancelled
      · rw [calls]
        exact guarded.stray_of_move coherent stands move live unregistered
  | task known =>
      exact guarded.frame rfl (State.cancelled?_replace known rfl) (fun _ _ => id) fun _ _ => .inl
  | advance => exact guarded.frame rfl rfl (fun _ _ => id) fun _ _ => .inl
  | spawn => exact own.elim
  | signal => exact own.elim

omit [HasConnection κ] in
theorem State.IsFresh.guarded {s : State κ} (fresh : s.IsFresh) : Guarded s where
  bound := by simp [fresh.calls]
  pending := by simp [fresh.calls]
  displaced := by simp [fresh.calls]
  stopping := by simp [State.entry_eq_lookup, fresh.entries]
  stray := by simp [State.cancelled?, fresh.observers]

theorem Run.guarded {s t : State κ} {labels : List (Label κ)}
    {events : List (ObserverId × Event)} (run : Run s labels t events) (coherent : Coherent s)
    (guarded : Guarded s) (own : ∀ label ∈ labels, label.IsOwn) : Coherent t ∧ Guarded t := by
  refine run.induction (P := fun t => Coherent t ∧ Guarded t) ⟨coherent, guarded⟩ ?_
  intro t u label mem ⟨coherent, guarded⟩ step
  exact ⟨coherent.step step, guarded.step coherent (own label mem) step⟩

/-! ## What follows for the observers of a cluster -/

section Live

variable {s : State κ} (coherent : Coherent s) (guarded : Guarded s)

include coherent

omit [HasConnection κ] in
/-- A registered observer is registered for its own cluster. -/
theorem Coherent.entry_of_isRegistered {id : ObserverId} {o : Observer κ}
    (known : s.observers[id]? = some o) (registered : s.IsRegistered id) :
    s.entry? o.cluster = some id := by
  obtain ⟨cluster, entered⟩ := registered
  obtain ⟨o', known', named⟩ := coherent.entered cluster id entered
  obtain rfl : o = o' := Option.some.inj (known.symm.trans known')
  exact named ▸ entered

omit [HasConnection κ] in
theorem Coherent.creating?_of_stray? {call : CallId} {p : Point κ} {id : ObserverId}
    {o : Observer κ} (stands : s.calls[call]? = some p) (stray : p.stray? = some id)
    (known : s.observers[id]? = some o) : p.creating? s.observers = some o.cluster := by
  have fits := coherent.fits call p stands
  cases p with
  | insert cluster other use =>
      cases stray
      obtain ⟨o', known', named⟩ := fits
      obtain rfl : o = o' := Option.some.inj (known.symm.trans known')
      exact congrArg some named.symm
  | displace new old use =>
      cases stray
      obtain ⟨x, o', known', known'', named⟩ := fits
      obtain rfl : o = o' := Option.some.inj (known.symm.trans known'')
      rw [Point.creating?, known', named]
      rfl
  | _ => cases stray

include guarded

omit [HasConnection κ] in
/-- A live observer of a cluster is the registered one, or some call that creates an
observer for the cluster has it at hand. -/
theorem Guarded.live_subset (cluster : Identity) : s.live cluster ⊆
    (s.entry? cluster).toList ++ (s.creating cluster).filterMap fun call =>
      s.calls[call]?.bind Point.stray? := by
  intro id mem
  obtain ⟨o, known, rfl, live⟩ := State.mem_live_iff.mp mem
  rw [List.mem_append]
  by_cases registered : s.IsRegistered id
  · left
    rw [Option.mem_toList]
    exact coherent.entry_of_isRegistered known registered
  · right
    have flag : s.cancelled? id = some false := State.cancelled?_eq_some_iff.mpr ⟨o, known, live⟩
    obtain ⟨call, p, stands, stray⟩ := guarded.stray id flag registered
    have creates := coherent.creating?_of_stray? stands stray known
    refine List.mem_filterMap.mpr ⟨call, State.mem_creating_iff.mpr ⟨p, stands, creates⟩, ?_⟩
    rw [stands]
    exact stray

omit [HasConnection κ] in
theorem Guarded.length_live_le (cluster : Identity) :
    (s.live cluster).length ≤ 1 + (s.creating cluster).length := by
  have distinct : (s.live cluster).Nodup := List.nodup_range.filter _
  calc
    (s.live cluster).length ≤ _ :=
      distinct.length_le_of_subset (guarded.live_subset coherent cluster)
    _ = (s.entry? cluster).toList.length + _ := List.length_append
    _ ≤ 1 + (s.creating cluster).length :=
      Nat.add_le_add (by cases s.entry? cluster <;> simp) (List.length_filterMap_le _ _)

omit [HasConnection κ] in
theorem Guarded.holder_of_isStray {cluster : Identity} {id : ObserverId}
    (stray : s.IsStray cluster id) :
    s.holder id ∈ s.creating cluster ∧
      ∃ p, s.calls[s.holder id]? = some p ∧ p.stray? = some id := by
  obtain ⟨mem, unregistered⟩ := stray
  obtain ⟨o, known, rfl, live⟩ := State.mem_live_iff.mp mem
  have flag := State.cancelled?_eq_some_iff.mpr ⟨o, known, live⟩
  obtain ⟨_, _, stood, has⟩ := guarded.stray id flag unregistered
  obtain ⟨p, stands, holds⟩ := State.stray?_holder stood has
  have creates := coherent.creating?_of_stray? stands holds known
  exact ⟨State.mem_creating_iff.mpr ⟨p, stands, creates⟩, p, stands, holds⟩

omit [HasConnection κ] in
/-- No call has two observers to enter or to cancel. -/
theorem Guarded.holder_injective {cluster cluster' : Identity} {id id' : ObserverId}
    (stray : s.IsStray cluster id) (stray' : s.IsStray cluster' id')
    (same : s.holder id = s.holder id') : id = id' := by
  obtain ⟨-, p, stands, holds⟩ := guarded.holder_of_isStray coherent stray
  obtain ⟨-, p', stands', holds'⟩ := guarded.holder_of_isStray coherent stray'
  rw [same, stands'] at stands
  cases stands
  exact Option.some.inj (holds.symm.trans holds')

omit [HasConnection κ] in
/-- With no call under way, nothing is about to be stopped or created. -/
theorem Guarded.live_of_isQuiet (quiet : s.IsQuiet) :
    (∀ (cluster : Identity) (id : ObserverId), s.entry? cluster = some id →
      s.cancelled? id = some false) ∧
    ∀ (id : ObserverId) (o : Observer κ), s.observers[id]? = some o →
      s.entry? o.cluster = some id ∨ o.cancelled = true := by
  constructor
  · intro cluster id entered
    obtain ⟨o, known, -⟩ := coherent.entered cluster id entered
    cases flag : o.cancelled with
    | false => exact State.cancelled?_eq_some_iff.mpr ⟨o, known, flag⟩
    | true =>
        have cancelled := State.cancelled?_eq_some_iff.mpr ⟨o, known, flag⟩
        obtain ⟨call, p, stands, stops⟩ := guarded.stopping cluster id entered cancelled
        obtain ⟨outcome, rfl⟩ := quiet call p stands
        cases stops
  · intro id o known
    cases flag : o.cancelled with
    | true => exact .inr rfl
    | false =>
        left
        by_cases registered : s.IsRegistered id
        · exact coherent.entry_of_isRegistered known registered
        · have live := State.cancelled?_eq_some_iff.mpr ⟨o, known, flag⟩
          obtain ⟨call, p, stands, stray⟩ := guarded.stray id live registered
          obtain ⟨outcome, rfl⟩ := quiet call p stands
          cases stray

end Live

/-- In every state that calls on a fresh registry can lead to, whatever their order:

* a registered observer that is cancelled is in the hands of a call that stops it and has
  yet to remove it,
* the observers of a cluster that are neither registered nor cancelled are in the hands of
  as many calls that create observers for it, so that it has at most one live observer
  more than there are such calls,
* with no call under way, the registered observers are live, and all others are
  cancelled. -/
theorem live_observers_of_run {s t : State κ} {labels : List (Label κ)}
    {events : List (ObserverId × Event)} (fresh : s.IsFresh)
    (own : ∀ label ∈ labels, label.IsOwn) (run : Run s labels t events) :
    (∀ (cluster : Identity) (id : ObserverId), t.entry? cluster = some id →
      t.cancelled? id = some true →
        ∃ (call : CallId) (p : Point κ), t.calls[call]? = some p ∧
          p.stopping? = some (cluster, id)) ∧
    (∃ creator : ObserverId → CallId,
      (∀ cluster id, t.IsStray cluster id → creator id ∈ t.creating cluster) ∧
        ∀ cluster cluster' id id', t.IsStray cluster id → t.IsStray cluster' id' →
          creator id = creator id' → id = id') ∧
    (∀ cluster, (t.live cluster).length ≤ 1 + (t.creating cluster).length) ∧
    (t.IsQuiet →
      (∀ (cluster : Identity) (id : ObserverId), t.entry? cluster = some id →
        t.cancelled? id = some false) ∧
      ∀ (id : ObserverId) (o : Observer κ), t.observers[id]? = some o →
        t.entry? o.cluster = some id ∨ o.cancelled = true) := by
  obtain ⟨coherent, guarded⟩ := run.guarded fresh.coherent fresh.guarded own
  refine ⟨guarded.stopping, ⟨t.holder, ?_, ?_⟩, guarded.length_live_le coherent,
    guarded.live_of_isQuiet coherent⟩
  · exact fun cluster id stray => (guarded.holder_of_isStray coherent stray).1
  · exact fun cluster cluster' id id' => guarded.holder_injective coherent

/-- Two calls create an observer each for one cluster.  The second has displaced the
observer of the first, and has yet to cancel it. -/
theorem live_observers_of_run_overlapping :
    let client : Elasticsearch.InMemory.Client := ⟨0, "https://a:9200", none, []⟩
    let cluster : Identity := ⟨"default", "a"⟩
    ∃ t events, Run (.empty .default) [.begin (.create cluster client),
        .begin (.create cluster client), .call 0, .call 1, .call 0, .call 1] t events ∧
      t.live cluster = [0, 1] ∧ t.entry? cluster = some 1 ∧
      (t.live cluster).length ≤ 1 + (t.creating cluster).length := by
  intro client cluster
  obtain ⟨t, events, run, live, entered⟩ : ∃ t events, Run (.empty .default)
      [.begin (.create cluster client), .begin (.create cluster client), .call 0, .call 1,
        .call 0, .call 1] t events ∧ t.live cluster = [0, 1] ∧ t.entry? cluster = some 1 :=
    ⟨_, _, run_iff_follow?_eq_some.mpr rfl, rfl, rfl⟩
  have own : ∀ label ∈ ([.begin (.create cluster client), .begin (.create cluster client),
      .call 0, .call 1, .call 0, .call 1] : List (Label Elasticsearch.InMemory.Client)),
      label.IsOwn := by
    simp [Label.IsOwn]
  have safe := live_observers_of_run (State.isFresh_empty .default) own run
  exact ⟨t, events, run, live, entered, safe.2.2.1 cluster⟩

end ClusterWatch.Observation.Registry
