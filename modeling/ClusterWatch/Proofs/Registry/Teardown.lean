import ClusterWatch.Proofs.Registry.Simulation

/-!
# What becomes of an observer that is stopped

A call that stops the observer of a cluster looks for it once.  From there on it is out for
that one observer, whatever is entered for the cluster in the meantime.  Once the call is
through, the observer is over for good: nobody has it at hand to enter it, since only live
observers are entered, and a call that begins later cannot come by it.
-/

namespace ClusterWatch.Observation.Registry

open Elasticsearch (HasConnection)
open Kubernetes (Identity)

variable {κ : Type}

/-- What a call does that has found the observer of a cluster in order to stop it: the
cluster, the observer, and what comes once it has been removed. -/
def Point.teardown? : Point κ → Option (Identity × ObserverId × Next κ)
  | .halt _ id (some (cluster, next)) => some (cluster, id, next)
  | .remove cluster id next => some (cluster, id, next)
  | _ => none

/-- The observer that a call has given back, or has come by to give it back. -/
def Point.gives? : Point κ → Option ObserverId
  | .insert _ id _ => some id
  | .displace id _ _ => some id
  | .read id => some id
  | .finished (.observer id) => some id
  | .finished (.entry id) => id
  | _ => none

/-- What a call does next takes the entry of a cluster from an observer. -/
inductive Point.Unseats (cluster : Identity) (id : ObserverId) : Point κ → Prop where
  | remove {next : Next κ} : Unseats cluster id (.remove cluster id next)
  | displace {new : ObserverId} {use : Use} : Unseats cluster id (.insert cluster new use)

@[simp]
theorem Next.gives?_point (next : Next κ) : next.point.gives? = none := by
  rcases next with ⟨_, _, _⟩ | ⟨_ | ⟨_, _⟩⟩ <;> rfl

@[simp]
theorem Use.gives?_point (use : Use) (id : ObserverId) :
    (use.point id : Point κ).gives? = some id := by
  cases use <;> rfl

theorem gives?_pointAfterList (stopping : Bool) (order : List Identity) :
    (pointAfterList stopping order : Point κ).gives? = none := by
  cases stopping with
  | false => rfl
  | true => exact Next.gives?_point (.stop order)

theorem Request.gives?_point (request : Request κ) : request.point.gives? = none := by
  cases request <;> rfl

/-- A teardown takes no entry but that of its own observer. -/
theorem Point.Unseats.of_teardown {p : Point κ} {cluster place : Identity}
    {id other : ObserverId} {next : Next κ} (unseats : p.Unseats place other)
    (tears : p.teardown? = some (cluster, id, next)) : other = id := by
  cases unseats with
  | remove =>
      cases tears
      rfl
  | displace => cases tears

namespace State

/-- A call is on with the teardown of an observer. -/
def Tears (s : State κ) (call : CallId) (job : Identity × ObserverId × Next κ) : Prop :=
  ∃ p, s.calls[call]? = some p ∧ p.teardown? = some job

/-- An observer is over. -/
structure HasEnded (s : State κ) (id : ObserverId) : Prop where
  stopped : ∃ o, s.observers[id]? = some o ∧ o.cancelled = true ∧ o.task.isFinished = true
  unregistered : ¬s.IsRegistered id

end State

variable [HasConnection κ]

section Move

variable {s r : State κ} {call : CallId} {p q : Point κ}

/-- A call that is on with a teardown goes on with it, or removes the entry of the observer
if that is still there. -/
theorem Move.teardown_cases (move : Move s call p q r) {cluster : Identity} {id : ObserverId}
    {next : Next κ} (tears : p.teardown? = some (cluster, id, next)) :
    q.teardown? = some (cluster, id, next) ∨
      (p = .remove cluster id next ∧ q = next.point ∧ r.observers = s.observers ∧
        r.entry? cluster ≠ some id) := by
  cases move with
  | @cancel _ after | @enqueue _ after | @acquire _ after | @pass _ after | @join _ after =>
      cases after with
      | none => cases tears
      | some => exact .inl tears
  | remove =>
      cases tears
      refine .inr ⟨rfl, rfl, rfl, ?_⟩
      rw [State.entry_leave, if_pos rfl]
      nofun
  | keep other =>
      cases tears
      exact .inr ⟨rfl, rfl, rfl, other⟩
  | _ => cases tears

/-- A call comes by an observer by its entry, or by creating it. -/
theorem Move.gives? (move : Move s call p q r) {id : ObserverId} (gives : q.gives? = some id) :
    p.gives? = some id ∨ s.IsRegistered id ∨ id = s.observers.length := by
  cases move with
  | @reuse cluster client use other observer entered =>
      rw [Use.gives?_point] at gives
      cases gives
      exact .inr (.inl ⟨_, entered⟩)
  | spawn =>
      cases gives
      exact .inr (.inr rfl)
  | insert | supersede =>
      rw [Use.gives?_point] at gives
      exact .inl gives
  | displace => exact .inl gives
  | get => exact .inr (.inl ⟨_, gives⟩)
  | absent | remove | keep =>
      rw [Next.gives?_point] at gives
      cases gives
  | list =>
      rw [gives?_pointAfterList] at gives
      cases gives
  | @pass _ after | @join _ after => cases after <;> cases gives
  | _ => cases gives

/-- An entry is lost only to a call that takes it. -/
theorem Move.entry_or_unseats (move : Move s call p q r) {cluster : Identity}
    {id : ObserverId} (entered : s.entry? cluster = some id) :
    r.entry? cluster = some id ∨ p.Unseats cluster id := by
  rcases move.entry_cases cluster with same | ⟨other, next, rfl, entered', -⟩ | ⟨new, use, rfl, -⟩
  · exact .inl (same.trans entered)
  · cases entered.symm.trans entered'
    exact .inr .remove
  · exact .inr .displace

end Move

/-! ## Every step keeps it -/

section Step

variable {s t : State κ} {label : Label κ}

/-- An observer that is over stays so. -/
theorem State.HasEnded.step {id : ObserverId} (ended : s.HasEnded id) (guarded : Guarded s)
    (step : Step s label t) : t.HasEnded id := by
  obtain ⟨o, known, cancelled, finished⟩ := ended.stopped
  constructor
  · obtain ⟨o', known', continues⟩ := step.evolves id o known
    exact ⟨o', known', continues.cancelled cancelled, continues.finished finished⟩
  · rintro ⟨cluster, entered⟩
    cases step with
    | @call label call p q r _ stands move =>
        rcases move.entry_cases cluster with same | ⟨-, -, -, -, gone⟩ | ⟨new, use, rfl, put, -⟩
        · exact ended.unregistered ⟨cluster, same ▸ entered⟩
        · cases gone.symm.trans entered
        · -- What is entered is live.
          cases put.symm.trans entered
          obtain ⟨live, -⟩ := guarded.pending call cluster id use stands
          obtain ⟨o', known', live⟩ := State.cancelled?_eq_some_iff.mp live
          cases known.symm.trans known'
          cases cancelled.symm.trans live
    | _ => exact ended.unregistered ⟨cluster, entered⟩

/-- A teardown goes on until the observer is over. -/
theorem State.Tears.step {call : CallId} {cluster : Identity} {id : ObserverId} {next : Next κ}
    (tears : s.Tears call (cluster, id, next)) (coherent : Coherent s) (step : Step s label t) :
    t.Tears call (cluster, id, next) ∨ t.HasEnded id := by
  obtain ⟨p, stands, tears⟩ := tears
  rcases step.stands_cases stands with same | ⟨q, r, -, move, rfl, stands'⟩
  · exact .inl ⟨p, same, tears⟩
  · rcases move.teardown_cases tears with onward | ⟨rfl, rfl, observers, gone⟩
    · exact .inl ⟨q, stands', onward⟩
    · right
      obtain ⟨-, o, known, rfl, cancelled, finished⟩ := coherent.fits call _ stands
      have known' : r.observers[id]? = some o := observers ▸ known
      constructor
      · exact ⟨o, known', cancelled, finished⟩
      · intro registered
        exact gone ((coherent.step step).entry_of_isRegistered known' registered)

/-- A call that begins once an observer is over does not come by it. -/
theorem not_gives_of_step {id : ObserverId} (ended : s.HasEnded id) (step : Step s label t)
    {n : Nat} (without : ∀ (call : CallId) (p : Point κ), n ≤ call → s.calls[call]? = some p →
      p.gives? ≠ some id) :
    ∀ (call : CallId) (p : Point κ), n ≤ call → t.calls[call]? = some p →
      p.gives? ≠ some id := by
  intro call q late stands gives
  rcases step.stood_cases stands with stood | ⟨p, r, -, stood, move, -⟩ | ⟨request, -, -, rfl⟩
  · exact without call q late stood gives
  · rcases move.gives? gives with gave | registered | new
    · exact without call p late stood gave
    · exact ended.unregistered registered
    · obtain ⟨o, known, -⟩ := ended.stopped
      exact Nat.ne_of_lt (List.getElem?_eq_some_iff.mp known).1 new
  · rw [Request.gives?_point] at gives
    cases gives

end Step

/-! ## Whole runs -/

section Run

variable {s t : State κ} {labels : List (Label κ)} {events : List (ObserverId × Event)}

/-- A property that each step of the registry keeps in a state that calls on it can lead to
holds after a run. -/
theorem Run.induction_guarded {P : State κ → Prop} (run : Run s labels t events)
    (coherent : Coherent s) (guarded : Guarded s) (own : ∀ label ∈ labels, label.IsOwn)
    (first : P s) (keeps : ∀ u v label, Coherent u → Guarded u → P u → Step u label v → P v) :
    P t := by
  refine (run.induction (P := fun u => (Coherent u ∧ Guarded u) ∧ P u)
    ⟨⟨coherent, guarded⟩, first⟩ ?_).2
  intro u v label mem ⟨⟨coherent, guarded⟩, holds⟩ step
  exact ⟨⟨coherent.step step, guarded.step coherent (own label mem) step⟩,
    keeps u v label coherent guarded holds step⟩

theorem State.Tears.run {call : CallId} {cluster : Identity} {id : ObserverId} {next : Next κ}
    (tears : s.Tears call (cluster, id, next)) (coherent : Coherent s) (guarded : Guarded s)
    (own : ∀ label ∈ labels, label.IsOwn) (run : Run s labels t events) :
    t.Tears call (cluster, id, next) ∨ t.HasEnded id := by
  apply run.induction_guarded coherent guarded own
    (P := fun u => u.Tears call (cluster, id, next) ∨ u.HasEnded id) (.inl tears)
  intro u v label coherent guarded holds step
  rcases holds with tears | ended
  · exact tears.step coherent step
  · exact .inr (ended.step guarded step)

/-- An observer that is over stays so, and no call that begins from now on comes by it. -/
theorem State.HasEnded.run {id : ObserverId} (ended : s.HasEnded id) (coherent : Coherent s)
    (guarded : Guarded s) (own : ∀ label ∈ labels, label.IsOwn) (run : Run s labels t events) :
    t.HasEnded id ∧ ∀ (call : CallId) (p : Point κ), s.calls.length ≤ call →
      t.calls[call]? = some p → p.gives? ≠ some id := by
  apply run.induction_guarded coherent guarded own
    (P := fun u => u.HasEnded id ∧ ∀ (call : CallId) (p : Point κ), s.calls.length ≤ call →
      u.calls[call]? = some p → p.gives? ≠ some id)
  · refine ⟨ended, fun call p late stands => ?_⟩
    exact absurd (List.getElem?_eq_some_iff.mp stands).1 (Nat.not_lt.mpr late)
  · intro u v label _ guarded ⟨ended, without⟩ step
    exact ⟨ended.step guarded step, not_gives_of_step ended step without⟩

/-- An entry is there in the end, or some call has taken it on the way. -/
theorem Run.entry_or_unseats (run : Run s labels t events) {cluster : Identity}
    {id : ObserverId} (entered : s.entry? cluster = some id) :
    t.entry? cluster = some id ∨
      ∃ past label rest u before call p, labels = past ++ label :: rest ∧ Run s past u before ∧
        label.call? = some call ∧ u.calls[call]? = some p ∧ p.Unseats cluster id := by
  induction run with
  | nil => exact .inl entered
  | @cons s u t label labels first events goes run ih =>
      have step := step_of_eq_some goes
      have kept : u.entry? cluster = some id ∨ ∃ call p, label.call? = some call ∧
          s.calls[call]? = some p ∧ p.Unseats cluster id := by
        cases step with
        | @call label call p q r moves stands move =>
            rcases move.entry_or_unseats entered with kept | unseats
            · exact .inl kept
            · exact .inr ⟨call, p, moves, stands, unseats⟩
        | _ => exact .inl entered
      rcases kept with kept | ⟨call, p, moves, stands, unseats⟩
      · rcases ih kept with there | ⟨past, label', rest, w, before, call, p, rfl, run', taken⟩
        · exact .inl there
        · exact .inr ⟨label :: past, label', rest, w, _, call, p, rfl, .cons goes run', taken⟩
      · exact .inr ⟨[], label, labels, s, [], call, p, rfl, .nil s, moves, stands, unseats⟩

end Run

/-- A call that looks for an observer to stop goes on at once, or begins to stop the one that is
registered. -/
theorem find_cases {s t : State κ} {call : CallId} {cluster : Identity} {next : Next κ}
    {events : List (ObserverId × Event)} (stands : s.calls[call]? = some (.find cluster next))
    (goes : s.step (.call call) = some (t, events)) :
    (s.entry? cluster = none ∧ t = s.goto call next.point) ∨
      ∃ id, s.entry? cluster = some id ∧
        t = s.goto call (.halt .cancel id (some (cluster, next))) := by
  obtain ⟨q, r, move, rfl, -⟩ := (step_of_eq_some goes).exists_move rfl stands
  cases move with
  | absent entered => exact .inl ⟨entered, rfl⟩
  | found entered => exact .inr ⟨_, entered, rfl⟩

/-- The entry of an observer is not lost to the teardown of another one. -/
theorem Run.entry_or_unseats_aside {s t : State κ} {labels : List (Label κ)}
    {events : List (ObserverId × Event)} (run : Run s labels t events) {place : Identity}
    {kept id : ObserverId} (entered : s.entry? place = some kept) (differs : kept ≠ id)
    (call : CallId) (cluster : Identity) (next : Next κ) :
    t.entry? place = some kept ∨
      ∃ past label rest u before other p, labels = past ++ label :: rest ∧ Run s past u before ∧
        label.call? = some other ∧ u.calls[other]? = some p ∧ p.Unseats place kept ∧
          (other = call → ¬u.Tears call (cluster, id, next)) := by
  rcases run.entry_or_unseats entered with
    there | ⟨past, label, rest, u, before, other, p, split, run', moves, stands, unseats⟩
  · exact .inl there
  · refine .inr ⟨past, label, rest, u, before, other, p, split, run', moves, stands, unseats, ?_⟩
    rintro rfl ⟨p', stands', tears⟩
    cases stands.symm.trans stands'
    exact differs (unseats.of_teardown tears)

/-- A call that looks for the observer of a cluster in order to stop it, in any run on a
fresh registry, whatever other calls go on, the like of it included:

* if it finds none, it changes nothing,
* if it finds one, it begins to stop that, and is on with the teardown until the observer is
  cancelled, its task has ended and it is not registered,
* from then on that stays so, and no call that begins later gives the observer back,
* any other observer that is registered while the teardown goes on stays registered, unless
  a call takes its entry; that is another call, or the teardown is over by then. -/
theorem teardown_of_run {s u v t w : State κ} {past during later : List (Label κ)}
    {events₁ events₂ events₃ events₄ : List (ObserverId × Event)} {call : CallId}
    {cluster : Identity} {next : Next κ} (fresh : s.IsFresh)
    (own : ∀ label ∈ past ++ .call call :: during ++ later, label.IsOwn)
    (run : Run s past u events₁) (stands : u.calls[call]? = some (.find cluster next))
    (goes : u.step (.call call) = some (v, events₂)) (onward : Run v during t events₃)
    (after : Run t later w events₄) :
    (u.entry? cluster = none → v = u.goto call next.point) ∧
      ∀ id, u.entry? cluster = some id →
        v = u.goto call (.halt .cancel id (some (cluster, next))) ∧
        (t.Tears call (cluster, id, next) ∨ t.HasEnded id) ∧
        (t.HasEnded id → w.HasEnded id ∧
          ∀ other outcome, t.calls.length ≤ other →
            w.calls[other]? = some (.finished outcome) →
              outcome ≠ .observer id ∧ outcome ≠ .entry (some id)) ∧
        (t.Tears call (cluster, id, next) → ∀ place kept, kept ≠ id →
          t.entry? place = some kept →
            w.entry? place = some kept ∨
              ∃ between label rest x events other p, later = between ++ label :: rest ∧
                Run t between x events ∧ label.call? = some other ∧
                x.calls[other]? = some p ∧ p.Unseats place kept ∧
                (other = call → ¬x.Tears call (cluster, id, next))) := by
  have ownPast (label : Label κ) (mem : label ∈ past) : label.IsOwn := own label (by simp [mem])
  have ownDuring (label : Label κ) (mem : label ∈ during) : label.IsOwn :=
    own label (by simp [mem])
  have ownLater (label : Label κ) (mem : label ∈ later) : label.IsOwn :=
    own label (by simp [mem])
  obtain ⟨coherent, guarded⟩ := run.guarded fresh.coherent fresh.guarded ownPast
  have step := step_of_eq_some goes
  have coherent' := coherent.step step
  have guarded' := guarded.step coherent (own (.call call) (by simp)) step
  obtain ⟨coherent'', guarded''⟩ := onward.guarded coherent' guarded' ownDuring
  rcases find_cases stands goes with ⟨absent, here⟩ | ⟨found, entered, begins⟩
  · refine ⟨fun _ => here, fun id entered => ?_⟩
    cases absent.symm.trans entered
  · constructor
    · intro absent
      cases absent.symm.trans entered
    · intro id entered'
      cases entered.symm.trans entered'
      have tears : v.Tears call (cluster, found, next) := by
        rw [begins]
        exact ⟨_, List.getElem?_set_self (List.getElem?_eq_some_iff.mp stands).1, rfl⟩
      refine ⟨begins, tears.run coherent' guarded' ownDuring onward, ?_, ?_⟩
      · intro ended
        obtain ⟨ended', without⟩ := ended.run coherent'' guarded'' ownLater after
        refine ⟨ended', fun other outcome late stands' => ?_⟩
        have gives := without other _ late stands'
        constructor
        · rintro rfl
          exact gives rfl
        · rintro rfl
          exact gives rfl
      · intro _ place kept differs registered
        exact after.entry_or_unseats_aside registered differs call cluster next

/-- Two calls stop one observer.  Another one is entered once the first of them has removed
it, and before the second of them gets on. -/
theorem teardown_of_run_overlapping :
    let client : Elasticsearch.InMemory.Client := ⟨0, "https://a:9200", none, []⟩
    let cluster : Identity := ⟨"default", "a"⟩
    let past : List (Label Elasticsearch.InMemory.Client) :=
      [.begin (.create cluster client), .call 0, .call 0, .begin (.stop cluster),
        .begin (.stop cluster), .call 1]
    let during : List (Label Elasticsearch.InMemory.Client) :=
      [.call 1, .call 1, .task 0 .unreachable, .call 1, .call 1, .call 1,
        .begin (.create cluster client), .call 3, .call 3, .call 2, .call 2, .call 2, .call 2]
    ∃ u v t events₁ events₂ events₃, Run (.empty .default) past u events₁ ∧
      u.entry? cluster = some 0 ∧ u.step (.call 2) = some (v, events₂) ∧
      Run v during t events₃ ∧ t.HasEnded 0 ∧ t.entry? cluster = some 1 := by
  intro client cluster past during
  have follows : ((State.empty .default).follow? past).any (fun looks =>
      State.entry? looks.1 cluster = some 0 ∧
      looks.1.calls[2]?.bind Point.opened? = some cluster ∧
      (looks.1.step (.call 2)).any fun found =>
        (found.1.follow? during).any fun last =>
          State.entry? last.1 cluster = some 1 ∧
            last.1.calls[2]?.any fun p => p.teardown?.isNone) = true := by
    decide +kernel
  obtain ⟨⟨u, events₁⟩, run, holds⟩ := (Option.any_eq_true ..).mp follows
  obtain ⟨entered, finds, holds⟩ := of_decide_eq_true holds
  obtain ⟨p, stands, opened⟩ := Option.bind_eq_some_iff.mp finds
  obtain ⟨rest, rfl⟩ := Point.exists_of_opened? opened
  obtain ⟨⟨v, events₂⟩, goes, holds⟩ := (Option.any_eq_true ..).mp holds
  obtain ⟨⟨t, events₃⟩, onward, holds⟩ := (Option.any_eq_true ..).mp holds
  obtain ⟨second, through⟩ := of_decide_eq_true holds
  have own : ∀ label ∈ past ++ .call 2 :: during ++ [], label.IsOwn := by
    simp [past, during, Label.IsOwn]
  obtain ⟨-, found⟩ := teardown_of_run (State.isFresh_empty .default) own
    (run_iff_follow?_eq_some.mpr run) stands goes
    (run_iff_follow?_eq_some.mpr onward) (.nil t)
  refine ⟨u, v, t, events₁, events₂, events₃, run_iff_follow?_eq_some.mpr run, entered, goes,
    run_iff_follow?_eq_some.mpr onward, ?_, second⟩
  rcases (found 0 entered).2.1 with ⟨p', stands', tears⟩ | ended
  · obtain ⟨p'', stands'', through⟩ := (Option.any_eq_true ..).mp through
    cases stands'.symm.trans stands''
    rw [tears] at through
    cases through
  · exact ended

end ClusterWatch.Observation.Registry
