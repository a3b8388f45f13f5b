import ClusterWatch.Proofs.Registry.Safety

/-!
# Who waits for an observer to end

A call that has asked for the lock of an observer is in the queue of the observer until
it lets go of the lock, and nobody else is.  So the one that waits for the task to end is
the first of those that wait at all.
-/

namespace ClusterWatch.Observation.Registry

open Elasticsearch (HasConnection)
open Kubernetes (Identity)

variable {κ : Type}

/-- The observer whose lock a call has asked for, and has not let go of. -/
def Point.waitsFor? : Point κ → Option ObserverId
  | .halt .acquire id _ => some id
  | .halt .join id _ => some id
  | _ => none

theorem Point.atHand?_of_waitsFor? {p : Point κ} {id : ObserverId}
    (waits : p.waitsFor? = some id) : p.atHand? = some id := by
  cases p with
  | halt stage other after =>
      cases stage with
      | cancel | enqueue => cases waits
      | acquire | join => exact waits
  | _ => cases waits

@[simp]
theorem Request.waitsFor?_point (request : Request κ) : request.point.waitsFor? = none := by
  cases request <;> rfl

@[simp]
theorem Next.waitsFor?_point (next : Next κ) : next.point.waitsFor? = none := by
  rcases next with ⟨_, _, _⟩ | ⟨_ | ⟨_, _⟩⟩ <;> rfl

@[simp]
theorem Use.waitsFor?_point (use : Use) (id : ObserverId) :
    (use.point id : Point κ).waitsFor? = none := by
  cases use <;> rfl

@[simp]
theorem waitsFor?_pointAfterHalt (id : ObserverId) (after : Option (Identity × Next κ)) :
    (pointAfterHalt id after).waitsFor? = none := by
  cases after <;> rfl

@[simp]
theorem waitsFor?_pointAfterList (stopping : Bool) (order : List Identity) :
    (pointAfterList stopping order : Point κ).waitsFor? = none := by
  cases stopping with
  | false => rfl
  | true => exact Next.waitsFor?_point (.stop order)

namespace State

/-- A call has asked for the lock of an observer, and has not let go of it. -/
def Waits (s : State κ) (call : CallId) (id : ObserverId) : Prop :=
  ∃ p, s.calls[call]? = some p ∧ p.waitsFor? = some id

/-- The calls that want the lock of an observer, if there is one with the number. -/
def queue? (s : State κ) (id : ObserverId) : Option (List CallId) :=
  s.observers[id]?.map Observer.queue

theorem queue?_eq_some_iff {s : State κ} {id : ObserverId} {queue : List CallId} :
    s.queue? id = some queue ↔ ∃ o, s.observers[id]? = some o ∧ o.queue = queue :=
  Option.map_eq_some_iff

theorem queue?_update_cancel (s : State κ) (id : ObserverId) :
    (s.update id Observer.cancel).queue? = s.queue? :=
  funext (map_getElem?_modify Observer.queue Observer.cancel (fun _ => rfl) s.observers id)

/-- A queue that has changed is that of the observer that has changed. -/
theorem queue?_update_cases {s : State κ} {id other : ObserverId} {change : Observer κ → Observer κ}
    {queue : List CallId} (queued : (s.update other change).queue? id = some queue) :
    (id = other ∧ ∃ o, s.observers[id]? = some o ∧ queue = (change o).queue) ∨
      (id ≠ other ∧ s.queue? id = some queue) := by
  rw [queue?, observers_update, getElem?_modify_eq_ite] at queued
  split at queued
  · next same =>
      rw [Option.map_map] at queued
      obtain ⟨o, known, rfl⟩ := Option.map_eq_some_iff.mp queued
      exact .inl ⟨same, o, known, rfl⟩
  · next differs => exact .inr ⟨differs, queued⟩

theorem queue?_add {s : State κ} {observer : Observer κ} {id : ObserverId}
    {queue : List CallId} (queued : (s.add observer).queue? id = some queue) :
    s.queue? id = some queue ∨ (id = s.observers.length ∧ queue = observer.queue) := by
  obtain ⟨o, known, rfl⟩ := queue?_eq_some_iff.mp queued
  rcases getElem?_concat_cases known with known | ⟨rfl, rfl⟩
  · exact .inl (queue?_eq_some_iff.mpr ⟨o, known, rfl⟩)
  · exact .inr ⟨rfl, rfl⟩

theorem queue?_replace {s : State κ} {id : ObserverId} {o o' : Observer κ}
    (known : s.observers[id]? = some o) (same : o'.queue = o.queue) :
    (s.replace id o').queue? = s.queue? :=
  funext (map_getElem?_set known same)

/-- Who waits after one call has gone on. -/
theorem waits_goto_iff {s r : State κ} {call other : CallId} {p q : Point κ} {id : ObserverId}
    (stands : s.calls[call]? = some p) (same : r.calls = s.calls) :
    (r.goto call q).Waits other id ↔
      (other = call ∧ q.waitsFor? = some id) ∨ (other ≠ call ∧ s.Waits other id) := by
  have within : call < s.calls.length := (List.getElem?_eq_some_iff.mp stands).1
  rw [Waits, calls_goto, same]
  constructor
  · rintro ⟨p', stands', waits⟩
    rcases getElem?_set_cases stands' with ⟨rfl, rfl⟩ | ⟨elsewhere, stands'⟩
    · exact .inl ⟨rfl, waits⟩
    · exact .inr ⟨elsewhere, p', stands', waits⟩
  · rintro (⟨rfl, waits⟩ | ⟨elsewhere, p', stands', waits⟩)
    · exact ⟨q, List.getElem?_set_self within, waits⟩
    · exact ⟨p', (List.getElem?_set_ne (Ne.symm elsewhere)).trans stands', waits⟩

end State

/-- In the queue of an observer are calls that wait for it, each once, and the first of them is
the only one that may wait for the end of the task. -/
structure Lined (s : State κ) : Prop where
  distinct : ∀ (id : ObserverId) (queue : List CallId), s.queue? id = some queue → queue.Nodup
  waits : ∀ (id : ObserverId) (queue : List CallId), s.queue? id = some queue →
    ∀ call ∈ queue, s.Waits call id
  first : ∀ (call : CallId) (id : ObserverId) (after : Option (Identity × Next κ)),
    s.calls[call]? = some (.halt .join id after) →
      ∃ queue, s.queue? id = some queue ∧ queue.head? = some call

theorem State.IsFresh.lined {s : State κ} (fresh : s.IsFresh) : Lined s where
  distinct := by simp [State.queue?, fresh.observers]
  waits := by simp [State.queue?, fresh.observers]
  first := by simp [fresh.calls]

/-- The queues of observers hold the calls that wait for them, in the order in which they
will get the lock. -/
structure Orderly (s : State κ) : Prop where
  distinct : ∀ (id : ObserverId) (queue : List CallId), s.queue? id = some queue → queue.Nodup
  queued : ∀ (id : ObserverId) (queue : List CallId), s.queue? id = some queue →
    ∀ call, call ∈ queue ↔ s.Waits call id
  first : ∀ (call : CallId) (id : ObserverId) (after : Option (Identity × Next κ))
    (queue : List CallId), s.calls[call]? = some (.halt .join id after) →
      s.queue? id = some queue → queue.head? = some call

variable [HasConnection κ]

section Move

variable {s r : State κ} {call : CallId} {p q : Point κ}

/-- A call gets into the queue of an observer, gets out of it as the first one, or leaves
it as it is. -/
theorem Move.queue_cases (move : Move s call p q r) (id : ObserverId) (queue : List CallId)
    (queued : r.queue? id = some queue) :
    (s.queue? id = some queue ∧ (q.waitsFor? = some id ↔ p.waitsFor? = some id)) ∨
      (∃ before, s.queue? id = some before ∧ queue = before ++ [call] ∧
        p.waitsFor? = none ∧ q.waitsFor? = some id) ∨
      (∃ before, s.queue? id = some before ∧ queue = before.drop 1 ∧ q.waitsFor? = none ∧
        (before.head? = some call ∨ ∃ after, p = .halt .join id after)) ∨
      (id = s.observers.length ∧ queue = [] ∧ q.waitsFor? = none) := by
  have unconcerned {p q : Point κ} (before : p.waitsFor? = none) (after : q.waitsFor? = none) :
      q.waitsFor? = some id ↔ p.waitsFor? = some id := by
    rw [before, after]
  cases move with
  | cancel =>
      rw [State.queue?_update_cancel] at queued
      exact .inl ⟨queued, unconcerned rfl rfl⟩
  | @enqueue other =>
      rcases State.queue?_update_cases queued with ⟨rfl, o, known, rfl⟩ | ⟨differs, was⟩
      · exact .inr (.inl ⟨_, State.queue?_eq_some_iff.mpr ⟨o, known, rfl⟩, rfl, rfl, rfl⟩)
      · refine .inl ⟨was, iff_of_false (fun waits => ?_) (by simp [Point.waitsFor?])⟩
        exact differs (Option.some.inj waits).symm
  | acquire => exact .inl ⟨queued, Iff.rfl⟩
  | @pass other after observer known leads =>
      rcases State.queue?_update_cases queued with ⟨rfl, o, known', rfl⟩ | ⟨differs, was⟩
      · obtain rfl : observer = o := Option.some.inj (known.symm.trans known')
        exact .inr (.inr (.inl ⟨_, State.queue?_eq_some_iff.mpr ⟨_, known, rfl⟩, rfl,
          waitsFor?_pointAfterHalt _ _, .inl leads⟩))
      · refine .inl ⟨was, iff_of_false (by simp) fun waits => ?_⟩
        exact differs (Option.some.inj waits).symm
  | @join other after =>
      rcases State.queue?_update_cases queued with ⟨rfl, o, known, rfl⟩ | ⟨differs, was⟩
      · exact .inr (.inr (.inl ⟨_, State.queue?_eq_some_iff.mpr ⟨o, known, rfl⟩, rfl,
          waitsFor?_pointAfterHalt _ _, .inr ⟨after, rfl⟩⟩))
      · refine .inl ⟨was, iff_of_false (by simp) fun waits => ?_⟩
        exact differs (Option.some.inj waits).symm
  | spawn =>
      rcases State.queue?_add queued with same | ⟨rfl, rfl⟩
      · exact .inl ⟨same, unconcerned rfl rfl⟩
      · exact .inr (.inr (.inr ⟨rfl, rfl, rfl⟩))
  | supersede =>
      rw [State.queue?_update_cancel] at queued
      exact .inl ⟨queued, unconcerned rfl (Use.waitsFor?_point _ _)⟩
  | reuse | insert => exact .inl ⟨queued, unconcerned rfl (Use.waitsFor?_point _ _)⟩
  | absent | remove | keep => exact .inl ⟨queued, unconcerned rfl (Next.waitsFor?_point _)⟩
  | list => exact .inl ⟨queued, unconcerned rfl (waitsFor?_pointAfterList _ _)⟩
  | _ => exact .inl ⟨queued, unconcerned rfl rfl⟩

/-- Only the first of the calls that want the lock waits for the task to end. -/
theorem Move.of_join {id : ObserverId} {after : Option (Identity × Next κ)}
    (move : Move s call p (.halt .join id after) r) :
    r = s ∧ ∃ o, s.observers[id]? = some o ∧ o.queue.head? = some call := by
  generalize eq : Point.halt .join id after = q at move
  cases move with
  | acquire known first =>
      cases eq
      exact ⟨rfl, _, known, first⟩
  | pass | join | reuse | insert | supersede | absent | remove | keep | list =>
      have waits : some id = _ := congrArg Point.waitsFor? eq
      simp at waits
  | _ => cases eq

omit [HasConnection κ] in
/-- A call that lets go of a lock is the first in the queue. -/
theorem Lined.leads (lined : Lined s) (stands : s.calls[call]? = some p) {id : ObserverId}
    {before : List CallId} (was : s.queue? id = some before)
    (head : before.head? = some call ∨ ∃ after, p = .halt .join id after) :
    before.head? = some call := by
  rcases head with head | ⟨after, rfl⟩
  · exact head
  · obtain ⟨queue, was', head⟩ := lined.first call id after stands
    cases was.symm.trans was'
    exact head

theorem Lined.step_of_move (lined : Lined s) (stands : s.calls[call]? = some p)
    (move : Move s call p q r) : Lined (r.goto call q) := by
  have waits {id : ObserverId} (waiting : s.Waits call id) : p.waitsFor? = some id := by
    obtain ⟨p', stands', waiting⟩ := waiting
    cases stands.symm.trans stands'
    exact waiting
  constructor
  case distinct =>
    intro id queue has
    rcases move.queue_cases id queue has with
      ⟨was, -⟩ | ⟨before, was, rfl, idle, -⟩ | ⟨before, was, rfl, -⟩ | ⟨-, rfl, -⟩
    · exact lined.distinct id queue was
    · have absent : call ∉ before := by
        intro mem
        have waiting := waits (lined.waits id before was call mem)
        rw [idle] at waiting
        cases waiting
      exact (List.perm_append_singleton call before).nodup_iff.mpr
        (List.nodup_cons.mpr ⟨absent, lined.distinct id before was⟩)
    · exact (lined.distinct id before was).sublist (List.drop_sublist 1 before)
    · exact List.nodup_nil
  case waits =>
    intro id queue has other mem
    rw [State.waits_goto_iff stands move.calls]
    rcases move.queue_cases id queue has with
      ⟨was, same⟩ | ⟨before, was, rfl, idle, waiting⟩ | ⟨before, was, rfl, idle, head⟩ |
        ⟨-, rfl, -⟩
    · by_cases here : other = call
      · subst here
        exact .inl ⟨rfl, same.mpr (waits (lined.waits id queue was other mem))⟩
      · exact .inr ⟨here, lined.waits id queue was other mem⟩
    · by_cases here : other = call
      · exact .inl ⟨here, waiting⟩
      · rcases List.mem_append.mp mem with mem | mem
        · exact .inr ⟨here, lined.waits id before was other mem⟩
        · exact absurd (List.mem_singleton.mp mem) here
    · -- Nobody is in the queue twice, so who is left in it is not the one that goes.
      obtain ⟨rest, rfl⟩ := List.head?_eq_some_iff.mp (lined.leads stands was head)
      have distinct := List.nodup_cons.mp (lined.distinct id _ was)
      right
      constructor
      · rintro rfl
        exact distinct.1 mem
      · exact lined.waits id _ was other (List.mem_cons_of_mem _ mem)
    · cases mem
  case first =>
    intro other id after stands'
    rcases getElem?_set_cases stands' with ⟨rfl, rfl⟩ | ⟨elsewhere, stood⟩
    · obtain ⟨rfl, o, found, head⟩ := move.of_join
      exact ⟨o.queue, State.queue?_eq_some_iff.mpr ⟨o, found, rfl⟩, head⟩
    · have stood : s.calls[other]? = some (.halt .join id after) := move.calls ▸ stood
      obtain ⟨before, was, head⟩ := lined.first other id after stood
      obtain ⟨o, known, rfl⟩ := State.queue?_eq_some_iff.mp was
      obtain ⟨o', known', -⟩ := move.evolves id o known
      have has : r.queue? id = some o'.queue := State.queue?_eq_some_iff.mpr ⟨o', known', rfl⟩
      refine ⟨o'.queue, has, ?_⟩
      rcases move.queue_cases id o'.queue has with
        ⟨was', -⟩ | ⟨before, was', same, -⟩ | ⟨before, was', -, -, head'⟩ | ⟨rfl, -⟩
      · rw [← Option.some.inj (was.symm.trans was')]
        exact head
      · cases was.symm.trans was'
        rw [same, List.head?_append, head]
        rfl
      · cases was.symm.trans was'
        rw [lined.leads stands was head'] at head
        exact absurd (Option.some.inj head).symm elsewhere
      · exact absurd (List.getElem?_eq_some_iff.mp known).1 (Nat.lt_irrefl _)

end Move

theorem Lined.step {s t : State κ} {label : Label κ} (lined : Lined s) (step : Step s label t) :
    Lined t := by
  have same {t : State κ} (calls : t.calls = s.calls) (queues : t.queue? = s.queue?) :
      Lined t := by
    obtain ⟨distinct, waits, first⟩ := lined
    constructor
    · rw [queues]
      exact distinct
    · rw [queues]
      intro id queue was call mem
      obtain ⟨p, stands, waiting⟩ := waits id queue was call mem
      exact ⟨p, calls ▸ stands, waiting⟩
    · rw [queues, calls]
      exact first
  cases step with
  | @begin request =>
      constructor
      · exact lined.distinct
      · intro id queue was call mem
        obtain ⟨p, stands, waiting⟩ := lined.waits id queue was call mem
        have within := (List.getElem?_eq_some_iff.mp stands).1
        exact ⟨p, (List.getElem?_append_left within).trans stands, waiting⟩
      · intro call id after stands
        rcases getElem?_concat_cases stands with stood | ⟨-, starts⟩
        · exact lined.first call id after stood
        · have waiting : some id = _ := congrArg Point.waitsFor? starts
          simp at waiting
  | call _ stands move => exact lined.step_of_move stands move
  | task known => exact same rfl (State.queue?_replace known rfl)
  | advance => exact same rfl rfl
  | spawn =>
      constructor
      · intro id queue has
        rcases State.queue?_add has with was | ⟨-, rfl⟩
        · exact lined.distinct id queue was
        · exact List.nodup_nil
      · intro id queue has call mem
        rcases State.queue?_add has with was | ⟨-, rfl⟩
        · exact lined.waits id queue was call mem
        · cases mem
      · intro call id after stands
        obtain ⟨queue, was, head⟩ := lined.first call id after stands
        obtain ⟨o, known, rfl⟩ := State.queue?_eq_some_iff.mp was
        have within := (List.getElem?_eq_some_iff.mp known).1
        refine ⟨o.queue, State.queue?_eq_some_iff.mpr ⟨o, ?_, rfl⟩, head⟩
        exact (List.getElem?_append_left within).trans known
  | signal => exact same rfl (State.queue?_update_cancel s _)

theorem Run.lined {s t : State κ} {labels : List (Label κ)}
    {events : List (ObserverId × Event)} (run : Run s labels t events) (lined : Lined s) :
    Lined t :=
  run.induction lined fun _ _ _ _ lined step => lined.step step

/-- A call that waits is in the queue, if it has been there for as long as it waited before. -/
theorem Step.mem_queue {s t : State κ} {label : Label κ} (step : Step s label t)
    (lined : Lined s) {call : CallId} {id : ObserverId} {queue : List CallId}
    (has : t.queue? id = some queue) (waits : t.Waits call id)
    (enlisted : s.Waits call id → ∃ before, s.queue? id = some before ∧ call ∈ before) :
    call ∈ queue := by
  have stays {before : List CallId} (was : s.queue? id = some before)
      (waited : s.Waits call id) : call ∈ before := by
    obtain ⟨before', was', mem⟩ := enlisted waited
    rw [Option.some.inj (was.symm.trans was')]
    exact mem
  cases step with
  | @begin request =>
      obtain ⟨p, stands, waiting⟩ := waits
      rcases getElem?_concat_cases stands with stood | ⟨-, rfl⟩
      · exact stays has ⟨p, stood, waiting⟩
      · simp at waiting
  | advance => exact stays has waits
  | @call label mover p q r _ stands move =>
      rw [State.waits_goto_iff stands move.calls] at waits
      rcases move.queue_cases id queue has with
        ⟨was, same⟩ | ⟨before, was, rfl, -⟩ | ⟨before, was, rfl, idle, head⟩ | ⟨rfl, -, idle⟩
      · apply stays was
        rcases waits with ⟨rfl, waiting⟩ | ⟨-, waited⟩
        · exact ⟨p, stands, same.mp waiting⟩
        · exact waited
      · rcases waits with ⟨rfl, -⟩ | ⟨-, waited⟩
        · exact List.mem_append_right _ (List.mem_singleton_self call)
        · exact List.mem_append_left _ (stays was waited)
      · rcases waits with ⟨-, waiting⟩ | ⟨aside, waited⟩
        · rw [idle] at waiting
          cases waiting
        · obtain ⟨rest, rfl⟩ := List.head?_eq_some_iff.mp (lined.leads stands was head)
          exact (List.mem_cons.mp (stays was waited)).resolve_left aside
      · rcases waits with ⟨-, waiting⟩ | ⟨-, waited⟩
        · rw [idle] at waiting
          cases waiting
        · obtain ⟨before, was, -⟩ := enlisted waited
          obtain ⟨o, known, -⟩ := State.queue?_eq_some_iff.mp was
          exact absurd (List.getElem?_eq_some_iff.mp known).1 (Nat.lt_irrefl _)
  | @task other environment observer found =>
      have same : (s.replace other
          (observer.run s.clock s.now (environment observer.client)).1).queue? = s.queue? :=
        State.queue?_replace found rfl
      rw [same] at has
      exact stays has waits
  | spawn =>
      rcases State.queue?_add has with was | ⟨rfl, -⟩
      · exact stays was waits
      · obtain ⟨before, was, -⟩ := enlisted waits
        obtain ⟨o, known, -⟩ := State.queue?_eq_some_iff.mp was
        exact absurd (List.getElem?_eq_some_iff.mp known).1 (Nat.lt_irrefl _)
  | signal =>
      rw [State.queue?_update_cancel] at has
      exact stays has waits

omit [HasConnection κ] in
theorem Orderly.lined {s : State κ} (orderly : Orderly s)
    (enlisted : ∀ (call : CallId) (id : ObserverId), s.Waits call id →
      ∃ queue, s.queue? id = some queue) : Lined s where
  distinct := orderly.distinct
  waits id queue has call mem := (orderly.queued id queue has call).mp mem
  first call id after stands := by
    obtain ⟨queue, has⟩ := enlisted call id ⟨_, stands, rfl⟩
    exact ⟨queue, has, orderly.first call id after queue stands has⟩

theorem Orderly.step {s t : State κ} {label : Label κ} (orderly : Orderly s)
    (coherent : Coherent s) (guarded : Guarded s) (step : Step s label t) : Orderly t := by
  have enlisted (call : CallId) (id : ObserverId) (waits : s.Waits call id) :
      ∃ queue, s.queue? id = some queue := by
    obtain ⟨p, stands, waits⟩ := waits
    have holds := Point.atHand?_of_waitsFor? waits
    obtain ⟨o, known⟩ :=
      (coherent.fits call p stands).exists_atHand (guarded.bound call p stands) holds
    exact ⟨o.queue, State.queue?_eq_some_iff.mpr ⟨o, known, rfl⟩⟩
  have before := orderly.lined enlisted
  have lined := before.step step
  constructor
  · exact lined.distinct
  · intro id queue has call
    constructor
    · exact lined.waits id queue has call
    · intro waits
      apply step.mem_queue before has waits
      intro waited
      obtain ⟨queue', was⟩ := enlisted call id waited
      exact ⟨queue', was, (orderly.queued id queue' was call).mpr waited⟩
  · intro call id after queue stands has
    obtain ⟨queue', has', head⟩ := lined.first call id after stands
    rw [Option.some.inj (has.symm.trans has')]
    exact head

omit [HasConnection κ] in
theorem State.IsFresh.orderly {s : State κ} (fresh : s.IsFresh) : Orderly s where
  distinct := by simp [State.queue?, fresh.observers]
  queued := by simp [State.queue?, fresh.observers]
  first := by simp [fresh.calls]

end ClusterWatch.Observation.Registry
