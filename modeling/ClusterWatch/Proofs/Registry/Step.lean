import ClusterWatch.Proofs.Registry.Entries

/-!
# What a step of a registry can do

`Move` lists what a call can do at a point, and where it stands afterwards; `Step`
lists what can go on at all.  All that `State.stepCall` and `State.step` compute is
among it, so an invariant is proved by cases of them.
-/

namespace ClusterWatch.Observation.Registry

open Elasticsearch (HasConnection Interchangeable)
open Kubernetes (Identity)

variable {κ : Type}

namespace State

variable (s : State κ) (call : CallId) (point : Point κ) (id : ObserverId)
  (change : Observer κ → Observer κ)

/-! ## Parts of changed states -/

@[simp] theorem observers_goto : (s.goto call point).observers = s.observers := rfl
@[simp] theorem entry_goto : State.entry? (s.goto call point) = s.entry? := rfl
@[simp] theorem clusters_goto : (s.goto call point).clusters = s.clusters := rfl
@[simp] theorem settings_goto : (s.goto call point).settings = s.settings := rfl
@[simp] theorem calls_goto : (s.goto call point).calls = s.calls.set call point := rfl

@[simp] theorem entry_update : State.entry? (s.update id change) = s.entry? := rfl
@[simp] theorem clusters_update : (s.update id change).clusters = s.clusters := rfl
@[simp] theorem settings_update : (s.update id change).settings = s.settings := rfl
@[simp] theorem calls_update : (s.update id change).calls = s.calls := rfl
@[simp] theorem observers_update :
    (s.update id change).observers = s.observers.modify id change := rfl

/-- The state in which an observer is entered for a cluster. -/
def enter (s : State κ) (cluster : Identity) (id : ObserverId) : State κ :=
  { s with entries := put cluster id s.entries }

/-- The state in which a cluster has no observer. -/
def leave (s : State κ) (cluster : Identity) : State κ :=
  { s with entries := erase cluster s.entries }

/-- The state with another observer under a number. -/
def replace (s : State κ) (id : ObserverId) (observer : Observer κ) : State κ :=
  { s with observers := s.observers.set id observer }

/-- The state with one more observer. -/
def add (s : State κ) (observer : Observer κ) : State κ :=
  { s with observers := s.observers ++ [observer] }

variable (cluster other : Identity) (observer : Observer κ)

@[simp] theorem observers_enter : (s.enter cluster id).observers = s.observers := rfl
@[simp] theorem settings_enter : (s.enter cluster id).settings = s.settings := rfl
@[simp] theorem calls_enter : (s.enter cluster id).calls = s.calls := rfl
@[simp] theorem observers_leave : (s.leave cluster).observers = s.observers := rfl
@[simp] theorem settings_leave : (s.leave cluster).settings = s.settings := rfl
@[simp] theorem calls_leave : (s.leave cluster).calls = s.calls := rfl
@[simp] theorem entry_replace : State.entry? (s.replace id observer) = s.entry? := rfl
@[simp] theorem calls_replace : (s.replace id observer).calls = s.calls := rfl
@[simp] theorem settings_replace : (s.replace id observer).settings = s.settings := rfl
@[simp] theorem observers_replace :
    (s.replace id observer).observers = s.observers.set id observer := rfl
@[simp] theorem entry_add : State.entry? (s.add observer) = s.entry? := rfl
@[simp] theorem clusters_add : (s.add observer).clusters = s.clusters := rfl
@[simp] theorem settings_add : (s.add observer).settings = s.settings := rfl
@[simp] theorem calls_add : (s.add observer).calls = s.calls := rfl
@[simp] theorem observers_add : (s.add observer).observers = s.observers ++ [observer] := rfl

theorem entry_enter : State.entry? (s.enter cluster id) other =
    if other = cluster then some id else s.entry? other :=
  lookup_put cluster other id s.entries

theorem entry_leave : State.entry? (s.leave cluster) other =
    if other = cluster then none else s.entry? other :=
  lookup_erase cluster other s.entries

theorem entry_eq_lookup : s.entry? cluster = s.entries.lookup cluster :=
  rfl

/-- A cluster is listed exactly if it has an observer. -/
theorem mem_clusters_iff {s : State κ} {cluster : Identity} :
    cluster ∈ s.clusters ↔ (s.entry? cluster).isSome :=
  lookup_isSome_iff.symm

end State

/-! ## Moves of calls -/

/-- The point at which a call goes on once it has listed the clusters. -/
def pointAfterList (stopping : Bool) (order : List Identity) : Point κ :=
  if stopping then (Next.stop order).point else .finished (.clusters order)

variable [HasConnection κ]

/-- `Move s call p q r`: a call that stands at `p` in the state `s` can go on to `q`, and
what it does on the way turns `s` into `r`. -/
inductive Move (s : State κ) (call : CallId) : Point κ → Point κ → State κ → Prop where
  | unobserved {cluster : Identity} {client : κ} {use : Use} :
      s.entry? cluster = none →
        Move s call (.lookup cluster client use) (.spawn cluster client use) s
  | reuse {cluster : Identity} {client : κ} {use : Use} {id : ObserverId}
      {observer : Observer κ} :
      s.entry? cluster = some id → s.observers[id]? = some observer →
        Interchangeable observer.client client →
        Move s call (.lookup cluster client use) (use.point id) s
  | replace {cluster : Identity} {client : κ} {use : Use} {id : ObserverId}
      {observer : Observer κ} :
      s.entry? cluster = some id → s.observers[id]? = some observer →
        ¬Interchangeable observer.client client →
        Move s call (.lookup cluster client use) (.find cluster (.create cluster client use)) s
  | absent {cluster : Identity} {next : Next κ} :
      s.entry? cluster = none → Move s call (.find cluster next) next.point s
  | found {cluster : Identity} {next : Next κ} {id : ObserverId} :
      s.entry? cluster = some id →
        Move s call (.find cluster next) (.halt .cancel id (some (cluster, next))) s
  | cancel {id : ObserverId} {after : Option (Identity × Next κ)} :
      Move s call (.halt .cancel id after) (.halt .enqueue id after)
        (s.update id Observer.cancel)
  | enqueue {id : ObserverId} {after : Option (Identity × Next κ)} :
      Move s call (.halt .enqueue id after) (.halt .acquire id after)
        (s.update id (Observer.enqueue call))
  | acquire {id : ObserverId} {after : Option (Identity × Next κ)} {observer : Observer κ} :
      s.observers[id]? = some observer → observer.queue.head? = some call →
        observer.joined = false →
        Move s call (.halt .acquire id after) (.halt .join id after) s
  | pass {id : ObserverId} {after : Option (Identity × Next κ)} {observer : Observer κ} :
      s.observers[id]? = some observer → observer.queue.head? = some call →
        observer.joined = true →
        Move s call (.halt .acquire id after) (pointAfterHalt id after)
          (s.update id Observer.release)
  | join {id : ObserverId} {after : Option (Identity × Next κ)} {observer : Observer κ} :
      s.observers[id]? = some observer → observer.task.isFinished = true →
        Move s call (.halt .join id after) (pointAfterHalt id after)
          (s.update id Observer.release)
  | remove {cluster : Identity} {id : ObserverId} {next : Next κ} :
      s.entry? cluster = some id →
        Move s call (.remove cluster id next) next.point (s.leave cluster)
  | keep {cluster : Identity} {id : ObserverId} {next : Next κ} :
      s.entry? cluster ≠ some id → Move s call (.remove cluster id next) next.point s
  | spawn {cluster : Identity} {client : κ} {use : Use} :
      Move s call (.spawn cluster client use) (.insert cluster s.observers.length use)
        (s.add { cluster, client, settings := s.settings })
  | insert {cluster : Identity} {id : ObserverId} {use : Use} :
      s.entry? cluster = none →
        Move s call (.insert cluster id use) (use.point id) (s.enter cluster id)
  | displace {cluster : Identity} {id old : ObserverId} {use : Use} :
      s.entry? cluster = some old →
        Move s call (.insert cluster id use) (.displace id old use) (s.enter cluster id)
  | supersede {id old : ObserverId} {use : Use} :
      Move s call (.displace id old use) (use.point id) (s.update old Observer.cancel)
  | read {id : ObserverId} {observer : Observer κ} :
      s.observers[id]? = some observer →
        Move s call (.read id) (.finished (.observation observer.last)) s
  | get {cluster : Identity} :
      Move s call (.get cluster) (.finished (.entry (s.entry? cluster))) s
  | list {stopping : Bool} {order : List Identity} :
      order.Perm s.clusters →
        Move s call (.enumerate stopping) (pointAfterList stopping order) s

/-- A move leaves where the calls stand to the step that it is part of. -/
theorem Move.calls {s r : State κ} {call : CallId} {p q : Point κ} (move : Move s call p q r) :
    r.calls = s.calls := by
  cases move <;> rfl

theorem Move.calls_goto {s r : State κ} {call : CallId} {p q : Point κ}
    (move : Move s call p q r) : (r.goto call q).calls = s.calls.set call q :=
  congrArg (·.set call q) move.calls

theorem Move.settings {s r : State κ} {call : CallId} {p q : Point κ}
    (move : Move s call p q r) : r.settings = s.settings := by
  cases move <;> rfl

theorem move_of_stepCall {s t : State κ} {call : CallId} {p : Point κ}
    (step : s.stepCall call p = some t) : ∃ q r, Move s call p q r ∧ t = r.goto call q := by
  cases p with
  | lookup cluster client use =>
      simp only [State.stepCall] at step
      split at step
      · next absent => exact ⟨_, _, .unobserved absent, (Option.some.inj step).symm⟩
      · next id entered =>
          obtain ⟨observer, known, step⟩ := Option.bind_eq_some_iff.mp step
          split at step
          · next equal => exact ⟨_, _, .reuse entered known equal, (Option.some.inj step).symm⟩
          · next other => exact ⟨_, _, .replace entered known other, (Option.some.inj step).symm⟩
  | find cluster next =>
      simp only [State.stepCall] at step
      split at step
      · next absent => exact ⟨_, _, .absent absent, (Option.some.inj step).symm⟩
      · next id entered => exact ⟨_, _, .found entered, (Option.some.inj step).symm⟩
  | halt stage id after =>
      cases stage with
      | cancel => exact ⟨_, _, .cancel, (Option.some.inj step).symm⟩
      | enqueue => exact ⟨_, _, .enqueue, (Option.some.inj step).symm⟩
      | acquire =>
          obtain ⟨observer, known, step⟩ := Option.bind_eq_some_iff.mp step
          split at step
          · next first =>
              split at step
              · next joined => exact ⟨_, _, .pass known first joined, (Option.some.inj step).symm⟩
              · next unjoined =>
                  exact ⟨_, _, .acquire known first (by simpa using unjoined),
                    (Option.some.inj step).symm⟩
          · cases step
      | join =>
          obtain ⟨observer, known, step⟩ := Option.bind_eq_some_iff.mp step
          split at step
          · next finished => exact ⟨_, _, .join known finished, (Option.some.inj step).symm⟩
          · cases step
  | remove cluster id next =>
      simp only [State.stepCall] at step
      split at step
      · next entered => exact ⟨_, _, .remove entered, (Option.some.inj step).symm⟩
      · next other => exact ⟨_, _, .keep other, (Option.some.inj step).symm⟩
  | spawn cluster client use => exact ⟨_, _, .spawn, (Option.some.inj step).symm⟩
  | insert cluster id use =>
      simp only [State.stepCall] at step
      split at step
      · next absent => exact ⟨_, _, .insert absent, (Option.some.inj step).symm⟩
      · next old entered => exact ⟨_, _, .displace entered, (Option.some.inj step).symm⟩
  | displace id old use => exact ⟨_, _, .supersede, (Option.some.inj step).symm⟩
  | read id =>
      obtain ⟨observer, known, step⟩ := Option.bind_eq_some_iff.mp step
      exact ⟨_, _, .read known, (Option.some.inj step).symm⟩
  | get cluster => exact ⟨_, _, .get, (Option.some.inj step).symm⟩
  | enumerate stopping => cases step
  | finished outcome => cases step

/-- Only a call that lists the clusters needs to be told in which order. -/
theorem stepCall_of_move {s r : State κ} {call : CallId} {p q : Point κ}
    (move : Move s call p q r) (unlisted : ∀ stopping, p ≠ .enumerate stopping) :
    s.stepCall call p = some (r.goto call q) := by
  cases move with
  | unobserved absent => simp [State.stepCall, absent]
  | reuse entered known equal => simp [State.stepCall, entered, known, equal]
  | replace entered known other => simp [State.stepCall, entered, known, other]
  | absent absent => simp [State.stepCall, absent]
  | found entered => simp [State.stepCall, entered]
  | cancel => rfl
  | enqueue => rfl
  | acquire known first unjoined => simp [State.stepCall, known, first, unjoined]
  | pass known first joined => simp [State.stepCall, known, first, joined]
  | join known finished => simp [State.stepCall, known, finished]
  | remove entered => simp [State.stepCall, entered, State.leave]
  | keep other => simp [State.stepCall, other]
  | spawn => rfl
  | insert absent => simp [State.stepCall, absent, State.enter]
  | displace entered => simp [State.stepCall, entered, State.enter]
  | supersede => rfl
  | read known => simp [State.stepCall, known]
  | get => rfl
  | list => exact absurd rfl (unlisted _)

/-! ## Steps -/

/-- The call that goes on. -/
def Label.call? : Label κ → Option CallId
  | .call id => some id
  | .enumerate id _ => some id
  | _ => none

/-- `Step s label t`: what the label says can go on in the state `s`, and `t` is the state
after it. -/
inductive Step (s : State κ) : Label κ → State κ → Prop where
  | begin {request : Request κ} :
      Step s (.begin request) { s with calls := s.calls ++ [request.point] }
  | call {label : Label κ} {call : CallId} {p q : Point κ} {r : State κ} :
      label.call? = some call → s.calls[call]? = some p → Move s call p q r →
        Step s label (r.goto call q)
  | task {id : ObserverId} {environment : Environment κ} {observer : Observer κ} :
      s.observers[id]? = some observer →
        Step s (.task id environment)
          (s.replace id (observer.run s.clock s.now (environment observer.client)).1)
  | advance {time : Nat} : Step s (.advance time) { s with now := s.now + time }
  | spawn {cluster : Identity} {client : κ} {settings : Settings} :
      Step s (.spawn cluster client settings) (s.add { cluster, client, settings })
  | signal {id : ObserverId} : Step s (.signal id) (s.update id Observer.cancel)

theorem step_of_eq_some {s t : State κ} {label : Label κ} {events : List (ObserverId × Event)}
    (goes : s.step label = some (t, events)) : Step s label t := by
  cases label with
  | begin request =>
      cases goes
      exact .begin
  | call call =>
      obtain ⟨p, stands, goes⟩ := Option.bind_eq_some_iff.mp goes
      obtain ⟨state, step, goes⟩ := Option.bind_eq_some_iff.mp goes
      obtain ⟨q, r, move, rfl⟩ := move_of_stepCall step
      cases goes
      exact .call rfl stands move
  | enumerate call order =>
      simp only [State.step] at goes
      split at goes
      · next stopping stands =>
          split at goes
          · next perm =>
              cases goes
              exact .call rfl stands (.list (List.isPerm_iff.mp perm))
          · cases goes
      · cases goes
  | task id environment =>
      obtain ⟨observer, known, goes⟩ := Option.bind_eq_some_iff.mp goes
      cases goes
      exact .task known
  | advance time =>
      cases goes
      exact .advance
  | spawn cluster client settings =>
      cases goes
      exact .spawn
  | signal id =>
      cases goes
      exact .signal

/-- A call stands where it stood, or has made a move. -/
theorem Step.stands_cases {s t : State κ} {label : Label κ} (step : Step s label t)
    {call : CallId} {p : Point κ} (stands : s.calls[call]? = some p) :
    t.calls[call]? = some p ∨
      ∃ q r, label.call? = some call ∧ Move s call p q r ∧ t = r.goto call q ∧
        t.calls[call]? = some q := by
  have within := (List.getElem?_eq_some_iff.mp stands).1
  cases step with
  | begin => exact .inl ((List.getElem?_append_left within).trans stands)
  | @call label other p' q r goes stands' move =>
      rw [move.calls_goto]
      by_cases same : other = call
      · subst same
        cases stands.symm.trans stands'
        exact .inr ⟨q, r, goes, move, rfl, List.getElem?_set_self within⟩
      · exact .inl ((List.getElem?_set_ne same).trans stands)
  | _ => exact .inl stands

/-- The step of a label that concerns a call is a move of the call. -/
theorem Step.exists_move {s t : State κ} {label : Label κ} (step : Step s label t) {call : CallId}
    (moves : label.call? = some call) {p : Point κ} (stands : s.calls[call]? = some p) :
    ∃ q r, Move s call p q r ∧ t = r.goto call q ∧ t.calls[call]? = some q := by
  cases step with
  | @call label other p' q r moves' stands' move =>
      cases moves.symm.trans moves'
      cases stands.symm.trans stands'
      refine ⟨q, r, move, rfl, ?_⟩
      rw [move.calls_goto]
      exact List.getElem?_set_self (List.getElem?_eq_some_iff.mp stands).1
  | _ => cases moves

/-- A call stood where it stands, has made a move to there, or has just begun. -/
theorem Step.stood_cases {s t : State κ} {label : Label κ} (step : Step s label t)
    {call : CallId} {q : Point κ} (stands : t.calls[call]? = some q) :
    s.calls[call]? = some q ∨
      (∃ p r, label.call? = some call ∧ s.calls[call]? = some p ∧ Move s call p q r ∧
        t = r.goto call q) ∨
      ∃ request, label = .begin request ∧ call = s.calls.length ∧ q = request.point := by
  cases step with
  | @begin request =>
      rcases getElem?_concat_cases stands with stood | ⟨rfl, rfl⟩
      · exact .inl stood
      · exact .inr (.inr ⟨request, rfl, rfl, rfl⟩)
  | @call label other p q' r goes stood move =>
      rcases getElem?_set_cases stands with ⟨rfl, rfl⟩ | ⟨-, stood⟩
      · exact .inr (.inl ⟨p, r, goes, stood, move, rfl⟩)
      · exact .inl (move.calls ▸ stood)
  | _ => exact .inl stands

/-- A run goes on from where another one ends. -/
theorem Run.append {s t u : State κ} {labels more : List (Label κ)}
    {events later : List (ObserverId × Event)} (run : Run s labels t events)
    (onward : Run t more u later) : Run s (labels ++ more) u (events ++ later) := by
  induction run with
  | nil s => exact onward
  | cons goes run ih =>
      rw [List.append_assoc]
      exact .cons goes (ih onward)

/-- A property that each step keeps holds after a run. -/
theorem Run.induction {P : State κ → Prop} {s t : State κ} {labels : List (Label κ)}
    {events : List (ObserverId × Event)} (run : Run s labels t events) (first : P s)
    (keeps : ∀ s t, ∀ label ∈ labels, P s → Step s label t → P t) : P t := by
  induction run with
  | nil s => exact first
  | cons goes run ih =>
      refine ih (keeps _ _ _ List.mem_cons_self first (step_of_eq_some goes)) ?_
      intro s t label mem
      exact keeps s t label (List.mem_cons_of_mem _ mem)

/-- A property of a run so far, and of the state that it has led to, holds in the end if
each step on the way keeps it. -/
theorem Run.induction_prefix {P : List (Label κ) → State κ → Prop} {s t : State κ}
    {labels : List (Label κ)} {events : List (ObserverId × Event)} (run : Run s labels t events)
    (first : P [] s)
    (keeps : ∀ past label later u v before during, labels = past ++ label :: later →
      Run s past u before → u.step label = some (v, during) → P past u →
        P (past ++ [label]) v) : P labels t := by
  induction run generalizing P with
  | nil s => exact first
  | @cons s m t label labels events more goes run ih =>
      refine ih (P := fun past u => P (label :: past) u)
        (keeps [] label labels s m [] events rfl (.nil s) goes first) ?_
      intro past next later u v before during split run' goes' holds
      exact keeps (label :: past) next later u v _ during (congrArg (label :: ·) split)
        (.cons goes run') goes' holds

/-- The state that labels lead to, with the events of the tasks on the way. -/
def State.follow? : List (Label κ) → State κ → Option (State κ × List (ObserverId × Event))
  | [], s => some (s, [])
  | label :: labels, s =>
      (s.step label).bind fun next =>
        (follow? labels next.1).map fun last => (last.1, next.2 ++ last.2)

/-- Labels lead to one state at most. -/
theorem run_iff_follow?_eq_some {s t : State κ} {labels : List (Label κ)}
    {events : List (ObserverId × Event)} :
    Run s labels t events ↔ s.follow? labels = some (t, events) := by
  constructor
  · intro run
    induction run with
    | nil s => rfl
    | cons goes run ih => simp only [State.follow?, goes, Option.bind_some, ih, Option.map_some]
  · intro follows
    induction labels generalizing s events with
    | nil =>
        cases follows
        exact .nil _
    | cons label labels ih =>
        obtain ⟨⟨u, first⟩, goes, follows⟩ := Option.bind_eq_some_iff.mp follows
        obtain ⟨⟨u', more⟩, rest, same⟩ := Option.map_eq_some_iff.mp follows
        cases same
        exact .cons goes (ih rest)

end ClusterWatch.Observation.Registry
