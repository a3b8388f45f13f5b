import ClusterWatch.Proofs.Registry.Frame

/-!
# Calls come to an end

A call that works on a cluster alone never waits for another call, only for the task of an
observer that it has cancelled, and that task ends in its next run.  Each of its steps
leaves it with less to do.
-/

namespace ClusterWatch.Observation.Registry

open Elasticsearch (HasConnection)
open Kubernetes (Identity)

variable {κ : Type}

/-- How many steps a call has left on its cluster, at most. -/
def Point.remaining : Point κ → Nat
  | .lookup _ _ _ => 11
  | .find _ _ => 10
  | .halt .cancel _ _ => 9
  | .halt .enqueue _ _ => 8
  | .halt .acquire _ _ => 7
  | .halt .join _ _ => 6
  | .remove _ _ _ => 5
  | .spawn _ _ _ => 4
  | .insert _ _ _ => 3
  | .displace _ _ _ => 2
  | .read _ => 1
  | .get _ => 1
  | .enumerate _ => 1
  | .finished _ => 0

theorem exists_finished_of_remaining {p : Point κ} (none : p.remaining = 0) :
    ∃ outcome, p = .finished outcome := by
  cases p with
  | finished outcome => exact ⟨outcome, rfl⟩
  | halt stage => cases stage <;> cases none
  | _ => cases none

theorem Use.remaining_point_le (use : Use) (id : ObserverId) :
    (use.point id : Point κ).remaining ≤ 1 := by
  cases use with
  | give => exact Nat.zero_le 1
  | read => exact Nat.le_refl 1

theorem Next.remaining_point_le {next : Next κ} (unopened : next.point.opened? = none) :
    next.point.remaining ≤ 4 := by
  rcases next with ⟨_, _, _⟩ | ⟨_ | ⟨_, _⟩⟩
  · exact Nat.le_refl 4
  · exact Nat.zero_le 4
  · cases unopened

/-- All that is known of a registry in which calls have been under way. -/
structure Sound (s : State κ) : Prop where
  coherent : Coherent s
  guarded : Guarded s
  orderly : Orderly s

theorem State.IsFresh.sound {s : State κ} (fresh : s.IsFresh) : Sound s :=
  ⟨fresh.coherent, fresh.guarded, fresh.orderly⟩

variable [HasConnection κ]

theorem Sound.step {s t : State κ} {label : Label κ} (sound : Sound s) (own : label.IsOwn)
    (step : Step s label t) : Sound t where
  coherent := sound.coherent.step step
  guarded := sound.guarded.step sound.coherent own step
  orderly := sound.orderly.step sound.coherent sound.guarded step

section Move

variable {s r : State κ} {call : CallId} {p q : Point κ}

theorem Move.remaining_lt (move : Move s call p q r) (unopened : q.opened? = none) :
    q.remaining < p.remaining := by
  cases move with
  | reuse | insert | supersede =>
      refine Nat.lt_of_le_of_lt (Use.remaining_point_le _ _) ?_
      simp [Point.remaining]
  | absent | remove | keep =>
      refine Nat.lt_of_le_of_lt (Next.remaining_point_le unopened) ?_
      simp [Point.remaining]
  | @pass _ after | @join _ after => cases after <;> simp [pointAfterHalt, Point.remaining]
  | @list stopping order =>
      cases stopping with
      | false => exact Nat.one_pos
      | true =>
          cases order with
          | nil => exact Nat.one_pos
          | cons => cases unopened
  | _ => simp [Point.remaining]

omit [HasConnection κ] in
/-- The calls that want the lock of an observer work on its cluster. -/
theorem Sound.busy?_of_waits (sound : Sound s) {id : ObserverId} {o : Observer κ}
    (known : s.observers[id]? = some o) (waits : s.Waits call id) :
    s.busy? call = some o.cluster := by
  obtain ⟨p, stands, waits⟩ := waits
  refine State.busy?_eq_some_iff.mpr ⟨p, stands, ?_⟩
  have fits := sound.coherent.fits call p stands
  have bound := sound.guarded.bound call p stands
  cases p with
  | halt stage other after =>
      obtain rfl : other = id := Option.some.inj (Point.atHand?_of_waitsFor? waits)
      rcases after with _ | ⟨cluster, next⟩
      · exact bound.elim
      · obtain ⟨-, o', known', named, -⟩ := fits
        obtain rfl : o = o' := Option.some.inj (known.symm.trans known')
        exact congrArg some named.symm
  | _ => cases waits

omit [HasConnection κ] in
/-- Where nobody else works on the cluster, nobody else wants the lock. -/
theorem Sound.head?_queue (sound : Sound s) {id : ObserverId} {o : Observer κ}
    (known : s.observers[id]? = some o) (waits : s.Waits call id)
    (alone : ∀ other, s.busy? other = some o.cluster → other = call) :
    o.queue.head? = some call := by
  have queued := sound.orderly.queued id o.queue (State.queue?_eq_some_iff.mpr ⟨o, known, rfl⟩)
  cases queue : o.queue with
  | nil =>
      rw [← queued, queue] at waits
      exact (List.not_mem_nil waits).elim
  | cons other rest =>
      have wants : s.Waits other id := (queued other).mp (queue ▸ List.mem_cons_self)
      exact congrArg some (alone other (sound.busy?_of_waits known wants))

/-- A call that works on a cluster alone can go on, unless it waits for a task to end. -/
theorem Sound.exists_move (sound : Sound s) {cluster : Identity}
    (stands : s.calls[call]? = some p) (works : p.cluster? s.observers = some cluster)
    (alone : ∀ other, s.busy? other = some cluster → other = call) :
    (∃ q r, Move s call p q r) ∨
      ∃ id after o, p = .halt .join id after ∧ s.observers[id]? = some o ∧ o.cancelled = true := by
  have fits := sound.coherent.fits call p stands
  have bound := sound.guarded.bound call p stands
  cases p with
  | lookup cluster client use =>
      left
      cases entered : s.entry? cluster with
      | none => exact ⟨_, _, .unobserved entered⟩
      | some id =>
          obtain ⟨o, known, -⟩ := sound.coherent.entered cluster id entered
          by_cases serves : Elasticsearch.Interchangeable o.client client
          · exact ⟨_, _, .reuse entered known serves⟩
          · exact ⟨_, _, .replace entered known serves⟩
  | find cluster next =>
      left
      cases entered : s.entry? cluster with
      | none => exact ⟨_, _, .absent entered⟩
      | some id => exact ⟨_, _, .found entered⟩
  | halt stage id after =>
      rcases after with _ | ⟨cluster, next⟩
      · exact bound.elim
      · cases works
        obtain ⟨-, o, known, rfl, cancelled⟩ := fits
        cases stage with
        | cancel => exact .inl ⟨_, _, .cancel⟩
        | enqueue => exact .inl ⟨_, _, .enqueue⟩
        | acquire =>
            left
            have first := sound.head?_queue known ⟨_, stands, rfl⟩ alone
            cases joined : o.joined with
            | false => exact ⟨_, _, .acquire known first joined⟩
            | true => exact ⟨_, _, .pass known first joined⟩
        | join => exact .inr ⟨id, _, o, rfl, known, cancelled nofun⟩
  | remove cluster id next =>
      left
      by_cases entered : s.entry? cluster = some id
      · exact ⟨_, _, .remove entered⟩
      · exact ⟨_, _, .keep entered⟩
  | spawn cluster client use => exact .inl ⟨_, _, .spawn⟩
  | insert cluster id use =>
      left
      cases entered : s.entry? cluster with
      | none => exact ⟨_, _, .insert entered⟩
      | some old => exact ⟨_, _, .displace entered⟩
  | displace id old use => exact .inl ⟨_, _, .supersede⟩
  | read id =>
      obtain ⟨o, known⟩ := fits
      exact .inl ⟨_, _, .read known⟩
  | get cluster => exact .inl ⟨_, _, .get⟩
  | enumerate stopping => cases works
  | finished outcome => cases works

end Move

/-- A call that works on a cluster alone can go on, at the latest once the task that it
waits for has run. -/
theorem Sound.exists_run_move {s : State κ} {call : CallId} {p : Point κ} (sound : Sound s)
    {cluster : Identity} (stands : s.calls[call]? = some p)
    (works : p.cluster? s.observers = some cluster)
    (alone : ∀ other, s.busy? other = some cluster → other = call) (environment : Environment κ) :
    ∃ labels t events q r, (∀ label ∈ labels, ∃ id, label = .task id environment) ∧
      Run s labels t events ∧ t.calls = s.calls ∧ t.busy? = s.busy? ∧ Sound t ∧
        Move t call p q r := by
  rcases sound.exists_move stands works alone with
    ⟨q, r, move⟩ | ⟨id, after, o, rfl, known, cancelled⟩
  · exact ⟨[], s, [], q, r, nofun, .nil s, rfl, rfl, sound, move⟩
  · let service := environment o.client
    let o' := (o.run s.clock s.now service).1
    have goes : s.step (.task id environment) =
        some (s.replace id o', (o.run s.clock s.now service).2.map fun e => (id, e)) := by
      simp only [State.step, known, Option.bind_eq_bind, Option.bind_some]
      rfl
    have step := step_of_eq_some goes
    have known' : (s.replace id o').observers[id]? = some o' :=
      List.getElem?_set_self (List.getElem?_eq_some_iff.mp known).1
    have finished : o'.task.isFinished = true :=
      Observer.isFinished_run_of_cancelled cancelled s.clock s.now service
    have busy : (s.replace id o').busy? = s.busy? :=
      State.busy?_of_evolves sound.coherent rfl step.evolves
    have own : (Label.task id environment : Label κ).IsOwn := trivial
    have labelled : ∀ label ∈ ([.task id environment] : List (Label κ)),
        ∃ id, label = .task id environment := by
      simp
    exact ⟨_, _, _, _, _, labelled, .cons goes (.nil _), rfl, busy, sound.step own step,
      .join known' finished⟩

/-- How many steps a call has left on its cluster, at most. -/
def State.remaining (s : State κ) (call : CallId) : Nat :=
  (s.calls[call]?.map Point.remaining).getD 0

/-- A call is over, or goes on to stop the observer of another cluster. -/
def State.HasLeft (s : State κ) (call : CallId) (cluster : Identity) : Prop :=
  (∃ outcome, s.calls[call]? = some (.finished outcome)) ∨
    ∃ other rest, other ≠ cluster ∧ s.calls[call]? = some (.find other (.stop rest))

/-- A call that works on a cluster alone gets further with it by a step of its own, and a
run of a task if need be. -/
theorem Sound.exists_run_on {s : State κ} {call : CallId} (sound : Sound s)
    {cluster : Identity} (works : s.busy? call = some cluster)
    (alone : ∀ other, s.busy? other = some cluster → other = call) (environment : Environment κ) :
    ∃ labels t events, (∀ label ∈ labels, label = .call call ∨ ∃ id, label = .task id environment) ∧
      Run s labels t events ∧ Sound t ∧
        (t.HasLeft call cluster ∨ t.busy? call = some cluster ∧
          t.remaining call < s.remaining call ∧
            ∀ other, t.busy? other = some cluster → other = call) := by
  obtain ⟨p, stands, here⟩ := State.busy?_eq_some_iff.mp works
  obtain ⟨first, u, events, q, r, tasks, run, calls, busy, sound', move⟩ :=
    sound.exists_run_move stands here alone environment
  have stands' : u.calls[call]? = some p := calls ▸ stands
  have here' : p.cluster? u.observers = some cluster := by
    rw [← busy, State.busy?, stands'] at works
    exact works
  have unlisted (stopping : Bool) : p ≠ .enumerate stopping := by
    rintro rfl
    cases here
  have goes : u.step (.call call) = some (r.goto call q, []) := by
    simp [State.step, stands', stepCall_of_move move unlisted]
  have own : (Label.call call : Label κ).IsOwn := trivial
  have run' := run.append (.cons goes (.nil _))
  refine ⟨_, _, _, fun label mem => ?_, run', sound'.step own (step_of_eq_some goes), ?_⟩
  · rcases List.mem_append.mp mem with mem | mem
    · exact .inr (tasks label mem)
    · exact .inl (List.mem_singleton.mp mem)
  · have within : call < r.calls.length :=
      move.calls ▸ (List.getElem?_eq_some_iff.mp stands').1
    have stands'' : (r.goto call q).calls[call]? = some q := List.getElem?_set_self within
    have onward := move.onward sound'.coherent (sound'.coherent.fits call p stands')
      (sound'.guarded.bound call p stands')
    cases onward with
    | ends => exact .inl (.inl ⟨_, stands''⟩)
    | @opens other rest differs =>
        exact .inl (.inr ⟨other, rest, fun same => differs (same ▸ here'), stands''⟩)
    | stays same unopened =>
        have after := State.busy?_goto q sound'.coherent stands' move.calls move.evolves
        refine .inr ⟨?_, ?_, fun other works => ?_⟩
        · rw [after, if_pos rfl, same, here']
        · rw [State.remaining, State.remaining, stands'', stands]
          exact move.remaining_lt unopened
        · rw [after] at works
          split at works
          · assumption
          · exact alone other (busy ▸ works)

/-- A call that works on a cluster alone is done with the cluster after no more than steps
of its own and runs of tasks. -/
theorem Sound.exists_run_of_busy {s : State κ} {call : CallId} (sound : Sound s)
    {cluster : Identity} (works : s.busy? call = some cluster)
    (alone : ∀ other, s.busy? other = some cluster → other = call) (environment : Environment κ) :
    ∃ labels t events, (∀ label ∈ labels, label = .call call ∨ ∃ id, label = .task id environment) ∧
      Run s labels t events ∧ t.HasLeft call cluster := by
  induction left : s.remaining call using Nat.strongRecOn generalizing s with
  | ind n ih =>
      obtain ⟨first, t, events, within, run, sound', done | ⟨still, less, alone'⟩⟩ :=
        sound.exists_run_on works alone environment
      · exact ⟨first, t, events, within, run, done⟩
      · obtain ⟨rest, u, more, within', run', done⟩ := ih _ (left ▸ less) sound' still alone' rfl
        refine ⟨_, u, _, fun label mem => ?_, run.append run', done⟩
        rcases List.mem_append.mp mem with mem | mem
        · exact within label mem
        · exact within' label mem

end ClusterWatch.Observation.Registry
