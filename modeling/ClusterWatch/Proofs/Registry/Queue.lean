import ClusterWatch.Proofs.Observer.Life
import ClusterWatch.Proofs.Registry.Lock

/-!
# Stops are let through in turn

The calls that stop one observer get its lock one after another.  Each of them lets go of it
once the task has ended, and that is after one more run of the task; so a call that stops an
observer can be driven to its end from wherever it stands, whatever else stops the observer.
-/

namespace ClusterWatch.Observation.Registry

open Elasticsearch (HasConnection)
open Kubernetes (Identity)

variable {κ : Type}

variable [HasConnection κ]

/-! ## Driving a stop to its end -/

/-- The label lets a call go on, or the task of the observer run. -/
def Label.Drives (id : ObserverId) (environment : Environment κ) (label : Label κ) : Prop :=
  (∃ call, label = .call call) ∨ label = .task id environment

/-- The call that stops the observer comes to the end of the stop after some steps of calls and
runs of the task. -/
def State.CanLeave (s : State κ) (call : CallId) (id : ObserverId)
    (after : Option (Identity × Next κ)) (environment : Environment κ) : Prop :=
  ∃ labels t events, (∀ label ∈ labels, label.Drives id environment) ∧ Run s labels t events ∧
    t.calls[call]? = some (pointAfterHalt id after)

theorem Move.step_call {s r : State κ} {call : CallId} {p q : Point κ} (move : Move s call p q r)
    (stands : s.calls[call]? = some p) (unlisted : ∀ stopping, p ≠ .enumerate stopping) :
    s.step (.call call) = some (r.goto call q, []) := by
  simp [State.step, stands, stepCall_of_move move unlisted]

/-- The call has the lock of the observer or has asked for it, and the observer is
cancelled. -/
structure State.Queues (s : State κ) (call : CallId) (id : ObserverId)
    (after : Option (Identity × Next κ)) (o : Observer κ) : Prop where
  stands : s.calls[call]? = some (.halt .acquire id after) ∨
    s.calls[call]? = some (.halt .join id after)
  known : s.observers[id]? = some o
  cancelled : o.cancelled = true
  enlisted : call ∈ o.queue

/-- Once the task has ended, the first call in the queue lets go of the lock. -/
theorem State.Queues.exists_run_release {s : State κ} {call : CallId} {id : ObserverId}
    {after : Option (Identity × Next κ)} {o : Observer κ} (queues : s.Queues call id after o)
    (finished : o.task.isFinished = true) (first : o.queue.head? = some call) :
    ∃ labels t, (∀ label ∈ labels, ∃ call, label = .call call) ∧ Run s labels t [] ∧
      t.observers[id]? = some o.release ∧
      t.calls = s.calls.set call (pointAfterHalt id after) := by
  obtain ⟨stands, known, cancelled, enlisted⟩ := queues
  have released (t : State κ) (same : t.observers = s.observers) (p : Point κ) :
      ((t.update id Observer.release).goto call p).observers[id]? = some o.release := by
    rw [State.observers_goto, State.observers_update, same]
    exact getElem?_modify_self known Observer.release
  rcases stands with stands | stands
  · cases joined : o.joined with
    | true =>
        have goes := (Move.pass known first joined).step_call stands nofun
        refine ⟨[.call call], _, ?_, .cons goes (.nil _), released s rfl _, rfl⟩
        exact fun label mem => ⟨call, List.mem_singleton.mp mem⟩
    | false =>
        have move : Move s call (.halt .acquire id after) (.halt .join id after) s :=
          .acquire known first joined
        have goes := move.step_call stands nofun
        have within := (List.getElem?_eq_some_iff.mp stands).1
        have stands' : (s.goto call (.halt .join id after)).calls[call]? =
            some (.halt .join id after) := List.getElem?_set_self within
        have known' : (s.goto call (.halt .join id after)).observers[id]? = some o := known
        have goes' := (Move.join known' finished).step_call stands' nofun
        refine ⟨[.call call, .call call], _, ?_, .cons goes (.cons goes' (.nil _)),
          released (s.goto call _) rfl (pointAfterHalt id after), ?_⟩
        · simp
        · rw [State.calls_goto, State.calls_update, State.calls_goto, List.set_set]
  · have move : Move s call (.halt .join id after) (pointAfterHalt id after)
        (s.update id Observer.release) := .join known finished
    have goes := move.step_call stands nofun
    refine ⟨[.call call], _, ?_, .cons goes (.nil _), released s rfl _, rfl⟩
    exact fun label mem => ⟨call, List.mem_singleton.mp mem⟩

omit [HasConnection κ] in
theorem Point.eq_of_waitsFor? {p : Point κ} {id : ObserverId} (waits : p.waitsFor? = some id) :
    ∃ after, p = .halt .acquire id after ∨ p = .halt .join id after := by
  cases p with
  | halt stage other after =>
      cases stage with
      | cancel | enqueue => cases waits
      | acquire =>
          cases waits
          exact ⟨after, .inl rfl⟩
      | join =>
          cases waits
          exact ⟨after, .inr rfl⟩
  | _ => cases waits

/-- Once the task of an observer has ended, each call in the queue of the observer gets its
turn. -/
theorem State.Queues.exists_run {s : State κ} {call : CallId} {id : ObserverId}
    {after : Option (Identity × Next κ)} {o : Observer κ} (queues : s.Queues call id after o)
    (lined : Lined s) (finished : o.task.isFinished = true) :
    ∃ labels t, (∀ label ∈ labels, ∃ call, label = .call call) ∧ Run s labels t [] ∧
      t.calls[call]? = some (pointAfterHalt id after) := by
  -- Whoever is first lets go of the lock, and the queue is one shorter.
  induction left : o.queue.length using Nat.strongRecOn generalizing s o with
  | ind n ih =>
      obtain ⟨stands, known, cancelled, enlisted⟩ := queues
      cases queue : o.queue with
      | nil =>
          rw [queue] at enlisted
          cases enlisted
      | cons first rest =>
          have has : s.queue? id = some (first :: rest) :=
            State.queue?_eq_some_iff.mpr ⟨o, known, queue⟩
          obtain ⟨p, stands', waits⟩ := lined.waits id _ has first List.mem_cons_self
          have within := (List.getElem?_eq_some_iff.mp stands').1
          obtain ⟨other, leads⟩ : ∃ other, s.Queues first id other o := by
            obtain ⟨other, rfl | rfl⟩ := Point.eq_of_waitsFor? waits
            · exact ⟨other, .inl stands', known, cancelled, queue ▸ List.mem_cons_self⟩
            · exact ⟨other, .inr stands', known, cancelled, queue ▸ List.mem_cons_self⟩
          obtain ⟨labels, t, calls, run, known', moved⟩ :=
            leads.exists_run_release finished (by rw [queue]; rfl)
          by_cases same : first = call
          · subst same
            have same : other = after := by
              rcases leads.stands with here | here <;> rcases stands with there | there <;>
                cases here.symm.trans there <;> rfl
            refine ⟨labels, t, calls, run, ?_⟩
            rw [moved, same]
            exact List.getElem?_set_self within
          · have onward : t.Queues call id after o.release := by
              constructor
              · rw [moved, List.getElem?_set_ne same]
                exact stands
              · exact known'
              · exact cancelled
              · rw [queue] at enlisted
                rw [Observer.release, queue]
                exact (List.mem_cons.mp enlisted).resolve_left (Ne.symm same)
            have less : o.release.queue.length < n := by
              rw [← left, Observer.release, queue]
              exact Nat.lt_succ_self rest.length
            obtain ⟨more, u, calls', run', ended⟩ :=
              ih _ less onward (run.lined lined) finished rfl
            refine ⟨labels ++ more, u, ?_, run.append run', ended⟩
            intro label mem
            rcases List.mem_append.mp mem with mem | mem
            · exact calls label mem
            · exact calls' label mem

theorem State.CanLeave.of_step {s t : State κ} {call : CallId} {id : ObserverId}
    {after : Option (Identity × Next κ)} {environment : Environment κ} {label : Label κ}
    {events : List (ObserverId × Event)} (goes : s.step label = some (t, events))
    (drives : label.Drives id environment) (leaves : t.CanLeave call id after environment) :
    s.CanLeave call id after environment := by
  obtain ⟨labels, u, more, driving, run, ended⟩ := leaves
  refine ⟨label :: labels, u, _, ?_, .cons goes run, ended⟩
  intro other mem
  rcases List.mem_cons.mp mem with rfl | mem
  · exact drives
  · exact driving other mem

theorem State.Queues.canLeave {s : State κ} {call : CallId} {id : ObserverId}
    {after : Option (Identity × Next κ)} {o : Observer κ} (queues : s.Queues call id after o)
    (lined : Lined s) (environment : Environment κ) : s.CanLeave call id after environment := by
  obtain ⟨stands, known, cancelled, enlisted⟩ := queues
  -- One run ends the task of a cancelled observer; then the queue moves on.
  let o' : Observer κ := { o with task := .finished }
  have goes : s.step (.task id environment) = some (s.replace id o', []) := by
    simp only [State.step, known, Option.bind_eq_bind, Option.bind_some]
    rw [Observer.run_of_cancelled cancelled]
    rfl
  apply State.CanLeave.of_step goes (.inr rfl)
  have within := (List.getElem?_eq_some_iff.mp known).1
  have queues' : (s.replace id o').Queues call id after o' :=
    ⟨stands, List.getElem?_set_self within, cancelled, enlisted⟩
  obtain ⟨labels, t, calls, run, ended⟩ :=
    queues'.exists_run (lined.step (step_of_eq_some goes)) rfl
  exact ⟨labels, t, _, fun label mem => .inl (calls label mem), run, ended⟩

theorem Lined.canLeave_of_enqueue {s : State κ} (lined : Lined s) {call : CallId}
    {id : ObserverId} {after : Option (Identity × Next κ)} {o : Observer κ}
    (stands : s.calls[call]? = some (.halt .enqueue id after))
    (known : s.observers[id]? = some o) (cancelled : o.cancelled = true)
    (environment : Environment κ) : s.CanLeave call id after environment := by
  have goes := Move.enqueue.step_call stands nofun
  apply State.CanLeave.of_step goes (.inl ⟨call, rfl⟩)
  have queues : ((s.update id (Observer.enqueue call)).goto call
      (.halt .acquire id after)).Queues call id after (o.enqueue call) := by
    constructor
    · exact .inl (List.getElem?_set_self (List.getElem?_eq_some_iff.mp stands).1)
    · exact getElem?_modify_self known _
    · exact cancelled
    · exact List.mem_append_right _ List.mem_cons_self
  exact queues.canLeave (lined.step (step_of_eq_some goes)) environment

theorem Lined.canLeave_of_cancel {s : State κ} (lined : Lined s) {call : CallId}
    {id : ObserverId} {after : Option (Identity × Next κ)} {o : Observer κ}
    (stands : s.calls[call]? = some (.halt .cancel id after))
    (known : s.observers[id]? = some o) (environment : Environment κ) :
    s.CanLeave call id after environment := by
  have goes := Move.cancel.step_call stands nofun
  apply State.CanLeave.of_step goes (.inl ⟨call, rfl⟩)
  have stands' : ((s.update id Observer.cancel).goto call
      (.halt .enqueue id after)).calls[call]? = some (.halt .enqueue id after) :=
    List.getElem?_set_self (List.getElem?_eq_some_iff.mp stands).1
  exact (lined.step (step_of_eq_some goes)).canLeave_of_enqueue stands'
    (getElem?_modify_self known _) rfl environment

/-- The call stops the observer, and once it has asked for the lock it is in the queue. -/
structure State.Halts (s : State κ) (call : CallId) (stage : Stage) (id : ObserverId)
    (after : Option (Identity × Next κ)) (o : Observer κ) : Prop where
  stands : s.calls[call]? = some (.halt stage id after)
  known : s.observers[id]? = some o
  cancelled : stage ≠ .cancel → o.cancelled = true
  enlisted : stage = .acquire ∨ stage = .join → call ∈ o.queue

/-- A call that stops an observer can be driven to the end of the stop. -/
theorem State.Halts.canLeave {s : State κ} {call : CallId} {stage : Stage} {id : ObserverId}
    {after : Option (Identity × Next κ)} {o : Observer κ} (halts : s.Halts call stage id after o)
    (lined : Lined s) (environment : Environment κ) : s.CanLeave call id after environment := by
  obtain ⟨stands, known, cancelled, enlisted⟩ := halts
  cases stage with
  | cancel => exact lined.canLeave_of_cancel stands known environment
  | enqueue => exact lined.canLeave_of_enqueue stands known (cancelled nofun) environment
  | acquire =>
      have queues : s.Queues call id after o :=
        ⟨.inl stands, known, cancelled nofun, enlisted (.inl rfl)⟩
      exact queues.canLeave lined environment
  | join =>
      have queues : s.Queues call id after o :=
        ⟨.inr stands, known, cancelled nofun, enlisted (.inr rfl)⟩
      exact queues.canLeave lined environment

/-! ## Stops in the course of steps -/

/-- A call comes to a stage of a stop from the one before. -/
theorem Move.of_halt {s r : State κ} {call : CallId} {p : Point κ} {stage : Stage}
    {id : ObserverId} {after : Option (Identity × Next κ)}
    (move : Move s call p (.halt stage id after) r) :
    stage = .cancel ∨
      (stage = .enqueue ∧ p = .halt .cancel id after ∧ r = s.update id Observer.cancel) ∨
      (stage = .acquire ∧ p = .halt .enqueue id after ∧
        r = s.update id (Observer.enqueue call)) ∨
      (stage = .join ∧ p = .halt .acquire id after ∧ r = s) := by
  generalize eq : Point.halt stage id after = q at move
  cases move with
  | found =>
      cases eq
      exact .inl rfl
  | cancel =>
      cases eq
      exact .inr (.inl ⟨rfl, rfl, rfl⟩)
  | enqueue =>
      cases eq
      exact .inr (.inr (.inl ⟨rfl, rfl, rfl⟩))
  | acquire =>
      cases eq
      exact .inr (.inr (.inr ⟨rfl, rfl, rfl⟩))
  | @reuse _ _ use | @insert _ _ use | @supersede _ _ use => cases use <;> cases eq
  | @absent _ next | @remove _ _ next | @keep _ _ next =>
      rcases next with ⟨_, _, _⟩ | ⟨_ | ⟨_, _⟩⟩ <;> cases eq
  | @pass _ next | @join _ next => cases next <;> cases eq
  | @list stopping order =>
      cases stopping with
      | false => cases eq
      | true => cases order <;> cases eq
  | _ => cases eq

/-- What a call that stops an observer has done so far holds after a step. -/
theorem State.Halts.step {s t : State κ} {label : Label κ} {call : CallId} {id : ObserverId}
    {after : Option (Identity × Next κ)} {o : Observer κ} (lined : Lined s)
    (known : s.observers[id]? = some o)
    (halts : ∀ stage, s.calls[call]? = some (.halt stage id after) →
      s.Halts call stage id after o)
    (step : Step s label t) :
    ∃ o', t.observers[id]? = some o' ∧ ∀ stage, t.calls[call]? = some (.halt stage id after) →
      t.Halts call stage id after o' := by
  obtain ⟨o', known', continues⟩ := step.evolves id o known
  refine ⟨o', known', ?_⟩
  intro stage stands
  have keeps (stage : Stage) (stood : s.calls[call]? = some (.halt stage id after))
      (queued : stage = .acquire ∨ stage = .join → t.Waits call id) :
      (stage ≠ .cancel → o'.cancelled = true) ∧
        (stage = .acquire ∨ stage = .join → call ∈ o'.queue) := by
    obtain ⟨-, same, cancelled, enlisted⟩ := halts stage stood
    constructor
    · exact fun past => continues.cancelled (cancelled past)
    · intro past
      have has : t.queue? id = some o'.queue := State.queue?_eq_some_iff.mpr ⟨o', known', rfl⟩
      have was : s.queue? id = some o.queue := State.queue?_eq_some_iff.mpr ⟨o, known, rfl⟩
      exact step.mem_queue lined has (queued past) fun _ => ⟨o.queue, was, enlisted past⟩
  rcases step.stood_cases stands with stood | ⟨p, r, -, stood, move, rfl⟩ | ⟨request, -, -, starts⟩
  · have queued (past : stage = .acquire ∨ stage = .join) : t.Waits call id := by
      refine ⟨_, stands, ?_⟩
      rcases past with rfl | rfl <;> rfl
    obtain ⟨cancelled, enlisted⟩ := keeps stage stood queued
    exact ⟨stands, known', cancelled, enlisted⟩
  · rcases move.of_halt with rfl | ⟨rfl, rfl, rfl⟩ | ⟨rfl, rfl, rfl⟩ | ⟨rfl, rfl, rfl⟩
    · exact ⟨stands, known', fun past => absurd rfl past, nofun⟩
    · cases (getElem?_modify_self known Observer.cancel).symm.trans known'
      exact ⟨stands, known', fun _ => rfl, nofun⟩
    · have before := halts .enqueue stood
      cases (getElem?_modify_self known (Observer.enqueue call)).symm.trans known'
      exact ⟨stands, known', fun _ => before.cancelled nofun,
        fun _ => List.mem_append_right _ List.mem_cons_self⟩
    · obtain ⟨cancelled, enlisted⟩ := keeps .acquire stood fun _ => ⟨_, stands, rfl⟩
      exact ⟨stands, known', fun _ => cancelled nofun, fun _ => enlisted (.inl rfl)⟩
  · cases request with
    | halt other =>
        cases starts
        exact ⟨stands, known', fun past => absurd rfl past, nofun⟩
    | _ => cases starts

end ClusterWatch.Observation.Registry
