import ClusterWatch.Proofs.Reconciliation.Governance

/-!
# No observer outlives its resource

Once a deleted object has had its observer stopped, nothing is left of its observers.  The
reconciliations of the object that follow do no more than to look for one to stop, so none
is created any more.
-/

namespace ClusterWatch.Reconciliation

open Elasticsearch (Client)
open Kubernetes (Identity)
open Observation (CallId Observer ObserverId)
open Observation.Registry (Coherent Label Label.isOwn_of_isOngoing Matches Move Point
  Rows.exists_of_mem Slot State.busy?_eq_some_iff State.created_of_evolves State.isFresh_empty
  State.mem_created_iff Step Undisturbed)

/-! ## Nothing is left -/

/-- Nothing is left of the observers of a cluster. -/
structure IsGone (registry : Observers) (cluster : Identity) : Prop where
  entry : registry.entry? cluster = none
  ended : ∀ (id : ObserverId) (o : Observer Client), registry.observers[id]? = some o →
    o.cluster = cluster → o.cancelled = true ∧ o.task.isFinished = true

theorem IsStopped.isGone {registry : Observers} {cluster : Identity} {slot : Slot Client}
    (stopped : IsStopped slot) (agrees : Matches registry cluster slot)
    (coherent : Coherent registry) : IsGone registry cluster where
  entry := by
    cases entered : registry.entry? cluster with
    | none => rfl
    | some id =>
        obtain ⟨o, known, named⟩ := coherent.entered cluster id entered
        obtain ⟨row, mem, standing, -⟩ := agrees.exists_registered entered known named
        rw [stopped row mem] at standing
        cases standing
  ended := by
    intro id o known named
    obtain ⟨row, mem, o', known', -, -, holds⟩ :=
      Rows.exists_of_mem agrees (State.mem_created_iff.mpr ⟨o, known, named⟩)
    obtain rfl : o = o' := Option.some.inj (known.symm.trans known')
    rw [stopped row mem] at holds
    exact holds.2

theorem IsGone.of_undisturbed {r t : Observers} {cluster : Identity} (gone : IsGone r cluster)
    (undisturbed : Undisturbed r t cluster) : IsGone t cluster where
  entry := undisturbed.entry.trans gone.entry
  ended := by
    intro id o' known' named'
    have mem : id ∈ r.created cluster := by
      rw [← undisturbed.created]
      exact State.mem_created_iff.mpr ⟨o', known', named'⟩
    obtain ⟨o, known, named⟩ := State.mem_created_iff.mp mem
    obtain ⟨cancelled, finished⟩ := gone.ended id o known named
    obtain ⟨o'', known'', continues⟩ := undisturbed.evolves id o known
    obtain rfl : o' = o'' := Option.some.inj (known'.symm.trans known'')
    exact ⟨continues.cancelled cancelled, continues.finished finished⟩

/-! ## Jobs go on -/

/-- A reconciliation stays one of the same object. -/
theorem Controller.Goes.exists_job {s t : Controller} {event : Event} (goes : s.Goes event t)
    {k : Nat} {job : Job} (known : s.jobs[k]? = some job) :
    ∃ job', t.jobs[k]? = some job' ∧ job'.cluster = job.cluster := by
  have goto (j : Nat) (stage : Stage) :
      ∃ job', (s.goto j stage).jobs[k]? = some job' ∧ job'.cluster = job.cluster := by
    rw [Controller.goto, getElem?_modify_eq_ite]
    split
    · exact ⟨_, congrArg (Option.map _) known, rfl⟩
    · exact ⟨job, known, rfl⟩
  cases goes with
  | start =>
      have within : k < s.jobs.length := (List.getElem?_eq_some_iff.mp known).1
      exact ⟨job, (List.getElem?_append_left within).trans known, rfl⟩
  | proceed | call | resume => exact goto _ _
  | registry => exact ⟨job, known, rfl⟩

/-- An object has been deleted, and nothing is left of its observers.  Whoever calls the
registry for it only looks for one to stop. -/
structure Controller.HasDropped (s : Controller) (id : Identity) : Prop where
  gone : IsGone s.registry id
  deleted : ∃ (k : Nat) (job : Job), s.jobs[k]? = some job ∧ job.IsOf id ∧ job.isDeleted = true
  looks : ∀ (call : CallId) (p : Point Client), s.registry.calls[call]? = some p →
    p.cluster? s.registry.observers = some id → p = .find id (.stop [])

/-- A call that looks for an observer to stop is over if there is none. -/
theorem eq_of_move_of_absent {r r' : Observers} {call : CallId} {id : Identity} {q : Point Client}
    (move : Move r call (.find id (.stop [])) q r') (absent : r.entry? id = none) :
    q = .finished .done ∧ r' = r := by
  cases move with
  | absent => exact ⟨rfl, rfl⟩
  | found entered => cases absent.symm.trans entered

namespace Governed

variable {s t : Controller} {history : History}

/-- When the finalizer of an object is removed, its observer has been stopped. -/
theorem hasDropped (governed : Governed s history) {k : Nat} {job : Job}
    {request : Kubernetes.Request} {next : Kubernetes.Exchange → Procedure}
    (known : s.jobs[k]? = some job) (stage : job.stage = .at (.send request next))
    (removes : IsRemoval request) : s.HasDropped job.cluster.identity := by
  obtain ⟨removal, stopped⟩ := (governed.duty k job known).send stage
  have deleted := removal.mp removes
  have goesOn : job.isOver = false := by
    rw [Job.isOver, stage]
  constructor
  case gone =>
    refine (stopped deleted).isGone ((governed.simulates _).agrees_of_idle ?_)
      governed.sound.coherent
    intro call works
    obtain ⟨p, stands, here⟩ := State.busy?_eq_some_iff.mp works
    exact governed.idle known stage goesOn stands here
  case deleted => exact ⟨k, job, known, governed.isOf known goesOn, deleted⟩
  case looks =>
    intro call p stands here
    exact (governed.idle known stage goesOn stands here).elim

/-- The registry does nothing to an object that has been dropped. -/
theorem undisturbed_of_hasDropped (governed : Governed s history) {id : Identity}
    (dropped : s.HasDropped id) {label : Label Client} {r : Observers} (own : label.IsOwn)
    (step : Step s.registry label r) : Undisturbed s.registry r id := by
  cases step.regards governed.sound.coherent governed.sound.guarded own id with
  | aside undisturbed | opens undisturbed => exact undisturbed
  | @goes mover p q r _ stands here move =>
      obtain rfl := dropped.looks mover p stands here
      obtain ⟨-, rfl⟩ := eq_of_move_of_absent move dropped.gone.entry
      exact .of_eq rfl rfl rfl

/-- A reconciliation of an object that has been dropped asks for no other observer. -/
theorem eq_stop_of_hasDropped (governed : Governed s history) {id : Identity}
    (dropped : s.HasDropped id) {k : Nat} {job : Job} {request : RegistryRequest}
    {next : Observation.Registry.Outcome → Procedure} (known : s.jobs[k]? = some job)
    (stage : job.stage = .at (.call request next))
    (here : request.point.cluster? s.registry.observers = some id) : request = .stop id := by
  obtain ⟨j, first, known', isOf, deleted⟩ := dropped.deleted
  have goesOn : job.isOver = false := by
    rw [Job.isOver, stage]
  rcases (governed.duty k job known).call stage with
    ⟨apply, ⟨client, rfl⟩, -⟩ | ⟨-, rfl, -⟩
  · obtain rfl : job.cluster.identity = id := Option.some.inj here
    have watched := governed.sequential.isDeleted_of_isOf known' known isOf
      (governed.isOf known goesOn) deleted goesOn
    rw [Job.isDeleted, isDeleting_eq_of_work, apply] at watched
    cases watched
  · obtain rfl : job.cluster.identity = id := Option.some.inj here
    rfl

/-- An object that has been dropped stays so, and has no other observers. -/
theorem hasDropped_of_goes (governed : Governed s history) {id : Identity}
    (dropped : s.HasDropped id) {event : Event} (goes : s.Goes event t) :
    t.HasDropped id ∧ t.registry.created id = s.registry.created id := by
  obtain ⟨k, job, known, isOf, deleted⟩ := dropped.deleted
  obtain ⟨job', known', same⟩ := goes.exists_job known
  have deleted' : ∃ (k : Nat) (job : Job), t.jobs[k]? = some job ∧ job.IsOf id ∧
      job.isDeleted = true := by
    refine ⟨k, job', known', ?_, ?_⟩
    · rwa [Job.IsOf, same]
    · rwa [Job.isDeleted, same]
  cases goes with
  | start | proceed | resume => exact ⟨⟨dropped.gone, deleted', dropped.looks⟩, rfl⟩
  | call called stage =>
      refine ⟨⟨⟨dropped.gone.entry, dropped.gone.ended⟩, deleted', ?_⟩, rfl⟩
      intro call p stands here
      rcases getElem?_concat_cases stands with stood | ⟨-, rfl⟩
      · exact dropped.looks call p stood here
      · rw [governed.eq_stop_of_hasDropped dropped called stage here]
        rfl
  | registry ongoing step =>
      have undisturbed := governed.undisturbed_of_hasDropped dropped
        (Label.isOwn_of_isOngoing ongoing) step
      refine ⟨⟨dropped.gone.of_undisturbed undisturbed, deleted', ?_⟩, undisturbed.created⟩
      intro call p stands here
      obtain ⟨p', stood, here', turns⟩ := governed.exists_former_point ongoing step stands here
      obtain rfl := dropped.looks call p' stood here'
      rcases turns with rfl | ⟨r', move⟩
      · rfl
      · obtain ⟨rfl, -⟩ := eq_of_move_of_absent move dropped.gone.entry
        cases here

end Governed

theorem Controller.Runs.hasDropped {s t : Controller} {events : List Event} {id : Identity}
    (run : s.Runs events t) (known : ∃ history, Governed s history) (dropped : s.HasDropped id) :
    t.HasDropped id ∧ t.registry.created id = s.registry.created id := by
  induction run with
  | nil s => exact ⟨dropped, rfl⟩
  | cons admits step run ih =>
      obtain ⟨history, governed⟩ := known
      have goes := goes_of_step? step
      obtain ⟨dropped', same⟩ := governed.hasDropped_of_goes dropped goes
      obtain ⟨dropped'', same'⟩ := ih (governed.step admits goes) dropped'
      exact ⟨dropped'', same'.trans same⟩

/-! ## Who creates observers -/

/-- An observer is created by a call that is just about to. -/
theorem exists_spawn_of_step {r t : Observers} {label : Label Client} {n : ObserverId}
    {o : Observer Client} (ongoing : label.isOngoing = true) (step : Step r label t)
    (fresh : r.observers[n]? = none) (known : t.observers[n]? = some o) :
    ∃ call client use, label.call? = some call ∧
      r.calls[call]? = some (.spawn o.cluster client use) := by
  have new : t.created o.cluster ≠ r.created o.cluster := by
    intro same
    have mem : n ∈ t.created o.cluster := State.mem_created_iff.mpr ⟨o, known, rfl⟩
    rw [same] at mem
    obtain ⟨o', known', -⟩ := State.mem_created_iff.mp mem
    cases fresh.symm.trans known'
  have evolves := step.evolves
  cases step with
  | begin | spawn | signal => cases ongoing
  | call goes stands move =>
      rcases move.created_cases o.cluster with same | ⟨⟨client, use, rfl⟩, -⟩
      · exact (new same).elim
      · exact ⟨_, client, use, goes, stands⟩
  | task => exact (new (State.created_of_evolves evolves (List.length_set ..) _)).elim
  | advance => exact (new rfl).elim

/-! ## The main result -/

/-- In every state that a controller gets to from the start:

* an observer is created only by a call that a reconciliation waits for that watches the
  cluster of the observer,
* when the patch that removes the finalizer of an object is sent, no observer is registered
  for the object, and all that it has had are cancelled, and their tasks have finished,
* that stays so, and the object is given no other observer, whatever comes of the patch. -/
theorem no_observer_outlives_resource {s t : Controller} {events : List Event}
    (fresh : s.IsFresh) (run : s.Runs events t) :
    (∀ (event : Event) (u : Controller) (n : ObserverId) (o : Observer Client),
      t.step? event = some u → t.registry.observers[n]? = none →
      u.registry.observers[n]? = some o →
        ∃ (label : Label Client) (call : CallId) (k : Nat) (job : Job),
          event = .registry label ∧ label.call? = some call ∧ t.jobs[k]? = some job ∧
            (∃ next, job.stage = .waits call next) ∧ job.IsOf o.cluster ∧
              Finalizer.work job.cluster.metadata = .apply) ∧
    (∀ (k : Nat) (job : Job) request next, t.jobs[k]? = some job →
      job.stage = .at (.send request next) → IsRemoval request →
        ∃ id, job.IsOf id ∧ IsGone t.registry id ∧
          ∀ later u, t.Runs later u →
            IsGone u.registry id ∧ u.registry.created id = t.registry.created id) := by
  obtain ⟨history, governed⟩ := run.governed ⟨_, fresh.governed⟩
  constructor
  · intro event u n o step new created
    cases Controller.goes_of_step? step with
    | start | proceed | call | resume => cases new.symm.trans created
    | @registry label r ongoing goes =>
        obtain ⟨call, client, use, moves, stands⟩ := exists_spawn_of_step ongoing goes new created
        obtain ⟨k, job, known, waits, isOf, work | ⟨-, stopping⟩⟩ :=
          governed.attended call _ o.cluster stands rfl
        · exact ⟨label, call, k, job, rfl, moves, known, waits, isOf, work⟩
        · exact stopping.elim
  · intro k job request next known stage removes
    have dropped := governed.hasDropped known stage removes
    have isOf := governed.isOf known (by rw [Job.isOver, stage])
    refine ⟨job.cluster.identity, isOf, dropped.gone, fun later u onward => ?_⟩
    obtain ⟨dropped', same⟩ := onward.hasDropped ⟨history, governed⟩ dropped
    exact ⟨dropped'.gone, same⟩

/-! ## A finalizer that is not removed at once -/

instance (s : Controller) : (event : Event) → Decidable (s.Admits event)
  | .start _ => inferInstanceAs (Decidable (_ ∧ _))
  | .send _ _ | .call _ | .resume _ | .clock _ _ | .log _ | .registry _ => .isTrue trivial

/-- The controller after events, if all of them are admitted and can happen. -/
def Controller.follow? : List Event → Controller → Option Controller
  | [], s => some s
  | event :: events, s =>
      if s.Admits event then (s.step? event).bind (follow? events) else none

theorem Controller.runs_of_follow? {s t : Controller} {events : List Event}
    (follows : s.follow? events = some t) : s.Runs events t := by
  induction events generalizing s with
  | nil =>
      cases follows
      exact .nil _
  | cons event events ih =>
      rw [follow?] at follows
      split at follows
      · next admits =>
          obtain ⟨u, step, rest⟩ := Option.bind_eq_some_iff.mp follows
          exact .cons admits step (ih rest)
      · cases follows

/-- A reconciliation is about to send a request. -/
def Job.isSending (job : Job) : Bool :=
  match job.stage with
  | .at (.send _ _) => true
  | _ => false

/-- A cluster resource that carries the finalizer. -/
def finalized (deletionTimestamp : Option Timestamp) : Cluster where
  metadata :=
    { name := some "quickstart", space := some "elastic", finalizers := some [Finalizer.name],
      deletionTimestamp }
  spec := ⟨none, none, none⟩
  status := none

/-- A cluster is watched and deleted, and the API cannot be reached when the finalizer is to
be removed, so the object is reconciled once more. -/
theorem no_observer_outlives_resource_quickstart :
    let id : Identity := ⟨"elastic", "quickstart"⟩
    let first : Controller := { registry := .empty .default }
    let past : List Event :=
      [.start (finalized none), .log 0, .call 0, .registry (.call 0), .registry (.call 0),
        .registry (.call 0), .registry (.call 0), .resume 0, .clock 0 .epoch, .log 0,
        .send 0 .unreachable, .start (finalized (some .epoch)), .log 1, .call 1,
        .registry (.call 1), .registry (.call 1), .registry (.call 1), .registry (.call 1),
        .registry (.task 0 .unreachable), .registry (.call 1), .registry (.call 1), .resume 1]
    let later : List Event :=
      [.send 1 .unreachable, .start (finalized (some .epoch)), .log 2, .call 2,
        .registry (.call 2), .resume 2]
    ∃ s t, first.Runs past s ∧ s.Runs later t ∧ s.registry.created id = [0] ∧
      IsGone s.registry id ∧ t.registry.created id = [0] ∧ IsGone t.registry id := by
  intro id first past later
  have follows : (first.follow? past).any (fun s =>
      (s.follow? later).isSome && decide (s.registry.created id = [0]) &&
        s.jobs[1]?.any fun job =>
          job.isSending && job.isDeleted && decide (job.cluster.identity = id)) = true := by
    decide +kernel
  obtain ⟨s, reached, checks⟩ := (Option.any_eq_true ..).mp follows
  simp only [Bool.and_eq_true, decide_eq_true_eq, Option.any_eq_true] at checks
  obtain ⟨⟨goesOn, created⟩, job, known, ⟨sending, deleted⟩, identity⟩ := checks
  obtain ⟨t, reached'⟩ := Option.isSome_iff_exists.mp goesOn
  have run := Controller.runs_of_follow? reached
  have onward := Controller.runs_of_follow? reached'
  have fresh : first.IsFresh := ⟨State.isFresh_empty .default, rfl⟩
  obtain ⟨history, governed⟩ := run.governed ⟨_, fresh.governed⟩
  unfold Job.isSending at sending
  split at sending
  · next request next stage =>
      have removes := ((governed.duty 1 job known).send stage).1.mpr deleted
      obtain ⟨id', isOf, gone, stays⟩ :=
        (no_observer_outlives_resource fresh run).2 1 job request next known stage removes
      obtain rfl : id = id' := identity.symm.trans isOf.identity
      obtain ⟨gone', same⟩ := stays later t onward
      exact ⟨s, t, run, onward, created, gone, same.trans created, gone'⟩
  · cases sending

end ClusterWatch.Reconciliation
