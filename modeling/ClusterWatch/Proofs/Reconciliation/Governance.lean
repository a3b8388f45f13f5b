import ClusterWatch.Proofs.Reconciliation.Discipline

/-!
# What reconciliations ask of the registry

The calls that reconciliations make on the registry do not overlap on a cluster, so the
registry keeps to its reference.  As nobody asks for more than to observe a cluster or to
stop its observer, each observer that is no longer registered has ended.
-/

namespace ClusterWatch.Reconciliation

open Elasticsearch (Client)
open Kubernetes (Identity)
open Observation (CallId ObserverId)
open Observation.Registry (Label Label.isOwn_of_isOngoing Matches Move Operation Point Simulates
  Slot Sound State.busy?_eq_some_iff State.calls_goto Step Use)

/-! ## Slots of the reference -/

/-- An observer that is no longer registered has ended on request. -/
def IsTidy (slot : Slot Client) : Prop :=
  ∀ row ∈ slot, row.standing ≠ .signalled

/-- All observers have ended on request. -/
def IsStopped (slot : Slot Client) : Prop :=
  ∀ row ∈ slot, row.standing = .ended

theorem IsStopped.isTidy {slot : Slot Client} (stopped : IsStopped slot) : IsTidy slot := by
  intro row mem
  simp [stopped row mem]

theorem IsTidy.isStopped_retire {slot : Slot Client} (tidy : IsTidy slot) :
    IsStopped (slot.retire .ended) := by
  intro row mem
  obtain ⟨row', mem', rfl⟩ := List.mem_map.mp mem
  cases standing : row'.standing with
  | registered | ended => simp
  | signalled => exact (tidy row' mem' standing).elim

theorem IsTidy.enter {slot : Slot Client} (stopped : IsStopped slot) (client : Client) :
    IsTidy (slot.enter client) := by
  intro row mem
  rcases List.mem_append.mp mem with mem | mem
  · obtain ⟨row', mem', rfl⟩ := List.mem_map.mp mem
    simp [stopped row' mem']
  · simp [List.mem_singleton.mp mem]

/-- What is asked for by reconciliations keeps a slot tidy. -/
theorem IsTidy.apply_observe {slot : Slot Client} (tidy : IsTidy slot) (client : Client)
    (use : Use) : IsTidy (slot.apply (.observe client use)).1 := by
  unfold Slot.apply
  dsimp only
  split
  · exact tidy
  · exact IsTidy.enter tidy.isStopped_retire client

/-! ## Calls of reconciliations -/

/-- A call is not about to stop the observers of several clusters. -/
def IsSingle : Point Client → Prop
  | .find _ (.stop (_ :: _)) => False
  | .halt _ _ (some (_, .stop (_ :: _))) => False
  | .remove _ _ (.stop (_ :: _)) => False
  | .enumerate _ => False
  | _ => True

/-- A call for one cluster stays one, and begins to stop no other observer. -/
theorem isSingle_of_move {s r : Observers} {call : CallId} {p q : Point Client}
    (move : Move s call p q r) (single : IsSingle p) : IsSingle q ∧ q.opened? = none := by
  have ofUse (use : Use) (id : ObserverId) :
      IsSingle (use.point id) ∧ (use.point id : Point Client).opened? = none := by
    cases use <;> exact ⟨trivial, rfl⟩
  cases move with
  | reuse | insert | supersede => exact ofUse _ _
  | @absent _ next | @remove _ _ next | @keep _ _ next =>
      rcases next with ⟨_, _, _⟩ | ⟨_ | ⟨_, _⟩⟩
      · exact ⟨trivial, rfl⟩
      · exact ⟨trivial, rfl⟩
      · exact single.elim
  | @found _ next => rcases next with ⟨_, _, _⟩ | ⟨_ | ⟨_, _⟩⟩ <;> exact ⟨single, rfl⟩
  | @cancel _ after | @enqueue _ after | @acquire _ after | @pass _ after | @join _ after =>
      rcases after with _ | ⟨_, ⟨_, _, _⟩ | ⟨_ | ⟨_, _⟩⟩⟩ <;> exact ⟨single, rfl⟩
  | list => exact single.elim
  | _ => exact ⟨trivial, rfl⟩

/-! ## What holds of a controller -/

/-- A reconciliation waits for a call that works on its cluster.  If its object is being
deleted, the call does no more than to stop the observer. -/
structure Job.Attends (job : Job) (call : CallId) (p : Point Client) (id : Identity) : Prop where
  waits : ∃ next, job.stage = .waits call next
  isOf : job.IsOf id
  asks : Finalizer.work job.cluster.metadata = .apply ∨ job.isDeleted = true ∧ p.IsStopping

/-- All calls that work on a cluster are those that reconciliations of it wait for. -/
def Controller.IsAttended (s : Controller) : Prop :=
  ∀ (call : CallId) (p : Point Client) (id : Identity), s.registry.calls[call]? = some p →
    p.cluster? s.registry.observers = some id →
      ∃ (k : Nat) (job : Job), s.jobs[k]? = some job ∧ job.Attends call p id

theorem Job.Attends.goesOn {job : Job} {call : CallId} {p : Point Client} {id : Identity}
    (attends : job.Attends call p id) : job.isOver = false := by
  obtain ⟨next, waits⟩ := attends.waits
  rw [isOver, waits]

/-- Calls of reconciliations do not overlap on a cluster. -/
theorem Controller.IsAttended.isExclusive {s : Controller} (attended : s.IsAttended)
    (sequential : IsSequential s.jobs) : s.registry.IsExclusive := by
  intro call other id works works'
  obtain ⟨p, stands, here⟩ := State.busy?_eq_some_iff.mp works
  obtain ⟨p', stands', here'⟩ := State.busy?_eq_some_iff.mp works'
  obtain ⟨k, job, known, attends⟩ := attended call p id stands here
  obtain ⟨k', job', known', attends'⟩ := attended other p' id stands' here'
  obtain ⟨-, rfl⟩ :=
    sequential.eq_of_isOf known known' attends.isOf attends'.isOf attends.goesOn attends'.goesOn
  obtain ⟨next, waits⟩ := attends.waits
  obtain ⟨next', waits'⟩ := attends'.waits
  cases waits.symm.trans waits'
  rfl

/-- What has been asked of a registry for each cluster, with the calls. -/
abbrev History : Type :=
  Identity → List (CallId × Operation Client)

/-- What has been asked once another request has been made. -/
def History.begin (history : History) (s : Observers) (request : RegistryRequest) : History :=
  fun id =>
    history id ++
      (s.opened? { s with calls := s.calls ++ [request.point] } id (.begin request)).toList

theorem History.after_begin {s : Observers} {request : RegistryRequest} {cluster : Identity}
    {operation : Operation Client} (asks : request.operation? = some (cluster, operation))
    (history : History) (id : Identity) :
    Slot.after (history.begin s request id) =
      if cluster = id then ((Slot.after (history id)).apply operation).1
      else Slot.after (history id) := by
  rw [begin, Observation.Registry.State.opened?, asks, Option.filter_some]
  by_cases same : cluster = id
  · simp [same]
  · simp [same]

/-- All that is known of a controller in which reconciliations have been under way, by what
they have asked of the registry. -/
structure Governed (s : Controller) (history : History) : Prop where
  sound : Sound s.registry
  placed : ∀ (k : Nat) (job : Job), s.jobs[k]? = some job →
    job.isOver = true ∨ job.IsOf job.cluster.identity
  sequential : IsSequential s.jobs
  single : ∀ p ∈ s.registry.calls, IsSingle p
  attended : s.IsAttended
  duty : ∀ (k : Nat) (job : Job), s.jobs[k]? = some job →
    job.DoesDuty (IsStopped (Slot.after (history job.cluster.identity)))
  simulates : ∀ id, Simulates s.registry id (fun _ _ _ => True) (history id)
  tidy : ∀ id, IsTidy (Slot.after (history id))

theorem Controller.IsFresh.governed {s : Controller} (fresh : s.IsFresh) :
    Governed s fun _ => [] where
  sound := fresh.registry.sound
  placed := by simp [fresh.jobs]
  sequential := by simp [IsSequential, fresh.jobs]
  single := by simp [fresh.registry.calls]
  attended := by simp [Controller.IsAttended, fresh.registry.calls]
  duty := by simp [fresh.jobs]
  simulates := by
    intro id
    refine .idle ?_ ?_ ?_
    · simp [Matches, Observation.Registry.State.created, fresh.registry.observers, Slot.after]
    · simp [Observation.Registry.State.busy?, fresh.registry.calls]
    · simp [Observation.Registry.Answered]
  tidy := by simp [IsTidy, Slot.after]

/-- Nothing begins in a step of the registry that reconciliations do not ask for. -/
theorem unopened_of_step {s t : Observers} {label : Label Client} (step : Step s label t)
    (ongoing : label.isOngoing = true) (single : ∀ p ∈ s.calls, IsSingle p) :
    (∀ p ∈ t.calls, IsSingle p) ∧ ∀ id, s.opened? t id label = none := by
  cases step with
  | begin | spawn | signal => cases ongoing
  | task | advance => exact ⟨single, fun _ => rfl⟩
  | @call _ call p q r goes stands move =>
      obtain ⟨single', unopened⟩ := isSingle_of_move move (single p (List.mem_of_getElem? stands))
      constructor
      · intro p' mem
        rcases List.mem_or_eq_of_mem_set mem with mem | rfl
        · exact single p' (move.calls ▸ mem)
        · exact single'
      · intro id
        have here : (r.goto call q).calls[call]? = some q := by
          rw [State.calls_goto, move.calls]
          exact List.getElem?_set_self (List.getElem?_eq_some_iff.mp stands).1
        rw [Observation.Registry.State.opened?_of_call? goes, here, Option.bind_some, unopened]
        rfl

namespace Governed

variable {s : Controller} {history : History}

/-- The cluster of a reconciliation that is under way is the one with its identity. -/
theorem isOf (governed : Governed s history) {k : Nat} {job : Job} (known : s.jobs[k]? = some job)
    (goesOn : job.isOver = false) : job.IsOf job.cluster.identity := by
  rcases governed.placed k job known with ended | isOf
  · rw [goesOn] at ended
    cases ended
  · exact isOf

/-- A reconciliation begins. -/
theorem start (governed : Governed s history) {cluster : Cluster}
    (admits : s.Admits (.start cluster)) :
    Governed { s with jobs := s.jobs ++ [⟨cluster, .at (reconcile s.registry.settings cluster)⟩] }
      history where
  sound := governed.sound
  placed := by
    intro k job known
    rcases getElem?_concat_cases known with known | ⟨-, rfl⟩
    · exact governed.placed k job known
    · cases space : cluster.metadata.space with
      | none =>
          left
          simp [Job.isOver, reconcile, space]
      | some space' =>
          obtain ⟨name, named⟩ := Option.isSome_iff_exists.mp admits.1
          right
          simp [Job.IsOf, Cluster.identity, Identity.ofMeta, space, named]
  sequential := governed.sequential.concat admits.2
  single := governed.single
  attended := by
    intro call p id stands here
    obtain ⟨k, job, known, attends⟩ := governed.attended call p id stands here
    have within : k < s.jobs.length := (List.getElem?_eq_some_iff.mp known).1
    exact ⟨k, job, (List.getElem?_append_left within).trans known, attends⟩
  duty := by
    intro k job known
    rcases getElem?_concat_cases known with known | ⟨-, rfl⟩
    · exact governed.duty k job known
    · exact Job.doesDuty_start _ _ _
  simulates := governed.simulates
  tidy := governed.tidy

theorem placed_goto (governed : Governed s history) {k : Nat} {job : Job}
    (known : s.jobs[k]? = some job) (goesOn : job.isOver = false) (stage : Stage) (j : Nat)
    (job' : Job) (known' : (s.goto k stage).jobs[j]? = some job') :
    job'.isOver = true ∨ job'.IsOf job'.cluster.identity := by
  obtain ⟨former, found, ⟨rfl, rfl⟩ | ⟨-, rfl⟩⟩ := Controller.goto_cases known'
  · obtain rfl : job = former := Option.some.inj (known.symm.trans found)
    have isOf := governed.isOf known goesOn
    exact .inr isOf
  · exact governed.placed j job' found

/-- The reconciliation that waits for a call is not another one that goes on. -/
theorem attended_goto (governed : Governed s history) {k : Nat} {job : Job}
    (known : s.jobs[k]? = some job) (stage : Stage) {call : CallId} {p : Point Client}
    {id : Identity} (stands : s.registry.calls[call]? = some p)
    (here : p.cluster? s.registry.observers = some id) (idle : ¬job.Attends call p id) :
    ∃ (j : Nat) (job' : Job), (s.goto k stage).jobs[j]? = some job' ∧ job'.Attends call p id := by
  obtain ⟨j, job', known', attends⟩ := governed.attended call p id stands here
  have differs : j ≠ k := by
    rintro rfl
    obtain rfl : job = job' := Option.some.inj (known.symm.trans known')
    exact idle attends
  exact ⟨j, job', (Controller.getElem?_goto_of_ne differs stage).trans known', attends⟩

/-- A reconciliation that does not wait for a call has none that works on its cluster. -/
theorem idle (governed : Governed s history) {k : Nat} {job : Job} {procedure : Procedure}
    (known : s.jobs[k]? = some job) (stage : job.stage = .at procedure)
    (goesOn : job.isOver = false) {call : CallId} {p : Point Client}
    (stands : s.registry.calls[call]? = some p) :
    p.cluster? s.registry.observers ≠ some job.cluster.identity := by
  intro here
  obtain ⟨j, job', known', attends⟩ := governed.attended call p _ stands here
  obtain ⟨-, rfl⟩ := governed.sequential.eq_of_isOf known known' (governed.isOf known goesOn)
    attends.isOf goesOn attends.goesOn
  obtain ⟨next, waits⟩ := attends.waits
  cases stage.symm.trans waits

/-- A reconciliation goes on for which no call works any longer. -/
theorem goto (governed : Governed s history) {k : Nat} {job : Job} (known : s.jobs[k]? = some job)
    (goesOn : job.isOver = false) {stage : Stage}
    (idle : ∀ (call : CallId) (p : Point Client) (id : Identity),
      s.registry.calls[call]? = some p → p.cluster? s.registry.observers = some id →
        ¬job.Attends call p id)
    (duty : Job.DoesDuty (IsStopped (Slot.after (history job.cluster.identity)))
      { job with stage }) : Governed (s.goto k stage) history where
  sound := governed.sound
  placed := governed.placed_goto known goesOn stage
  sequential := governed.sequential.goto known goesOn stage
  single := governed.single
  attended := by
    intro call p id stands here
    exact governed.attended_goto known stage stands here (idle call p id stands here)
  duty := by
    intro j job' known'
    obtain ⟨former, found, ⟨rfl, rfl⟩ | ⟨-, rfl⟩⟩ := Controller.goto_cases known'
    · obtain rfl : job = former := Option.some.inj (known.symm.trans found)
      exact duty
    · exact governed.duty j job' found
  simulates := governed.simulates
  tidy := governed.tidy

/-- A call that works on a cluster has stood where it stands, or has just got there. -/
theorem exists_former_point (governed : Governed s history) {label : Label Client} {r : Observers}
    (ongoing : label.isOngoing = true) (step : Step s.registry label r) {call : CallId}
    {p : Point Client} {id : Identity} (stands : r.calls[call]? = some p)
    (here : p.cluster? r.observers = some id) :
    ∃ p', s.registry.calls[call]? = some p' ∧ p'.cluster? s.registry.observers = some id ∧
      (p = p' ∨ ∃ r', Move s.registry call p' p r') := by
  have own : label.IsOwn := Label.isOwn_of_isOngoing ongoing
  have works : r.busy? call = some id := State.busy?_eq_some_iff.mpr ⟨p, stands, here⟩
  cases step.regards governed.sound.coherent governed.sound.guarded own id with
  | aside _ _ busy keeps =>
      have worked := (busy call).mp works
      obtain ⟨p', stood, here'⟩ := State.busy?_eq_some_iff.mp worked
      have same := stands.symm.trans (keeps call p' worked stood)
      exact ⟨p', stood, here', .inl (Option.some.inj same)⟩
  | opens _ opened =>
      rw [(unopened_of_step step ongoing governed.single).2 id] at opened
      cases opened
  | @goes mover p' q r _ stood here' move _ busy =>
      have moved : (r.goto mover q).calls = s.registry.calls.set mover q := by
        rw [State.calls_goto, move.calls]
      rw [moved] at stands
      rcases getElem?_set_cases stands with ⟨rfl, rfl⟩ | ⟨differs, stood'⟩
      · exact ⟨p', stood, here', .inr ⟨r, move⟩⟩
      · obtain ⟨p'', stood'', here''⟩ :=
          State.busy?_eq_some_iff.mp ((busy call differs).mp works)
        exact ⟨p'', stood'', here'', .inl (Option.some.inj (stood'.symm.trans stood''))⟩

/-- A registry goes on by itself. -/
theorem registry (governed : Governed s history) {label : Label Client} {r : Observers}
    (ongoing : label.isOngoing = true) (step : Step s.registry label r) :
    Governed { s with registry := r } history := by
  have own : label.IsOwn := Label.isOwn_of_isOngoing ongoing
  obtain ⟨single, unopened⟩ := unopened_of_step step ongoing governed.single
  have attended : Controller.IsAttended { s with registry := r } := by
    intro call p id stands here
    obtain ⟨p', stood, here', turns⟩ := governed.exists_former_point ongoing step stands here
    obtain ⟨k, job, known, attends⟩ := governed.attended call p' id stood here'
    rcases turns with rfl | ⟨r', move⟩
    · exact ⟨k, job, known, attends⟩
    · obtain ⟨waits, isOf, asks⟩ := attends
      exact ⟨k, job, known, waits, isOf, asks.imp_right (And.imp_right move.isStopping)⟩
  refine { governed with sound := governed.sound.step own step, single, attended, simulates := ?_ }
  intro id
  have simulates := (governed.simulates id).step governed.sound.coherent governed.sound.guarded own
    step (attended.isExclusive governed.sequential) (fun _ _ _ _ _ _ => trivial)
  rwa [unopened, Option.toList_none, List.append_nil] at simulates

/-- What a reconciliation asks of the registry, it asks for its own cluster.  That keeps the
slot of the cluster tidy, and the reconciliation in line. -/
theorem asks (governed : Governed s history) {k : Nat} {job : Job} {request : RegistryRequest}
    {next : Observation.Registry.Outcome → Procedure} (known : s.jobs[k]? = some job)
    (stage : job.stage = .at (.call request next)) :
    ∃ operation, request.operation? = some (job.cluster.identity, operation) ∧
      IsTidy ((Slot.after (history job.cluster.identity)).apply operation).1 ∧
      IsSingle request.point ∧
      (Finalizer.work job.cluster.metadata = .apply ∨
        job.isDeleted = true ∧ request.point.IsStopping) ∧
      ∀ call, Job.DoesDuty
        (IsStopped ((Slot.after (history job.cluster.identity)).apply operation).1)
        { job with stage := .waits call next } := by
  have tidy := governed.tidy job.cluster.identity
  rcases (governed.duty k job known).call stage with
    ⟨apply, ⟨client, rfl⟩, duty⟩ | ⟨deleted, rfl, duty⟩
  · exact ⟨.observe client .read, rfl, tidy.apply_observe client .read, trivial, .inl apply,
      duty _⟩
  · have stopped := tidy.isStopped_retire
    refine ⟨.stop, rfl, stopped.isTidy, trivial, .inr ⟨deleted, trivial⟩, fun call => ?_⟩
    exact (duty call).mono fun _ => stopped

/-- What is asked for a cluster concerns the duty of one reconciliation only: all others of
its object are over. -/
theorem duty_begin (governed : Governed s history) {k : Nat} {job : Job} {stage : Stage}
    {request : RegistryRequest} {operation : Operation Client} (known : s.jobs[k]? = some job)
    (goesOn : job.isOver = false)
    (asks : request.operation? = some (job.cluster.identity, operation))
    (duty : Job.DoesDuty
      (IsStopped ((Slot.after (history job.cluster.identity)).apply operation).1)
      { job with stage }) (j : Nat) (job' : Job)
    (known' : (s.goto k stage).jobs[j]? = some job') :
    job'.DoesDuty
      (IsStopped (Slot.after (history.begin s.registry request job'.cluster.identity))) := by
  obtain ⟨former, found, ⟨rfl, rfl⟩ | ⟨differs, rfl⟩⟩ := Controller.goto_cases known'
  · obtain rfl : job = former := Option.some.inj (known.symm.trans found)
    rw [History.after_begin asks, if_pos rfl]
    exact duty
  · cases goesOn' : job'.isOver with
    | true => exact .ended goesOn'
    | false =>
        have elsewhere : job.cluster.identity ≠ job'.cluster.identity := by
          intro same
          have isOf := governed.isOf known goesOn
          have isOf' := governed.isOf found goesOn'
          rw [← same] at isOf'
          exact differs (governed.sequential.eq_of_isOf found known isOf' isOf goesOn' goesOn).1
        rw [History.after_begin asks, if_neg elsewhere]
        exact governed.duty j job' found

/-- A reconciliation calls the registry. -/
theorem call (governed : Governed s history) {k : Nat} {job : Job} {request : RegistryRequest}
    {next : Observation.Registry.Outcome → Procedure} (known : s.jobs[k]? = some job)
    (stage : job.stage = .at (.call request next)) :
    Governed { s.goto k (.waits s.registry.calls.length next) with
      registry := { s.registry with calls := s.registry.calls ++ [request.point] } }
      (history.begin s.registry request) := by
  obtain ⟨operation, asks, tidy, single, asked, duty⟩ := governed.asks known stage
  have goesOn : job.isOver = false := by
    rw [Job.isOver, stage]
  have isOf := governed.isOf known goesOn
  have sequential := governed.sequential.goto known goesOn (.waits s.registry.calls.length next)
  have own : (Label.begin request).IsOwn := by
    cases request with
    | halt => cases asks
    | _ => trivial
  have step : Step s.registry (.begin request)
      { s.registry with calls := s.registry.calls ++ [request.point] } := .begin
  have attended : Controller.IsAttended { s.goto k (.waits s.registry.calls.length next) with
      registry := { s.registry with calls := s.registry.calls ++ [request.point] } } := by
    intro call p id stands here
    rcases getElem?_concat_cases stands with stood | ⟨rfl, rfl⟩
    · refine governed.attended_goto known _ stood here fun attends => ?_
      obtain ⟨next', waits⟩ := attends.waits
      cases stage.symm.trans waits
    · rw [request.cluster?_point, asks] at here
      obtain rfl : job.cluster.identity = id := Option.some.inj here
      exact ⟨k, _, getElem?_modify_self known _, ⟨next, rfl⟩, isOf, asked⟩
  constructor
  case sound => exact governed.sound.step own step
  case placed => exact governed.placed_goto known goesOn _
  case sequential => exact sequential
  case single =>
    intro p mem
    rcases List.mem_append.mp mem with mem | mem
    · exact governed.single p mem
    · exact List.mem_singleton.mp mem ▸ single
  case attended => exact attended
  case duty => exact governed.duty_begin known goesOn asks (duty _)
  case simulates =>
    intro id
    exact (governed.simulates id).step governed.sound.coherent governed.sound.guarded own step
      (attended.isExclusive sequential) fun _ _ _ _ _ _ => trivial
  case tidy =>
    intro id
    rw [History.after_begin asks]
    split
    · next same => exact same ▸ tidy
    · exact governed.tidy id

/-- Whatever goes on, all of it stays known. -/
theorem step (governed : Governed s history) {t : Controller} {event : Event}
    (admits : s.Admits event) (goes : s.Goes event t) : ∃ history', Governed t history' := by
  cases goes with
  | start => exact ⟨_, governed.start admits⟩
  | @proceed _ k job p q known stage proceeds =>
      refine ⟨_, governed.goto known ?_ ?_ ((governed.duty k job known).proceed stage proceeds)⟩
      · rw [Job.isOver, stage]
        cases proceeds <;> rfl
      · intro call p' id _ _ attends
        obtain ⟨next, waits⟩ := attends.waits
        cases stage.symm.trans waits
  | call known stage => exact ⟨_, governed.call known stage⟩
  | @resume k job call next outcome known stage gave =>
      refine ⟨_, governed.goto known ?_ ?_ ((governed.duty k job known).resume stage outcome)⟩
      · rw [Job.isOver, stage]
      · intro call' p id stands works attends
        obtain ⟨next', waits⟩ := attends.waits
        cases stage.symm.trans waits
        cases gave.symm.trans stands
        cases works
  | registry ongoing step => exact ⟨_, governed.registry ongoing step⟩

end Governed

/-- In a run from the start, all of it is known. -/
theorem Controller.Runs.governed {s t : Controller} {events : List Event}
    (run : s.Runs events t) (known : ∃ history, Governed s history) :
    ∃ history, Governed t history := by
  induction run with
  | nil s => exact known
  | cons admits goes run ih =>
      obtain ⟨history, governed⟩ := known
      exact ih (governed.step admits (goes_of_step? goes))

end ClusterWatch.Reconciliation
