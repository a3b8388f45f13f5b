import ClusterWatch.Proofs.Registry.Coherence

/-!
# What calls are out for

A call that wants an observer keeps to the cluster and the client it has begun with at all
of its points.  So the observer that it has in the end is one of that cluster, with a client
that is interchangeable with the given one, whatever other calls do in the meantime.
-/

namespace ClusterWatch.Observation.Registry

open Elasticsearch (HasConnection Interchangeable)
open Kubernetes (Identity)

variable {κ : Type}

/-- The cluster of which a request wants an observer, the client it gives, and what it does
with the observer. -/
def Request.wants? : Request κ → Option (Identity × κ × Use)
  | .observe cluster client => some (cluster, client, .give)
  | .resolve cluster client => some (cluster, client, .read)
  | .create cluster client => some (cluster, client, .give)
  | _ => none

/-- The cluster for which an observer is created next, the client of that, and what is done
with it. -/
def Next.wants? : Next κ → Option (Identity × κ × Use)
  | .create cluster client use => some (cluster, client, use)
  | .stop _ => none

/-- The cluster for which a call has yet to create an observer if it needs one, the client
of that, and what the call does with it. -/
def Point.wants? : Point κ → Option (Identity × κ × Use)
  | .lookup cluster client use => some (cluster, client, use)
  | .find _ next => next.wants?
  | .halt _ _ after => after.bind fun following => following.2.wants?
  | .remove _ _ next => next.wants?
  | .spawn cluster client use => some (cluster, client, use)
  | _ => none

/-- The request with which a call begins. -/
def Label.request? : Label κ → Option (Request κ)
  | .begin request => some request
  | _ => none

/-- The requests with which calls begin, in the order of the calls. -/
def requests (labels : List (Label κ)) : List (Request κ) :=
  labels.filterMap Label.request?

theorem requests_append (labels more : List (Label κ)) :
    requests (labels ++ more) = requests labels ++ requests more :=
  List.filterMap_append

theorem requests_concat (labels : List (Label κ)) (label : Label κ) :
    requests (labels ++ [label]) = requests labels ++ label.request?.toList := by
  rw [requests_append]
  cases found : label.request? <;> simp [requests, found]

@[simp]
theorem Request.wants?_point (request : Request κ) : request.point.wants? = request.wants? := by
  cases request <;> rfl

@[simp]
theorem Next.wants?_point (next : Next κ) : next.point.wants? = next.wants? := by
  rcases next with ⟨_, _, _⟩ | ⟨_ | ⟨_, _⟩⟩ <;> rfl

@[simp]
theorem Use.wants?_point (use : Use) (id : ObserverId) :
    (use.point id : Point κ).wants? = none := by
  cases use <;> rfl

theorem wants?_pointAfterList (stopping : Bool) (order : List Identity) :
    (pointAfterList stopping order : Point κ).wants? = none := by
  cases stopping with
  | false => rfl
  | true => cases order <;> rfl

variable [HasConnection κ]

/-- The observer is one of the cluster, and its client serves as well as the given one. -/
def Serves (observers : List (Observer κ)) (cluster : Identity) (client : κ) (id : ObserverId) :
    Prop :=
  ∃ o, observers[id]? = some o ∧ o.cluster = cluster ∧ Interchangeable o.client client

/-- A call at the point has an observer of the cluster with an interchangeable client, or is
on the way to one. -/
inductive Point.Obtains (observers : List (Observer κ)) (cluster : Identity) (client : κ) :
    Use → Point κ → Prop where
  | lookup {use : Use} : Obtains observers cluster client use (.lookup cluster client use)
  | find {use : Use} :
      Obtains observers cluster client use (.find cluster (.create cluster client use))
  | halt {use : Use} {stage : Stage} {id : ObserverId} :
      Obtains observers cluster client use
        (.halt stage id (some (cluster, .create cluster client use)))
  | remove {use : Use} {id : ObserverId} :
      Obtains observers cluster client use (.remove cluster id (.create cluster client use))
  | spawn {use : Use} : Obtains observers cluster client use (.spawn cluster client use)
  | insert {use : Use} {id : ObserverId} :
      Serves observers cluster client id →
        Obtains observers cluster client use (.insert cluster id use)
  | displace {use : Use} {id old : ObserverId} :
      Serves observers cluster client id →
        Obtains observers cluster client use (.displace id old use)
  | read {id : ObserverId} :
      Serves observers cluster client id → Obtains observers cluster client .read (.read id)
  | given {id : ObserverId} :
      Serves observers cluster client id →
        Obtains observers cluster client .give (.finished (.observer id))
  | told {value : Observation} :
      Obtains observers cluster client .read (.finished (.observation value))

section Points

variable {observers : List (Observer κ)} {cluster : Identity} {client : κ} {use : Use}
  {p : Point κ}

theorem Serves.mono {after : List (Observer κ)} {id : ObserverId}
    (serves : Serves observers cluster client id) (evolves : Evolves observers after) :
    Serves after cluster client id := by
  obtain ⟨o, known, named, equal⟩ := serves
  obtain ⟨o', known', continues⟩ := evolves id o known
  refine ⟨o', known', continues.cluster.trans named, ?_⟩
  rw [continues.client]
  exact equal

theorem Point.Obtains.mono {after : List (Observer κ)}
    (obtains : p.Obtains observers cluster client use) (evolves : Evolves observers after) :
    p.Obtains after cluster client use := by
  cases obtains with
  | lookup => exact .lookup
  | find => exact .find
  | halt => exact .halt
  | remove => exact .remove
  | spawn => exact .spawn
  | insert serves => exact .insert (serves.mono evolves)
  | displace serves => exact .displace (serves.mono evolves)
  | read serves => exact .read (serves.mono evolves)
  | given serves => exact .given (serves.mono evolves)
  | told => exact .told

theorem Use.obtains_point {id : ObserverId} (serves : Serves observers cluster client id)
    (use : Use) : (use.point id : Point κ).Obtains observers cluster client use := by
  cases use with
  | give => exact .given serves
  | read => exact .read serves

/-- A request for an observer begins with a look for it, or with its creation. -/
theorem Request.obtains_point {request : Request κ}
    (wants : request.wants? = some (cluster, client, use)) :
    request.point.Obtains observers cluster client use := by
  cases request with
  | observe | resolve =>
      cases wants
      exact .lookup
  | create =>
      cases wants
      exact .spawn
  | _ => cases wants

end Points

section Move

variable {s r : State κ} {call : CallId} {p q : Point κ} {cluster : Identity} {client : κ}
  {use : Use}

/-- A call does not change what it is out for. -/
theorem Move.wants? (move : Move s call p q r) (wants : q.wants? = some (cluster, client, use)) :
    p.wants? = some (cluster, client, use) := by
  cases move with
  | @absent _ next | @remove _ _ next | @keep _ _ next =>
      rw [Next.wants?_point] at wants
      exact wants
  | @pass _ after | @join _ after =>
      cases after with
      | none => cases wants
      | some => exact wants
  | reuse | insert | supersede =>
      rw [Use.wants?_point] at wants
      cases wants
  | list =>
      rw [wants?_pointAfterList] at wants
      cases wants
  | spawn | displace | read | get => cases wants
  | _ => exact wants

theorem Move.obtains (move : Move s call p q r) (coherent : Coherent s)
    (obtains : p.Obtains s.observers cluster client use) :
    q.Obtains r.observers cluster client use := by
  have evolves := move.evolves
  cases obtains with
  | lookup =>
      cases move with
      | unobserved => exact .spawn
      | reuse entered known equal =>
          obtain ⟨o, known', named⟩ := coherent.entered _ _ entered
          obtain rfl := Option.some.inj (known.symm.trans known')
          exact use.obtains_point ⟨_, known, named, equal⟩
      | replace => exact .find
  | find =>
      cases move with
      | absent => exact .spawn
      | found => exact .halt
  | halt =>
      cases move with
      | cancel | enqueue | acquire => exact .halt
      | pass | join => exact .remove
  | remove =>
      cases move with
      | remove | keep => exact .spawn
  | spawn =>
      cases move with
      | spawn => exact .insert ⟨_, List.getElem?_concat_length, rfl, rfl⟩
  | insert serves =>
      cases move with
      | insert => exact use.obtains_point serves
      | displace => exact .displace serves
  | displace serves =>
      cases move with
      | supersede => exact use.obtains_point (serves.mono evolves)
  | read =>
      cases move with
      | read => exact .told
  | given => cases move
  | told => cases move

end Move

/-- After some labels, each call is on the way of the request that it has begun with. -/
structure Purposeful (past : List (Label κ)) (s : State κ) : Prop where
  begun : s.calls.length = (requests past).length
  wants : ∀ (call : CallId) (p : Point κ) want, s.calls[call]? = some p → p.wants? = some want →
    ∃ request, (requests past)[call]? = some request ∧ request.wants? = some want
  obtains : ∀ (call : CallId) (p : Point κ) request cluster client use, s.calls[call]? = some p →
    (requests past)[call]? = some request → request.wants? = some (cluster, client, use) →
      p.Obtains s.observers cluster client use

omit [HasConnection κ] in
/-- What a call has been asked for does not depend on what comes later. -/
theorem getElem?_requests_append {past : List (Label κ)} {call : CallId} {request : Request κ}
    (asked : (requests past)[call]? = some request) (more : List (Label κ)) :
    (requests (past ++ more))[call]? = some request := by
  rw [requests_append, List.getElem?_append_left (List.getElem?_eq_some_iff.mp asked).1, asked]

theorem Purposeful.getElem?_requests {s : State κ} {past more : List (Label κ)}
    (purposeful : Purposeful past s) {call : CallId} {p : Point κ}
    (stands : s.calls[call]? = some p) :
    (requests (past ++ more))[call]? = (requests past)[call]? := by
  have within : call < (requests past).length :=
    purposeful.begun ▸ (List.getElem?_eq_some_iff.mp stands).1
  rw [requests_append, List.getElem?_append_left within]

theorem Purposeful.step {s t : State κ} {past : List (Label κ)} {label : Label κ}
    (purposeful : Purposeful past s) (coherent : Coherent s) (step : Step s label t) :
    Purposeful (past ++ [label]) t := by
  have evolves := step.evolves
  constructor
  · rw [requests_concat, List.length_append, ← purposeful.begun]
    cases step with
    | begin => exact List.length_append
    | @call label call p q r goes stands move =>
        have silent : label.request? = none := by
          cases label with
          | begin => cases goes
          | _ => rfl
        rw [silent, move.calls_goto]
        exact List.length_set
    | _ => rfl
  · intro call q want stands wants
    rcases step.stood_cases stands with stood | ⟨p, r, -, stood, move, -⟩ | ⟨request, rfl, rfl, rfl⟩
    · obtain ⟨asked, began, wants⟩ := purposeful.wants call q want stood wants
      exact ⟨asked, getElem?_requests_append began _, wants⟩
    · obtain ⟨cluster, client, use⟩ := want
      obtain ⟨asked, began, wants⟩ := purposeful.wants call p _ stood (move.wants? wants)
      exact ⟨asked, getElem?_requests_append began _, wants⟩
    · refine ⟨request, ?_, request.wants?_point ▸ wants⟩
      rw [requests_concat, purposeful.begun]
      exact List.getElem?_concat_length
  · intro call q request cluster client use stands began wants
    rcases step.stood_cases stands with stood | ⟨p, r, -, stood, move, rfl⟩ | ⟨asked, rfl, rfl, rfl⟩
    · rw [purposeful.getElem?_requests stood] at began
      have obtains := purposeful.obtains call q request cluster client use stood began wants
      exact obtains.mono evolves
    · rw [purposeful.getElem?_requests stood] at began
      have obtains := purposeful.obtains call p request cluster client use stood began wants
      exact move.obtains coherent obtains
    · rw [requests_concat, purposeful.begun] at began
      obtain rfl : asked = request :=
        Option.some.inj (List.getElem?_concat_length.symm.trans began)
      exact Request.obtains_point wants

theorem State.IsFresh.purposeful {s : State κ} (fresh : s.IsFresh) : Purposeful [] s where
  begun := by simp [fresh.calls, requests]
  wants := by simp [fresh.calls]
  obtains := by simp [fresh.calls]

theorem Run.purposeful {s t : State κ} {labels : List (Label κ)}
    {events : List (ObserverId × Event)} (run : Run s labels t events) (fresh : s.IsFresh) :
    Purposeful labels t := by
  refine (run.induction_prefix (P := fun past u => Coherent u ∧ Purposeful past u)
    ⟨fresh.coherent, fresh.purposeful⟩ ?_).2
  intro past label later u v before during _ _ goes holds
  have step := step_of_eq_some goes
  exact ⟨holds.1.step step, holds.2.step holds.1 step⟩

end ClusterWatch.Observation.Registry
