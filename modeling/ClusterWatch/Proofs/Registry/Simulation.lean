import ClusterWatch.Proofs.Registry.Underway

/-!
# The reference keeps up with the registry

The operations on a cluster are recorded as they begin.  While calls on the cluster do not
overlap, it matches the reference after all recorded operations, or the last of them is
still under way to its goal; and all others have given back what the reference gives.
-/

namespace ClusterWatch.Observation.Registry

open Elasticsearch (HasConnection)
open Kubernetes (Identity)

variable {κ : Type}

/-- What a request asks for a single cluster. -/
def Request.operation? : Request κ → Option (Identity × Operation κ)
  | .observe cluster client => some (cluster, .observe client .give)
  | .resolve cluster client => some (cluster, .observe client .read)
  | .create cluster client => some (cluster, .create client)
  | .stop cluster => some (cluster, .stop)
  | .get cluster => some (cluster, .get)
  | .stopAll => none
  | .list => none
  | .halt _ => none

/-- The operation on a cluster that begins in a step, with its call.  To stop all observers
is to stop those of one cluster after another. -/
def State.opened? (s t : State κ) (cluster : Identity) :
    Label κ → Option (CallId × Operation κ)
  | .begin request =>
      (request.operation?.filter fun asked => asked.1 = cluster).map fun asked =>
        (s.calls.length, asked.2)
  | .call id => if t.calls[id]?.bind Point.opened? = some cluster then some (id, .stop) else none
  | .enumerate id _ =>
      if t.calls[id]?.bind Point.opened? = some cluster then some (id, .stop) else none
  | _ => none

theorem Request.cluster?_point (request : Request κ) (observers : List (Observer κ)) :
    request.point.cluster? observers = request.operation?.map Prod.fst := by
  cases request <;> rfl

theorem Point.cluster?_of_opened? {p : Point κ} {cluster : Identity}
    (opened : p.opened? = some cluster) (observers : List (Observer κ)) :
    p.cluster? observers = some cluster := by
  cases p with
  | find other next =>
      cases next with
      | create => cases opened
      | stop rest => exact opened
  | _ => cases opened

theorem State.opened?_of_call? {s t : State κ} {label : Label κ} {call : CallId}
    (goes : label.call? = some call) (cluster : Identity) :
    s.opened? t cluster label =
      if t.calls[call]?.bind Point.opened? = some cluster then some (call, .stop) else none := by
  cases label with
  | call id | enumerate id order =>
      cases goes
      rfl
  | _ => cases goes

variable [HasConnection κ]

/-- The operations on a cluster that begin in a run, in their order, with their calls. -/
def State.history (cluster : Identity) :
    State κ → List (Label κ) → List (CallId × Operation κ)
  | _, [] => []
  | s, label :: labels =>
      match s.step label with
      | none => []
      | some (t, _) => (s.opened? t cluster label).toList ++ history cluster t labels

/-- All recorded operations have given back what the reference gives, or give back nothing
in the end. -/
def Answered (s : State κ) (cluster : Identity)
    (seen : CallId → ObserverId → Observation → Prop)
    (history : List (CallId × Operation κ)) : Prop :=
  ∀ before call operation later, history = before ++ (call, operation) :: later →
    ∃ p, s.calls[call]? = some p ∧
      p.Answers (s.created cluster) (seen call) ((Slot.after before).apply operation).2

/-- The reference has kept up with a cluster. -/
inductive Simulates (s : State κ) (cluster : Identity)
    (seen : CallId → ObserverId → Observation → Prop) :
    List (CallId × Operation κ) → Prop where
  | idle {history : List (CallId × Operation κ)} :
      Matches s cluster (Slot.after history) → (∀ call, s.busy? call ≠ some cluster) →
        Answered s cluster seen history → Simulates s cluster seen history
  | busy {history : List (CallId × Operation κ)} {call : CallId} {operation : Operation κ}
      {p : Point κ} :
      s.calls[call]? = some p →
        Underway s cluster ((Slot.after history).apply operation) p →
        (∀ other, s.busy? other = some cluster → other = call) →
        Answered s cluster seen history →
        Simulates s cluster seen (history ++ [(call, operation)])

/-! ## What begins -/

/-- A request leads its cluster where the reference gets by the operation. -/
theorem Request.underway {s : State κ} {cluster : Identity} {slot : Slot κ}
    (agrees : Matches s cluster slot) {request : Request κ} {operation : Operation κ}
    (asks : request.operation? = some (cluster, operation)) :
    Underway s cluster (slot.apply operation) request.point := by
  cases request with
  | observe | resolve =>
      cases asks
      exact .lookup agrees
  | create =>
      cases asks
      exact @Underway.spawn _ _ s cluster slot _ .give agrees
  | stop =>
      cases asks
      exact @Underway.find _ _ s cluster slot (.stop []) agrees
  | get =>
      cases asks
      exact .get agrees
  | _ => cases asks

/-! ## Answers stay -/

section Answered

variable {s t : State κ} {cluster : Identity}
  {seen : CallId → ObserverId → Observation → Prop} {history : List (CallId × Operation κ)}

theorem Move.isStopping {r : State κ} {call : CallId} {p q : Point κ}
    (move : Move s call p q r) (stopping : p.IsStopping) : q.IsStopping := by
  have goesOn (rest : List Identity) : (Next.stop rest : Next κ).point.IsStopping := by
    cases rest <;> trivial
  cases move with
  | @absent _ next | @remove _ _ next | @keep _ _ next =>
      cases next with
      | create => exact stopping.elim
      | stop rest => exact goesOn rest
  | @found _ next =>
      cases next with
      | create => exact stopping.elim
      | stop rest => trivial
  | @cancel _ after | @enqueue _ after | @acquire _ after | @pass _ after | @join _ after =>
      rcases after with _ | ⟨_, _ | _⟩
      · exact stopping.elim
      · exact stopping.elim
      · trivial
  | _ => exact stopping.elim

omit [HasConnection κ] in
theorem Point.Answers.mono {ids ids' : List ObserverId} {seen : ObserverId → Observation → Prop}
    {answer : Answer} {p : Point κ} (answers : p.Answers ids seen answer) (grows : ids <+: ids') :
    p.Answers ids' seen answer := by
  cases answers with
  | finished corresponds => exact .finished (corresponds.mono grows)
  | stopping stopping => exact .stopping stopping

/-- What an operation has given back, or that it gives back nothing, is not undone. -/
theorem Answered.step (answered : Answered s cluster seen history) {label : Label κ}
    (step : Step s label t) : Answered t cluster seen history := by
  intro before call operation later split
  obtain ⟨p, stands, answers⟩ := answered before call operation later split
  replace answers := answers.mono (step.created_prefix cluster)
  cases step with
  | begin =>
      have within : call < s.calls.length := (List.getElem?_eq_some_iff.mp stands).1
      exact ⟨p, (List.getElem?_append_left within).trans stands, answers⟩
  | @call label mover p' q r _ stood move =>
      rw [State.calls_goto, move.calls]
      by_cases here : call = mover
      · subst here
        obtain rfl : p = p' := Option.some.inj (stands.symm.trans stood)
        refine ⟨q, List.getElem?_set_self (List.getElem?_eq_some_iff.mp stands).1, ?_⟩
        generalize answer : ((Slot.after before).apply operation).2 = given at answers ⊢
        cases answers with
        | finished => cases move
        | stopping stopping => exact .stopping (move.isStopping stopping)
      · exact ⟨p, (List.getElem?_set_ne (Ne.symm here)).trans stands, answers⟩
  | task | advance | spawn | signal => exact ⟨p, stands, answers⟩

/-- One more operation has given back what it ought to. -/
theorem Answered.concat (answered : Answered s cluster seen history) {call : CallId}
    {operation : Operation κ} {p : Point κ} (stands : s.calls[call]? = some p)
    (answers : p.Answers (s.created cluster) (seen call)
      ((Slot.after history).apply operation).2) :
    Answered s cluster seen (history ++ [(call, operation)]) := by
  intro before other operation' later split
  rcases List.append_eq_append_iff.mp split with ⟨more, rfl, rest⟩ | ⟨more, rfl, rest⟩
  · cases more with
    | nil =>
        cases rest
        rw [List.append_nil]
        exact ⟨p, stands, answers⟩
    | cons => simp at rest
  · cases more with
    | nil =>
        cases rest
        rw [List.append_nil] at answers
        exact ⟨p, stands, answers⟩
    | cons entry more =>
        cases rest
        exact answered before other operation' more rfl

end Answered

/-! ## Steps -/

/-- What a step has to do with a cluster: nothing, or an operation on the cluster begins in
it, or goes on. -/
inductive Regards (s : State κ) (cluster : Identity) (label : Label κ) : State κ → Prop where
  | aside {t : State κ} :
      Undisturbed s t cluster → s.opened? t cluster label = none →
        (∀ call, t.busy? call = some cluster ↔ s.busy? call = some cluster) →
        (∀ call p, s.busy? call = some cluster → s.calls[call]? = some p →
          t.calls[call]? = some p) →
        Regards s cluster label t
  | opens {t : State κ} {call : CallId} {operation : Operation κ} {p : Point κ} :
      Undisturbed s t cluster → s.opened? t cluster label = some (call, operation) →
        t.calls[call]? = some p →
        (∀ slot, Matches t cluster slot → Underway t cluster (slot.apply operation) p) →
        s.busy? call ≠ some cluster →
        (∀ other, t.busy? other = some cluster ↔
          other = call ∨ other ≠ call ∧ s.busy? other = some cluster) →
        Regards s cluster label t
  | goes {call : CallId} {p q : Point κ} {r : State κ} :
      label.call? = some call → s.calls[call]? = some p → p.cluster? s.observers = some cluster →
        Move s call p q r → s.opened? (r.goto call q) cluster label = none →
        (∀ other, other ≠ call →
          ((r.goto call q).busy? other = some cluster ↔ s.busy? other = some cluster)) →
        Regards s cluster label (r.goto call q)

theorem Regards.begin (s : State κ) (cluster : Identity) (request : Request κ) :
    Regards s cluster (.begin request) { s with calls := s.calls ++ [request.point] } := by
  have undisturbed : Undisturbed s { s with calls := s.calls ++ [request.point] } cluster :=
    .of_eq rfl rfl rfl
  have busy := State.busy?_begin s request.point
  have new : s.busy? s.calls.length ≠ some cluster := by
    rw [State.busy?, List.getElem?_eq_none (Nat.le_refl _)]
    simp
  rw [request.cluster?_point] at busy
  cases asked : request.operation?.filter fun asked => asked.1 = cluster with
  | none =>
      refine .aside undisturbed (by rw [State.opened?, asked]; rfl) (fun call => ?_) ?_
      · rw [busy]
        split
        · next here =>
            subst here
            refine iff_of_false ?_ new
            intro same
            obtain ⟨asked', asks, named⟩ := Option.map_eq_some_iff.mp same
            rw [asks, Option.filter_some, if_pos (decide_eq_true named)] at asked
            cases asked
        · exact Iff.rfl
      · intro call p _ stands
        exact (List.getElem?_append_left (List.getElem?_eq_some_iff.mp stands).1).trans stands
  | some asked' =>
      obtain ⟨asks, named⟩ := Option.filter_eq_some_iff.mp asked
      obtain ⟨other, operation⟩ := asked'
      obtain rfl : other = cluster := of_decide_eq_true named
      refine .opens undisturbed (by rw [State.opened?, asked]; rfl) List.getElem?_concat_length
        (fun slot agrees => Request.underway agrees asks) new (fun call => ?_)
      rw [busy, asks]
      split
      · next here => simp [here]
      · next elsewhere => simp [elsewhere]

omit [HasConnection κ] in
/-- A call begins to stop an observer on request at one kind of point only. -/
theorem Point.exists_of_opened? {p : Point κ} {cluster : Identity}
    (opened : p.opened? = some cluster) : ∃ rest, p = .find cluster (.stop rest) := by
  cases p with
  | find other next =>
      cases next with
      | create => cases opened
      | stop rest =>
          cases opened
          exact ⟨rest, rfl⟩
  | _ => cases opened

theorem Regards.call {cluster : Identity} {s r : State κ} {label : Label κ} {call : CallId}
    {p q : Point κ} (coherent : Coherent s) (guarded : Guarded s) (goes : label.call? = some call)
    (stands : s.calls[call]? = some p) (move : Move s call p q r)
    (undisturbed : p.cluster? s.observers ≠ some cluster →
      Undisturbed s (r.goto call q) cluster) :
    Regards s cluster label (r.goto call q) := by
  have within : call < s.calls.length := (List.getElem?_eq_some_iff.mp stands).1
  have here : (r.goto call q).calls[call]? = some q := by
    rw [State.calls_goto, move.calls, List.getElem?_set_self within]
  have busy := State.busy?_goto q coherent stands move.calls move.evolves
  have opened : s.opened? (r.goto call q) cluster label =
      if q.opened? = some cluster then some (call, .stop) else none := by
    rw [State.opened?_of_call? goes, here, Option.bind_some]
  have onward := move.onward coherent (coherent.fits call p stands)
    (guarded.bound call p stands)
  by_cases works : p.cluster? s.observers = some cluster
  · refine .goes goes stands works move ?_ fun other elsewhere => by rw [busy, if_neg elsewhere]
    rw [opened, if_neg]
    cases onward with
    | stays _ unopened =>
        rw [unopened]
        nofun
    | ends => nofun
    | opens differs =>
        rintro ⟨⟩
        exact differs works
  · have idle : s.busy? call ≠ some cluster := by
      rw [State.busy?, stands]
      exact works
    by_cases opens : q.opened? = some cluster
    · refine .opens (undisturbed works) (opened.trans (if_pos opens)) here ?_ idle fun other => ?_
      · intro slot agrees
        obtain ⟨rest, rfl⟩ := Point.exists_of_opened? opens
        exact @Underway.find _ _ _ cluster slot (.stop rest) agrees
      · rw [busy]
        split
        · next same => simp [same, Point.cluster?_of_opened? opens]
        · next differs => simp [differs]
    · refine .aside (undisturbed works) (opened.trans (if_neg opens)) (fun other => ?_) ?_
      · rw [busy]
        split
        · next same =>
            subst same
            refine iff_of_false (fun works' => ?_) idle
            cases onward with
            | stays same => exact works (same.symm.trans works')
            | ends => cases works'
            | opens => exact opens works'
        · exact Iff.rfl
      · intro other p' works' stands'
        have elsewhere : call ≠ other := by
          rintro rfl
          exact idle works'
        rw [State.calls_goto, move.calls, List.getElem?_set_ne elsewhere]
        exact stands'

theorem Step.regards {s t : State κ} {label : Label κ} (step : Step s label t)
    (coherent : Coherent s) (guarded : Guarded s) (own : label.IsOwn) (cluster : Identity) :
    Regards s cluster label t := by
  have busy (calls : t.calls = s.calls) : t.busy? = s.busy? :=
    State.busy?_of_evolves coherent calls step.evolves
  have undisturbed : (∀ call, label.call? = some call → s.busy? call ≠ some cluster) →
      Undisturbed s t cluster := step.undisturbed coherent guarded own
  cases step with
  | begin => exact .begin _ _ _
  | @call label call p q r goes stands move =>
      refine .call coherent guarded goes stands move fun elsewhere => undisturbed ?_
      intro other goes'
      obtain rfl : call = other := Option.some.inj (goes.symm.trans goes')
      rw [State.busy?, stands]
      exact elsewhere
  | task | advance =>
      refine .aside (undisturbed ?_) rfl (fun call => by rw [busy rfl]) fun _ _ _ stands => stands
      intro call goes
      cases goes
  | spawn | signal => exact own.elim

/-- An operation has gone on, alone on its cluster. -/
theorem Underway.simulates {cluster : Identity} {s r : State κ} {call : CallId}
    {operation : Operation κ} {p q : Point κ} {seen : CallId → ObserverId → Observation → Prop}
    {history : List (CallId × Operation κ)}
    (underway : Underway s cluster ((Slot.after history).apply operation) p)
    (coherent : Coherent s) (guarded : Guarded s) (stands : s.calls[call]? = some p)
    (move : Move s call p q r) (alone : ∀ other, s.busy? other = some cluster → other = call)
    (busy : ∀ other, other ≠ call →
      ((r.goto call q).busy? other = some cluster ↔ s.busy? other = some cluster))
    (reads : ∀ id o, p = .read id → s.observers[id]? = some o → seen call id o.last)
    (answered : Answered (r.goto call q) cluster seen history) :
    Simulates (r.goto call q) cluster seen (history ++ [(call, operation)]) := by
  have here : (r.goto call q).calls[call]? = some q := by
    rw [State.calls_goto, move.calls]
    exact List.getElem?_set_self (List.getElem?_eq_some_iff.mp stands).1
  have same : Undisturbed r (r.goto call q) cluster := .of_eq rfl rfl rfl
  have alone' (other : CallId) (differs : other ≠ call) :
      (r.goto call q).busy? other ≠ some cluster :=
    fun works => differs (alone other ((busy other differs).mp works))
  rcases underway.move coherent guarded stands move reads with underway | reached
  · refine .busy here (underway.undisturbed same) (fun other works => ?_) answered
    exact Decidable.byContradiction fun differs => alone' other differs works
  · refine .idle ?_ (fun other works => ?_) (answered.concat here reached.answers)
    · rw [Slot.after_concat]
      exact same.matches reached.agrees
    · by_cases differs : other = call
      · rw [differs, State.busy?, here] at works
        exact reached.elsewhere works
      · exact alone' other differs works

/-- While calls on a cluster do not overlap, the reference keeps up with it. -/
theorem Simulates.step {cluster : Identity} {s t : State κ} {label : Label κ}
    {seen : CallId → ObserverId → Observation → Prop} {history : List (CallId × Operation κ)}
    (simulates : Simulates s cluster seen history) (coherent : Coherent s) (guarded : Guarded s)
    (own : label.IsOwn) (step : Step s label t) (exclusive : t.IsExclusive)
    (reads : ∀ call id o, label.call? = some call → s.calls[call]? = some (.read id) →
      s.observers[id]? = some o → seen call id o.last) :
    Simulates t cluster seen (history ++ (s.opened? t cluster label).toList) := by
  have kept {history : List (CallId × Operation κ)} (answered : Answered s cluster seen history) :=
    answered.step step
  have regards := step.regards coherent guarded own cluster
  cases simulates with
  | idle agrees idle answered =>
      cases regards with
      | aside undisturbed unopened busy =>
          rw [unopened, Option.toList_none, List.append_nil]
          exact .idle (undisturbed.matches agrees) (fun call => (idle call ∘ (busy call).mp))
            (kept answered)
      | opens undisturbed opened stands leads _ busy =>
          rw [opened]
          refine .busy stands (leads _ (undisturbed.matches agrees)) (fun other works => ?_)
            (kept answered)
          rcases (busy other).mp works with same | ⟨-, works⟩
          · exact same
          · exact (idle other works).elim
      | goes _ stands works =>
          exact (idle _ (State.busy?_eq_some_iff.mpr ⟨_, stands, works⟩)).elim
  | @busy history call operation p stands underway alone answered =>
      have works : s.busy? call = some cluster :=
        State.busy?_eq_some_iff.mpr ⟨p, stands, underway.cluster?⟩
      cases regards with
      | aside undisturbed unopened busy keeps =>
          rw [unopened, Option.toList_none, List.append_nil]
          exact .busy (keeps call p works stands) (underway.undisturbed undisturbed)
            (fun other => alone other ∘ (busy other).mp) (kept answered)
      | @opens _ new _ _ _ _ _ _ idle busy =>
          have elsewhere : call ≠ new := fun same => idle (same ▸ works)
          have overlaps := exclusive call new cluster
            ((busy call).mpr (.inr ⟨elsewhere, works⟩)) ((busy new).mpr (.inl rfl))
          exact (elsewhere overlaps).elim
      | @goes other p' q r goes stands' works' move unopened busy =>
          obtain rfl : other = call :=
            alone other (State.busy?_eq_some_iff.mpr ⟨p', stands', works'⟩)
          obtain rfl : p = p' := Option.some.inj (stands.symm.trans stands')
          have value (id : ObserverId) (o : Observer κ) (reading : p = .read id)
              (known : s.observers[id]? = some o) : seen other id o.last :=
            reads other id o goes (reading ▸ stands) known
          rw [unopened, Option.toList_none, List.append_nil]
          exact underway.simulates coherent guarded stands move alone busy value (kept answered)

/-- A cluster on which no call works is as the reference has it. -/
theorem Simulates.agrees_of_idle {cluster : Identity} {s : State κ}
    {seen : CallId → ObserverId → Observation → Prop} {history : List (CallId × Operation κ)}
    (simulates : Simulates s cluster seen history)
    (idle : ∀ call, s.busy? call ≠ some cluster) : Matches s cluster (Slot.after history) := by
  cases simulates with
  | idle agrees => exact agrees
  | busy stands underway =>
      exact (idle _ (State.busy?_eq_some_iff.mpr ⟨_, stands, underway.cluster?⟩)).elim

omit [HasConnection κ] in
/-- An answer of a call that is over is what the call has given back. -/
theorem Point.Answers.corresponds {ids : List ObserverId}
    {seen : ObserverId → Observation → Prop} {answer : Answer} {outcome : Outcome}
    (answers : (Point.finished outcome : Point κ).Answers ids seen answer) :
    Corresponds ids seen answer outcome := by
  cases answers with
  | finished corresponds => exact corresponds
  | stopping stopping =>
      cases outcome with
      | done => trivial
      | _ => exact stopping.elim

/-- An operation whose call is over has given back what the reference gives. -/
theorem Simulates.corresponds {cluster : Identity} {s : State κ}
    {seen : CallId → ObserverId → Observation → Prop}
    {history before later : List (CallId × Operation κ)} {call : CallId}
    {operation : Operation κ} {outcome : Outcome} (simulates : Simulates s cluster seen history)
    (split : history = before ++ (call, operation) :: later)
    (ended : s.calls[call]? = some (.finished outcome)) :
    Corresponds (s.created cluster) (seen call) ((Slot.after before).apply operation).2
      outcome := by
  have of_answered {history later : List (CallId × Operation κ)}
      (answered : Answered s cluster seen history)
      (split : history = before ++ (call, operation) :: later) :
      Corresponds (s.created cluster) (seen call) ((Slot.after before).apply operation).2
        outcome := by
    obtain ⟨p, stands, answers⟩ := answered before call operation later split
    obtain rfl : p = .finished outcome := Option.some.inj (stands.symm.trans ended)
    exact answers.corresponds
  cases simulates with
  | idle _ _ answered => exact of_answered answered split
  | @busy history mover current p stands underway _ answered =>
      -- The call that is under way is not over, so the operation is an earlier one.
      have differs (rest : (call, operation) = (mover, current)) : False := by
        cases rest
        cases stands.symm.trans ended
        cases underway.cluster?
      rcases List.append_eq_append_iff.mp split with ⟨more, rfl, rest⟩ | ⟨more, rfl, rest⟩
      · cases more with
        | nil => exact (differs (List.cons.inj rest).1.symm).elim
        | cons => simp at rest
      · cases more with
        | nil => exact (differs (List.cons.inj rest).1).elim
        | cons entry more =>
            cases rest
            exact of_answered answered rfl

end ClusterWatch.Observation.Registry
