import ClusterWatch.Proofs.Registry.Isolation
import ClusterWatch.Proofs.Registry.Refinement

/-!
# A call that has a cluster to itself

What a registry has for a cluster on which no call works can always be written as a slot of
the reference.  So what is known of the reference holds, from any state on that calls on a
registry can lead to, of one call that is alone on its cluster, whatever goes on with other
clusters meanwhile.
-/

namespace ClusterWatch.Observation.Registry

open Elasticsearch (HasConnection Interchangeable)
open Kubernetes (Identity)

variable {κ : Type}

/-! ## The slot of a cluster -/

/-- How an observer stands. -/
def State.standing (s : State κ) (cluster : Identity) (id : ObserverId) (o : Observer κ) :
    Standing :=
  if s.entry? cluster = some id then .registered
  else if o.task.isFinished then .ended
  else .signalled

theorem exists_forall₂ {α β : Type} {related : α → β → Prop} {list : List α}
    (each : ∀ a ∈ list, ∃ b, related a b) : ∃ image, List.Forall₂ related list image := by
  induction list with
  | nil => exact ⟨[], .nil⟩
  | cons a rest ih =>
      obtain ⟨b, here⟩ := each a List.mem_cons_self
      obtain ⟨image, others⟩ := ih fun a mem => each a (List.mem_cons_of_mem _ mem)
      exact ⟨b :: image, .cons here others⟩

/-- What a registry has for a cluster on which no call works is a slot. -/
theorem Guarded.exists_matches {s : State κ} {cluster : Identity} (guarded : Guarded s)
    (coherent : Coherent s) (uniform : s.IsUniform)
    (idle : ∀ call, s.busy? call ≠ some cluster) : ∃ slot, Matches s cluster slot := by
  refine exists_forall₂ fun id mem => ?_
  obtain ⟨o, known, named⟩ := State.mem_created_iff.mp mem
  refine ⟨⟨o.client, s.standing cluster id o⟩, o, known, rfl, uniform id o known, ?_⟩
  have live_iff : o.cancelled = false ↔ s.entry? cluster = some id := by
    constructor
    · intro live
      exact guarded.entry_of_mem_live coherent idle (State.mem_live_iff.mpr ⟨o, known, named, live⟩)
    · intro entered
      obtain ⟨o', known', -, live⟩ :=
        State.mem_live_iff.mp (guarded.mem_live_of_entry coherent idle entered)
      cases known.symm.trans known'
      exact live
  unfold State.standing
  split
  · next entered => exact ⟨entered, live_iff.mpr entered⟩
  · next absent =>
      have cancelled : o.cancelled = true := by
        cases flag : o.cancelled with
        | true => rfl
        | false => exact (absent (live_iff.mp flag)).elim
      split
      · next finished => exact ⟨absent, cancelled, finished⟩
      · exact ⟨absent, cancelled⟩

variable [HasConnection κ]

/-! ## The way to a goal -/

/-- A call with the request begins in `s` and is over in `t`, with the outcome, and no other call
works on the cluster meanwhile. -/
structure Completes (cluster : Identity) (request : Request κ) (outcome : Outcome) (s : State κ)
    (labels : List (Label κ)) (t : State κ) : Prop where
  secludes : Secludes cluster (· = s.calls.length) s (.begin request :: labels) t
  final : t.calls[s.calls.length]? = some (.finished outcome)

/-- A call has reached its goal and is over. -/
structure Settled (s : State κ) (cluster : Identity) (seen : ObserverId → Observation → Prop)
    (goal : Slot κ × Answer) (p : Point κ) : Prop where
  agrees : Matches s cluster goal.1
  final : ∃ outcome, p = .finished outcome ∧ Corresponds (s.created cluster) seen goal.2 outcome

omit [HasConnection κ] in
theorem Reached.settled {s : State κ} {cluster : Identity}
    {seen : ObserverId → Observation → Prop} {goal : Slot κ × Answer} {p : Point κ}
    (reached : Reached s cluster seen goal p) (gives : goal.2 ≠ .done) :
    Settled s cluster seen goal p := by
  obtain ⟨agrees, -, answers⟩ := reached
  refine ⟨agrees, ?_⟩
  generalize goal.2 = answer at answers gives
  cases answers with
  | finished corresponds => exact ⟨_, rfl, corresponds⟩
  | stopping => exact (gives rfl).elim

omit [HasConnection κ] in
theorem Settled.undisturbed {s t : State κ} {cluster : Identity}
    {seen : ObserverId → Observation → Prop} {goal : Slot κ × Answer} {p : Point κ}
    (settled : Settled s cluster seen goal p) (undisturbed : Undisturbed s t cluster) :
    Settled t cluster seen goal p := by
  obtain ⟨agrees, outcome, rfl, corresponds⟩ := settled
  exact ⟨undisturbed.matches agrees, outcome, rfl, undisturbed.created ▸ corresponds⟩

/-- A call leads its cluster to a goal, or has led it there and is over. -/
def Pursues (s : State κ) (cluster : Identity) (call : CallId)
    (seen : ObserverId → Observation → Prop) (goal : Slot κ × Answer) : Prop :=
  ∃ p, s.calls[call]? = some p ∧ (Underway s cluster goal p ∨ Settled s cluster seen goal p)

/-- A call that is alone on its cluster is not kept from its goal. -/
theorem Pursues.step {s t : State κ} {label : Label κ} {cluster : Identity} {call : CallId}
    {seen : ObserverId → Observation → Prop} {goal : Slot κ × Answer}
    (pursues : Pursues s cluster call seen goal) (regular : Regular s) (own : label.IsOwn)
    (step : Step s label t) (gives : goal.2 ≠ .done)
    (alone : ∀ other, s.busy? other = some cluster → other = call)
    (alone' : ∀ other, t.busy? other = some cluster → other = call)
    (reads : ∀ id o, label.call? = some call → s.calls[call]? = some (.read id) →
      s.observers[id]? = some o → seen id o.last) : Pursues t cluster call seen goal := by
  obtain ⟨p, stands, holds⟩ := pursues
  have coherent := regular.sound.coherent
  have guarded := regular.sound.guarded
  have stays (undisturbed : Undisturbed s t cluster) (kept : t.calls[call]? = some p) :
      Pursues t cluster call seen goal :=
    ⟨p, kept, holds.imp (·.undisturbed undisturbed) (·.undisturbed undisturbed)⟩
  have final (settled : Settled s cluster seen goal p) : t.calls[call]? = some p := by
    obtain ⟨outcome, rfl, -⟩ := settled.final
    rcases step.stands_cases stands with same | ⟨q, r, -, move, -⟩
    · exact same
    · cases move
  have works (underway : Underway s cluster goal p) : s.busy? call = some cluster :=
    State.busy?_eq_some_iff.mpr ⟨p, stands, underway.cluster?⟩
  cases step.regards coherent guarded own cluster with
  | aside undisturbed _ _ keeps =>
      refine stays undisturbed ?_
      rcases holds with underway | settled
      · exact keeps call p (works underway) stands
      · exact final settled
  | @opens _ new _ _ undisturbed _ _ _ idle busy =>
      obtain rfl : new = call := alone' new ((busy new).mpr (.inl rfl))
      rcases holds with underway | settled
      · exact (idle (works underway)).elim
      · exact stays undisturbed (final settled)
  | @goes mover p' q r moves stands' works' move =>
      obtain rfl : mover = call :=
        alone mover (State.busy?_eq_some_iff.mpr ⟨p', stands', works'⟩)
      cases stands.symm.trans stands'
      have here : (r.goto mover q).calls[mover]? = some q := by
        rw [move.calls_goto]
        exact List.getElem?_set_self (List.getElem?_eq_some_iff.mp stands).1
      have same : Undisturbed r (r.goto mover q) cluster := .of_eq rfl rfl rfl
      rcases holds with underway | settled
      · have value (id : ObserverId) (o : Observer κ) (reading : p = .read id)
            (known : s.observers[id]? = some o) : seen id o.last :=
          reads id o moves (reading ▸ stands) known
        rcases underway.move coherent guarded stands move value with onward | reached
        · exact ⟨q, here, .inl (onward.undisturbed same)⟩
        · exact ⟨q, here, .inr ((reached.settled gives).undisturbed same)⟩
      · obtain ⟨outcome, rfl, -⟩ := settled.final
        cases move

/-- A call that has had a cluster to itself has done there what the reference does, and has given
back what that gives. -/
theorem Completes.settled {s t : State κ} {cluster : Identity} {request : Request κ}
    {operation : Operation κ} {outcome : Outcome} {labels : List (Label κ)} {slot : Slot κ}
    (completes : Completes cluster request outcome s labels t) (regular : Regular s)
    (asks : request.operation? = some (cluster, operation))
    (gives : (slot.apply operation).2 ≠ .done) (agrees : Matches s cluster slot) :
    Regular t ∧ Matches t cluster (slot.apply operation).1 ∧
      Corresponds (t.created cluster) (HasRead s (.begin request :: labels) s.calls.length)
        (slot.apply operation).2 outcome := by
  obtain ⟨u, events, goes, secludes⟩ := completes.secludes.tail
  have begun := goes
  cases begun
  have own : (Label.begin request).IsOwn := completes.secludes.own _ List.mem_cons_self
  have step := step_of_eq_some goes
  have regular' := regular.step own step
  have undisturbed : Undisturbed s { s with calls := s.calls ++ [request.point] } cluster :=
    .of_eq rfl rfl rfl
  obtain ⟨regular'', p, stands, holds⟩ := secludes.induction regular'
    (P := fun v => Pursues v cluster s.calls.length
      (HasRead s (.begin request :: labels) s.calls.length) (slot.apply operation))
    ⟨_, List.getElem?_concat_length, .inl (Request.underway (undisturbed.matches agrees) asks)⟩
    fun v w label later more passes goes' own regular pursues =>
      pursues.step regular own (step_of_eq_some goes') gives (secludes.alone v _ passes)
        (secludes.alone w later (passes.next goes')) fun id o moves stands known => by
          cases label with
          | call other =>
              cases moves
              exact ⟨v, later, o, passes.cons goes, stands, known, rfl⟩
          | enumerate other order =>
              cases moves
              simp [State.step, stands] at goes'
          | _ => cases moves
  have final := completes.final
  rcases holds with underway | ⟨agrees', outcome', rfl, corresponds⟩
  · cases stands.symm.trans final
    cases underway.cluster?
  · cases stands.symm.trans final
    exact ⟨regular'', agrees', corresponds⟩

section Completes

variable {s t : State κ} {cluster : Identity} {request : Request κ} {outcome : Outcome}
  {labels : List (Label κ)}

/-- No call works on the cluster when the call begins. -/
theorem Completes.idle_before (completes : Completes cluster request outcome s labels t)
    (call : CallId) : s.busy? call ≠ some cluster := by
  intro works
  have new : call = s.calls.length := completes.secludes.alone s _ .start call works
  rw [State.busy?, new, List.getElem?_eq_none (Nat.le_refl _)] at works
  cases works

/-- The observers that a cluster has had are not forgotten. -/
theorem Run.created_prefix {events : List (ObserverId × Event)} (run : Run s labels t events)
    (cluster : Identity) : s.created cluster <+: t.created cluster := by
  refine run.induction (P := fun u => s.created cluster <+: u.created cluster)
    List.prefix_rfl ?_
  exact fun u v label _ grows step => grows.trans (step.created_prefix cluster)

end Completes

/-! ## A call that gets an observer -/

/-- A call that uses an observer has given back the observer, or what it had published last. -/
def Use.Gives (seen : ObserverId → Observation → Prop) (id : ObserverId) : Use → Outcome → Prop
  | .give, outcome => outcome = .observer id
  | .read, outcome => ∃ value, outcome = .observation value ∧ seen id value

theorem Use.answer_ne_done (use : Use) (n : Nat) : use.answer n ≠ .done := by
  cases use <;> simp [Use.answer]

omit [HasConnection κ] in
theorem Use.gives_of_corresponds {ids : List ObserverId}
    {seen : ObserverId → Observation → Prop} {use : Use} {n : Nat} {id : ObserverId}
    {outcome : Outcome} (corresponds : Corresponds ids seen (use.answer n) outcome)
    (place : ids[n]? = some id) : use.Gives seen id outcome := by
  cases use with
  | give =>
      cases outcome with
      | observer other =>
          cases place.symm.trans corresponds
          rfl
      | _ => exact corresponds.elim
  | read =>
      cases outcome with
      | observation value =>
          obtain ⟨other, place', read⟩ := corresponds
          cases place.symm.trans place'
          exact ⟨value, rfl, read⟩
      | _ => exact corresponds.elim

/-- In the state `t` the observer with the number is registered and live, and its client is
interchangeable with the given one. -/
structure Provides (t : State κ) (cluster : Identity) (client : κ) (id : ObserverId) : Prop where
  entry : t.entry? cluster = some id
  observer : ∃ o, t.observers[id]? = some o ∧ o.cancelled = false ∧
    Interchangeable o.client client

omit [HasConnection κ] in
theorem Undisturbed.exists_kept {s t : State κ} {cluster : Identity}
    (undisturbed : Undisturbed s t cluster) {id : ObserverId} {o : Observer κ}
    (known : s.observers[id]? = some o) (named : o.cluster = cluster) :
    ∃ o', t.observers[id]? = some o' ∧ o'.client = o.client ∧ o'.cancelled = o.cancelled := by
  obtain ⟨o', known', continues⟩ := undisturbed.evolves id o known
  have same := undisturbed.live id (State.mem_created_iff.mpr ⟨o, known, named⟩)
  rw [State.cancelled?, State.cancelled?, known, known'] at same
  exact ⟨o', known', continues.client, Option.some.inj same⟩

theorem Provides.undisturbed {s t : State κ} {cluster : Identity} {client : κ} {id : ObserverId}
    (provides : Provides s cluster client id) (coherent : Coherent s)
    (undisturbed : Undisturbed s t cluster) : Provides t cluster client id := by
  obtain ⟨entered, o, known, live, serves⟩ := provides
  obtain ⟨o', known', named⟩ := coherent.entered cluster id entered
  cases known.symm.trans known'
  obtain ⟨o', known', same, flag⟩ := undisturbed.exists_kept known named
  exact ⟨undisturbed.entry.trans entered, o', known', flag.trans live, same ▸ serves⟩

/-- Where no call works on a cluster, its observer is left in place. -/
theorem Avoids.provides {s t : State κ} {cluster : Identity} {client : κ} {id : ObserverId}
    {labels : List (Label κ)} (avoids : Avoids cluster s labels t) (regular : Regular s)
    (provides : Provides s cluster client id) :
    Regular t ∧ Provides t cluster client id ∧ t.created cluster = s.created cluster := by
  obtain ⟨regular', undisturbed⟩ := avoids.undisturbed regular
  exact ⟨regular', provides.undisturbed regular.sound.coherent undisturbed, undisturbed.created⟩

/-- An observer that was registered is registered no longer, its task has ended, and the one that
is registered has the given client. -/
structure Renews (t : State κ) (cluster : Identity) (client : κ) (old id : ObserverId) :
    Prop where
  differs : id ≠ old
  ended : ∃ o, t.observers[old]? = some o ∧ o.task.isFinished = true
  client : ∃ o, t.observers[id]? = some o ∧ o.client = client

/-- From `s` to `t`, a cluster has come to have a registered observer for a client: the one that
was registered if its client serves, and a new one otherwise. -/
structure Resolved (s t : State κ) (cluster : Identity) (client : κ) (id : ObserverId) : Prop where
  provides : Provides t cluster client id
  keeps : ∀ old o, s.entry? cluster = some old → s.observers[old]? = some o →
    Interchangeable o.client client → id = old ∧ t.created cluster = s.created cluster
  renews : ∀ old o, s.entry? cluster = some old → s.observers[old]? = some o →
    ¬Interchangeable o.client client → Renews t cluster client old id

/-- What happens before and afterwards does not touch the cluster. -/
theorem Resolved.undisturbed {s u v t : State κ} {cluster : Identity} {client : κ}
    {id : ObserverId} (resolved : Resolved u v cluster client id) (before : Undisturbed s u cluster)
    (after : Undisturbed v t cluster) (coherent : Coherent v) :
    Resolved s t cluster client id := by
  have kept {old : ObserverId} {o : Observer κ} (entered : s.entry? cluster = some old)
      (known : s.observers[old]? = some o) :
      u.entry? cluster = some old ∧ ∃ o', u.observers[old]? = some o' ∧ o'.client = o.client := by
    obtain ⟨o', known', continues⟩ := before.evolves old o known
    exact ⟨before.entry.trans entered, o', known', continues.client⟩
  refine ⟨resolved.provides.undisturbed coherent after, ?_, ?_⟩
  · intro old o entered known serves
    obtain ⟨entered', o', known', client⟩ := kept entered known
    obtain ⟨same, created⟩ := resolved.keeps old o' entered' known' (client ▸ serves)
    exact ⟨same, after.created.trans (created.trans before.created)⟩
  · intro old o entered known differs
    obtain ⟨entered', o', known', client⟩ := kept entered known
    obtain ⟨apart, ⟨x, knownX, finished⟩, y, knownY, is⟩ :=
      resolved.renews old o' entered' known' (client ▸ differs)
    obtain ⟨x', knownX', continues⟩ := after.evolves old x knownX
    obtain ⟨y', knownY', continues'⟩ := after.evolves id y knownY
    exact ⟨apart, ⟨x', knownX', continues.finished finished⟩, y', knownY',
      continues'.client.trans is⟩

section Observes

variable {s t : State κ} {cluster : Identity} {request : Request κ} {outcome : Outcome}
  {labels : List (Label κ)} {client : κ} {use : Use}

omit [HasConnection κ] in
/-- The row of a registered observer says so. -/
theorem Matches.row_of_entry {slot : Slot κ} (agrees : Matches s cluster slot) {n : Nat}
    {id : ObserverId} (place : (s.created cluster)[n]? = some id)
    (entered : s.entry? cluster = some id) :
    ∃ row, slot[n]? = some row ∧ row.standing = .registered := by
  obtain ⟨within, rfl⟩ := List.getElem?_eq_some_iff.mp place
  have within' : n < slot.length := by rwa [← agrees.length_eq]
  refine ⟨slot[n], List.getElem?_eq_getElem within', ?_⟩
  obtain ⟨o, -, -, -, holds⟩ := agrees.get within within'
  rw [List.get_eq_getElem, List.get_eq_getElem] at holds
  cases standing : slot[n].standing with
  | registered => rfl
  | signalled | ended =>
      rw [standing] at holds
      exact (holds.1 entered).elim

/-- The entry of a cluster that has a slot is live. -/
theorem Matches.provides {slot : Slot κ} (agrees : Matches s cluster slot)
    (coherent : Coherent s) {id : ObserverId} {o : Observer κ}
    (entered : s.entry? cluster = some id) (known : s.observers[id]? = some o)
    (serves : Interchangeable o.client client) : Provides s cluster client id := by
  obtain ⟨o', known', named⟩ := coherent.entered cluster id entered
  cases known.symm.trans known'
  obtain ⟨row, -, o'', known'', -, -, holds⟩ :=
    Rows.exists_of_mem agrees (State.mem_created_iff.mpr ⟨o, known, named⟩)
  cases known.symm.trans known''
  refine ⟨entered, o, known, ?_, serves⟩
  cases standing : row.standing with
  | registered =>
      rw [standing] at holds
      exact holds.2
  | signalled | ended =>
      rw [standing] at holds
      exact (holds.1 entered).elim

/-- Where the reference uses the registered observer, the registry does. -/
theorem Matches.reuses {slot : Slot κ} (agrees : Matches s cluster slot)
    (agrees' : Matches t cluster slot) (grows : s.created cluster <+: t.created cluster)
    (coherent : Coherent t) {n : Nat} (serving : slot.serving? client = some n) :
    ∃ id, Provides t cluster client id ∧ (t.created cluster)[n]? = some id ∧
      s.entry? cluster = some id ∧ t.created cluster = s.created cluster := by
  have same : t.created cluster = s.created cluster :=
    (grows.eq_of_length (by rw [agrees.length_eq, agrees'.length_eq])).symm
  obtain ⟨id, -, place, entered, -⟩ := agrees.serving?_eq_some serving
  obtain ⟨id', o, place', entered', known, serves⟩ := agrees'.serving?_eq_some serving
  obtain rfl : id = id' := Option.some.inj (place.symm.trans (same ▸ place'))
  exact ⟨id, agrees'.provides coherent entered' known serves, place', entered, same⟩

/-- Where the reference replaces the registered observer, the registry does. -/
theorem Matches.renews {slot : Slot κ} (agrees : Matches s cluster slot)
    (agrees' : Matches t cluster ((slot.retire .ended).enter client))
    (grows : s.created cluster <+: t.created cluster) (coherent : Coherent t) :
    ∃ id, Provides t cluster client id ∧ (t.created cluster)[slot.length]? = some id ∧
      ∀ old, s.entry? cluster = some old → old ∈ s.created cluster →
        Renews t cluster client old id := by
  have length : ((slot.retire .ended).retire .signalled).length = slot.length := by simp
  have last : ((slot.retire .ended).enter client)[slot.length]? =
      some ⟨client, .registered⟩ := by
    rw [Slot.enter, ← length]
    exact List.getElem?_concat_length
  obtain ⟨id, o, place, entered, known, is⟩ := agrees'.registered last rfl
  refine ⟨id, agrees'.provides coherent entered known (congrArg _ is), place, ?_⟩
  intro old former mem
  obtain ⟨m, place'⟩ := List.getElem?_of_mem mem
  obtain ⟨row, has, standing⟩ := agrees.row_of_entry place' former
  have within : m < slot.length := (List.getElem?_eq_some_iff.mp has).1
  have retired : ((slot.retire .ended).enter client)[m]? =
      some { row with standing := .ended } := by
    rw [Slot.enter, List.getElem?_append_left (by omega), Slot.retire, Slot.retire]
    simp [has, standing]
  obtain ⟨old', place'', o', known', -, -, absent, -, finished⟩ :=
    Rows.exists_of_getElem? agrees' retired
  obtain ⟨more, grown⟩ := grows
  rw [← grown, List.getElem?_append_left (List.getElem?_eq_some_iff.mp place').1] at place''
  obtain rfl : old = old' := Option.some.inj (place'.symm.trans place'')
  exact ⟨fun same => absent (same ▸ entered), ⟨o', known', finished⟩, ⟨o, known, is⟩⟩

/-- A call that gets an observer of a cluster, and has the cluster to itself, uses the one that is
registered if its client serves, and a new one otherwise. -/
theorem Completes.observes (completes : Completes cluster request outcome s labels t)
    (regular : Regular s) (asks : request.operation? = some (cluster, .observe client use)) :
    Regular t ∧ ∃ id, Resolved s t cluster client id ∧
      use.Gives (HasRead s (.begin request :: labels) s.calls.length) id outcome := by
  have coherent := regular.sound.coherent
  obtain ⟨slot, agrees⟩ :=
    regular.sound.guarded.exists_matches coherent regular.uniform completes.idle_before
  obtain ⟨events, run⟩ := completes.secludes.run
  have grows := run.created_prefix cluster
  have gives : (slot.apply (.observe client use)).2 ≠ .done := by
    rw [Slot.apply]
    cases slot.serving? client with
    | none => exact use.answer_ne_done _
    | some n => exact use.answer_ne_done n
  obtain ⟨regular', agrees', corresponds⟩ := completes.settled regular asks gives agrees
  refine ⟨regular', ?_⟩
  cases serving : slot.serving? client with
  | some n =>
      rw [Slot.apply, serving] at agrees' corresponds
      obtain ⟨id, provides, place, entered, same⟩ :=
        agrees.reuses agrees' grows regular'.sound.coherent serving
      refine ⟨id, ⟨provides, fun old o former known serves => ?_,
        fun old o former known differs => ?_⟩, Use.gives_of_corresponds corresponds place⟩
      · exact ⟨Option.some.inj (entered.symm.trans former), same⟩
      · obtain ⟨_, o', _, entered', known', serves⟩ := agrees.serving?_eq_some serving
        cases former.symm.trans entered'
        cases known.symm.trans known'
        exact (differs serves).elim
  | none =>
      rw [Slot.apply, serving] at agrees' corresponds
      obtain ⟨id, provides, place, renews⟩ :=
        agrees.renews agrees' grows regular'.sound.coherent
      have named {old : ObserverId} {o : Observer κ} (former : s.entry? cluster = some old)
          (known : s.observers[old]? = some o) : o.cluster = cluster := by
        obtain ⟨o', known', named⟩ := coherent.entered cluster old former
        cases known.symm.trans known'
        exact named
      refine ⟨id, ⟨provides, fun old o former known serves => ?_,
        fun old o former known _ => ?_⟩, Use.gives_of_corresponds corresponds place⟩
      · exact (agrees.serving?_eq_none serving former known (named former known) serves).elim
      · exact renews old former (State.mem_created_iff.mpr ⟨o, known, named former known⟩)

end Observes

end ClusterWatch.Observation.Registry
