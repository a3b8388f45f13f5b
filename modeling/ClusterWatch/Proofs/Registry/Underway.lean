import ClusterWatch.Proofs.Registry.Frame

/-!
# How far an operation has come

A call that works on a cluster alone has a goal: the slot that the reference has after the
operation, and the answer that it gives.  At each of its points enough is known of the
cluster for the rest of the call to reach that goal.
-/

namespace ClusterWatch.Observation.Registry

open Elasticsearch (HasConnection Interchangeable)
open Kubernetes (Identity)

variable {κ : Type}

/-- What is left to do to a slot, and to give back, once no observer is registered. -/
def Next.complete (slot : Slot κ) : Next κ → Slot κ × Answer
  | .create _ client use => (slot.enter client, use.answer slot.length)
  | .stop _ => (slot, .done)

/-- A call that is about to be over with nothing to give back, or to stop observers of
other clusters first. -/
def Point.IsStopping : Point κ → Prop
  | .find _ (.stop _) => True
  | .halt _ _ (some (_, .stop _)) => True
  | .remove _ _ (.stop _) => True
  | .finished .done => True
  | _ => False

/-- A call is over and has given back what it ought to, or it will give back nothing, as
it ought to. -/
inductive Point.Answers (ids : List ObserverId) (seen : ObserverId → Observation → Prop) :
    Answer → Point κ → Prop where
  | finished {answer : Answer} {outcome : Outcome} :
      Corresponds ids seen answer outcome → Answers ids seen answer (.finished outcome)
  | stopping {p : Point κ} : p.IsStopping → Answers ids seen .done p

/-- A new observer has been created, and will be the registered one. -/
def IsNew (s : State κ) (id : ObserverId) (client : κ) : Prop :=
  ∃ o, s.observers[id]? = some o ∧ o.client = client ∧ o.settings = s.settings ∧
    o.cancelled = false

variable [HasConnection κ]

/-- `Underway s cluster goal p`: a call that stands at `p` leads the cluster to the goal. -/
inductive Underway (s : State κ) (cluster : Identity) : Slot κ × Answer → Point κ → Prop where
  | lookup {slot : Slot κ} {client : κ} {use : Use} :
      Matches s cluster slot →
        Underway s cluster (slot.apply (.observe client use)) (.lookup cluster client use)
  | find {slot : Slot κ} {next : Next κ} :
      Matches s cluster slot →
        Underway s cluster (next.complete (slot.retire .ended)) (.find cluster next)
  | halt {slot : Slot κ} {stage : Stage} {id : ObserverId} {next : Next κ} :
      s.entry? cluster = some id →
        Rows s cluster (fun other _ => other = id) (s.created cluster) slot →
        Underway s cluster (next.complete (slot.retire .ended))
          (.halt stage id (some (cluster, next)))
  | remove {slot : Slot κ} {id : ObserverId} {next : Next κ} :
      s.entry? cluster = some id →
        Rows s cluster (fun other _ => other = id) (s.created cluster) slot →
        Underway s cluster (next.complete (slot.retire .ended)) (.remove cluster id next)
  | spawn {slot : Slot κ} {client : κ} {use : Use} :
      Matches s cluster slot →
        Underway s cluster (slot.enter client, use.answer slot.length)
          (.spawn cluster client use)
  | insert {slot : Slot κ} {ids : List ObserverId} {id : ObserverId} {client : κ} {use : Use} :
      s.created cluster = ids ++ [id] → Rows s cluster (s.IsCurrent cluster) ids slot →
        IsNew s id client →
        Underway s cluster (slot.enter client, use.answer slot.length) (.insert cluster id use)
  | displace {slot : Slot κ} {ids : List ObserverId} {id old : ObserverId} {client : κ}
      {use : Use} :
      s.created cluster = ids ++ [id] → Rows s cluster (fun other _ => other = old) ids slot →
        s.entry? cluster = some id → IsNew s id client →
        Underway s cluster (slot.enter client, use.answer slot.length) (.displace id old use)
  | read {slot : Slot κ} {id : ObserverId} {n : Nat} :
      Matches s cluster slot → (s.created cluster)[n]? = some id →
        Underway s cluster (slot, .observation n) (.read id)
  | get {slot : Slot κ} :
      Matches s cluster slot →
        Underway s cluster (slot, .entry slot.current?) (.get cluster)

theorem Underway.cluster? {s : State κ} {cluster : Identity} {goal : Slot κ × Answer}
    {p : Point κ} (underway : Underway s cluster goal p) :
    p.cluster? s.observers = some cluster := by
  have named {id : ObserverId} (mem : id ∈ s.created cluster) :
      s.observers[id]?.map Observer.cluster = some cluster := by
    obtain ⟨o, known, named⟩ := State.mem_created_iff.mp mem
    exact map_cluster_eq_some known named
  cases underway with
  | displace created => exact named (by simp [created])
  | read _ place => exact named (List.mem_of_getElem? place)
  | _ => rfl

/-- What a call on other clusters does changes nothing about the operation. -/
theorem Underway.undisturbed {s t : State κ} {cluster : Identity} {goal : Slot κ × Answer}
    {p : Point κ} (underway : Underway s cluster goal p)
    (undisturbed : Undisturbed s t cluster) : Underway t cluster goal p := by
  have isNew {id : ObserverId} {client : κ} (mem : id ∈ s.created cluster)
      (new : IsNew s id client) : IsNew t id client := by
    obtain ⟨o, known, named, bound, live⟩ := new
    obtain ⟨o', known', continues⟩ := undisturbed.evolves id o known
    have same := undisturbed.live id mem
    rw [State.cancelled?, State.cancelled?, known, known'] at same
    refine ⟨o', known', continues.client.trans named, ?_, (Option.some.inj same).trans live⟩
    rw [continues.settings, bound, undisturbed.settings]
  cases underway with
  | lookup agrees => exact .lookup (undisturbed.matches agrees)
  | find agrees => exact .find (undisturbed.matches agrees)
  | halt entered rows =>
      refine .halt (undisturbed.entry.trans entered) ?_
      rw [undisturbed.created]
      exact undisturbed.rows rows fun _ _ _ _ _ _ _ same => same
  | remove entered rows =>
      refine .remove (undisturbed.entry.trans entered) ?_
      rw [undisturbed.created]
      exact undisturbed.rows rows fun _ _ _ _ _ _ _ same => same
  | spawn agrees => exact .spawn (undisturbed.matches agrees)
  | @insert slot ids id client use created rows new =>
      have mem : id ∈ s.created cluster := by simp [created]
      refine .insert (undisturbed.created.trans created) ?_ (isNew mem new)
      refine undisturbed.rows rows fun other within _ _ known known' _ => ?_
      exact undisturbed.isCurrent (created ▸ List.mem_append_left _ within) known known'
  | @displace slot ids id old client use created rows entered new =>
      have mem : id ∈ s.created cluster := by simp [created]
      refine .displace (undisturbed.created.trans created) ?_
        (undisturbed.entry.trans entered) (isNew mem new)
      exact undisturbed.rows rows fun _ _ _ _ _ _ _ same => same
  | read agrees place =>
      exact .read (undisturbed.matches agrees) (undisturbed.created ▸ place)
  | get agrees => exact .get (undisturbed.matches agrees)

/-- A call that has reached its goal is over, or goes on with other clusters. -/
structure Reached (s : State κ) (cluster : Identity)
    (seen : ObserverId → Observation → Prop) (goal : Slot κ × Answer) (p : Point κ) : Prop where
  agrees : Matches s cluster goal.1
  elsewhere : p.cluster? s.observers ≠ some cluster
  answers : p.Answers (s.created cluster) seen goal.2

/-! ## What becomes of the observers of the cluster -/

section Rows

variable {s : State κ} {cluster : Identity} {slot : Slot κ} {ids : List ObserverId}
  {id old : ObserverId} {client : κ}

omit [HasConnection κ]

/-- Without a registered observer there is nothing to retire. -/
theorem Matches.retire_of_absent (agrees : Matches s cluster slot)
    (absent : s.entry? cluster = none) (ending : Standing) :
    Matches s cluster (slot.retire ending) := by
  refine Rows.retire agrees rfl (.refl _) (fun _ _ former => former) ?_
  intro id _ o o' _ _ _ current
  rw [State.IsCurrent, absent] at current
  cases current.1

/-- The registered observer, once its task has ended, is removed. -/
theorem Rows.leave {o : Observer κ}
    (rows : Rows s cluster (fun other _ => other = id) (s.created cluster) slot)
    (known : s.observers[id]? = some o) (cancelled : o.cancelled = true)
    (finished : o.task.isFinished = true) :
    Matches (s.leave cluster) cluster (slot.retire .ended) := by
  have former (other : ObserverId) : State.entry? (s.leave cluster) cluster ≠ some other := by
    rw [State.entry_leave, if_pos rfl]
    nofun
  refine Rows.retire rows rfl (.refl _) (fun other _ _ => former other) ?_
  rintro other _ x x' - found' - rfl
  obtain rfl : o = x' := Option.some.inj (known.symm.trans found')
  exact ⟨former other, cancelled, finished⟩

/-- An observer is created, and does not change what there is. -/
theorem Matches.add (agrees : Matches s cluster slot) (observer : Observer κ) :
    Rows (s.add observer) cluster ((s.add observer).IsCurrent cluster) (s.created cluster)
      slot := by
  refine Rows.mono agrees rfl (evolves_append _ _) (fun _ _ former => former) ?_
  intro other _ o o' known known' _ current
  have within : other < s.observers.length := (List.getElem?_eq_some_iff.mp known).1
  rw [State.observers_add, List.getElem?_append_left within, known] at known'
  cases known'
  exact current

/-- The registered observer, if there was one, has become a former one, and the new one is
registered. -/
theorem Rows.enter (rows : Rows s cluster (s.IsCurrent cluster) ids (slot.retire .signalled))
    (created : s.created cluster = ids ++ [id]) (new : IsNew s id client)
    (entered : s.entry? cluster = some id) : Matches s cluster (slot.enter client) := by
  obtain ⟨o, known, named, bound, live⟩ := new
  rw [Matches, created]
  exact List.rel_append rows (.cons ⟨o, known, named, bound, entered, live⟩ .nil)

/-- The new observer comes after those that have rows already. -/
theorem Rows.getElem?_created {current : ObserverId → Observer κ → Prop}
    (rows : Rows s cluster current ids slot) (created : s.created cluster = ids ++ [id]) :
    (s.created cluster)[slot.length]? = some id := by
  rw [created, ← rows.length_eq]
  exact List.getElem?_concat_length

theorem ne_of_mem_created (created : s.created cluster = ids ++ [id]) {other : ObserverId}
    (mem : other ∈ ids) : other ≠ id := by
  have distinct := s.nodup_created cluster
  rw [created] at distinct
  exact (List.nodup_append.mp distinct).2.2 other mem id List.mem_cons_self

/-- The entry of the cluster is another one than any of its older observers. -/
theorem entry_enter_ne (created : s.created cluster = ids ++ [id]) {other : ObserverId}
    (mem : other ∈ ids) : State.entry? (s.enter cluster id) cluster ≠ some other := by
  rw [State.entry_enter, if_pos rfl]
  intro same
  exact ne_of_mem_created created mem (Option.some.inj same).symm

/-- The first observer of a cluster that has none is entered. -/
theorem Rows.insert (rows : Rows s cluster (s.IsCurrent cluster) ids slot)
    (created : s.created cluster = ids ++ [id]) (new : IsNew s id client)
    (absent : s.entry? cluster = none) :
    Matches (s.enter cluster id) cluster (slot.enter client) := by
  refine Rows.enter (Rows.retire rows rfl (.refl _) ?_ ?_) created new ?_
  · exact fun other mem _ => entry_enter_ne created mem
  · intro other _ _ _ _ _ _ current
    rw [State.IsCurrent, absent] at current
    cases current.1
  · rw [State.entry_enter, if_pos rfl]

/-- An observer is entered in the place of another. -/
theorem Rows.displace (rows : Rows s cluster (s.IsCurrent cluster) ids slot)
    (created : s.created cluster = ids ++ [id]) (entered : s.entry? cluster = some old) :
    Rows (s.enter cluster id) cluster (fun other _ => other = old) ids slot := by
  refine Rows.mono rows rfl (.refl _) (fun other mem _ => entry_enter_ne created mem) ?_
  intro other _ _ _ _ _ _ current
  exact Option.some.inj (current.1.symm.trans entered)

/-- The observer that has been displaced is cancelled. -/
theorem Rows.supersede (rows : Rows s cluster (fun other _ => other = old) ids slot)
    (created : s.created cluster = ids ++ [id]) (entered : s.entry? cluster = some id)
    (new : IsNew s id client) (differs : id ≠ old) :
    Matches (s.update old Observer.cancel) cluster (slot.enter client) := by
  have evolves : Evolves s.observers (s.update old Observer.cancel).observers :=
    evolves_modify Observer.continues_cancel _ _
  refine Rows.enter (Rows.retire rows rfl evolves (fun _ _ former => former) ?_)
    ((State.created_update Observer.continues_cancel ..).trans created) ?_ entered
  · rintro other mem o o' known known' - rfl
    rw [State.observers_update, getElem?_modify_self known] at known'
    cases known'
    refine ⟨?_, rfl⟩
    rw [State.entry_update, entered]
    intro same
    exact ne_of_mem_created created mem (Option.some.inj same).symm
  · obtain ⟨o, known, named, bound, live⟩ := new
    refine ⟨o, ?_, named, bound, live⟩
    rw [State.observers_update, getElem?_modify_eq_ite, if_neg differs, known]

end Rows

/-! ## Points at which operations go on -/

section Goal

variable {s : State κ} {cluster : Identity} {slot : Slot κ}
  (seen : ObserverId → Observation → Prop)

/-- Once no observer is registered, what is left to do leads to the goal. -/
theorem Next.Fits.reaches {next : Next κ} (fits : next.Fits cluster)
    (agrees : Matches s cluster slot) :
    Underway s cluster (next.complete slot) next.point ∨
      Reached s cluster seen (next.complete slot) next.point := by
  rcases next with ⟨other, client, use⟩ | ⟨_ | ⟨other, rest⟩⟩
  · obtain rfl : other = cluster := fits
    exact .inl (.spawn agrees)
  · exact .inr ⟨agrees, nofun, .stopping trivial⟩
  · refine .inr ⟨agrees, fun same => ?_, .stopping trivial⟩
    cases same
    exact (List.nodup_cons.mp fits).1 List.mem_cons_self

/-- Once a call has its observer, it gives it back or reads what it published. -/
theorem Use.reaches (use : Use) (agrees : Matches s cluster slot) {n : Nat} {id : ObserverId}
    (place : (s.created cluster)[n]? = some id) :
    Underway s cluster (slot, use.answer n) (use.point id) ∨
      Reached s cluster seen (slot, use.answer n) (use.point id) := by
  cases use with
  | give => exact .inr ⟨agrees, nofun, .finished place⟩
  | read => exact .inl (.read agrees place)

end Goal

section Move

variable {s r : State κ} {call : CallId} {p q : Point κ} {cluster : Identity} {slot : Slot κ}

theorem Matches.serving?_eq_some (agrees : Matches s cluster slot) {client : κ} {n : Nat}
    (serving : slot.serving? client = some n) :
    ∃ id o, (s.created cluster)[n]? = some id ∧ s.entry? cluster = some id ∧
      s.observers[id]? = some o ∧ Interchangeable o.client client := by
  obtain ⟨within, is, -⟩ := List.findIdx?_eq_some_iff_getElem.mp serving
  obtain ⟨standing, serves⟩ := of_decide_eq_true is
  obtain ⟨id, o, place, entered, known, same⟩ :=
    agrees.registered (List.getElem?_eq_getElem within) standing
  exact ⟨id, o, place, entered, known, same ▸ serves⟩

theorem Matches.serving?_eq_none (agrees : Matches s cluster slot) {client : κ}
    (serving : slot.serving? client = none) {id : ObserverId} {o : Observer κ}
    (entered : s.entry? cluster = some id) (known : s.observers[id]? = some o)
    (named : o.cluster = cluster) : ¬Interchangeable o.client client := by
  obtain ⟨row, mem, standing, same⟩ := agrees.exists_registered entered known named
  intro serves
  have not := of_decide_eq_false (List.findIdx?_eq_none_iff.mp serving row mem)
  exact not ⟨standing, same ▸ serves⟩

omit [HasConnection κ] in
/-- The reference has the same entry. -/
theorem Matches.rel_current? (agrees : Matches s cluster slot) (coherent : Coherent s) :
    Option.Rel (fun n id => (s.created cluster)[n]? = some id) slot.current?
      (s.entry? cluster) := by
  cases current : slot.current? with
  | some n =>
      obtain ⟨within, is, -⟩ := List.findIdx?_eq_some_iff_getElem.mp current
      obtain ⟨id, o, place, entered, -⟩ :=
        agrees.registered (List.getElem?_eq_getElem within) (of_decide_eq_true is)
      rw [entered]
      exact .some place
  | none =>
      cases entered : s.entry? cluster with
      | none => exact .none
      | some id =>
          obtain ⟨o, known, named⟩ := coherent.entered cluster id entered
          obtain ⟨row, mem, standing, -⟩ := agrees.exists_registered entered known named
          have not := of_decide_eq_false (List.findIdx?_eq_none_iff.mp current row mem)
          exact (not standing).elim

/-- A call whose cluster has no observer goes on to create one. -/
theorem Matches.apply_observe_of_absent (agrees : Matches s cluster slot)
    (absent : s.entry? cluster = none) (client : κ) (use : Use) :
    slot.apply (.observe client use) =
      ((slot.retire .ended).enter client, use.answer (slot.retire .ended).length) := by
  rw [Slot.apply, Slot.length_retire]
  cases serving : slot.serving? client with
  | none => rfl
  | some n =>
      obtain ⟨id, o, -, entered, -⟩ := agrees.serving?_eq_some serving
      rw [absent] at entered
      cases entered

/-- A call whose cluster has an observer with a client that serves gets that observer. -/
theorem Matches.apply_observe_of_serves (agrees : Matches s cluster slot)
    (coherent : Coherent s) {id : ObserverId} {o : Observer κ} {client : κ}
    (entered : s.entry? cluster = some id) (known : s.observers[id]? = some o)
    (serves : Interchangeable o.client client) (use : Use) :
    ∃ n, (s.created cluster)[n]? = some id ∧
      slot.apply (.observe client use) = (slot, use.answer n) := by
  rw [Slot.apply]
  cases serving : slot.serving? client with
  | some n =>
      obtain ⟨id', -, place, entered', -⟩ := agrees.serving?_eq_some serving
      obtain rfl : id = id' := Option.some.inj (entered.symm.trans entered')
      exact ⟨n, place, rfl⟩
  | none =>
      obtain ⟨o', known', named⟩ := coherent.entered _ _ entered
      obtain rfl : o = o' := Option.some.inj (known.symm.trans known')
      exact (agrees.serving?_eq_none serving entered known named serves).elim

/-- A call whose cluster has an observer with another client goes on to replace it. -/
theorem Matches.apply_observe_of_differs (agrees : Matches s cluster slot) {id : ObserverId}
    {o : Observer κ} {client : κ} (entered : s.entry? cluster = some id)
    (known : s.observers[id]? = some o) (differs : ¬Interchangeable o.client client) (use : Use) :
    slot.apply (.observe client use) =
      ((slot.retire .ended).enter client, use.answer (slot.retire .ended).length) := by
  rw [Slot.apply, Slot.length_retire]
  cases serving : slot.serving? client with
  | none => rfl
  | some n =>
      obtain ⟨id', o', -, entered', known', serves⟩ := agrees.serving?_eq_some serving
      obtain rfl : id = id' := Option.some.inj (entered.symm.trans entered')
      obtain rfl : o = o' := Option.some.inj (known.symm.trans known')
      exact (differs serves).elim

omit [HasConnection κ] in
/-- A change of the observer that is being stopped leaves the rows as they are. -/
theorem Rows.update {id : ObserverId} {change : Observer κ → Observer κ}
    (rows : Rows s cluster (fun other _ => other = id) (s.created cluster) slot)
    (continues : ∀ o : Observer κ, o.Continues (change o)) :
    Rows (s.update id change) cluster (fun other _ => other = id)
      ((s.update id change).created cluster) slot := by
  have evolves : Evolves s.observers (s.update id change).observers :=
    evolves_modify continues _ _
  rw [State.created_update continues]
  exact rows.mono rfl evolves (fun _ _ former => former) fun _ _ _ _ _ _ _ same => same

/-- An operation that goes on is still under way to its goal, or has reached it. -/
theorem Underway.move {goal : Slot κ × Answer} (underway : Underway s cluster goal p)
    (coherent : Coherent s) (guarded : Guarded s) (stands : s.calls[call]? = some p)
    (move : Move s call p q r) {seen : ObserverId → Observation → Prop}
    (reads : ∀ id o, p = .read id → s.observers[id]? = some o → seen id o.last) :
    Underway r cluster goal q ∨ Reached r cluster seen goal q := by
  have fits := coherent.fits call p stands
  cases move with
  | unobserved absent =>
      cases underway with
      | lookup agrees =>
          rw [agrees.apply_observe_of_absent absent]
          exact .inl (.spawn (agrees.retire_of_absent absent .ended))
  | @reuse _ client use id observer entered known serves =>
      cases underway with
      | lookup agrees =>
          obtain ⟨n, place, same⟩ :=
            agrees.apply_observe_of_serves coherent entered known serves use
          rw [same]
          exact use.reaches seen agrees place
  | @replace _ client use id observer entered known differs =>
      cases underway with
      | @lookup slot _ _ agrees =>
          rw [agrees.apply_observe_of_differs entered known differs]
          exact .inl (@Underway.find _ _ s _ slot (.create _ client use) agrees)
  | absent absent =>
      cases underway with
      | find agrees => exact fits.reaches seen (agrees.retire_of_absent absent .ended)
  | found entered =>
      cases underway with
      | find agrees =>
          refine .inl (.halt entered (agrees.mono rfl (.refl _) (fun _ _ former => former) ?_))
          intro other _ _ _ _ _ _ current
          exact Option.some.inj (current.1.symm.trans entered)
  | cancel =>
      cases underway with
      | halt entered rows => exact .inl (.halt entered (rows.update Observer.continues_cancel))
  | enqueue =>
      cases underway with
      | halt entered rows =>
          exact .inl (.halt entered (rows.update (Observer.continues_enqueue call)))
  | acquire =>
      cases underway with
      | halt entered rows => exact .inl (.halt entered rows)
  | pass | join =>
      cases underway with
      | halt entered rows =>
          exact .inl (.remove entered (rows.update Observer.continues_release))
  | remove =>
      cases underway with
      | remove entered rows =>
          obtain ⟨fits, o, known, -, cancelled, finished⟩ := fits
          exact fits.reaches seen (rows.leave known cancelled finished)
  | keep other =>
      cases underway with
      | remove entered rows => exact (other entered).elim
  | spawn =>
      cases underway with
      | spawn agrees =>
          refine .inl (.insert ?_ (agrees.add _) ⟨_, List.getElem?_concat_length, rfl, rfl, rfl⟩)
          rw [State.created_add, if_pos rfl]
  | @insert _ id use absent =>
      cases underway with
      | insert created rows new =>
          have agrees := rows.insert created new absent
          exact use.reaches seen agrees (rows.getElem?_created created)
  | displace entered =>
      cases underway with
      | insert created rows new =>
          refine .inl (.displace created (rows.displace created entered) ?_ new)
          rw [State.entry_enter, if_pos rfl]
  | @supersede id old use =>
      cases underway with
      | @displace _ ids _ _ client _ created rows entered new =>
          have differs : id ≠ old := by
            rintro rfl
            exact guarded.displaced call id id use stands ⟨cluster, entered⟩
          have agrees := rows.supersede created entered new differs
          refine use.reaches seen agrees ?_
          rw [State.created_update Observer.continues_cancel]
          exact rows.getElem?_created created
  | read known =>
      cases underway with
      | read agrees place =>
          exact .inr ⟨agrees, nofun, .finished ⟨_, place, reads _ _ rfl known⟩⟩
  | get =>
      cases underway with
      | get agrees => exact .inr ⟨agrees, nofun, .finished (agrees.rel_current? coherent)⟩
  | list => cases underway

end Move

end ClusterWatch.Observation.Registry
