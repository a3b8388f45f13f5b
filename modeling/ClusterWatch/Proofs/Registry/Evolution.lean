import ClusterWatch.Proofs.Registry.Step

/-!
# Observers in the course of time

An observer keeps its number, its cluster, its client and its settings.  Once it is
cancelled, its task has finished or its task has been joined, it stays so.
-/

namespace ClusterWatch.Observation

variable {κ : Type}

/-- What an observer may turn into. -/
structure Observer.Continues (before after : Observer κ) : Prop where
  cluster : after.cluster = before.cluster
  client : after.client = before.client
  settings : after.settings = before.settings
  cancelled : before.cancelled = true → after.cancelled = true
  finished : before.task.isFinished = true → after.task.isFinished = true
  joined : before.joined = true → after.joined = true

namespace Observer

theorem Continues.refl (o : Observer κ) : o.Continues o :=
  ⟨rfl, rfl, rfl, id, id, id⟩

theorem Continues.trans {a b c : Observer κ} (first : a.Continues b) (second : b.Continues c) :
    a.Continues c where
  cluster := second.cluster.trans first.cluster
  client := second.client.trans first.client
  settings := second.settings.trans first.settings
  cancelled := second.cancelled ∘ first.cancelled
  finished := second.finished ∘ first.finished
  joined := second.joined ∘ first.joined

theorem continues_cancel (o : Observer κ) : o.Continues o.cancel :=
  ⟨rfl, rfl, rfl, fun _ => rfl, id, id⟩

theorem continues_enqueue (call : CallId) (o : Observer κ) : o.Continues (o.enqueue call) :=
  ⟨rfl, rfl, rfl, id, id, id⟩

theorem continues_release (o : Observer κ) : o.Continues o.release :=
  ⟨rfl, rfl, rfl, id, id, fun _ => rfl⟩

theorem continues_run (clock : Clock) (now : Nat) (service : Service) (o : Observer κ) :
    o.Continues (o.run clock now service).1 := by
  refine ⟨rfl, rfl, rfl, id, fun finished => ?_, id⟩
  obtain ⟨cluster, client, settings, cancelled, task, last, joined, queue⟩ := o
  cases task with
  | finished => rfl
  | _ => cases finished

/-- A cancelled task ends in its next run. -/
theorem isFinished_run_of_cancelled {o : Observer κ} (cancelled : o.cancelled = true)
    (clock : Clock) (now : Nat) (service : Service) :
    (o.run clock now service).1.task.isFinished = true := by
  unfold run Task.run
  rw [cancelled]
  cases o.task <;> rfl

end Observer

namespace Registry

/-- What a list of observers may turn into: each stays under its number, and there may
be more. -/
def Evolves (before after : List (Observer κ)) : Prop :=
  ∀ (id : ObserverId) (o : Observer κ), before[id]? = some o →
    ∃ o', after[id]? = some o' ∧ o.Continues o'

theorem Evolves.refl (observers : List (Observer κ)) : Evolves observers observers :=
  fun _ o known => ⟨o, known, .refl o⟩

theorem Evolves.trans {a b c : List (Observer κ)} (first : Evolves a b) (second : Evolves b c) :
    Evolves a c := by
  intro id o known
  obtain ⟨o', known', continues⟩ := first id o known
  obtain ⟨o'', known'', further⟩ := second id o' known'
  exact ⟨o'', known'', continues.trans further⟩

theorem evolves_modify {change : Observer κ → Observer κ}
    (continues : ∀ o : Observer κ, o.Continues (change o)) (observers : List (Observer κ))
    (id : ObserverId) : Evolves observers (observers.modify id change) := by
  intro other o known
  rw [getElem?_modify_eq_ite, known]
  split
  · exact ⟨change o, rfl, continues o⟩
  · exact ⟨o, rfl, .refl o⟩

theorem evolves_set {observers : List (Observer κ)} {id : ObserverId} {o o' : Observer κ}
    (known : observers[id]? = some o) (continues : o.Continues o') :
    Evolves observers (observers.set id o') := by
  intro other x found
  by_cases same : id = other
  · subst same
    obtain rfl : o = x := Option.some.inj (known.symm.trans found)
    exact ⟨o', List.getElem?_set_self (List.getElem?_eq_some_iff.mp known).1, continues⟩
  · exact ⟨x, (List.getElem?_set_ne same).trans found, .refl x⟩

theorem evolves_append (observers more : List (Observer κ)) :
    Evolves observers (observers ++ more) := by
  intro id o known
  have within : id < observers.length := (List.getElem?_eq_some_iff.mp known).1
  exact ⟨o, (List.getElem?_append_left within).trans known, .refl o⟩

variable [Elasticsearch.HasConnection κ]

theorem Move.evolves {s r : State κ} {call : CallId} {p q : Point κ} (move : Move s call p q r) :
    Evolves s.observers r.observers := by
  cases move with
  | cancel => exact evolves_modify Observer.continues_cancel _ _
  | enqueue => exact evolves_modify (Observer.continues_enqueue call) _ _
  | pass => exact evolves_modify Observer.continues_release _ _
  | join => exact evolves_modify Observer.continues_release _ _
  | spawn => exact evolves_append _ _
  | supersede => exact evolves_modify Observer.continues_cancel _ _
  | _ => exact .refl _

theorem Step.evolves {s t : State κ} {label : Label κ} (step : Step s label t) :
    Evolves s.observers t.observers := by
  cases step with
  | begin => exact .refl _
  | call _ _ move => exact move.evolves
  | task known => exact evolves_set known (Observer.continues_run _ _ _ _)
  | advance => exact .refl _
  | spawn => exact evolves_append _ _
  | signal => exact evolves_modify Observer.continues_cancel _ _

/-- No run forgets an observer, nor that it has been stopped. -/
theorem Run.evolves {s t : State κ} {labels : List (Label κ)}
    {events : List (ObserverId × Event)} (run : Run s labels t events) :
    Evolves s.observers t.observers := by
  refine run.induction (P := fun t => Evolves s.observers t.observers) (.refl _) ?_
  intro t u label _ evolves step
  exact evolves.trans step.evolves

end Registry

end ClusterWatch.Observation
