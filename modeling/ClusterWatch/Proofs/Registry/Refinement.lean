import ClusterWatch.Elasticsearch.InMemory
import ClusterWatch.Proofs.Registry.Progress
import ClusterWatch.Proofs.Registry.Simulation

/-!
# Calls that do not overlap on a cluster

In a run in which no two calls work on one cluster at a time, each cluster behaves as the
reference does by its own operations alone, whatever goes on with other clusters.
-/

namespace ClusterWatch.Observation.Registry

open Elasticsearch (HasConnection)
open Kubernetes (Identity)

variable {κ : Type} [HasConnection κ]

/-- On the way from `s`, a run by the labels gets to `u`, with the rest to follow. -/
def Passes (s : State κ) (labels : List (Label κ)) (u : State κ) (rest : List (Label κ)) : Prop :=
  ∃ past events, labels = past ++ rest ∧ Run s past u events

/-- In a run by the labels, a call reads the value that an observer has published last. -/
def HasRead (s : State κ) (labels : List (Label κ)) (call : CallId) (id : ObserverId)
    (value : Observation) : Prop :=
  ∃ u rest o, Passes s labels u (.call call :: rest) ∧ u.calls[call]? = some (.read id) ∧
    u.observers[id]? = some o ∧ o.last = value

/-- What begins in a run begins in its last step or before. -/
theorem State.history_concat {s u v : State κ} {labels : List (Label κ)} {label : Label κ}
    {events during : List (ObserverId × Event)} (run : Run s labels u events)
    (goes : u.step label = some (v, during)) (cluster : Identity) :
    s.history cluster (labels ++ [label]) =
      s.history cluster labels ++ (u.opened? v cluster label).toList := by
  induction run with
  | nil s => simp [State.history, goes]
  | cons first run ih =>
      rw [List.cons_append, State.history, State.history]
      simp only [first, ih goes, List.append_assoc]

theorem Sound.run {s t : State κ} {labels : List (Label κ)} {events : List (ObserverId × Event)}
    (run : Run s labels t events) (sound : Sound s) (own : ∀ label ∈ labels, label.IsOwn) :
    Sound t :=
  run.induction sound fun _ _ label mem sound step => sound.step (own label mem) step

/-- While calls on a cluster do not overlap, the reference keeps up with it in the whole
run. -/
theorem Run.simulates {s t : State κ} {labels : List (Label κ)}
    {events : List (ObserverId × Event)} (run : Run s labels t events) (fresh : s.IsFresh)
    (own : ∀ label ∈ labels, label.IsOwn)
    (exclusive : ∀ u rest, Passes s labels u rest → u.IsExclusive) (cluster : Identity) :
    Simulates t cluster (HasRead s labels) (s.history cluster labels) := by
  have first : Simulates s cluster (HasRead s labels) (s.history cluster []) := by
    refine .idle ?_ ?_ ?_
    · simp [Matches, State.created, fresh.observers, State.history, Slot.after]
    · simp [State.busy?, fresh.calls]
    · simp [Answered, State.history]
  refine (run.induction_prefix (P := fun past u => Sound u ∧
    Simulates u cluster (HasRead s labels) (s.history cluster past)) ⟨fresh.sound, first⟩ ?_).2
  rintro past label later u v before during split run goes ⟨sound, simulates⟩
  have step := step_of_eq_some goes
  have isOwn : label.IsOwn := own label (split ▸ by simp)
  have passes : Passes s labels v later :=
    ⟨past ++ [label], _, by simp [split], run.append (.cons goes (.nil v))⟩
  refine ⟨sound.step isOwn step, ?_⟩
  rw [State.history_concat run goes]
  refine simulates.step sound.coherent sound.guarded isOwn step (exclusive v later passes) ?_
  intro call id o moves stands known
  have here : Passes s labels u (label :: later) := ⟨past, before, split, run⟩
  cases label with
  | call other =>
      cases moves
      exact ⟨u, later, o, here, stands, known, rfl⟩
  | enumerate other order =>
      cases moves
      simp [State.step, stands] at goes
  | _ => cases moves

/-! ## Lists -/

/-- A call that has come to give back a list has just read it. -/
theorem Move.of_clusters {s r : State κ} {call : CallId} {p : Point κ} {names : List Identity}
    (move : Move s call p (.finished (.clusters names)) r) : p = .enumerate false := by
  generalize eq : (Point.finished (.clusters names) : Point κ) = q at move
  cases move with
  | @reuse _ _ use | @insert _ _ use | @supersede _ _ use => cases use <;> cases eq
  | @absent _ next | @remove _ _ next | @keep _ _ next =>
      rcases next with ⟨_, _, _⟩ | ⟨_ | ⟨_, _⟩⟩ <;> cases eq
  | @pass _ after | @join _ after => cases after <;> cases eq
  | @list stopping order =>
      cases stopping with
      | false => rfl
      | true => cases order <;> cases eq
  | _ => cases eq

/-- A call that gives back a list has got it earlier, or gets it from the entries now. -/
theorem State.clusters_of_step {s t : State κ} {label : Label κ}
    {events : List (ObserverId × Event)} (goes : s.step label = some (t, events))
    {call : CallId} {names : List Identity}
    (gives : t.calls[call]? = some (.finished (.clusters names))) :
    s.calls[call]? = some (.finished (.clusters names)) ∨
      label = .enumerate call names ∧ names.Perm s.clusters := by
  cases label with
  | begin request =>
      cases goes
      rcases getElem?_concat_cases gives with gave | ⟨-, starts⟩
      · exact .inl gave
      · cases request <;> cases starts
  | call id =>
      obtain ⟨p, stands, goes⟩ := Option.bind_eq_some_iff.mp goes
      obtain ⟨state, step, goes⟩ := Option.bind_eq_some_iff.mp goes
      obtain ⟨q, r, move, rfl⟩ := move_of_stepCall step
      cases goes
      rcases getElem?_set_cases gives with ⟨rfl, rfl⟩ | ⟨-, gave⟩
      · obtain rfl := move.of_clusters
        cases step
      · exact .inl (move.calls ▸ gave)
  | enumerate id order =>
      simp only [State.step] at goes
      split at goes
      · next stopping stands =>
          split at goes
          · next perm =>
              cases goes
              rcases getElem?_set_cases gives with ⟨rfl, here⟩ | ⟨-, gave⟩
              · cases stopping with
                | false =>
                    cases here
                    exact .inr ⟨rfl, List.isPerm_iff.mp perm⟩
                | true => cases order <;> cases here
              · exact .inl gave
          · cases goes
      · cases goes
  | task id environment =>
      obtain ⟨observer, -, goes⟩ := Option.bind_eq_some_iff.mp goes
      cases goes
      exact .inl gives
  | advance | spawn | signal =>
      cases goes
      exact .inl gives

/-- A list that a call gives back has each observed cluster once, and no other, at the
moment of its read. -/
theorem Run.clusters {s t : State κ} {labels : List (Label κ)}
    {events : List (ObserverId × Event)} (run : Run s labels t events) (fresh : s.IsFresh)
    {call : CallId} {names : List Identity}
    (gives : t.calls[call]? = some (.finished (.clusters names))) :
    ∃ u rest, Passes s labels u (.enumerate call names :: rest) ∧ names.Nodup ∧
      ∀ cluster, cluster ∈ names ↔ (u.entry? cluster).isSome := by
  revert gives
  refine run.induction_prefix (P := fun _ u =>
    u.calls[call]? = some (.finished (.clusters names)) → _) ?_ ?_
  · intro gives
    rw [fresh.calls] at gives
    cases gives
  · intro past label later u v before during split run goes earlier gives
    rcases State.clusters_of_step goes gives with gave | ⟨rfl, perm⟩
    · exact earlier gave
    · have distinct := (run.coherent fresh.coherent).distinct
      refine ⟨u, later, ⟨past, before, split, run⟩, perm.nodup_iff.mpr distinct, ?_⟩
      intro cluster
      rw [perm.mem_iff, State.mem_clusters_iff]

/-! ## The registry refines the reference -/

/-- In a run on a fresh registry in which calls on one cluster never overlap:

* a cluster on which no call works has exactly the observers that the reference has after
  the operations on that cluster alone, in their order; the registered one is live, and the
  others are cancelled, with their tasks ended where the reference says so,
* each operation whose call is over has given back what it gives in the reference,
* a list has each observed cluster once, and no other, at the moment of its read,
* a call that works on a cluster is over, or goes on to stop another observer, after no
  more than steps of its own and runs of tasks. -/
theorem matches_reference_of_run {s t : State κ} {labels : List (Label κ)}
    {events : List (ObserverId × Event)} (fresh : s.IsFresh)
    (own : ∀ label ∈ labels, label.IsOwn) (run : Run s labels t events)
    (exclusive : ∀ u rest, Passes s labels u rest → u.IsExclusive) :
    (∀ cluster, (∀ call, t.busy? call ≠ some cluster) →
      Matches t cluster (Slot.after (s.history cluster labels))) ∧
    (∀ cluster before call operation later outcome,
      s.history cluster labels = before ++ (call, operation) :: later →
      t.calls[call]? = some (.finished outcome) →
        Corresponds (t.created cluster) (HasRead s labels call)
          ((Slot.after before).apply operation).2 outcome) ∧
    (∀ call names, t.calls[call]? = some (.finished (.clusters names)) →
      ∃ u rest, Passes s labels u (.enumerate call names :: rest) ∧ names.Nodup ∧
        ∀ cluster, cluster ∈ names ↔ (u.entry? cluster).isSome) ∧
    (∀ call cluster environment, t.busy? call = some cluster →
      ∃ more u later,
        (∀ label ∈ more, label = .call call ∨ ∃ id, label = .task id environment) ∧
          Run t more u later ∧ u.HasLeft call cluster) := by
  have simulates := run.simulates fresh own exclusive
  have ends : Passes s labels t [] := ⟨labels, events, (List.append_nil labels).symm, run⟩
  refine ⟨fun cluster idle => ?_, ?_, fun call names => run.clusters fresh, ?_⟩
  · exact (simulates cluster).agrees_of_idle idle
  · intro cluster before call operation later outcome split ended
    exact (simulates cluster).corresponds split ended
  · intro call cluster environment works
    refine (Sound.run run fresh.sound own).exists_run_of_busy works ?_ environment
    exact fun other works' => exclusive t [] ends other call cluster works' works

/-! ## A run with two clusters -/

omit [HasConnection κ] in
/-- Calls do not overlap on a cluster if the clusters that they work on are distinct. -/
theorem State.isExclusive_of_nodup {s : State κ}
    (distinct : (s.calls.filterMap fun p => p.cluster? s.observers).Nodup) : s.IsExclusive := by
  intro call other cluster works works'
  obtain ⟨p, stands, here⟩ := State.busy?_eq_some_iff.mp works
  obtain ⟨p', stands', here'⟩ := State.busy?_eq_some_iff.mp works'
  obtain ⟨within, rfl⟩ := List.getElem?_eq_some_iff.mp stands
  obtain ⟨within', rfl⟩ := List.getElem?_eq_some_iff.mp stands'
  have apart := List.pairwise_iff_getElem.mp (List.pairwise_filterMap.mp distinct)
  rcases Nat.lt_trichotomy call other with less | same | more
  · exact (apart call other within within' less cluster here cluster here' rfl).elim
  · exact same
  · exact (apart other call within' within more cluster here' cluster here rfl).elim

/-- No state that a run by the labels goes through has two calls that work on one
cluster. -/
def State.staysExclusive : State κ → List (Label κ) → Bool
  | s, [] => (s.calls.filterMap fun p => p.cluster? s.observers).Nodup
  | s, label :: labels =>
      decide (s.calls.filterMap fun p => p.cluster? s.observers).Nodup &&
        (s.step label).all fun next => staysExclusive next.1 labels

theorem State.isExclusive_of_passes {s u : State κ} {labels rest : List (Label κ)}
    (stays : s.staysExclusive labels = true) (passes : Passes s labels u rest) :
    u.IsExclusive := by
  obtain ⟨past, events, rfl, run⟩ := passes
  induction run with
  | nil s =>
      cases rest with
      | nil => exact isExclusive_of_nodup (of_decide_eq_true stays)
      | cons => exact isExclusive_of_nodup (of_decide_eq_true (Bool.and_eq_true_iff.mp stays).1)
  | cons goes _ ih =>
      have later := (Bool.and_eq_true_iff.mp stays).2
      rw [goes] at later
      exact ih later

/-- The observer of a cluster is replaced, while that of another is created and entered. -/
theorem matches_reference_of_run_replacing :
    let old : Elasticsearch.InMemory.Client := ⟨0, "https://a:9200", none, []⟩
    let new : Elasticsearch.InMemory.Client := ⟨1, "https://b:9200", none, []⟩
    let first : Identity := ⟨"default", "a"⟩
    let second : Identity := ⟨"default", "b"⟩
    let labels : List (Label Elasticsearch.InMemory.Client) :=
      [.begin (.observe first old), .call 0, .call 0, .call 0, .begin (.observe first new),
        .call 1, .call 1, .begin (.observe second old), .call 1, .call 2, .call 1, .call 1,
        .call 2, .task 0 .unreachable, .call 1, .call 1, .call 2, .call 1, .call 1]
    ∃ t events, Run (.empty .default) labels t events ∧
      Matches t first [⟨old, .ended⟩, ⟨new, .registered⟩] ∧
        Matches t second [⟨old, .registered⟩] := by
  intro old new first second labels
  have follows : ((State.empty .default).follow? labels).any (fun last =>
      last.1.calls.all fun p => (p.cluster? last.1.observers).isNone) = true := by
    decide +kernel
  obtain ⟨⟨t, events⟩, goes, quiet⟩ := (Option.any_eq_true ..).mp follows
  have run : Run (.empty .default) labels t events := run_iff_follow?_eq_some.mpr goes
  have own : ∀ label ∈ labels, label.IsOwn := by
    simp [labels, Label.IsOwn]
  have stays : (State.empty .default).staysExclusive labels = true := by
    decide +kernel
  have idle (cluster : Identity) (call : CallId) : t.busy? call ≠ some cluster := by
    intro works
    obtain ⟨p, stands, here⟩ := State.busy?_eq_some_iff.mp works
    have none := List.all_eq_true.mp quiet p (List.mem_of_getElem? stands)
    rw [here] at none
    cases none
  have agrees := (matches_reference_of_run (State.isFresh_empty .default) own run fun u rest =>
    State.isExclusive_of_passes stays).1
  have reached : Slot.after (State.history first (.empty .default) labels) =
      [⟨old, .ended⟩, ⟨new, .registered⟩] := by
    decide +kernel
  have reached' : Slot.after (State.history second (.empty .default) labels) =
      [⟨old, .registered⟩] := by
    decide +kernel
  exact ⟨t, events, run, reached ▸ agrees first (idle first),
    reached' ▸ agrees second (idle second)⟩

end ClusterWatch.Observation.Registry
