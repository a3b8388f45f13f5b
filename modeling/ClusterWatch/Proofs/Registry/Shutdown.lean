import ClusterWatch.Proofs.Registry.Progress
import ClusterWatch.Proofs.Registry.Resolution
import ClusterWatch.Proofs.Registry.Teardown

/-!
# Shutdown

A call that stops all observers lists the clusters once, and then stops the observer of one
after another.  While no other call is under way nothing is entered, so the clusters that
still have an observer are among those that it has yet to see to; and an observer that it has
removed is over, for good.
-/

namespace ClusterWatch.Observation.Registry

open Elasticsearch (HasConnection)
open Kubernetes (Identity)

variable {κ : Type}

/-- `p.Closes s left`: a call at the point `p` has yet to stop the observers of the clusters in
`left`, and then it is over.  The one that it is on with is registered. -/
inductive Point.Closes (s : State κ) : List Identity → Point κ → Prop where
  | list : Closes s s.clusters (.enumerate true)
  | find {cluster : Identity} {rest : List Identity} :
      Closes s (cluster :: rest) (.find cluster (.stop rest))
  | halt {stage : Stage} {cluster : Identity} {id : ObserverId} {rest : List Identity} :
      s.entry? cluster = some id →
        Closes s (cluster :: rest) (.halt stage id (some (cluster, .stop rest)))
  | remove {cluster : Identity} {id : ObserverId} {rest : List Identity} :
      s.entry? cluster = some id → Closes s (cluster :: rest) (.remove cluster id (.stop rest))
  | finished {outcome : Outcome} : Closes s [] (.finished outcome)

theorem Next.closes_point (s : State κ) (left : List Identity) :
    (Next.stop left : Next κ).point.Closes s left := by
  cases left with
  | nil => exact .finished
  | cons cluster rest => exact .find

/-- The call sees to the clusters in `left`, and no other cluster has an observer. -/
structure State.Closes (s : State κ) (left : List Identity) (p : Point κ) : Prop where
  point : p.Closes s left
  within : ∀ cluster, (s.entry? cluster).isSome → cluster ∈ left

/-- What the call goes by is who is registered. -/
theorem State.Closes.frame {s t : State κ} {left : List Identity} {p : Point κ}
    (closes : s.Closes left p) (entries : t.entries = s.entries) : t.Closes left p := by
  have entry : t.entry? = s.entry? := by
    funext cluster
    rw [State.entry_eq_lookup, State.entry_eq_lookup, entries]
  have clusters : t.clusters = s.clusters := congrArg (List.map Prod.fst) entries
  obtain ⟨point, within⟩ := closes
  refine ⟨?_, entry ▸ within⟩
  cases point with
  | list => exact clusters ▸ .list
  | find => exact .find
  | halt entered => exact .halt (entry ▸ entered)
  | remove entered => exact .remove (entry ▸ entered)
  | finished => exact .finished

variable [HasConnection κ]

section Move

variable {s r : State κ} {call : CallId} {p q : Point κ} {left : List Identity}

/-- With each of its moves the call sees to a cluster, or has one less to see to. -/
theorem State.Closes.move (closes : s.Closes left p) (move : Move s call p q r) :
    ∃ rest, r.Closes rest q := by
  obtain ⟨point, within⟩ := closes
  cases point with
  | list =>
      cases move with
      | @list stopping order perm =>
          refine ⟨order, Next.closes_point s order, fun cluster entered => ?_⟩
          exact perm.mem_iff.mpr (within cluster entered)
  | @find cluster rest =>
      cases move with
      | absent absent =>
          refine ⟨rest, Next.closes_point s rest, fun other entered => ?_⟩
          rcases List.mem_cons.mp (within other entered) with rfl | mem
          · rw [absent] at entered
            cases entered
          · exact mem
      | found entered => exact ⟨cluster :: rest, .halt entered, within⟩
  | @halt stage cluster id rest entered =>
      cases move with
      | cancel | enqueue | acquire => exact ⟨cluster :: rest, .halt entered, within⟩
      | pass | join => exact ⟨cluster :: rest, .remove entered, within⟩
  | @remove cluster id rest entered =>
      cases move with
      | keep other => exact absurd entered other
      | remove =>
          refine ⟨rest, Next.closes_point _ rest, fun other there => ?_⟩
          rw [State.entry_leave] at there
          split at there
          · cases there
          · next differs =>
              exact (List.mem_cons.mp (within other there)).resolve_left differs
  | finished => cases move

/-- The call removes an observer once that is cancelled and its task has ended. -/
theorem State.Closes.entry_or_hasEnded (closes : s.Closes left p) (coherent : Coherent s)
    (fits : p.Fits s.observers) (move : Move s call p q r) {cluster : Identity}
    {id : ObserverId} (entered : s.entry? cluster = some id) :
    r.entry? cluster = some id ∨ r.HasEnded id := by
  rcases move.entry_or_unseats entered with kept | unseats
  · exact .inl kept
  · right
    cases unseats with
    | displace => cases closes.point
    | @remove next =>
        cases move with
        | keep other => exact absurd entered other
        | remove =>
            obtain ⟨-, o, known, rfl, cancelled, finished⟩ := fits
            constructor
            · exact ⟨o, known, cancelled, finished⟩
            · rintro ⟨other, there⟩
              rw [State.entry_leave] at there
              split at there
              · cases there
              · next differs =>
                  obtain ⟨o', known', named⟩ := coherent.entered other id there
                  cases known.symm.trans known'
                  exact differs named.symm

end Move

/-- A call that stops all observers has got from the state `s` to the state `t`, alone. -/
structure Closing (s : State κ) (call : CallId) (t : State κ) : Prop where
  alone : ∀ (other : CallId) (p : Point κ), t.calls[other]? = some p →
    other = call ∨ ∃ outcome, p = .finished outcome
  stands : ∃ p left, t.calls[call]? = some p ∧ t.Closes left p
  ended : ∀ (cluster : Identity) (id : ObserverId), s.entry? cluster = some id →
    t.entry? cluster = some id ∨ t.HasEnded id

section Step

variable {s t u : State κ} {call : CallId} {label : Label κ}

/-- What goes on besides changes neither the calls nor the entries. -/
theorem Closing.frame (closing : Closing s call t) (guarded : Guarded t)
    (step : Step t label u) (calls : u.calls = t.calls) (entries : u.entries = t.entries) :
    Closing s call u := by
  obtain ⟨alone, ⟨p, left, stands, closes⟩, ended⟩ := closing
  refine ⟨calls ▸ alone, ⟨p, left, calls ▸ stands, closes.frame entries⟩, ?_⟩
  intro cluster id entered
  rcases ended cluster id entered with there | final
  · left
    rw [State.entry_eq_lookup, entries]
    exact there
  · exact .inr (final.step guarded step)

theorem Closing.step (closing : Closing s call t) (coherent : Coherent t) (guarded : Guarded t)
    (ongoing : label.isOngoing = true) (step : Step t label u) : Closing s call u := by
  cases step with
  | begin | spawn | signal => cases ongoing
  | task known => exact closing.frame guarded (.task known) rfl rfl
  | advance => exact closing.frame guarded .advance rfl rfl
  | @call label other p q r moves stood move =>
      have next := Step.call moves stood move
      obtain ⟨alone, ⟨p', left, stands, closes⟩, ended⟩ := closing
      rcases alone other p stood with rfl | ⟨outcome, rfl⟩
      · cases stands.symm.trans stood
        obtain ⟨rest, closes'⟩ := closes.move move
        have here : (r.goto other q).calls[other]? = some q := by
          rw [move.calls_goto]
          exact List.getElem?_set_self (List.getElem?_eq_some_iff.mp stood).1
        refine ⟨fun another p'' stands'' => ?_, ⟨q, rest, here, closes'.frame rfl⟩, ?_⟩
        · rw [move.calls_goto] at stands''
          rcases getElem?_set_cases stands'' with ⟨same, -⟩ | ⟨-, stood''⟩
          · exact .inl same
          · exact alone another p'' stood''
        · intro cluster id entered
          rcases ended cluster id entered with there | final
          · have fits := coherent.fits other p stood
            rcases closes.entry_or_hasEnded coherent fits move there with kept | gone
            · exact .inl kept
            · exact .inr ⟨gone.stopped, gone.unregistered⟩
          · exact .inr (final.step guarded next)
      · cases move

omit [HasConnection κ] in
theorem Closing.begin (quiet : s.IsQuiet) :
    Closing s s.calls.length { s with calls := s.calls ++ [Request.stopAll.point] } where
  alone other p stands := by
    rcases getElem?_concat_cases stands with stood | ⟨rfl, -⟩
    · exact .inr (quiet other p stood)
    · exact .inl rfl
  stands := by
    refine ⟨.enumerate true, s.clusters, List.getElem?_concat_length, .list, ?_⟩
    exact fun _ entered => State.mem_clusters_iff.mpr entered
  ended _ _ entered := .inl entered

omit [HasConnection κ] in
/-- Once the call is over, no cluster is observed. -/
theorem Closing.entries_eq_nil (closing : Closing s call t) {outcome : Outcome}
    (final : t.calls[call]? = some (.finished outcome)) : t.entries = [] := by
  obtain ⟨p, left, stands, point, within⟩ := closing.stands
  cases stands.symm.trans final
  cases point
  have none (cluster : Identity) : cluster ∉ t.clusters := fun mem =>
    List.not_mem_nil (within cluster (State.mem_clusters_iff.mp mem))
  exact List.map_eq_nil_iff.mp (List.eq_nil_iff_forall_not_mem.mpr none)

omit [HasConnection κ] in
theorem Closing.isQuiet (closing : Closing s call t) {outcome : Outcome}
    (final : t.calls[call]? = some (.finished outcome)) : t.IsQuiet := by
  intro other p stands
  rcases closing.alone other p stands with rfl | finished
  · exact ⟨outcome, Option.some.inj (stands.symm.trans final)⟩
  · exact finished

end Step

/-- The call keeps on closing the registry while no other one begins. -/
theorem Run.closing {s t : State κ} {labels : List (Label κ)}
    {events : List (ObserverId × Event)} (run : Run s (.begin .stopAll :: labels) t events)
    (coherent : Coherent s) (guarded : Guarded s) (quiet : s.IsQuiet)
    (alone : ∀ label ∈ labels, label.isOngoing = true) :
    Coherent t ∧ Guarded t ∧ Closing s s.calls.length t := by
  cases run with
  | cons goes run =>
      cases goes
      have own : (Label.begin .stopAll : Label κ).IsOwn := trivial
      have begins : Step s (.begin .stopAll) _ := .begin
      refine run.induction (P := fun u => Coherent u ∧ Guarded u ∧ Closing s s.calls.length u)
        ⟨coherent.step begins, guarded.step coherent own begins, .begin quiet⟩ ?_
      intro u v label mem ⟨coherent, guarded, closing⟩ step
      have ongoing := alone label mem
      exact ⟨coherent.step step, guarded.step coherent (Label.isOwn_of_isOngoing ongoing) step,
        closing.step coherent guarded ongoing step⟩

/-! ## Observers whose tasks have ended -/

omit [HasConnection κ] in
theorem run_eq_self_of_isFinished {o : Observer κ} (finished : o.task.isFinished = true)
    (clock : Clock) (now : Nat) (service : Service) : o.run clock now service = (o, []) := by
  obtain ⟨cluster, client, settings, cancelled, task, last, joined, queue⟩ := o
  cases task with
  | finished => rfl
  | _ => cases finished

/-- What happens in a step happens in a run of the task of an observer. -/
theorem exists_visit_of_mem {s t : State κ} {label : Label κ} {id : ObserverId} {event : Event}
    {events : List (ObserverId × Event)} (goes : s.step label = some (t, events))
    (mem : (id, event) ∈ events) :
    ∃ visit, s.visit? id label = some visit ∧ event ∈ visit.events := by
  cases label with
  | begin | advance | spawn | signal =>
      cases goes
      cases mem
  | call call =>
      obtain ⟨p, -, goes⟩ := Option.bind_eq_some_iff.mp goes
      obtain ⟨u, -, goes⟩ := Option.bind_eq_some_iff.mp goes
      cases goes
      cases mem
  | enumerate call order =>
      simp only [State.step] at goes
      split at goes
      · split at goes
        · cases goes
          cases mem
        · cases goes
      · cases goes
  | task other environment =>
      obtain ⟨o, known, goes⟩ := Option.bind_eq_some_iff.mp goes
      generalize ran : o.run s.clock s.now (environment o.client) = result at goes
      cases goes
      obtain ⟨e, mem, same⟩ := List.mem_map.mp mem
      cases same
      exact ⟨⟨s.now, environment o.client, result.2⟩, by simp [State.visit?, known, ran], mem⟩

/-- An observer whose task has ended stays as it is in a step but for its lock. -/
theorem Step.last_of_isFinished {s t : State κ} {label : Label κ} (step : Step s label t)
    {id : ObserverId} {o : Observer κ} (known : s.observers[id]? = some o)
    (finished : o.task.isFinished = true) :
    ∃ o', t.observers[id]? = some o' ∧ o'.task.isFinished = true ∧ o'.last = o.last := by
  obtain ⟨o', known', continues⟩ := step.evolves id o known
  refine ⟨o', known', continues.finished finished, ?_⟩
  rcases step.observer_cases known' with ⟨-, new, -⟩ | ⟨-, x, found, rests⟩ |
    ⟨service, x, found, rfl, -⟩
  · cases known.symm.trans new
  · cases known.symm.trans found
    exact rests.last
  · cases known.symm.trans found
    rw [run_eq_self_of_isFinished finished]

/-- Nothing is requested or published by an observer whose task has ended. -/
theorem Run.silent_of_isFinished {s t : State κ} {labels : List (Label κ)}
    {events : List (ObserverId × Event)} (run : Run s labels t events) {id : ObserverId}
    {o : Observer κ} (known : s.observers[id]? = some o) (finished : o.task.isFinished = true) :
    (∀ event, (id, event) ∉ events) ∧ ∃ o', t.observers[id]? = some o' ∧ o'.last = o.last := by
  induction run generalizing o with
  | nil => exact ⟨nofun, o, known, rfl⟩
  | @cons s u t label labels first more goes run ih =>
      obtain ⟨o', known', finished', kept⟩ :=
        (step_of_eq_some goes).last_of_isFinished known finished
      obtain ⟨silent, o'', known'', last⟩ := ih known' finished'
      refine ⟨fun event mem => ?_, o'', known'', last.trans kept⟩
      rcases List.mem_append.mp mem with mem | mem
      · obtain ⟨visit, visits, happens⟩ := exists_visit_of_mem goes mem
        obtain ⟨environment, x, rfl, found, rfl⟩ := State.visit?_eq_some_iff.mp visits
        cases known.symm.trans found
        rw [run_eq_self_of_isFinished finished] at happens
        cases happens
      · exact silent event mem

/-! ## The end of a shutdown -/

/-- A call that stops all observers of a registry while no other call is under way, in
whatever order it lists the clusters, and while the tasks of the observers run as they may.
Once it is over:

* no observer is registered,
* every observer that was ever created is cancelled,
* the task of each observer that was registered when the call began has ended, and whatever
  goes on afterwards, that observer requests and publishes nothing any more. -/
theorem shutdown_of_run {s t u w : State κ} {past during later : List (Label κ)}
    {events₁ events₂ events₃ : List (ObserverId × Event)} {outcome : Outcome} (fresh : s.IsFresh)
    (own : ∀ label ∈ past, label.IsOwn) (run : Run s past t events₁) (quiet : t.IsQuiet)
    (alone : ∀ label ∈ during, label.isOngoing = true)
    (stops : Run t (.begin .stopAll :: during) u events₂)
    (final : u.calls[t.calls.length]? = some (.finished outcome)) (after : Run u later w events₃) :
    u.entries = [] ∧
      (∀ (id : ObserverId) (o : Observer κ), u.observers[id]? = some o → o.cancelled = true) ∧
      ∀ (cluster : Identity) (id : ObserverId), t.entry? cluster = some id →
        ∃ o, u.observers[id]? = some o ∧ o.task.isFinished = true ∧
          (∀ event, (id, event) ∉ events₃) ∧
          ∃ o', w.observers[id]? = some o' ∧ o'.last = o.last := by
  obtain ⟨coherent, guarded⟩ := run.guarded fresh.coherent fresh.guarded own
  obtain ⟨coherent', guarded', closing⟩ := stops.closing coherent guarded quiet alone
  have empty := closing.entries_eq_nil final
  have absent (cluster : Identity) : u.entry? cluster = none := by
    rw [State.entry_eq_lookup, empty, List.lookup_nil]
  refine ⟨empty, fun id o known => ?_, fun cluster id entered => ?_⟩
  · have live := (guarded'.live_of_isQuiet coherent' (closing.isQuiet final)).2 id o known
    exact live.resolve_left fun there => by simp [absent] at there
  · obtain ⟨o, known, -, finished⟩ : ∃ o, u.observers[id]? = some o ∧ o.cancelled = true ∧
        o.task.isFinished = true := by
      rcases closing.ended cluster id entered with there | ended
      · simp [absent] at there
      · exact ended.stopped
    exact ⟨o, known, finished, after.silent_of_isFinished known finished⟩

/-- Two clusters are observed.  They are listed with the later one first, and one of the two
observers polls while the call waits for the other. -/
theorem shutdown_of_run_two_clusters :
    let client : Elasticsearch.InMemory.Client := ⟨0, "https://a:9200", none, []⟩
    let a : Identity := ⟨"default", "a"⟩
    let b : Identity := ⟨"default", "b"⟩
    let past : List (Label Elasticsearch.InMemory.Client) :=
      [.begin (.create a client), .call 0, .call 0, .begin (.create b client), .call 1, .call 1,
        .task 0 .unreachable]
    let during : List (Label Elasticsearch.InMemory.Client) :=
      [.enumerate 2 [b, a], .call 2, .call 2, .call 2, .call 2, .task 0 .unreachable,
        .task 1 .unreachable, .call 2, .call 2, .call 2, .call 2, .call 2, .call 2,
        .task 0 .unreachable, .call 2, .call 2]
    let later : List (Label Elasticsearch.InMemory.Client) :=
      [.advance (Duration.ofMillis 60000).nanos, .task 0 .unreachable, .task 1 .unreachable]
    ∃ t u w events₁ events₂ events₃, Run (.empty .default) past t events₁ ∧
      t.clusters = [a, b] ∧ Run t (.begin .stopAll :: during) u events₂ ∧
      Run u later w events₃ ∧ u.entries = [] ∧
      (∀ (id : ObserverId) (o : Observer Elasticsearch.InMemory.Client),
        u.observers[id]? = some o → o.cancelled = true) ∧
      ∀ event, (0, event) ∉ events₃ ∧ (1, event) ∉ events₃ := by
  intro client a b past during later
  have follows : ((State.empty .default).follow? past).any (fun begun =>
      begun.1.clusters = [a, b] ∧ (begun.1.calls.all fun p => p.remaining = 0) ∧
      begun.1.calls.length = 2 ∧ State.entry? begun.1 a = some 0 ∧ State.entry? begun.1 b = some 1 ∧
      (begun.1.follow? (.begin .stopAll :: during)).any fun ended =>
        (ended.1.calls[2]?.any fun p => p.remaining = 0) ∧
          (ended.1.follow? later).isSome) = true := by
    decide +kernel
  obtain ⟨⟨t, events₁⟩, run, holds⟩ := (Option.any_eq_true ..).mp follows
  obtain ⟨clusters, quiet, calls, first, second, holds⟩ := of_decide_eq_true holds
  obtain ⟨⟨u, events₂⟩, stops, holds⟩ := (Option.any_eq_true ..).mp holds
  obtain ⟨final, holds⟩ := of_decide_eq_true holds
  obtain ⟨⟨w, events₃⟩, after⟩ := Option.isSome_iff_exists.mp holds
  obtain ⟨p, stands, final⟩ := (Option.any_eq_true ..).mp final
  obtain ⟨outcome, rfl⟩ := exists_finished_of_remaining (of_decide_eq_true final)
  have run := run_iff_follow?_eq_some.mpr run
  have stops := run_iff_follow?_eq_some.mpr stops
  have after := run_iff_follow?_eq_some.mpr after
  have quiet : t.IsQuiet := fun call p stands =>
    exists_finished_of_remaining
      (of_decide_eq_true (List.all_eq_true.mp quiet p (List.mem_of_getElem? stands)))
  have own : ∀ label ∈ past, label.IsOwn := by simp [past, Label.IsOwn]
  have alone : ∀ label ∈ during, label.isOngoing = true := by simp [during, Label.isOngoing]
  rw [← calls] at stands
  obtain ⟨empty, cancelled, silent⟩ :=
    shutdown_of_run (State.isFresh_empty .default) own run quiet alone stops stands after
  obtain ⟨_, _, _, silent₀, -⟩ := silent a 0 first
  obtain ⟨_, _, _, silent₁, -⟩ := silent b 1 second
  exact ⟨t, u, w, events₁, events₂, events₃, run, clusters, stops, after, empty, cancelled,
    fun event => ⟨silent₀ event, silent₁ event⟩⟩

end ClusterWatch.Observation.Registry
