import ClusterWatch.Proofs.Reconciliation.Hosting
import ClusterWatch.Proofs.Reconciliation.Lifetime

/-!
# Reconciliations that fail

A reconciliation that fails before it calls the registry has done nothing to it.  Once it has
called the registry only the report of the status can fail, and then the observer is there
for the next attempt.
-/

namespace ClusterWatch.Reconciliation

open Elasticsearch (Client Interchangeable connection)
open Kubernetes (ApiError)
open Observation (ObserverId Settings)
open Observation.Registry
  (Avoids Completes HasRead Label Provides Regular Run State Undisturbed look
    run_iff_follow?_eq_some)

/-! ## How a reconciliation fails -/

/-- An interaction sends a status. -/
def Interaction.IsReport : Interaction → Prop
  | .sent request _ => request.method = .patch ∧ ∃ body, request.change = some (.merge body)
  | _ => False

/-- The last thing that a reconciliation does is to report a new status, and the request is not
one that can be written, or it is answered with an error. -/
def StatusFails (cluster : Cluster) (trace : List Interaction) (error : ApiError) : Prop :=
  ∃ first now old new,
    (error = .unbuildable ∧
        trace = first ++ [.asked now, .entered (.phaseChange cluster.identity old new)]) ∨
      ∃ request exchange, exchange.object Cluster.reader = .error error ∧
        Interaction.IsReport (.sent request exchange) ∧
        trace = first ++
          [.asked now, .entered (.phaseChange cluster.identity old new), .sent request exchange]

theorem error_eq_of_ofName {method : Kubernetes.Method} {collection name rest : String}
    {change : Option Kubernetes.Change} {error : ApiError}
    (failed : Kubernetes.Request.ofName method collection name rest change = .error error) :
    error = .unbuildable := by
  unfold Kubernetes.Request.ofName at failed
  split at failed
  · cases failed
    rfl
  · split at failed
    · cases failed
      rfl
    · cases failed

/-- The last interaction tells what has failed. -/
theorem StatusFails.last {cluster : Cluster} {trace : List Interaction} {error : ApiError}
    (fails : StatusFails cluster trace error) :
    (∃ entry, trace.getLast? = some (.entered entry) ∧ error = .unbuildable) ∨
      ∃ request exchange, trace.getLast? = some (.sent request exchange) ∧
        exchange.object Cluster.reader = .error error := by
  obtain ⟨first, now, old, new, ⟨rfl, rfl⟩ | ⟨request, exchange, answer, -, rfl⟩⟩ := fails
  · exact .inl ⟨.phaseChange cluster.identity old new, by simp, rfl⟩
  · exact .inr ⟨request, exchange, by simp, answer⟩

/-- A report succeeds, or the request for it is what fails. -/
theorem runs_report_cases {settings : Settings} {cluster : Cluster} {o : Observation}
    {trace : List Interaction} {result : Except Cause Action}
    (run : (report settings cluster o).Runs trace result) :
    (∃ action, result = .ok action ∧ ∀ first error, ¬StatusFails cluster (first ++ trace) error) ∨
      ∃ error, result = .error (.api error) ∧
        ∀ first other, StatusFails cluster (first ++ trace) other ↔ other = error := by
  obtain ⟨now, rest, rfl, after⟩ := Program.runs_clock_iff.mp run
  dsimp only at after
  split at after
  · obtain ⟨rest, rfl, patched⟩ := Program.runs_log_iff.mp after
    rcases runs_patchCluster patched with
      ⟨error, unbuilt, ended⟩ | ⟨request, exchange, rest, built, rfl, ended⟩
    · obtain ⟨rfl, rfl⟩ := Program.runs_done_iff.mp ended
      obtain rfl := error_eq_of_ofName unbuilt
      refine .inr ⟨.unbuildable, rfl, fun first other => ⟨fun fails => ?_, ?_⟩⟩
      · rcases fails.last with ⟨_, -, same⟩ | ⟨request, exchange, last, -⟩
        · exact same
        · simp at last
      · rintro rfl
        exact ⟨first, now, _, _, .inl ⟨rfl, rfl⟩⟩
    · cases answer : exchange.object Cluster.reader with
      | ok object =>
          rw [answer] at ended
          obtain ⟨rfl, rfl⟩ := Program.runs_done_iff.mp ended
          refine .inl ⟨_, rfl, fun first error fails => ?_⟩
          rcases fails.last with ⟨_, last, -⟩ | ⟨request', exchange', last, fault⟩
          · simp at last
          · obtain ⟨rfl, rfl⟩ : request = request' ∧ exchange = exchange' := by simpa using last
            cases answer.symm.trans fault
      | error error =>
          rw [answer] at ended
          obtain ⟨rfl, rfl⟩ := Program.runs_done_iff.mp ended
          refine .inr ⟨error, rfl, fun first other => ⟨fun fails => ?_, ?_⟩⟩
          · rcases fails.last with ⟨_, last, -⟩ | ⟨request', exchange', last, fault⟩
            · simp at last
            · obtain ⟨rfl, rfl⟩ : request = request' ∧ exchange = exchange' := by
                simpa using last
              cases answer.symm.trans fault
              rfl
          · rintro rfl
            obtain ⟨method, change⟩ := ofName_eq_ok built
            exact ⟨first, now, _, _, .inr ⟨request, exchange, answer, ⟨method, _, change⟩, rfl⟩⟩
  · obtain ⟨rfl, rfl⟩ := Program.runs_done_iff.mp after
    refine .inl ⟨_, rfl, fun first error fails => ?_⟩
    rcases fails.last with ⟨_, last, -⟩ | ⟨_, _, last, -⟩ <;> simp at last

/-- Before the registry is called, no status is sent. -/
theorem IsPreparation.not_isReport {trace : List Interaction} (prepared : IsPreparation trace)
    {interaction : Interaction} (mem : interaction ∈ trace) : ¬interaction.IsReport := by
  cases interaction with
  | sent request exchange =>
      rintro ⟨method, -⟩
      have patched : request ∈ patches trace := by
        refine List.mem_filterMap.mpr ⟨_, mem, ?_⟩
        simp [Interaction.patch?, method]
      rw [prepared.1] at patched
      cases patched
  | _ => exact id

/-- A status is reported at a moment. -/
theorem StatusFails.moments_ne_nil {cluster : Cluster} {trace : List Interaction}
    {error : ApiError} (fails : StatusFails cluster trace error) : moments trace ≠ [] := by
  obtain ⟨first, now, old, new, ⟨-, rfl⟩ | ⟨request, exchange, -, -, rfl⟩⟩ := fails <;>
    simp [moments, List.filterMap_cons, Interaction.moment?]

/-- Nothing but the finalizer is written by the patch that adds it. -/
theorem addition_ne_merge (metadata : Kubernetes.ObjectMeta) (body : Json) :
    Finalizer.addition metadata ≠ .merge body := by
  unfold Finalizer.addition
  dsimp only
  split <;> nofun

/-- A reconciliation that neither calls the registry nor sends a status. -/
def IsIdle (cluster : Cluster) (trace : List Interaction) : Prop :=
  (∀ interaction ∈ trace, ¬interaction.IsCall ∧ ¬interaction.IsReport) ∧
    ∀ error, ¬StatusFails cluster trace error

theorem IsPreparation.isIdle {trace : List Interaction} (prepared : IsPreparation trace)
    (cluster : Cluster) : IsIdle cluster trace :=
  ⟨fun _ mem => ⟨not_isCall_of_observations prepared.2.1 mem, prepared.not_isReport mem⟩,
    fun _ fails => fails.moments_ne_nil prepared.2.2⟩

/-- To add the finalizer, the registry is not called and no status is sent. -/
theorem isIdle_of_addition {cluster : Cluster} {space name : String}
    {next : Except ApiError Cluster → Procedure} {trace : List Interaction}
    {result : Except Error Action}
    (run :
      (patchCluster space name "" (Finalizer.addition cluster.metadata) next).Runs trace result)
    (ends : ∀ reply, ∃ last, next reply = .done last) : IsIdle cluster trace := by
  rcases runs_patchCluster run with ⟨error, -, ended⟩ | ⟨request, exchange, rest, built, rfl, ended⟩
  · obtain ⟨last, final⟩ := ends (.error error)
    rw [final] at ended
    obtain ⟨rfl, -⟩ := Program.runs_done_iff.mp ended
    exact isPreparation_nil.isIdle cluster
  · obtain ⟨last, final⟩ := ends (exchange.object Cluster.reader)
    rw [final] at ended
    obtain ⟨rfl, -⟩ := Program.runs_done_iff.mp ended
    refine ⟨fun interaction mem => ?_, fun error fails => fails.moments_ne_nil rfl⟩
    obtain rfl := List.mem_singleton.mp mem
    refine ⟨id, fun ⟨_, body, asks⟩ => ?_⟩
    exact addition_ne_merge _ body
      (Option.some.inj ((ofName_eq_ok built).2.symm.trans asks))

/-- A reconciliation of a resource that is not being deleted does nothing to the registry and
sends no status, or it has called the registry for a cluster that it watches, and fails if the
status cannot be reported. -/
theorem runs_reconcile_cases {settings : Settings} {cluster : Cluster} {trace : List Interaction}
    {result : Except Error Action} (kept : Finalizer.isDeleting cluster.metadata = false)
    (run : (reconcile settings cluster).Runs trace result) :
    IsIdle cluster trace ∨
      Finalizer.work cluster.metadata = .apply ∧ (∃ interaction ∈ trace, interaction.IsCall) ∧
        ((∃ action, result = .ok action ∧ ∀ error, ¬StatusFails cluster trace error) ∨
          ∃ error, result = .error (.apply (.api error)) ∧
            ∀ other, StatusFails cluster trace other ↔ other = error) := by
  have deleting := @isDeleting_eq_of_work cluster.metadata
  cases work : Finalizer.work cluster.metadata with
  | cleanup | wait =>
      rw [work, kept] at deleting
      cases deleting
  | apply =>
      rcases runs_reconcile_of_apply work run with ⟨-, rfl, -⟩ | ⟨-, outcome, works, rfl⟩
      · exact .inl (isPreparation_nil.isIdle cluster)
      rcases runs_apply_cases works with
        ⟨cause, -, prepared⟩ | ⟨first, rest, told, user, ca, -, -, -, rfl, reports⟩
      · exact .inl (prepared.isIdle cluster)
      refine .inr ⟨rfl, ⟨_, List.mem_append_right _ List.mem_cons_self, trivial⟩, ?_⟩
      rw [List.append_cons]
      rcases runs_report_cases reports with ⟨action, rfl, none⟩ | ⟨error, rfl, only⟩
      · exact .inl ⟨action, rfl, none _⟩
      · exact .inr ⟨error, rfl, only _⟩
  | add =>
      left
      unfold reconcile at run
      split at run
      · obtain ⟨rfl, -⟩ := Program.runs_done_iff.mp run
        exact isPreparation_nil.isIdle cluster
      · rw [work] at run
        cases name : cluster.metadata.name with
        | none =>
            rw [name] at run
            obtain ⟨rfl, -⟩ := Program.runs_done_iff.mp run
            exact isPreparation_nil.isIdle cluster
        | some name' =>
            rw [name] at run
            exact isIdle_of_addition run fun reply => by cases reply <;> exact ⟨_, rfl⟩

/-- A reconciliation that has not called the registry has not reported a status either. -/
theorem not_statusFails_of_silent {settings : Settings} {cluster : Cluster}
    {trace : List Interaction} {result : Except Error Action}
    (kept : Finalizer.isDeleting cluster.metadata = false)
    (run : (reconcile settings cluster).Runs trace result)
    (silent : ∀ interaction ∈ trace, ¬interaction.IsCall) (reason : ApiError) :
    ¬StatusFails cluster trace reason := by
  rcases runs_reconcile_cases kept run with idle | ⟨-, ⟨interaction, mem, called⟩, -⟩
  · exact idle.2 reason
  · exact (silent interaction mem called).elim

/-- Once the registry is called, only the status can fail. -/
theorem statusFails_of_called {settings : Settings} {cluster : Cluster} {trace : List Interaction}
    {reason : ApiError} (kept : Finalizer.isDeleting cluster.metadata = false)
    (run : (reconcile settings cluster).Runs trace (.error (.apply (.api reason))))
    (calls : ∃ interaction ∈ trace, interaction.IsCall) : StatusFails cluster trace reason := by
  rcases runs_reconcile_cases kept run with idle | ⟨-, -, ⟨_, ok, -⟩ | ⟨error, same, only⟩⟩
  · obtain ⟨interaction, mem, called⟩ := calls
    exact ((idle.1 interaction mem).1 called).elim
  · cases ok
  · cases same
    exact (only reason).mpr rfl

/-! ## What a failure leaves behind -/

/-- The resource is seen again with the same specification, and is still to be watched. -/
structure IsSeenAgain (again cluster : Cluster) : Prop where
  identity : again.identity = cluster.identity
  space : again.metadata.space = cluster.metadata.space
  spec : again.spec = cluster.spec
  watched : Finalizer.work again.metadata = .apply

theorem IsSeenAgain.connection_clientWith {again cluster : Cluster}
    (seen : IsSeenAgain again cluster) (settings settings' : Settings)
    (user : Option Elasticsearch.Credentials) (ca : Option String) :
    connection (clientWith settings' again user ca) =
      connection (clientWith settings cluster user ca) := by
  have same : endpoint again = endpoint cluster := by
    rw [endpoint, endpoint, seen.spec, seen.identity]
  simp only [connection, clientWith, same]

/-- A retry that gets Secrets that hold the same as before uses the observer again. -/
theorem Hosts.reuses {settings : Settings} {cluster again : Cluster} {s t : Observers}
    {trace retry : List Interaction} {labels : List (Label Client)}
    {result result' : Except Error Action} {user : Option Elasticsearch.Credentials}
    {ca : Option String} {id : ObserverId} (hosts : Hosts cluster.identity s retry labels t)
    (regular : Regular s)
    (provides : Provides s cluster.identity (clientWith settings cluster user ca) id)
    (watched : Finalizer.work cluster.metadata = .apply)
    (reconciles : (reconcile settings cluster).Runs trace result)
    (draws : Draws cluster trace user ca)
    (accepted : ca.toList.all Elasticsearch.Certificate.acceptsPem = true)
    (seen : IsSeenAgain again cluster) (retries : (reconcile s.settings again).Runs retry result')
    (same : fetched retry = fetched trace) :
    ∃ value, .called (.resolve cluster.identity (clientWith s.settings again user ca))
        (.observation value) ∈ retry ∧
      Provides t cluster.identity (clientWith s.settings again user ca) id ∧
      t.created cluster.identity = s.created cluster.identity := by
  have named : cluster.metadata.space ≠ none := by
    rcases runs_reconcile_of_apply watched reconciles with ⟨-, rfl, -⟩ | ⟨named, -⟩
    · obtain ⟨_, _, _, empty, -⟩ := draws
      cases empty
    · exact named
  rcases runs_reconcile_of_apply seen.watched retries with ⟨unnamed, -⟩ | ⟨-, outcome, works, -⟩
  · exact (named (seen.space ▸ unnamed)).elim
  obtain ⟨draws, calls⟩ := draws.again accepted seen.identity seen.spec works same
  obtain ⟨entered, o, known, -, serves⟩ := provides
  rw [← seen.identity] at hosts entered ⊢
  obtain ⟨-, user', ca', id', draws', -, resolved, value, u, v, during, called, -⟩ :=
    hosts.exists_resolved regular seen.watched retries calls
  obtain ⟨rfl, rfl⟩ := draws.unique draws'
  have serves' : Interchangeable o.client (clientWith s.settings again user ca) := by
    rw [Interchangeable, serves, seen.connection_clientWith settings]
  obtain ⟨rfl, created⟩ := resolved.keeps id o entered known serves'
  exact ⟨value, called, resolved.provides, created⟩

/-- A reconciliation of a resource that is not being deleted, in any state that calls on a fresh
registry can lead to, with no other call on its cluster meanwhile:

* if it fails, and not because the status cannot be reported, it has not called the registry and
  has sent no status; the cluster is as it was, whatever goes on with other clusters, and if
  nothing does, so are all entries and observers but for their tasks,
* if the status cannot be reported, that is the error; the observer whose observation the
  reconciliation was given is registered and live, and stays so as long as no call works on the
  cluster; then a retry for the same specification that gets Secrets that hold the same uses it
  again and makes no other. -/
theorem registry_after_failure {start s t : Observers} {past labels : List (Label Client)}
    {events : List (ObserverId × Observation.Event)} {cluster : Cluster}
    {trace : List Interaction} {result : Except Error Action} (fresh : start.IsFresh)
    (own : ∀ label ∈ past, label.IsOwn) (run : Run start past s events)
    (kept : Finalizer.isDeleting cluster.metadata = false)
    (reconciles : (reconcile s.settings cluster).Runs trace result)
    (hosts : Hosts cluster.identity s trace labels t) :
    (∀ error, result = .error error → (∀ reason, ¬StatusFails cluster trace reason) →
      (∀ interaction ∈ trace, ¬interaction.IsCall ∧ ¬interaction.IsReport) ∧
        Undisturbed s t cluster.identity ∧
        ((∀ label ∈ labels, label.isBackground = true) →
          t.entries = s.entries ∧ t.observers.map look = s.observers.map look)) ∧
    ∀ reason, StatusFails cluster trace reason →
      result = .error (.apply (.api reason)) ∧
      ∃ client id value u v during,
        .called (.resolve cluster.identity client) (.observation value) ∈ trace ∧
        Completes cluster.identity (.resolve cluster.identity client) (.observation value) u
          during v ∧
        HasRead u (.begin (.resolve cluster.identity client) :: during) u.calls.length id value ∧
        Provides t cluster.identity client id ∧
        ∀ between w, Avoids cluster.identity t between w →
          Provides w cluster.identity client id ∧
          ∀ again retry result' later z, IsSeenAgain again cluster →
            (reconcile w.settings again).Runs retry result' →
            Hosts cluster.identity w retry later z → fetched retry = fetched trace →
              ∃ client' value', Interchangeable client' client ∧
                .called (.resolve cluster.identity client') (.observation value') ∈ retry ∧
                Provides z cluster.identity client' id ∧
                z.created cluster.identity = t.created cluster.identity := by
  have regular := run.regular fresh own
  rcases runs_reconcile_cases kept reconciles with ⟨idle, none⟩ | ⟨watched, calls, ends⟩
  · refine ⟨fun error failed _ => ?_, fun reason fails => (none reason fails).elim⟩
    have avoids := hosts.avoids fun interaction mem => (idle interaction mem).1
    obtain ⟨events, run⟩ := avoids.run
    exact ⟨idle, (avoids.undisturbed regular).2, run.looks_of_background⟩
  · rcases ends with ⟨action, rfl, none⟩ | ⟨error, rfl, only⟩
    · refine ⟨fun error failed => ?_, fun reason fails => (none reason fails).elim⟩
      cases failed
    · refine ⟨fun _ _ none => (none error ((only error).mpr rfl)).elim, fun reason fails => ?_⟩
      obtain rfl := (only reason).mp fails
      obtain ⟨regular, user, ca, id, draws, accepted, resolved, value, u, v, during, called,
        completes, read⟩ := hosts.exists_resolved regular watched reconciles calls
      refine ⟨rfl, _, id, value, u, v, during, called, completes, read, resolved.provides, ?_⟩
      intro between w apart
      obtain ⟨regular, provides, created⟩ := apart.provides regular resolved.provides
      refine ⟨provides, fun again retry result' later z seen retries hosts' same => ?_⟩
      obtain ⟨value', called', provides', created'⟩ := hosts'.reuses regular provides watched
        reconciles draws accepted seen retries same
      exact ⟨_, value', seen.connection_clientWith .., called', provides', created'.trans created⟩

/-- A cluster resource with users in a Secret. -/
def finalizedWithUsers : Cluster :=
  { finalized none with spec := ⟨none, some (.ofName "users"), none⟩ }

/-- The API cannot be reached: not for the Secret of a cluster that is observed already, and not
for the first status of another resource, nor for that in its retry. -/
theorem registry_after_failure_quickstart :
    let id : Kubernetes.Identity := ⟨"elastic", "quickstart"⟩
    let unreachable : Except Error Action := .error (.apply (.api .unreachable))
    (∃ (s t : Observers) (trace : List Interaction),
      (reconcile s.settings finalizedWithUsers).Runs trace unreachable ∧
      s.entry? id = some 0 ∧ Undisturbed s t id) ∧
    ∃ (t w z : Observers) (trace retry : List Interaction) (client client' : Client),
      (reconcile .default (finalized none)).Runs trace unreachable ∧
      StatusFails (finalized none) trace .unreachable ∧
      (reconcile w.settings (finalized none)).Runs retry unreachable ∧
      Provides t id client 0 ∧ Provides z id client' 0 ∧ z.created id = t.created id := by
  intro id unreachable
  constructor
  · let client : Client := ⟨⟨"https://es:9200", none, []⟩, Settings.default.timeout⟩
    let past : List (Label Client) := [.begin (.create id client), .call 0, .call 0]
    have hosted : ((State.empty .default).follow? past).any (fun last =>
        State.entry? last.1 id = some 0 ∧
          ((reconcile last.1.settings finalizedWithUsers).host? id [.reply .unreachable] last.1).any
            fun hosted =>
              (∀ interaction ∈ hosted.trace, ¬interaction.IsCall) ∧
                hosted.result = unreachable) = true := by
      decide +kernel
    obtain ⟨⟨s, events⟩, run, holds⟩ := (Option.any_eq_true ..).mp hosted
    obtain ⟨entered, holds⟩ := of_decide_eq_true holds
    obtain ⟨⟨trace, t, result⟩, hosts, holds⟩ := (Option.any_eq_true ..).mp holds
    obtain ⟨silent, rfl⟩ := of_decide_eq_true holds
    obtain ⟨runs, labels, hosts⟩ := exists_hosts_of_host? hosts
    have own : ∀ label ∈ past, label.IsOwn := by simp [past, Label.IsOwn]
    have left := (registry_after_failure (State.isFresh_empty .default) own
      (run_iff_follow?_eq_some.mpr run) rfl runs hosts).1 _ rfl
        (not_statusFails_of_silent rfl runs silent)
    exact ⟨s, t, trace, runs, entered, left.2.1⟩
  · have hosted : ((reconcile .default (finalized none)).host? id
        [.serve (List.replicate 4 (.call 0)), .tell .epoch, .reply .unreachable]
        (.empty .default)).any (fun first =>
          (∃ interaction ∈ first.trace, interaction.IsCall) ∧ first.result = unreachable ∧
          (fetched first.trace).isEmpty ∧ first.registry.entry? id = some 0 ∧
          (rest? id first.registry).any fun w =>
            ((reconcile w.settings (finalized none)).host? id
              [.serve (List.replicate 2 (.call 1)), .tell .epoch, .reply .unreachable] w).any
              fun second =>
                second.result = unreachable ∧ (fetched second.trace).isEmpty) = true := by
      decide +kernel
    obtain ⟨⟨trace, t, result⟩, hosts, holds⟩ := (Option.any_eq_true ..).mp hosted
    obtain ⟨calls, rfl, unread, entered, holds⟩ := of_decide_eq_true holds
    obtain ⟨w, rests, holds⟩ := (Option.any_eq_true ..).mp holds
    obtain ⟨⟨retry, z, result⟩, hosts', holds⟩ := (Option.any_eq_true ..).mp holds
    obtain ⟨rfl, unread'⟩ := of_decide_eq_true holds
    obtain ⟨runs, labels, hosts⟩ := exists_hosts_of_host? hosts
    obtain ⟨retries, labels', hosts'⟩ := exists_hosts_of_host? hosts'
    have same : fetched retry = fetched trace :=
      (List.isEmpty_iff.mp unread').trans (List.isEmpty_iff.mp unread).symm
    have fails := statusFails_of_called rfl runs calls
    obtain ⟨-, client, observer, value, u, v, during, -, -, -, provides, again⟩ :=
      (registry_after_failure (State.isFresh_empty .default) (by simp) (.nil _) rfl runs hosts).2
        .unreachable fails
    obtain rfl : observer = 0 := Option.some.inj (provides.entry.symm.trans entered)
    obtain ⟨client', value', -, -, provides', created⟩ :=
      (again [] w (avoids_of_rest? rests)).2 (finalized none) retry _ _ z
        ⟨rfl, rfl, rfl, by decide +kernel⟩ retries hosts' same
    exact ⟨t, w, z, trace, retry, client, client', runs, fails, retries, provides, provides',
      created⟩

end ClusterWatch.Reconciliation
