import ClusterWatch.Proofs.Reconciliation.Preparation
import ClusterWatch.Proofs.Reconciliation.StoredStatus

/-!
# Convergence of the reported status

A reconciliation leaves the status it has computed in the resource exactly if every
part that the stored status had is known again.  Otherwise an old part stays, and
each further reconciliation that observes the same has to write again.
-/

namespace ClusterWatch.Reconciliation

open Elasticsearch (Client Credentials)
open Observation (Settings)

/-! ## What an API stores -/

/-- The object that an API stores once it has followed a patch. -/
def serve (stored : Json) (request : Kubernetes.Request) : Json :=
  match request.change with
  | some (.merge body) => stored.mergePatch body
  | _ => stored

/-- The object that an API stores once it has followed the patches among
interactions. -/
def storedAfter (stored : Json) (trace : List Interaction) : Json :=
  (patches trace).foldl serve stored

/-! ## What is reported -/

/-- The request that writes a status. -/
def statusRequest (cluster : Cluster) (status : ClusterStatus) :
    Except Kubernetes.ApiError Kubernetes.Request :=
  Kubernetes.Request.ofName .patch (clustersPath cluster.identity.space) cluster.identity.name
    "/status?" (some (.merge status.patch))

/-- A patch of a cluster resource is sent and answered, unless its target is not one. -/
theorem runs_patchCluster {α : Type} {space name part : String} {change : Kubernetes.Change}
    {next : Except Kubernetes.ApiError Cluster → Program α} {trace : List Interaction}
    {result : α} (run : (patchCluster space name part change next).Runs trace result) :
    (∃ error, Kubernetes.Request.ofName .patch (clustersPath space) name (part ++ "?")
          (some change) = .error error ∧ (next (.error error)).Runs trace result) ∨
      ∃ request exchange rest, Kubernetes.Request.ofName .patch (clustersPath space) name
          (part ++ "?") (some change) = .ok request ∧
        trace = .sent request exchange :: rest ∧
        (next (exchange.object Cluster.reader)).Runs rest result := by
  unfold patchCluster at run
  split at run
  · next error unbuilt => exact .inl ⟨error, unbuilt, run⟩
  · next request built =>
      obtain ⟨exchange, rest, rfl, after⟩ := Program.runs_send_iff.mp run
      exact .inr ⟨request, exchange, rest, built, rfl, after⟩

theorem runs_patchCluster_of_sent {α : Type} {space name part : String}
    {change : Kubernetes.Change} {next : Except Kubernetes.ApiError Cluster → Program α}
    {request : Kubernetes.Request} {exchange : Kubernetes.Exchange} {rest : List Interaction}
    {result : α} (built : Kubernetes.Request.ofName .patch (clustersPath space) name
      (part ++ "?") (some change) = .ok request)
    (after : (next (exchange.object Cluster.reader)).Runs rest result) :
    (patchCluster space name part change next).Runs (.sent request exchange :: rest) result := by
  unfold patchCluster
  rw [built]
  exact .send after

/-- What becomes of an observation that is reported at a moment: its status is written
if that is news, and otherwise nothing is. -/
def Reports (cluster : Cluster) (o : Observation) (now : Timestamp)
    (written : List Kubernetes.Request) (result : Except Cause Action) : Prop :=
  if ClusterStatus.hasChanged cluster.status (.ofObservation o now) then
    match statusRequest cluster (.ofObservation o now) with
    | .ok request => written = [request]
    | .error error => written = [] ∧ result = .error (.api error)
  else written = []

theorem runs_report {settings : Settings} {cluster : Cluster} {o : Observation}
    {trace : List Interaction} {result : Except Cause Action}
    (run : (report settings cluster o).Runs trace result) :
    ∃ now, observations trace = [] ∧ moments trace = [now] ∧
      Reports cluster o now (patches trace) result := by
  obtain ⟨now, rest, rfl, after⟩ := Program.runs_clock_iff.mp run
  refine ⟨now, ?_⟩
  unfold Reports
  dsimp only at after
  split at after
  · next changed =>
      rw [if_pos changed]
      obtain ⟨rest, rfl, patched⟩ := Program.runs_log_iff.mp after
      rcases runs_patchCluster patched with
        ⟨error, unbuilt, ended⟩ | ⟨request, exchange, rest, built, rfl, ended⟩
      · obtain ⟨rfl, rfl⟩ := Program.runs_done_iff.mp ended
        have failed : statusRequest cluster (.ofObservation o now) = .error error := unbuilt
        rw [failed]
        exact ⟨rfl, rfl, rfl, rfl⟩
      · have sent : statusRequest cluster (.ofObservation o now) = .ok request := built
        have patch : request.method = .patch := (ofName_eq_ok built).1
        obtain rfl : rest = [] := by
          split at ended <;> exact (Program.runs_done_iff.mp ended).1
        rw [sent]
        refine ⟨rfl, rfl, ?_⟩
        simp [patches, List.filterMap_cons, Interaction.patch?, patch]
  · next same =>
      obtain ⟨rfl, -⟩ := Program.runs_done_iff.mp after
      rw [if_neg same]
      exact ⟨rfl, rfl, rfl⟩

/-- Work for a cluster fails while it prepares its client, or it observes the cluster
once and reports that. -/
theorem runs_apply {settings : Settings} {cluster : Cluster} {trace : List Interaction}
    {result : Except Cause Action} (run : (apply settings cluster).Runs trace result) :
    (∃ cause, result = .error cause ∧ IsPreparation trace) ∨
      ∃ o now, observations trace = [o] ∧ moments trace = [now] ∧
        Reports cluster o now (patches trace) result := by
  rcases runs_apply_cases run with
    failed | ⟨first, rest, outcome, user, ca, prepared, -, -, rfl, reported⟩
  · exact .inl failed
  · obtain ⟨now, silent, asked, reports⟩ := runs_report reported
    obtain ⟨patched, observed, inquired⟩ := prepared.skip
      (.called (.resolve cluster.identity (clientWith settings cluster user ca)) outcome :: rest)
    refine .inr ⟨observationOf outcome, now, ?_, ?_, ?_⟩
    · exact observed.trans (congrArg (observationOf outcome :: ·) silent)
    · exact inquired.trans asked
    · exact patched ▸ reports

/-! ## What is stored afterwards -/

/-- Whether a request can be built does not depend on the change that it asks for. -/
theorem exists_ofName_eq_ok {method : Kubernetes.Method} {collection name rest : String}
    {change : Option Kubernetes.Change} {request : Kubernetes.Request}
    (built : Kubernetes.Request.ofName method collection name rest change = .ok request)
    (other : Option Kubernetes.Change) :
    ∃ request, Kubernetes.Request.ofName method collection name rest other = .ok request := by
  unfold Kubernetes.Request.ofName at built ⊢
  split at built
  · cases built
  · next named =>
      rw [if_neg named]
      split at built
      · cases built
      · exact ⟨_, rfl⟩

section Stored

variable {cluster : Cluster} {o : Observation} {now : Timestamp} {trace : List Interaction}
  {action : Action} {stored : Json}

/-- After work that succeeds, the resource stores what it stored before with the parts
of the new status written over it. -/
theorem isStoredIn_storedAfter (holds : ClusterStatus.IsStoredIn cluster.status stored)
    (reports : Reports cluster o now (patches trace) (.ok action)) :
    ClusterStatus.IsStoredIn
        (some (ClusterStatus.overwrite cluster.status (.ofObservation o now)))
        (storedAfter stored trace) := by
  unfold Reports at reports
  split at reports
  · split at reports
    · next request built =>
        have change : request.change =
            some (.merge (ClusterStatus.ofObservation o now).patch) :=
              (ofName_eq_ok built).2
        simp only [storedAfter, reports, List.foldl_cons, List.foldl_nil, serve, change]
        exact ClusterStatus.isStoredIn_mergePatch holds _
    · cases reports.2
  · next same =>
      simp only [storedAfter, reports, List.foldl_nil]
      exact ClusterStatus.isStoredIn_overwrite holds (by simpa using same)

/-- A further report of the same observation writes nothing exactly if the status that
is stored says the same as the observation. -/
theorem reports_eq_nil_iff {next : Cluster} {status : ClusterStatus} {later : Timestamp}
    {written : List Kubernetes.Request} {result : Except Cause Action}
    (reports : Reports cluster o now (patches trace) (.ok action))
    (changes : ClusterStatus.hasChanged cluster.status (.ofObservation o now) = false →
      status.Agrees (.ofObservation o now))
    (same : next.identity = cluster.identity) (read : next.status = some status)
    (again : Reports next o later written result) :
    written = [] ↔ status.Agrees (.ofObservation o now) := by
  have news : ClusterStatus.hasChanged next.status (.ofObservation o later) = false ↔
      status.Agrees (.ofObservation o now) := by
    rw [read]
    simp only [ClusterStatus.hasChanged, Bool.not_eq_false', decide_eq_true_eq]
    rfl
  constructor
  · rintro rfl
    cases second : ClusterStatus.hasChanged next.status (.ofObservation o later) with
    | false => exact news.mp second
    | true =>
        cases first : ClusterStatus.hasChanged cluster.status (.ofObservation o now) with
        | false => exact changes first
        | true =>
            unfold Reports at reports again
            rw [if_pos first] at reports
            rw [if_pos second] at again
            split at reports
            · next request built =>
                obtain ⟨other, rebuilt⟩ := exists_ofName_eq_ok built
                  (some (.merge (ClusterStatus.ofObservation o later).patch))
                rw [statusRequest, same, rebuilt] at again
                cases again
            · cases reports.2
  · intro agrees
    unfold Reports at again
    rw [news.mpr agrees] at again
    simpa using again

end Stored

/-- After work for a cluster that succeeds, the stored status says what was observed
exactly if the observation has all that the old status had; and exactly then does
further work that observes the same write nothing. -/
theorem apply_converges_iff {settings : Settings} {cluster : Cluster} {stored : Json}
    {trace : List Interaction} {action : Action}
    (holds : ClusterStatus.IsStoredIn cluster.status stored)
    (run : (apply settings cluster).Runs trace (.ok action)) :
    ∃ o now, observations trace = [o] ∧ moments trace = [now] ∧
      (∃ status, ClusterStatus.IsStoredIn (some status) (storedAfter stored trace)) ∧
      ∀ status, ClusterStatus.IsStoredIn (some status) (storedAfter stored trace) →
        (status.Agrees (.ofObservation o now) ↔ ClusterStatus.IsCoveredBy cluster.status o) ∧
        ∀ (settings : Settings) (next : Cluster) (following : List Interaction)
          (result : Except Cause Action),
          next.identity = cluster.identity → next.status = some status →
          (apply settings next).Runs following result → observations following = [o] →
          (patches following = [] ↔ ClusterStatus.IsCoveredBy cluster.status o) := by
  rcases runs_apply run with ⟨_, failed, -⟩ | ⟨o, now, observed, asked, reports⟩
  · cases failed
  have overwritten := isStoredIn_storedAfter holds reports
  refine ⟨o, now, observed, asked, ⟨_, overwritten⟩, fun status reads => ?_⟩
  have reading := ClusterStatus.agrees_of_isStoredIn reads overwritten
  have covered : status.Agrees (.ofObservation o now) ↔
      ClusterStatus.IsCoveredBy cluster.status o :=
    (ClusterStatus.agrees_congr_left reading).trans
      (ClusterStatus.agrees_overwrite_iff cluster.status o now)
  refine ⟨covered, fun settings next following result same read again seen => ?_⟩
  rcases runs_apply again with
    ⟨cause, -, -, unseen, -⟩ | ⟨o', later, observed', -, reports'⟩
  · rw [unseen] at seen
    cases seen
  · obtain rfl : o' = o := by simpa [seen] using observed'.symm
    rw [← covered]
    refine reports_eq_nil_iff reports (fun unchanged => ?_) same read reports'
    exact covered.mpr (ClusterStatus.isCoveredBy_of_not_hasChanged unchanged)

/-! ## A cluster that cannot be reached any longer -/

/-- A cluster resource with a status. -/
def quickstart (status : ClusterStatus) : Cluster where
  metadata := { name := some "quickstart", space := some "elastic" }
  spec := ⟨none, none, none⟩
  status := some status

/-- A status of a cluster that could be reached. -/
def reached : ClusterStatus :=
  ⟨.green, some "quickstart", some 1, none, none⟩

/-- What is left of it once nothing is observed any longer. -/
def leftOver : ClusterStatus :=
  ⟨.unknown, some "quickstart", some 1, none, some .epoch⟩

theorem exists_eq_ok_of_isOk {ε α : Type} {attempt : Except ε α} (succeeds : attempt.isOk) :
    ∃ a, attempt = .ok a := by
  cases attempt with
  | error => cases succeeds
  | ok a => exact ⟨a, rfl⟩

/-- Nothing is observed, and the API answers the patch with an object. -/
theorem exists_runs_apply_quickstart {status : ClusterStatus}
    (changed : ClusterStatus.hasChanged (some status) (.ofObservation .unknown .epoch)) :
    ∃ trace request, (apply .default (quickstart status)).Runs trace
        (.ok (.requeue Settings.defaultInterval)) ∧
      observations trace = [.unknown] ∧ moments trace = [.epoch] ∧ patches trace = [request] ∧
      request.change = some (.merge (ClusterStatus.ofObservation .unknown .epoch).patch) := by
  have target : (Kubernetes.Request.ofName .patch (clustersPath "elastic") "quickstart"
      ("/status" ++ "?") none).isOk := by decide +kernel
  obtain ⟨_, plain⟩ := exists_eq_ok_of_isOk target
  obtain ⟨request, built⟩ := exists_ofName_eq_ok plain
    (some (.merge (ClusterStatus.ofObservation .unknown .epoch).patch))
  obtain ⟨method, change⟩ := ofName_eq_ok built
  let exchange : Kubernetes.Exchange :=
    .answered 200 "\x7b\"metadata\":\x7b\x7d,\"spec\":\x7b\x7d\x7d".toUTF8.toList
  have answer : (exchange.object Cluster.reader).isOk := by decide +kernel
  obtain ⟨object, decoded⟩ := exists_eq_ok_of_isOk answer
  refine ⟨[.entered _, .called (.resolve _ _) (.observation .unknown), .asked .epoch,
    .entered (.phaseChange ⟨"elastic", "quickstart"⟩ (some status.phase) .unknown),
    .sent request exchange], request, .log (.call (.clock ?_)), rfl, rfl, ?_, change⟩
  rotate_left
  · simp [patches, List.filterMap_cons, Interaction.patch?, method]
  dsimp only
  have old : (quickstart status).status = some status := rfl
  have identity : (quickstart status).identity = ⟨"elastic", "quickstart"⟩ := rfl
  rw [observationOf, old, if_pos changed, identity]
  refine .log (runs_patchCluster_of_sent built ?_)
  rw [decoded]
  exact .done _

/-- The object that the API stores for it. -/
def storedReached : Json :=
  .object [("status", reached.toJson)]

theorem isStoredIn_reached : ClusterStatus.IsStoredIn (some reached) storedReached :=
  ⟨reached.toJson, rfl, fun _ _ => rfl⟩

/-- The facts that were once known stay, and are written over again and again. -/
theorem apply_converges_iff_quickstart :
    ∃ trace status, (apply .default (quickstart reached)).Runs trace
        (.ok (.requeue Settings.defaultInterval)) ∧
      ClusterStatus.IsStoredIn (some reached) storedReached ∧
      ClusterStatus.IsStoredIn (some status) (storedAfter storedReached trace) ∧
      ¬status.Agrees (.ofObservation .unknown .epoch) ∧
      ∀ following result, (apply .default (quickstart status)).Runs following result →
        observations following = [.unknown] → patches following ≠ [] := by
  obtain ⟨trace, -, run, observed, asked, -⟩ :=
    exists_runs_apply_quickstart (show ClusterStatus.hasChanged (some reached) _ by rfl)
  obtain ⟨o, now, observed', asked', ⟨status, reads⟩, all⟩ :=
    apply_converges_iff isStoredIn_reached run
  obtain rfl : o = .unknown := by simpa [observed] using observed'.symm
  obtain rfl : now = .epoch := by simpa [asked] using asked'.symm
  obtain ⟨agrees, again⟩ := all status reads
  have uncovered : ¬ClusterStatus.IsCoveredBy (quickstart reached).status .unknown := by
    simp [ClusterStatus.IsCoveredBy, quickstart, reached, Observation.unknown]
  refine ⟨trace, status, run, isStoredIn_reached, reads, fun same => ?_, ?_⟩
  · exact uncovered (agrees.mp same)
  · intro following result further seen unpatched
    exact uncovered ((again .default (quickstart status) following result rfl rfl
      further seen).mp unpatched)

/-- A cluster that was reached once is patched each time that it is not reached. -/
theorem quickstart_patched_again :
    ∃ trace following, (apply .default (quickstart reached)).Runs trace
        (.ok (.requeue Settings.defaultInterval)) ∧
      observations trace = [.unknown] ∧
      ClusterStatus.IsStoredIn (some reached) storedReached ∧
      ClusterStatus.IsStoredIn (some leftOver) (storedAfter storedReached trace) ∧
      ¬leftOver.Agrees (.ofObservation .unknown .epoch) ∧
      (apply .default (quickstart leftOver)).Runs following
        (.ok (.requeue Settings.defaultInterval)) ∧
      observations following = [.unknown] ∧ patches following ≠ [] := by
  obtain ⟨trace, request, run, observed, -, patched, change⟩ :=
    exists_runs_apply_quickstart (show ClusterStatus.hasChanged (some reached) _ by rfl)
  obtain ⟨following, _, again, observed', -, patched', -⟩ :=
    exists_runs_apply_quickstart (show ClusterStatus.hasChanged (some leftOver) _ by rfl)
  refine ⟨trace, following, run, observed, isStoredIn_reached, ?_, by decide, again,
    observed', by simp [patched']⟩
  simp only [storedAfter, patched, List.foldl_cons, List.foldl_nil, serve, change]
  exact ClusterStatus.isStoredIn_mergePatch isStoredIn_reached _

end ClusterWatch.Reconciliation
