import ClusterWatch.Proofs.Reconciliation.Interaction

/-!
# What a reconciliation may ask for

Whatever comes back, the work for a cluster that is watched asks the registry for its
observation and nothing else, and that for one that is being deleted asks it to stop the
observer, and then asks the API for nothing but to remove the finalizer.
-/

namespace ClusterWatch.Reconciliation

open Kubernetes (ApiError Change Identity ObjectMeta Secret)
open Observation (Settings)

/-! ## Kinds of requests and calls -/

namespace Program

variable {α β : Type} {sends : Kubernetes.Request → Prop} {calls : RegistryRequest → Prop}

/-- Whatever comes back, a program sends requests of one kind only, and so it calls the
registry. -/
def Only (sends : Kubernetes.Request → Prop) (calls : RegistryRequest → Prop) :
    Program α → Prop
  | .done _ => True
  | .send request next => sends request ∧ ∀ exchange, (next exchange).Only sends calls
  | .call request next => calls request ∧ ∀ outcome, (next outcome).Only sends calls
  | .clock next => ∀ now, (next now).Only sends calls
  | .log _ rest => rest.Only sends calls

/-- Whatever comes back, a program stops the observer of a cluster before it sends
anything, and does not call the registry again. -/
def StopsFirst (sends : Kubernetes.Request → Prop) (cluster : Identity) : Program α → Prop
  | .done _ => True
  | .send _ _ => False
  | .call request next =>
      request = .stop cluster ∧ ∀ outcome, (next outcome).Only sends (fun _ => False)
  | .clock next => ∀ now, (next now).StopsFirst sends cluster
  | .log _ rest => rest.StopsFirst sends cluster

theorem Only.bind {program : Program α} {next : α → Program β} (only : program.Only sends calls)
    (rest : ∀ result, (next result).Only sends calls) :
    (program.bind next).Only sends calls := by
  induction program with
  | done result => exact rest result
  | send request reply ih => exact ⟨only.1, fun exchange => ih exchange (only.2 exchange)⟩
  | call request reply ih => exact ⟨only.1, fun outcome => ih outcome (only.2 outcome)⟩
  | clock reply ih => exact fun now => ih now (only now)
  | log entry rest ih => exact ih only

theorem Only.map {program : Program α} (only : program.Only sends calls) (f : α → β) :
    (program.map f).Only sends calls :=
  only.bind fun _ => trivial

/-- All that a program of requests of one kind sends in a run is of that kind. -/
theorem Only.of_sent {program : Program α} {trace : List Interaction} {result : α}
    (only : program.Only sends calls) (run : program.Runs trace result) :
    ∀ request exchange, .sent request exchange ∈ trace → sends request := by
  intro request exchange
  induction run with
  | done => exact fun mem => absurd mem List.not_mem_nil
  | send _ ih =>
      intro mem
      rcases List.mem_cons.mp mem with same | later
      · cases same
        exact only.1
      · exact ih (only.2 _) later
  | call _ ih =>
      exact fun mem => ih (only.2 _) ((List.mem_cons.mp mem).resolve_left nofun)
  | clock _ ih =>
      exact fun mem => ih (only _) ((List.mem_cons.mp mem).resolve_left nofun)
  | log _ ih =>
      exact fun mem => ih only ((List.mem_cons.mp mem).resolve_left nofun)

end Program

/-- The names of the Secrets that a resource refers to. -/
def secretNames (spec : ClusterSpec) : List String :=
  (spec.credentials.map CredentialsSecretReference.name).toList ++
    (spec.ca.map CaSecretReference.name).toList

section Requests

variable {α : Type} {sends : Kubernetes.Request → Prop} {calls : RegistryRequest → Prop}

theorem only_patchCluster {space name part : String} {change : Change}
    {next : Except ApiError Cluster → Program α}
    (may : ∀ request : Kubernetes.Request,
      request.method = .patch → request.change = some change → sends request)
    (rest : ∀ reply, (next reply).Only sends calls) :
    (patchCluster space name part change next).Only sends calls := by
  unfold patchCluster
  split
  · exact rest _
  · next request built =>
      obtain ⟨method, asks⟩ := ofName_eq_ok built
      exact ⟨may request method asks, fun exchange => rest _⟩

theorem only_withSecret {space name : String} {next : Secret → Work}
    (may : ∀ request, Kubernetes.Request.secret space name = .ok request → sends request)
    (rest : ∀ secret, (next secret).Only sends calls) :
    (withSecret space name next).Only sends calls := by
  unfold withSecret
  split
  · trivial
  · next request built =>
      refine ⟨may request built, fun exchange => ?_⟩
      dsimp only
      split
      · trivial
      · exact rest _

theorem only_withValue {secret : Secret} {key : String} {next : String → Work}
    (rest : ∀ text, (next text).Only sends calls) :
    (withValue secret key next).Only sends calls := by
  unfold withValue
  split
  · trivial
  · exact rest _

theorem only_withUser {space : String} {reference : Option CredentialsSecretReference}
    {next : Option Elasticsearch.Credentials → Work}
    (may : ∀ name ∈ reference.map CredentialsSecretReference.name, ∀ request,
      Kubernetes.Request.secret space name = .ok request → sends request)
    (rest : ∀ user, (next user).Only sends calls) :
    (withUser space reference next).Only sends calls := by
  cases reference with
  | none => exact rest none
  | some reference =>
      refine only_withSecret (may _ rfl) fun secret =>
        only_withValue fun name => only_withValue ?_
      intro password
      exact rest (some ⟨name, password⟩)

theorem only_withCa {space : String} {reference : Option CaSecretReference}
    {next : List String → Work}
    (may : ∀ name ∈ reference.map CaSecretReference.name, ∀ request,
      Kubernetes.Request.secret space name = .ok request → sends request)
    (rest : ∀ ca, (next ca).Only sends calls) :
    (withCa space reference next).Only sends calls := by
  cases reference with
  | none => exact rest []
  | some reference =>
      refine only_withSecret (may _ rfl) fun secret => only_withValue ?_
      intro pem
      exact rest [pem]

/-- Work that builds the client of a cluster gets the Secrets that the resource refers to, and
goes on with the client. -/
theorem only_withClient {settings : Settings} {cluster : Cluster}
    {next : Elasticsearch.Client → Work}
    (may : ∀ name ∈ secretNames cluster.spec, ∀ request,
      Kubernetes.Request.secret cluster.identity.space name = .ok request → sends request)
    (rest : ∀ client, (next client).Only sends calls) :
    (withClient settings cluster next).Only sends calls := by
  refine only_withUser (fun name refers => may name ?_) fun user =>
    only_withCa (fun name refers => may name ?_) fun ca => ?_
  · exact List.mem_append_left _ (Option.mem_toList.mpr refers)
  · exact List.mem_append_right _ (Option.mem_toList.mpr refers)
  split
  · trivial
  · exact rest _

/-- The work for a cluster that is watched gets the Secrets that the resource refers to, resolves
the cluster, and sends a merge patch. -/
theorem only_apply {settings : Settings} {cluster : Cluster}
    (gets : ∀ name ∈ secretNames cluster.spec, ∀ request,
      Kubernetes.Request.secret cluster.identity.space name = .ok request → sends request)
    (patches : ∀ (request : Kubernetes.Request) (body : Json),
      request.method = .patch → request.change = some (.merge body) → sends request)
    (may : ∀ client, calls (.resolve cluster.identity client)) :
    (apply settings cluster).Only sends calls := by
  refine only_withClient gets fun client => ⟨may client, fun outcome now => ?_⟩
  dsimp only
  split
  · refine only_patchCluster (fun request => patches request _) fun reply => ?_
    cases reply <;> trivial
  · trivial

end Requests

/-! ## The work for a cluster -/

/-- A request removes the finalizer of a resource. -/
def IsRemoval (request : Kubernetes.Request) : Prop :=
  ∃ position, request.change = some (Finalizer.removal position)

theorem addition_ne_removal (metadata : ObjectMeta) (position : Nat) :
    Finalizer.addition metadata ≠ Finalizer.removal position := by
  unfold Finalizer.addition Finalizer.removal
  dsimp only
  split <;> simp [Finalizer.operation, Json.ofMembers]

theorem not_isRemoval_of_change {request : Kubernetes.Request} {change : Option Change}
    (asks : request.change = change)
    (other : ∀ position, change ≠ some (Finalizer.removal position)) : ¬IsRemoval request := by
  rintro ⟨position, removes⟩
  exact other position (asks.symm.trans removes)

theorem only_apply_not_isRemoval {settings : Settings} {cluster : Cluster}
    {calls : RegistryRequest → Prop} (may : ∀ client, calls (.resolve cluster.identity client)) :
    (apply settings cluster).Only (fun request => ¬IsRemoval request) calls := by
  refine only_apply (fun name _ request built => ?_) (fun request body _ patch => ?_) may
  · exact not_isRemoval_of_change (ofName_eq_ok built).2 fun position => nofun
  · exact not_isRemoval_of_change patch fun position => nofun

/-- A reconciliation calls the registry for no more than the observation of the cluster,
and removes no finalizer, unless the cluster is being deleted. -/
theorem only_reconcile {settings : Settings} {cluster : Cluster}
    (kept : ∀ position, Finalizer.work cluster.metadata ≠ .cleanup position) :
    (reconcile settings cluster).Only (fun request => ¬IsRemoval request) (fun request =>
      Finalizer.work cluster.metadata = .apply ∧
        ∃ client, request = .resolve cluster.identity client) := by
  unfold reconcile
  split
  · trivial
  · split
    · next _ work => exact (only_apply_not_isRemoval fun client => ⟨work, client, rfl⟩).map _
    · trivial
    · trivial
    · trivial
    · next position _ work _ => exact absurd work (kept position)
    · refine only_patchCluster (fun request _ patch => not_isRemoval_of_change patch ?_)
        fun reply => ?_
      · intro position same
        exact addition_ne_removal _ _ (Option.some.inj same)
      · cases reply <;> trivial

/-- A reconciliation of a cluster that is being deleted stops its observer first, and then
removes the finalizer. -/
theorem stopsFirst_reconcile {settings : Settings} {cluster : Cluster} {position : Nat}
    (deleted : Finalizer.work cluster.metadata = .cleanup position) :
    (reconcile settings cluster).StopsFirst IsRemoval cluster.identity := by
  unfold reconcile
  rw [deleted]
  split
  · trivial
  · cases cluster.metadata.name with
    | none => trivial
    | some name =>
        refine ⟨rfl, fun _ =>
          only_patchCluster (fun _ _ patch => ⟨position, patch⟩) fun reply => ?_⟩
        cases reply <;> trivial

end ClusterWatch.Reconciliation
