import ClusterWatch.Proofs.Kubernetes.Path
import ClusterWatch.Proofs.Reconciliation.Duties

/-!
# Which Secrets are asked for

Work for a cluster asks for the Secrets that its resource refers to, with paths that start in the
namespace of the resource.  Whether such a request stays in that namespace is up to the name: it
does exactly if the course of the name returns, and there are names for whatever the API has.
-/

namespace ClusterWatch.Reconciliation

open Kubernetes (Course Request Secret StaysIn above asked climb here resolve secretsPath
  secretsPlace)
open Observation (Settings)
open ServiceName (IsLabel)

/-! ## Where the requests lead -/

/-- Whatever comes back, the work for a cluster gets no other Secrets than those that the resource
refers to. -/
theorem gets_of_apply (settings : Settings) (cluster : Cluster) :
    (apply settings cluster).Only
      (fun request => request.method = .get → ∃ name ∈ secretNames cluster.spec,
        Request.secret cluster.identity.space name = .ok request)
      fun _ => True := by
  refine only_apply (fun name mem request built _ => ⟨name, mem, built⟩) ?_ fun _ => trivial
  intro request _ patch _ get
  cases patch.symm.trans get

theorem runs_withSecret_of_ok {space name : String} {request : Request} {next : Secret → Work}
    {trace : List Interaction} {result : Except Cause Action}
    (built : Request.secret space name = .ok request)
    (run : (withSecret space name next).Runs trace result) :
    ∃ exchange rest, trace = .sent request exchange :: rest := by
  unfold withSecret at run
  rw [built] at run
  obtain ⟨exchange, rest, sent, -⟩ := Program.runs_send_iff.mp run
  exact ⟨exchange, rest, sent⟩

/-- A Secret with credentials that can be asked for is asked for first. -/
theorem runs_apply_of_credentials {settings : Settings} {cluster : Cluster}
    {trace : List Interaction} {result : Except Cause Action}
    {reference : CredentialsSecretReference} {request : Request}
    (run : (apply settings cluster).Runs trace result)
    (refers : cluster.spec.credentials = some reference)
    (built : Request.secret cluster.identity.space reference.name = .ok request) :
    ∃ exchange rest,
      trace = .entered (.reconciling cluster.identity) :: .sent request exchange :: rest := by
  obtain ⟨rest, rfl, prepares⟩ := Program.runs_log_iff.mp run
  unfold withClient at prepares
  dsimp only at prepares
  rw [refers] at prepares
  obtain ⟨exchange, rest, rfl⟩ := runs_withSecret_of_ok built prepares
  exact ⟨exchange, rest, rfl⟩

/-- Work for a cluster in a namespace whose name is a label asks for Secrets that the resource
refers to, and for no others.  What is before a number sign and a question mark in a name is put
after the path of the Secrets of the namespace, and the request leads to a Secret of the namespace
exactly if the course of that returns; if it is a single segment, exactly if it is not a dot
segment or empty.  Any place of the API is asked for if the resource refers to it by a name that
begins with five levels up. -/
theorem secret_requests_of_apply {settings : Settings} {cluster : Cluster}
    {trace : List Interaction} {result : Except Cause Action}
    (label : IsLabel cluster.identity.space) (run : (apply settings cluster).Runs trace result) :
    (∀ request exchange, .sent request exchange ∈ trace → request.method = .get →
      ∃ name ∈ secretNames cluster.spec,
        request.path.toList = (secretsPath cluster.identity.space).toList ++ '/' :: asked name ∧
        (StaysIn cluster.identity.space request.path.toList ↔
          (Course.ofText (asked name)).Returns (secretsPlace cluster.identity.space)) ∧
        ('/' ∉ asked name → (StaysIn cluster.identity.space request.path.toList ↔
          asked name ∉ [[], here, above]))) ∧
    ∀ reference way, cluster.spec.credentials = some reference →
      reference.name = String.ofList (climb ++ '/' :: way) →
      (∀ c ∈ way, Kubernetes.isPathChar c = true) →
        ∃ request exchange, .sent request exchange ∈ trace ∧ request.method = .get ∧
          resolve request.path.toList = resolve ('/' :: way) := by
  constructor
  · intro request exchange sent get
    obtain ⟨name, mem, built⟩ :=
      (gets_of_apply settings cluster).of_sent run request exchange sent get
    have returns := Kubernetes.staysIn_iff_returns label built
    exact ⟨name, mem, Kubernetes.path_of_secret label built, returns,
      fun free => returns.trans (Kubernetes.returns_iff_of_not_mem free)⟩
  · intro reference way refers named chars
    have toList : reference.name.toList = climb ++ '/' :: way := by
      rw [named, String.toList_ofList]
    have some : reference.name ≠ "" := by
      intro empty
      rw [empty] at toList
      cases toList
    have chars : ∀ c ∈ reference.name.toList, Kubernetes.isPathChar c = true := by
      have climbs : ∀ c ∈ climb ++ ['/'], Kubernetes.isPathChar c = true :=
        List.all_eq_true.mp (by decide)
      intro c mem
      rw [toList, ← List.singleton_append, ← List.append_assoc] at mem
      exact (List.mem_append.mp mem).elim (climbs c) (chars c)
    obtain ⟨request, built⟩ := Kubernetes.exists_secret_of_isPathChar label some chars
    obtain ⟨exchange, rest, rfl⟩ := runs_apply_of_credentials run refers built
    refine ⟨request, exchange, by simp, (ofName_eq_ok built).1, ?_⟩
    rw [Kubernetes.path_of_secret label built, Kubernetes.asked_of_isPathChar chars, toList,
      Kubernetes.resolve_climb label]

/-! ## A name that leads out of a namespace -/

/-- A cluster resource in the namespace `elastic` with credentials in a Secret of some name. -/
def referringTo (name : String) : Cluster where
  metadata := { name := some "quickstart", space := some "elastic" }
  spec := ⟨none, some (.ofName name), none⟩
  status := none

theorem isLabel_elastic : IsLabel "elastic" where
  nonempty := by decide
  fits := by decide
  chars := ServiceName.isLabelChar_of_all (by decide)
  first := by
    rintro c ⟨rfl⟩
    decide
  last := by
    intro c last
    obtain rfl : 'c' = c := Option.some.inj last
    decide

/-- If the API cannot be reached, the work for the resource ends with the request for the Secret. -/
theorem exists_runs_referringTo (name : String) (some : name ≠ "")
    (chars : ∀ c ∈ name.toList, Kubernetes.isPathChar c = true) :
    ∃ request, Request.secret "elastic" name = .ok request ∧
      (apply .default (referringTo name)).Runs
        [.entered (.reconciling ⟨"elastic", "quickstart"⟩), .sent request .unreachable]
        (.error (.api .unreachable)) := by
  obtain ⟨request, built⟩ := Kubernetes.exists_secret_of_isPathChar isLabel_elastic some chars
  refine ⟨request, built, .log ?_⟩
  show (withSecret "elastic" name _).Runs _ _
  unfold withSecret
  rw [built]
  exact .send (.done _)

/-- From the Secrets of `elastic`, this name leads up to the root and down to those of another
namespace. -/
def detour : String :=
  "../../../../../api/v1/namespaces/kube-system/secrets/root"

/-- Its course does not return, and the request leads where the name says from the root on. -/
theorem secret_requests_of_apply_detour :
    IsLabel "elastic" ∧ ∃ request,
      (apply .default (referringTo detour)).Runs
        [.entered (.reconciling ⟨"elastic", "quickstart"⟩), .sent request .unreachable]
        (.error (.api .unreachable)) ∧
      ¬StaysIn "elastic" request.path.toList ∧
      resolve request.path.toList = secretsPlace "kube-system" ++ ["root".toList] := by
  have chars : ∀ c ∈ detour.toList, Kubernetes.isPathChar c = true :=
    List.all_eq_true.mp (by decide +kernel)
  obtain ⟨request, built, run⟩ := exists_runs_referringTo detour (by decide) chars
  have get : request.method = .get := (ofName_eq_ok built).1
  obtain ⟨asks, climbs⟩ := secret_requests_of_apply
    (show IsLabel (referringTo detour).identity.space from isLabel_elastic) run
  refine ⟨isLabel_elastic, request, run, fun stays => ?_, ?_⟩
  · obtain ⟨name, mem, -, iff, -⟩ := asks request .unreachable (by simp) get
    obtain rfl : name = detour := List.mem_singleton.mp mem
    obtain ⟨segment, -, down⟩ := iff.mp stays
    have course : Course.ofText (asked detour) =
        ⟨5, secretsPlace "kube-system" ++ ["root".toList]⟩ := by decide +kernel
    rw [course] at down
    have spaces : some "kube-system".toList = some "elastic".toList :=
      congrArg (fun place : List Kubernetes.Segment => place[3]?) down
    exact absurd spaces (by decide)
  · obtain ⟨other, exchange, sent, -, leads⟩ :=
      climbs (.ofName detour) "api/v1/namespaces/kube-system/secrets/root".toList rfl
        (by decide +kernel) (List.all_eq_true.mp (by decide +kernel))
    have same : other = request ∧ exchange = .unreachable := by simpa using sent
    rw [← same.1, leads]
    decide +kernel

/-- Not all requests for Secrets stay in the namespace of the resource. -/
theorem not_requests_stay :
    ¬∀ (settings : Settings) (cluster : Cluster) (trace : List Interaction)
      (result : Except Cause Action), IsLabel cluster.identity.space →
        (apply settings cluster).Runs trace result →
          ∀ request exchange, .sent request exchange ∈ trace → request.method = .get →
            ∃ segment, resolve request.path.toList =
              secretsPlace cluster.identity.space ++ [segment] := by
  intro stay
  obtain ⟨request, built, run⟩ :=
    exists_runs_referringTo "../../kube-system/secrets/root" (by decide)
      (List.all_eq_true.mp (by decide +kernel))
  obtain ⟨segment, stays⟩ := stay .default (referringTo "../../kube-system/secrets/root") _ _
    isLabel_elastic run request .unreachable (by simp) (ofName_eq_ok built).1
  have leads : resolve request.path.toList = secretsPlace "kube-system" ++ ["root".toList] := by
    rw [Kubernetes.path_of_secret isLabel_elastic built]
    decide +kernel
  have spaces : some "kube-system".toList = some "elastic".toList :=
    congrArg (fun place : List Kubernetes.Segment => place[3]?) (leads.symm.trans stays)
  exact absurd spaces (by decide)

end ClusterWatch.Reconciliation
