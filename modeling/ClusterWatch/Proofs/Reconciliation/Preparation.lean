import ClusterWatch.Proofs.Reconciliation.Interaction

/-!
# What a client is built from

Before work for a cluster calls the registry, it gets the Secrets that the resource refers to,
and takes the texts under the configured keys out of the replies.  These texts, the endpoint and
the timeout make the client, and nothing else that the Secrets hold does.
-/

namespace ClusterWatch.Reconciliation

open Elasticsearch (Client Credentials)
open Kubernetes (Exchange Secret)
open Observation (Settings)

/-! ## What a reconciliation has asked of the API and of the registry -/

/-- The request of an interaction that patches something. -/
def Interaction.patch? : Interaction → Option Kubernetes.Request
  | .sent request _ => if request.method = .patch then some request else none
  | _ => none

/-- The observation that an interaction gives. -/
def Interaction.observation? : Interaction → Option Observation
  | .called _ outcome => some (observationOf outcome)
  | _ => none

/-- The moment that an interaction gives. -/
def Interaction.moment? : Interaction → Option Timestamp
  | .asked now => some now
  | _ => none

/-- The patches among interactions. -/
def patches (trace : List Interaction) : List Kubernetes.Request :=
  trace.filterMap Interaction.patch?

/-- The observations among interactions. -/
def observations (trace : List Interaction) : List Observation :=
  trace.filterMap Interaction.observation?

/-- The moments among interactions. -/
def moments (trace : List Interaction) : List Timestamp :=
  trace.filterMap Interaction.moment?

/-- Interactions that neither patch nor observe anything. -/
def IsPreparation (trace : List Interaction) : Prop :=
  patches trace = [] ∧ observations trace = [] ∧ moments trace = []

theorem IsPreparation.append {first second : List Interaction} (one : IsPreparation first)
    (two : IsPreparation second) : IsPreparation (first ++ second) := by
  simp_all [IsPreparation, patches, observations, moments]

theorem IsPreparation.skip {first : List Interaction} (preparation : IsPreparation first)
    (rest : List Interaction) :
    patches (first ++ rest) = patches rest ∧ observations (first ++ rest) = observations rest ∧
      moments (first ++ rest) = moments rest := by
  simp_all [IsPreparation, patches, observations, moments]

theorem isPreparation_nil : IsPreparation [] :=
  ⟨rfl, rfl, rfl⟩

theorem isPreparation_get {request : Kubernetes.Request} (get : request.method = .get)
    (exchange : Kubernetes.Exchange) : IsPreparation [.sent request exchange] := by
  simp [IsPreparation, patches, observations, moments, Interaction.patch?,
    Interaction.observation?, Interaction.moment?, get]

theorem isPreparation_entered (entry : Entry) : IsPreparation [.entered entry] :=
  ⟨rfl, rfl, rfl⟩

/-! ## What is read -/

/-- `ReadsUser space reference trace user`: the credentials that a resource refers to have been
taken out of the reply to a request for their Secret. -/
inductive ReadsUser (space : String) :
    Option CredentialsSecretReference → List Interaction → Option Credentials → Prop where
  | none : ReadsUser space none [] none
  | some {reference : CredentialsSecretReference} {request : Kubernetes.Request}
      {exchange : Exchange} {secret : Secret} {name password : String} :
      Kubernetes.Request.secret space reference.name = .ok request →
        exchange.object Secret.reader = .ok secret →
        secret.value? reference.usernameKey = .ok name →
        secret.value? reference.passwordKey = .ok password →
        ReadsUser space (some reference) [.sent request exchange] (some ⟨name, password⟩)

/-- `ReadsCa space reference trace ca`: the certificates that a resource refers to have been
taken out of the reply to a request for their Secret. -/
inductive ReadsCa (space : String) :
    Option CaSecretReference → List Interaction → Option String → Prop where
  | none : ReadsCa space none [] none
  | some {reference : CaSecretReference} {request : Kubernetes.Request} {exchange : Exchange}
      {secret : Secret} {pem : String} :
      Kubernetes.Request.secret space reference.name = .ok request →
        exchange.object Secret.reader = .ok secret →
        secret.value? reference.key = .ok pem →
        ReadsCa space (some reference) [.sent request exchange] (some pem)

/-- Interactions begin with the work for a cluster in which a user and certificates are read from
Secrets. -/
def Draws (cluster : Cluster) (trace : List Interaction) (user : Option Credentials)
    (ca : Option String) : Prop :=
  ∃ first second rest,
    trace = .entered (.reconciling cluster.identity) :: (first ++ second ++ rest) ∧
    ReadsUser cluster.identity.space cluster.spec.credentials first user ∧
    ReadsCa cluster.identity.space cluster.spec.ca second ca

theorem Draws.append {cluster : Cluster} {trace : List Interaction} {user : Option Credentials}
    {ca : Option String} (draws : Draws cluster trace user ca) (more : List Interaction) :
    Draws cluster (trace ++ more) user ca := by
  obtain ⟨first, second, rest, rfl, reads⟩ := draws
  exact ⟨first, second, rest ++ more, by simp, reads⟩

/-- The client of a cluster with a user and certificates. -/
def clientWith (settings : Settings) (cluster : Cluster) (user : Option Credentials)
    (ca : Option String) : Client :=
  ⟨⟨Client.trimSlashes (endpoint cluster), user, ca.toList⟩, settings.timeout⟩

/-- An interaction is a call on the registry. -/
def Interaction.IsCall : Interaction → Prop
  | .called _ _ => True
  | _ => False

/-- Where nothing is observed, the registry is not called. -/
theorem not_isCall_of_observations {trace : List Interaction} (silent : observations trace = [])
    {interaction : Interaction} (mem : interaction ∈ trace) : ¬interaction.IsCall := by
  cases interaction with
  | called request outcome =>
      have observed : observationOf outcome ∈ observations trace :=
        List.mem_filterMap.mpr ⟨_, mem, rfl⟩
      rw [silent] at observed
      cases observed
  | _ => exact id

theorem get_of_secret {space name : String} {request : Kubernetes.Request}
    (built : Kubernetes.Request.secret space name = .ok request) : request.method = .get :=
  (ofName_eq_ok built).1

theorem ReadsUser.isPreparation {space : String} {reference : Option CredentialsSecretReference}
    {trace : List Interaction} {user : Option Credentials}
    (reads : ReadsUser space reference trace user) : IsPreparation trace := by
  cases reads with
  | none => exact isPreparation_nil
  | some built => exact isPreparation_get (get_of_secret built) _

theorem ReadsCa.isPreparation {space : String} {reference : Option CaSecretReference}
    {trace : List Interaction} {ca : Option String} (reads : ReadsCa space reference trace ca) :
    IsPreparation trace := by
  cases reads with
  | none => exact isPreparation_nil
  | some built => exact isPreparation_get (get_of_secret built) _

/-! ## Work that goes on, or fails -/

section Runs

variable {trace : List Interaction} {result : Except Cause Action} {space : String}

theorem runs_withSecret {name : String} {next : Secret → Work}
    (run : (withSecret space name next).Runs trace result) :
    (∃ cause, result = .error cause ∧ IsPreparation trace) ∨
      ∃ request exchange secret rest, trace = .sent request exchange :: rest ∧
        Kubernetes.Request.secret space name = .ok request ∧
        exchange.object Secret.reader = .ok secret ∧ (next secret).Runs rest result := by
  unfold withSecret at run
  split at run
  · next error unbuilt =>
      obtain ⟨rfl, rfl⟩ := Program.runs_done_iff.mp run
      exact .inl ⟨_, rfl, isPreparation_nil⟩
  · next request built =>
      obtain ⟨exchange, rest, rfl, after⟩ := Program.runs_send_iff.mp run
      split at after
      · obtain ⟨rfl, rfl⟩ := Program.runs_done_iff.mp after
        exact .inl ⟨_, rfl, isPreparation_get (get_of_secret built) exchange⟩
      · next secret got => exact .inr ⟨request, exchange, secret, rest, rfl, built, got, after⟩

theorem runs_withValue {secret : Secret} {key : String} {next : String → Work}
    (run : (withValue secret key next).Runs trace result) :
    (∃ cause, result = .error cause ∧ trace = []) ∨
      ∃ text, secret.value? key = .ok text ∧ (next text).Runs trace result := by
  unfold withValue at run
  split at run
  · obtain ⟨rfl, rfl⟩ := Program.runs_done_iff.mp run
    exact .inl ⟨_, rfl, rfl⟩
  · next text has => exact .inr ⟨text, has, run⟩

theorem runs_withUser {reference : Option CredentialsSecretReference}
    {next : Option Credentials → Work} (run : (withUser space reference next).Runs trace result) :
    (∃ cause, result = .error cause ∧ IsPreparation trace) ∨
      ∃ first rest user, trace = first ++ rest ∧ ReadsUser space reference first user ∧
        (next user).Runs rest result := by
  cases reference with
  | none => exact .inr ⟨[], trace, none, rfl, .none, run⟩
  | some reference =>
      rcases runs_withSecret run with
        failed | ⟨request, exchange, secret, rest, rfl, built, got, run⟩
      · exact .inl failed
      have sent := isPreparation_get (get_of_secret built) exchange
      rcases runs_withValue run with ⟨cause, failed, rfl⟩ | ⟨name, hasName, run⟩
      · exact .inl ⟨cause, failed, sent⟩
      rcases runs_withValue run with ⟨cause, failed, rfl⟩ | ⟨password, hasPassword, run⟩
      · exact .inl ⟨cause, failed, sent⟩
      exact .inr ⟨_, rest, _, rfl, .some built got hasName hasPassword, run⟩

theorem runs_withCa {reference : Option CaSecretReference} {next : List String → Work}
    (run : (withCa space reference next).Runs trace result) :
    (∃ cause, result = .error cause ∧ IsPreparation trace) ∨
      ∃ first rest ca, trace = first ++ rest ∧ ReadsCa space reference first ca ∧
        (next ca.toList).Runs rest result := by
  cases reference with
  | none => exact .inr ⟨[], trace, none, rfl, .none, run⟩
  | some reference =>
      rcases runs_withSecret run with
        failed | ⟨request, exchange, secret, rest, rfl, built, got, run⟩
      · exact .inl failed
      rcases runs_withValue run with ⟨cause, failed, rfl⟩ | ⟨pem, hasPem, run⟩
      · exact .inl ⟨cause, failed, isPreparation_get (get_of_secret built) exchange⟩
      exact .inr ⟨_, rest, _, rfl, .some built got hasPem, run⟩

end Runs

/-- Work for a cluster fails before it calls the registry, or it resolves the cluster with the
client that is built from what it has read, and reports. -/
theorem runs_apply_cases {settings : Settings} {cluster : Cluster} {trace : List Interaction}
    {result : Except Cause Action} (run : (apply settings cluster).Runs trace result) :
    (∃ cause, result = .error cause ∧ IsPreparation trace) ∨
      ∃ first rest outcome user ca, IsPreparation first ∧ Draws cluster first user ca ∧
        ca.toList.all Elasticsearch.Certificate.acceptsPem = true ∧
        trace = first ++ .called (.resolve cluster.identity (clientWith settings cluster user ca))
          outcome :: rest ∧
        (report settings cluster (observationOf outcome)).Runs rest result := by
  obtain ⟨rest, rfl, prepares⟩ := Program.runs_log_iff.mp run
  have entry := isPreparation_entered (.reconciling cluster.identity)
  rcases runs_withUser prepares with
    ⟨cause, rfl, failed⟩ | ⟨first, rest, user, rfl, readsUser, goesOn⟩
  · exact .inl ⟨cause, rfl, entry.append failed⟩
  have prepared := entry.append readsUser.isPreparation
  rcases runs_withCa goesOn with ⟨cause, rfl, failed⟩ | ⟨second, rest, ca, rfl, readsCa, builds⟩
  · exact .inl ⟨cause, rfl, prepared.append failed⟩
  have prepared := prepared.append readsCa.isPreparation
  dsimp only [Client.build?] at builds
  by_cases accepted : ca.toList.all Elasticsearch.Certificate.acceptsPem
  · rw [if_pos accepted] at builds
    obtain ⟨outcome, last, rfl, reports⟩ := Program.runs_call_iff.mp builds
    refine .inr ⟨_, last, outcome, user, ca, prepared, ⟨first, second, [], ?_, readsUser, readsCa⟩,
      accepted, ?_, reports⟩
    · simp
    · simp [clientWith]
  · rw [if_neg accepted] at builds
    obtain ⟨rfl, rfl⟩ := Program.runs_done_iff.mp builds
    refine .inl ⟨_, rfl, ?_⟩
    simpa using prepared

/-! ## What is fetched -/

/-- The bytes that a Secret holds under keys. -/
def contents (secret : Secret) (key : String) : Option (List UInt8) :=
  secret.data.bind fun data => data.lookup key

/-- What the Secret in the reply to an interaction holds, if the interaction gets one. -/
def Interaction.fetched? : Interaction → Option (Option (String → Option (List UInt8)))
  | .sent request exchange =>
      if request.method = .get then
        some ((exchange.object Secret.reader).toOption.map contents)
      else none
  | _ => none

/-- What the Secrets in the replies among interactions hold. -/
def fetched (trace : List Interaction) : List (Option (String → Option (List UInt8))) :=
  trace.filterMap Interaction.fetched?

@[simp]
theorem fetched_append (first second : List Interaction) :
    fetched (first ++ second) = fetched first ++ fetched second :=
  List.filterMap_append

theorem fetched_sent {request : Kubernetes.Request} (get : request.method = .get)
    (exchange : Exchange) (rest : List Interaction) :
    fetched (.sent request exchange :: rest) =
      (exchange.object Secret.reader).toOption.map contents :: fetched rest := by
  simp [fetched, Interaction.fetched?, get]

/-- A text is taken out of what a Secret holds. -/
theorem value?_eq_of_contents {secret other : Secret} (same : contents other = contents secret)
    (key : String) : other.value? key = secret.value? key := by
  have bytes : (other.data.bind fun data => data.lookup key) =
      secret.data.bind fun data => data.lookup key := congrFun same key
  rw [Secret.value?, Secret.value?, bytes]

section Again

variable {trace first : List Interaction} {result : Except Cause Action} {space : String}
  {more : List (Option (String → Option (List UInt8)))}

theorem runs_withValue_of_ok {secret : Secret} {key text : String} {next : String → Work}
    (run : (withValue secret key next).Runs trace result) (has : secret.value? key = .ok text) :
    (next text).Runs trace result := by
  unfold withValue at run
  rw [has] at run
  exact run

/-- A Secret that holds the same is got again. -/
theorem runs_withSecret_again {name : String} {next : Secret → Work}
    {request : Kubernetes.Request} {exchange : Exchange} {secret : Secret}
    (built : Kubernetes.Request.secret space name = .ok request)
    (got : exchange.object Secret.reader = .ok secret)
    (run : (withSecret space name next).Runs trace result)
    (same : fetched trace = fetched [.sent request exchange] ++ more) :
    ∃ exchange' secret' rest, trace = .sent request exchange' :: rest ∧
      exchange'.object Secret.reader = .ok secret' ∧ contents secret' = contents secret ∧
      fetched rest = more ∧ (next secret').Runs rest result := by
  unfold withSecret at run
  rw [built] at run
  obtain ⟨exchange', rest, rfl, after⟩ := Program.runs_send_iff.mp run
  have get := get_of_secret built
  rw [fetched_sent get, fetched_sent get, got] at same
  obtain ⟨head, tail⟩ := List.cons.inj same
  cases reply : exchange'.object Secret.reader with
  | error error =>
      rw [reply] at head
      cases head
  | ok secret' =>
      rw [reply] at head after
      exact ⟨exchange', secret', rest, rfl, reply, Option.some.inj head, tail, after⟩

theorem ReadsUser.again {reference : Option CredentialsSecretReference}
    {user : Option Credentials} {next : Option Credentials → Work}
    (reads : ReadsUser space reference first user)
    (run : (withUser space reference next).Runs trace result)
    (same : fetched trace = fetched first ++ more) :
    ∃ first' rest, trace = first' ++ rest ∧ ReadsUser space reference first' user ∧
      fetched rest = more ∧ (next user).Runs rest result := by
  cases reads with
  | none => exact ⟨[], trace, rfl, .none, same, run⟩
  | some built got hasName hasPassword =>
      obtain ⟨exchange, secret, rest, rfl, got', held, tail, after⟩ :=
        runs_withSecret_again built got run same
      have hasName' := (value?_eq_of_contents held _).trans hasName
      have hasPassword' := (value?_eq_of_contents held _).trans hasPassword
      exact ⟨_, rest, rfl, .some built got' hasName' hasPassword', tail,
        runs_withValue_of_ok (runs_withValue_of_ok after hasName') hasPassword'⟩

theorem ReadsCa.again {reference : Option CaSecretReference} {ca : Option String}
    {next : List String → Work} (reads : ReadsCa space reference first ca)
    (run : (withCa space reference next).Runs trace result)
    (same : fetched trace = fetched first ++ more) :
    ∃ first' rest, trace = first' ++ rest ∧ ReadsCa space reference first' ca ∧
      fetched rest = more ∧ (next ca.toList).Runs rest result := by
  cases reads with
  | none => exact ⟨[], trace, rfl, .none, same, run⟩
  | some built got hasPem =>
      obtain ⟨exchange, secret, rest, rfl, got', held, tail, after⟩ :=
        runs_withSecret_again built got run same
      have hasPem' := (value?_eq_of_contents held _).trans hasPem
      exact ⟨_, rest, rfl, .some built got' hasPem', tail, runs_withValue_of_ok after hasPem'⟩

end Again

/-- Work for a resource that asks for the same, and gets Secrets that hold the same, reads the
same from them and calls the registry. -/
theorem Draws.again {settings : Settings} {a b : Cluster} {trace retry : List Interaction}
    {result : Except Cause Action} {user : Option Credentials} {ca : Option String}
    (draws : Draws a trace user ca)
    (accepted : ca.toList.all Elasticsearch.Certificate.acceptsPem = true)
    (identity : b.identity = a.identity) (spec : b.spec = a.spec)
    (run : (apply settings b).Runs retry result) (same : fetched retry = fetched trace) :
    Draws b retry user ca ∧ ∃ interaction ∈ retry, interaction.IsCall := by
  obtain ⟨first, second, rest, rfl, readsUser, readsCa⟩ := draws
  obtain ⟨retry, rfl, prepares⟩ := Program.runs_log_iff.mp run
  have same : fetched retry = fetched first ++ (fetched second ++ fetched rest) := by
    rw [← List.append_assoc, ← fetched_append, ← fetched_append]
    exact same
  rw [← identity, ← spec] at readsUser readsCa
  obtain ⟨first', retry, rfl, readsUser', same, goesOn⟩ := readsUser.again prepares same
  obtain ⟨second', retry, rfl, readsCa', same, builds⟩ := readsCa.again goesOn same
  dsimp only [Client.build?] at builds
  rw [if_pos accepted] at builds
  obtain ⟨outcome, last, rfl, -⟩ := Program.runs_call_iff.mp builds
  constructor
  · exact ⟨first', second', _, by rw [List.append_assoc], readsUser', readsCa'⟩
  · refine ⟨.called (.resolve b.identity (clientWith settings b user ca)) outcome, ?_, trivial⟩
    exact List.mem_cons_of_mem _
      (List.mem_append_right _ (List.mem_append_right _ List.mem_cons_self))

/-! ## What is read is determined -/

theorem ReadsUser.unique {space : String} {reference : Option CredentialsSecretReference}
    {first first' rest rest' : List Interaction} {user user' : Option Credentials}
    (reads : ReadsUser space reference first user) (reads' : ReadsUser space reference first' user')
    (same : first ++ rest = first' ++ rest') : user = user' ∧ rest = rest' := by
  cases reads with
  | none =>
      cases reads'
      exact ⟨rfl, same⟩
  | some built got hasName hasPassword =>
      cases reads' with
      | some built' got' hasName' hasPassword' =>
          obtain ⟨head, tail⟩ := List.cons.inj same
          cases head
          cases got.symm.trans got'
          cases hasName.symm.trans hasName'
          cases hasPassword.symm.trans hasPassword'
          exact ⟨rfl, tail⟩

theorem ReadsCa.unique {space : String} {reference : Option CaSecretReference}
    {first first' rest rest' : List Interaction} {ca ca' : Option String}
    (reads : ReadsCa space reference first ca) (reads' : ReadsCa space reference first' ca')
    (same : first ++ rest = first' ++ rest') : ca = ca' := by
  cases reads with
  | none =>
      cases reads'
      rfl
  | some built got hasPem =>
      cases reads' with
      | some built' got' hasPem' =>
          obtain ⟨head, -⟩ := List.cons.inj same
          cases head
          cases got.symm.trans got'
          cases hasPem.symm.trans hasPem'
          rfl

/-- Interactions say what has been read. -/
theorem Draws.unique {cluster : Cluster} {trace : List Interaction}
    {user user' : Option Credentials} {ca ca' : Option String} (draws : Draws cluster trace user ca)
    (draws' : Draws cluster trace user' ca') : user = user' ∧ ca = ca' := by
  obtain ⟨first, second, rest, rfl, readsUser, readsCa⟩ := draws
  obtain ⟨first', second', rest', same, readsUser', readsCa'⟩ := draws'
  have same := (List.cons.inj same).2
  rw [List.append_assoc, List.append_assoc] at same
  obtain ⟨users, same⟩ := readsUser.unique readsUser' same
  exact ⟨users, readsCa.unique readsCa' same⟩

/-! ## Programs with another result -/

theorem Program.runs_map {α β : Type} {program : Program α} {f : α → β}
    {trace : List Interaction} {result : β} (run : (program.map f).Runs trace result) :
    ∃ a, program.Runs trace a ∧ result = f a := by
  induction program generalizing trace with
  | done a =>
      obtain ⟨rfl, rfl⟩ := runs_done_iff.mp run
      exact ⟨a, .done a, rfl⟩
  | send request next ih =>
      obtain ⟨exchange, rest, rfl, after⟩ := runs_send_iff.mp run
      obtain ⟨a, run, same⟩ := ih exchange after
      exact ⟨a, .send run, same⟩
  | call request next ih =>
      obtain ⟨outcome, rest, rfl, after⟩ := runs_call_iff.mp run
      obtain ⟨a, run, same⟩ := ih outcome after
      exact ⟨a, .call run, same⟩
  | clock next ih =>
      obtain ⟨now, rest, rfl, after⟩ := runs_clock_iff.mp run
      obtain ⟨a, run, same⟩ := ih now after
      exact ⟨a, .clock run, same⟩
  | log entry next ih =>
      obtain ⟨rest, rfl, after⟩ := runs_log_iff.mp run
      obtain ⟨a, run, same⟩ := ih after
      exact ⟨a, .log run, same⟩

end ClusterWatch.Reconciliation
