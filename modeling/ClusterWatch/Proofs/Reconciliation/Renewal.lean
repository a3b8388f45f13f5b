import ClusterWatch.Proofs.Reconciliation.Hosting

/-!
# When an observer is replaced

A reconciliation of a resource keeps the observer that the one before it has left exactly if its
client would be given the same connection: endpoint, user and certificates, whatever Secrets and
keys these come from.
-/

namespace ClusterWatch.Reconciliation

open Elasticsearch (Client Connection Credentials Interchangeable connection)
open Observation.Registry (Avoids Label Run State)
open Observation (ObserverId Settings)
open ServiceName (defaultEndpoint)

@[simp]
theorem connection_clientWith (settings : Settings) (cluster : Cluster) (user : Option Credentials)
    (ca : Option String) :
    connection (clientWith settings cluster user ca) =
      ⟨Client.trimSlashes (endpoint cluster), user, ca.toList⟩ :=
  rfl

/-- The parts of a connection are what it is made from. -/
theorem connection_eq_iff {e e' : String} {user user' : Option Credentials}
    {ca ca' : Option String} :
    (⟨e, user, ca.toList⟩ : Connection) = ⟨e', user', ca'.toList⟩ ↔
      e = e' ∧ user = user' ∧ ca = ca' := by
  have injective : ca.toList = ca'.toList ↔ ca = ca' := by
    cases ca <;> cases ca' <;> simp
  rw [Connection.mk.injEq, injective]

/-- Endpoints are the same without the slashes at their ends exactly if they have a base in
common. -/
theorem trimSlashes_eq_trimSlashes_iff {e e' : String} :
    Client.trimSlashes e = Client.trimSlashes e' ↔
      ∃ base, Client.IsBase e base ∧ Client.IsBase e' base := by
  constructor
  · intro same
    exact ⟨_, Client.trimSlashes_eq_iff.mp same, Client.trimSlashes_eq_iff.mp rfl⟩
  · rintro ⟨base, is, is'⟩
    rw [Client.trimSlashes_eq_iff.mpr is, Client.trimSlashes_eq_iff.mpr is']

/-- Two reconciliations of a resource that watch it and get as far as to call the registry, with
no other call on its cluster from the first to the second, in any state that calls on a fresh
registry can lead to:

* the observer that is registered after the second is the one that is registered after the first
  exactly if the endpoints, which are those of the specification or else those of the services of
  the clusters, are the same but for slashes at the end, and so are the users and the certificates
  that they have read from Secrets,
* otherwise the task of the old observer has ended, and the client of the new one has the
  endpoint without these slashes, the user and the certificates of the second. -/
theorem observer_kept_iff {start s t u v : Observers}
    {past labels between later : List (Label Client)}
    {events : List (ObserverId × Observation.Event)} {a b : Cluster}
    {first second : List Interaction} {result result' : Except Error Action}
    (fresh : start.IsFresh) (own : ∀ label ∈ past, label.IsOwn) (run : Run start past s events)
    (same : b.identity = a.identity) (watched : Finalizer.work a.metadata = .apply)
    (watched' : Finalizer.work b.metadata = .apply)
    (reconciles : (reconcile s.settings a).Runs first result)
    (calls : ∃ interaction ∈ first, interaction.IsCall) (hosts : Hosts a.identity s first labels t)
    (apart : Avoids a.identity t between u)
    (again : (reconcile u.settings b).Runs second result')
    (calls' : ∃ interaction ∈ second, interaction.IsCall)
    (hosts' : Hosts a.identity u second later v) :
    ∃ user ca user' ca' id id', Draws a first user ca ∧ Draws b second user' ca' ∧
      t.entry? a.identity = some id ∧ v.entry? a.identity = some id' ∧
      (id' = id ↔
        (∃ base, Client.IsBase (a.spec.endpoint.getD (defaultEndpoint a.identity)) base ∧
          Client.IsBase (b.spec.endpoint.getD (defaultEndpoint b.identity)) base) ∧
        user = user' ∧ ca = ca') ∧
      (id' ≠ id → (∃ o, v.observers[id]? = some o ∧ o.task.isFinished = true) ∧
        ∃ o base, v.observers[id']? = some o ∧
          Client.IsBase (b.spec.endpoint.getD (defaultEndpoint b.identity)) base ∧
          connection o.client = ⟨base, user', ca'.toList⟩) := by
  have regular := run.regular fresh own
  obtain ⟨regular, user, ca, id, draws, -, resolved, -⟩ :=
    hosts.exists_resolved regular watched reconciles calls
  have entered := resolved.provides.entry
  obtain ⟨regular, ⟨entered', o, known, -, serves⟩, -⟩ := apart.provides regular resolved.provides
  rw [← same] at hosts' entered'
  obtain ⟨-, user', ca', id', draws', -, resolved', -⟩ :=
    hosts'.exists_resolved regular watched' again calls'
  have agrees : Interchangeable o.client (clientWith u.settings b user' ca') ↔
      (∃ base, Client.IsBase (endpoint a) base ∧ Client.IsBase (endpoint b) base) ∧
        user = user' ∧ ca = ca' := by
    rw [Interchangeable, serves, connection_clientWith, connection_clientWith, connection_eq_iff,
      trimSlashes_eq_trimSlashes_iff]
  refine ⟨user, ca, user', ca', id, id', draws, draws', entered, same ▸ resolved'.provides.entry,
    Iff.trans ?_ agrees, ?_⟩
  · constructor
    · rintro rfl
      exact Decidable.byContradiction fun differs =>
        (resolved'.renews id' o entered' known differs).differs rfl
    · exact fun serves => (resolved'.keeps id o entered' known serves).1
  · intro differs
    have renews := resolved'.renews id o entered' known fun serves =>
      differs (resolved'.keeps id o entered' known serves).1
    obtain ⟨y, knownY, is⟩ := renews.client
    exact ⟨renews.ended, y, _, knownY, Client.trimSlashes_eq_iff.mp rfl, congrArg connection is⟩

/-- A cluster resource with an endpoint and with users in a Secret, of which nothing has been
observed. -/
def secured (endpoint : String) : Cluster where
  metadata :=
    { name := some "quickstart", space := some "elastic", finalizers := some [Finalizer.name] }
  spec := ⟨some endpoint, some (.ofName "users"), none⟩
  status := some ⟨.unknown, none, none, none, none⟩

/-- The reply with a Secret that holds a password in base64. -/
def replyWith (password : String) : Kubernetes.Exchange :=
  .answered 200 ("\x7b\"data\":\x7b\"username\":\"ZWxhc3RpYw==\",\"password\":\"" ++ password ++
    "\"\x7d\x7d").toUTF8.toList

/-- No certificates are read for it. -/
theorem ca_eq_none_of_draws_secured {endpoint : String} {trace : List Interaction}
    {user : Option Credentials} {ca : Option String}
    (draws : Draws (secured endpoint) trace user ca) : ca = none := by
  obtain ⟨first, second, rest, -, -, reads⟩ := draws
  cases reads
  rfl

/-- Slashes at the end of the endpoint do not count, so the observer stays.  If the password has
changed as well, the task of the observer ends while the reconciliation waits for it, and another
one takes its place. -/
theorem observer_kept_iff_secured :
    let a := secured "https://es:9200"
    let b := secured "https://es:9200//"
    ∃ (t u v w : Observers) (first second third : List Interaction)
      (result result' result'' : Except Error Action) (user user' : Option Credentials),
      (reconcile .default a).Runs first result ∧ Draws a first user none ∧
      t.entry? a.identity = some 0 ∧
      (reconcile u.settings b).Runs second result' ∧ Draws b second user none ∧
      v.entry? a.identity = some 0 ∧
      (reconcile u.settings b).Runs third result'' ∧ Draws b third user' none ∧ user ≠ user' ∧
      w.entry? a.identity = some 1 ∧
      (∃ o, w.observers[0]? = some o ∧ o.task.isFinished = true) ∧
      ∃ o, w.observers[1]? = some o ∧ connection o.client = ⟨"https://es:9200", user', []⟩ := by
  intro a b
  have hosted : ((reconcile .default a).host? a.identity
      [.reply (replyWith "b25l"), .serve (List.replicate 4 (.call 0)), .tell .epoch]
      (.empty .default)).any (fun first =>
        (∃ interaction ∈ first.trace, interaction.IsCall) ∧
        first.registry.entry? a.identity = some 0 ∧
        (rest? a.identity first.registry).any fun u =>
          (((reconcile u.settings b).host? a.identity
            [.reply (replyWith "b25l"), .serve (List.replicate 2 (.call 1)), .tell .epoch] u).any
              fun second =>
                (∃ interaction ∈ second.trace, interaction.IsCall) ∧
                  second.registry.entry? a.identity = some 0) ∧
          ((reconcile u.settings b).host? a.identity
            [.reply (replyWith "dHdv"),
              .serve (List.replicate 5 (.call 1) ++ .task 0 .unreachable ::
                List.replicate 5 (.call 1)),
              .tell .epoch]
            u).any fun third =>
              (∃ interaction ∈ third.trace, interaction.IsCall) ∧
                third.registry.entry? a.identity = some 1) = true := by
    decide +kernel
  obtain ⟨⟨first, t, result⟩, hosts, holds⟩ := (Option.any_eq_true ..).mp hosted
  obtain ⟨calls, entered, holds⟩ := of_decide_eq_true holds
  obtain ⟨u, rests, holds⟩ := (Option.any_eq_true ..).mp holds
  obtain ⟨keeps, renews⟩ := of_decide_eq_true holds
  obtain ⟨⟨second, v, result'⟩, hosts', holds⟩ := (Option.any_eq_true ..).mp keeps
  obtain ⟨calls', entered'⟩ := of_decide_eq_true holds
  obtain ⟨⟨third, w, result''⟩, hosts'', holds⟩ := (Option.any_eq_true ..).mp renews
  obtain ⟨calls'', entered''⟩ := of_decide_eq_true holds
  obtain ⟨run, labels, hosts⟩ := exists_hosts_of_host? hosts
  obtain ⟨run', labels', hosts'⟩ := exists_hosts_of_host? hosts'
  obtain ⟨run'', labels'', hosts''⟩ := exists_hosts_of_host? hosts''
  have watched : Finalizer.work a.metadata = .apply := by decide +kernel
  have base : Client.IsBase "https://es:9200" "https://es:9200" ∧
      Client.IsBase "https://es:9200//" "https://es:9200" :=
    ⟨⟨⟨0, by decide⟩, by decide⟩, ⟨2, by decide⟩, by decide⟩
  obtain ⟨user, ca, user₂, ca₂, id, id₂, draws, draws₂, former, latter, same, -⟩ :=
    observer_kept_iff (a := a) (b := b) (State.isFresh_empty .default) (by simp) (.nil _) rfl
      watched watched run calls hosts (avoids_of_rest? rests) run' calls' hosts'
  obtain ⟨user₁, ca₁, user', ca', id₁, id', draws₁, draws', former₁, latter', differs, renews⟩ :=
    observer_kept_iff (a := a) (b := b) (State.isFresh_empty .default) (by simp) (.nil _) rfl
      watched watched run calls hosts (avoids_of_rest? rests) run'' calls'' hosts''
  obtain rfl := ca_eq_none_of_draws_secured draws
  obtain rfl := ca_eq_none_of_draws_secured draws'
  obtain ⟨rfl, rfl⟩ := draws.unique draws₁
  obtain rfl : id = 0 := Option.some.inj (former.symm.trans entered)
  obtain rfl : id₂ = 0 := Option.some.inj (latter.symm.trans entered')
  obtain rfl : id₁ = 0 := Option.some.inj (former₁.symm.trans entered)
  obtain rfl : id' = 1 := Option.some.inj (latter'.symm.trans entered'')
  obtain ⟨-, rfl, rfl⟩ := same.mp rfl
  obtain ⟨ended, o, base', known, isBase, is⟩ := renews (by decide)
  obtain rfl : base' = "https://es:9200" :=
    (Client.trimSlashes_eq_iff.mpr isBase).symm.trans (Client.trimSlashes_eq_iff.mpr base.2)
  refine ⟨t, u, v, w, first, second, third, result, result', result'', user, user', run, draws,
    entered, run', draws₂, entered', run'', draws', ?_, entered'', ended, o, known, is⟩
  rintro rfl
  exact absurd (differs.mpr ⟨⟨_, base⟩, rfl, rfl⟩) (by decide)

end ClusterWatch.Reconciliation
