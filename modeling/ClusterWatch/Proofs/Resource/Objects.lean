import ClusterWatch.Elasticsearch.Health
import ClusterWatch.Elasticsearch.License
import ClusterWatch.Proofs.Json.Description
import ClusterWatch.Resource.Spec
import ClusterWatch.Resource.Status

/-!
# Which objects are decoded

The answers of an Elasticsearch cluster and the parts of a cluster resource are decoded from JSON
objects.  For each of them the members that it is told by are listed: the keys, what may stand under
them, and what stands for those that are absent.
-/

namespace ClusterWatch

open Json (Members Holds ReadsMembers IsBlanks IsObject IsSpelling IsValue Spells)

/-! ## Answers of a cluster -/

namespace Health

/-- The keys of a health record, and the texts that are taken under them. -/
def known : List (String × (String → Prop)) :=
  [("cluster_name", Json.text.Accepts), ("status", HealthStatus.reader.Accepts),
    ("timed_out", Json.boolean.Accepts), ("number_of_nodes", Json.uint32.Accepts),
    ("number_of_data_nodes", Json.uint32.Accepts), ("active_primary_shards", Json.uint32.Accepts),
    ("active_shards", Json.uint32.Accepts), ("relocating_shards", Json.uint32.Accepts),
    ("initializing_shards", Json.uint32.Accepts), ("unassigned_shards", Json.uint32.Accepts)]

/-- The members of an object tell the health of a cluster. -/
@[mk_iff]
structure Told (members : Members) (h : Health) : Prop where
  clusterName : Holds members "cluster_name" Json.text none h.clusterName
  status : Holds members "status" HealthStatus.reader none h.status
  timedOut : Holds members "timed_out" Json.boolean (some false) h.timedOut
  numberOfNodes : Holds members "number_of_nodes" Json.uint32 (some 0) h.numberOfNodes
  numberOfDataNodes :
    Holds members "number_of_data_nodes" Json.uint32 (some 0) h.numberOfDataNodes
  activePrimaryShards :
    Holds members "active_primary_shards" Json.uint32 (some 0) h.activePrimaryShards
  activeShards : Holds members "active_shards" Json.uint32 (some 0) h.activeShards
  relocatingShards : Holds members "relocating_shards" Json.uint32 (some 0) h.relocatingShards
  initializingShards :
    Holds members "initializing_shards" Json.uint32 (some 0) h.initializingShards
  unassignedShards : Holds members "unassigned_shards" Json.uint32 (some 0) h.unassignedShards

/-- The row of values of a health record. -/
def toRow (h : Health) : Row :=
  (h.clusterName, h.status, h.timedOut, h.numberOfNodes, h.numberOfDataNodes,
    h.activePrimaryShards, h.activeShards, h.relocatingShards, h.initializingShards,
    h.unassignedShards, ())

theorem settled_fields : fields.Settled := by
  have number := Json.isSettled_uint32
  exact ⟨Json.isSettled_text, Json.isSettled_oneOf _, Json.isSettled_boolean, number, number,
    number, number, number, number, number, trivial⟩

theorem readsMembers : ReadsMembers reader known ["cluster_name", "status"] [] Told := by
  refine (settled_fields.readsMembers (by decide) "Health" ?_).map toRow (fun _ => rfl)
    (fun _ => rfl) fun members h => ?_
  · simp [Json.Fields.known, fields, HealthStatus.reader]
  · simp [Json.Fields.Holds, fields, toRow, told_iff, Json.Absence.inObject]

end Health

namespace License

/-- The keys of a license, and the texts that are taken under them. -/
def known : List (String × (String → Prop)) :=
  [("uid", Json.text.Accepts), ("type", Json.text.Accepts), ("status", Json.text.Accepts),
    ("expiry_date_in_millis", (Json.optional Json.int64).Accepts)]

/-- The members of an object tell a license. -/
@[mk_iff]
structure Told (members : Members) (l : License) : Prop where
  uid : Holds members "uid" Json.text none l.uid
  type : Holds members "type" Json.text none l.type
  status : Holds members "status" Json.text none l.status
  expiryDateInMillis : Holds members "expiry_date_in_millis" (Json.optional Json.int64) (some none)
    l.expiryDateInMillis

theorem settled_fields : fields.Settled :=
  ⟨Json.isSettled_text, Json.isSettled_text, Json.isSettled_text, Json.isSettled_int64.optional,
    trivial⟩

theorem readsMembers :
    ReadsMembers reader known ["uid", "type", "status"] ["expiry_date_in_millis"] Told := by
  refine (settled_fields.readsMembers (by decide) "License" ?_).map
    (fun l => (l.uid, l.type, l.status, l.expiryDateInMillis, ())) (fun _ => rfl) (fun _ => rfl)
    fun members l => ?_
  · simp [Json.Fields.known, fields]
  · simp [Json.Fields.Holds, fields, told_iff, Json.Absence.inObject]

/-- No license is read from `null`. -/
theorem not_accepts_null : ¬reader.Accepts "null" :=
  Json.not_accepts_of_toOption rfl

/-- The only key of the envelope around a license, and the texts that are taken under it. -/
def knownInEnvelope : List (String × (String → Prop)) :=
  [("license", reader.Accepts)]

/-- The members of an object tell the license in an envelope. -/
def ToldInEnvelope (members : Members) (l : License) : Prop :=
  Holds members "license" reader none l

theorem readsMembers_envelope :
    ReadsMembers envelopeReader knownInEnvelope ["license"] [] ToldInEnvelope := by
  have settled : envelopeFields.Settled :=
    ⟨(settled_fields.isSettled_readRecord _).map _, trivial⟩
  refine (settled.readsMembers (by decide) "LicenseResponse" ?_).map (fun l => (l, ()))
    (fun _ => rfl) (fun _ => rfl) fun members l => ?_
  · simp [Json.Fields.known, envelopeFields, not_accepts_null]
  · simp [Json.Fields.Holds, envelopeFields, ToldInEnvelope, Json.Absence.inObject]

end License

/-! ## Parts of a cluster resource -/

namespace CredentialsSecretReference

/-- The keys of a reference to credentials, and the texts that are taken under them. -/
def known : List (String × (String → Prop)) :=
  [("name", Json.text.Accepts), ("usernameKey", Json.text.Accepts),
    ("passwordKey", Json.text.Accepts)]

/-- The members of an object tell a reference to credentials. -/
@[mk_iff]
structure Told (members : Members) (r : CredentialsSecretReference) : Prop where
  name : Holds members "name" Json.text none r.name
  usernameKey : Holds members "usernameKey" Json.text (some "username") r.usernameKey
  passwordKey : Holds members "passwordKey" Json.text (some "password") r.passwordKey

theorem settled_fields : fields.Settled :=
  ⟨Json.isSettled_text, Json.isSettled_text, Json.isSettled_text, trivial⟩

theorem readsMembers : ReadsMembers reader known ["name"] [] Told := by
  refine (settled_fields.readsMembers (by decide) "CredentialsSecretReference" ?_).map
    (fun r => (r.name, r.usernameKey, r.passwordKey, ())) (fun _ => rfl) (fun _ => rfl)
    fun members r => ?_
  · simp [Json.Fields.known, fields]
  · simp [Json.Fields.Holds, fields, told_iff, Json.Absence.inObject]

end CredentialsSecretReference

namespace CaSecretReference

/-- The keys of a reference to a certificate, and the texts that are taken under them. -/
def known : List (String × (String → Prop)) :=
  [("name", Json.text.Accepts), ("key", Json.text.Accepts)]

/-- The members of an object tell a reference to a certificate. -/
@[mk_iff]
structure Told (members : Members) (r : CaSecretReference) : Prop where
  name : Holds members "name" Json.text none r.name
  key : Holds members "key" Json.text (some "ca.crt") r.key

theorem settled_fields : fields.Settled :=
  ⟨Json.isSettled_text, Json.isSettled_text, trivial⟩

theorem readsMembers : ReadsMembers reader known ["name"] [] Told := by
  refine (settled_fields.readsMembers (by decide) "CaSecretReference" ?_).map
    (fun r => (r.name, r.key, ())) (fun _ => rfl) (fun _ => rfl) fun members r => ?_
  · simp [Json.Fields.known, fields]
  · simp [Json.Fields.Holds, fields, told_iff, Json.Absence.inObject]

end CaSecretReference

namespace ClusterSpec

/-- The keys of a specification, and the texts that are taken under them. -/
def known : List (String × (String → Prop)) :=
  [("endpoint", (Json.optional Json.text).Accepts),
    ("credentialsSecretRef", (Json.optional CredentialsSecretReference.reader).Accepts),
    ("caSecretRef", (Json.optional CaSecretReference.reader).Accepts)]

/-- The members of an object tell a specification. -/
@[mk_iff]
structure Told (members : Members) (s : ClusterSpec) : Prop where
  endpoint : Holds members "endpoint" (Json.optional Json.text) (some none) s.endpoint
  credentials : Holds members "credentialsSecretRef"
    (Json.optional CredentialsSecretReference.reader) (some none) s.credentials
  ca : Holds members "caSecretRef" (Json.optional CaSecretReference.reader) (some none) s.ca

theorem settled_fields : fields.Settled :=
  ⟨Json.isSettled_text.optional,
    ((CredentialsSecretReference.settled_fields.isSettled_readRecord _).map _).optional,
    ((CaSecretReference.settled_fields.isSettled_readRecord _).map _).optional, trivial⟩

theorem readsMembers :
    ReadsMembers reader known [] ["endpoint", "credentialsSecretRef", "caSecretRef"] Told := by
  refine (settled_fields.readsMembers (by decide) "ElasticsearchClusterSpec" ?_).map
    (fun s => (s.endpoint, s.credentials, s.ca, ())) (fun _ => rfl) (fun _ => rfl)
    fun members s => ?_
  · simp [Json.Fields.known, fields]
  · simp [Json.Fields.Holds, fields, told_iff, Json.Absence.inObject]

end ClusterSpec

namespace ClusterStatus

/-- The keys of a status, and the texts that are taken under them. -/
def known : List (String × (String → Prop)) :=
  [("phase", ClusterPhase.reader.Accepts), ("clusterName", (Json.optional Json.text).Accepts),
    ("numberOfNodes", (Json.optional Json.uint32).Accepts),
    ("licenseType", (Json.optional Json.text).Accepts),
    ("lastObserved", (Json.optional Json.timestamp).Accepts)]

/-- The members of an object tell a status. -/
@[mk_iff]
structure Told (members : Members) (s : ClusterStatus) : Prop where
  phase : Holds members "phase" ClusterPhase.reader none s.phase
  clusterName : Holds members "clusterName" (Json.optional Json.text) (some none) s.clusterName
  numberOfNodes :
    Holds members "numberOfNodes" (Json.optional Json.uint32) (some none) s.numberOfNodes
  licenseType : Holds members "licenseType" (Json.optional Json.text) (some none) s.licenseType
  lastObserved :
    Holds members "lastObserved" (Json.optional Json.timestamp) (some none) s.lastObserved

theorem settled_fields : fields.Settled :=
  ⟨Json.isSettled_oneOf _, Json.isSettled_text.optional, Json.isSettled_uint32.optional,
    Json.isSettled_text.optional, Json.isSettled_timestamp.optional, trivial⟩

theorem readsMembers : ReadsMembers reader known ["phase"]
    ["clusterName", "numberOfNodes", "licenseType", "lastObserved"] Told := by
  refine (settled_fields.readsMembers (by decide) "ElasticsearchClusterStatus" ?_).map
    (fun s => (s.phase, s.clusterName, s.numberOfNodes, s.licenseType, s.lastObserved, ()))
    (fun _ => rfl) (fun _ => rfl) fun members s => ?_
  · simp [Json.Fields.known, fields, ClusterPhase.reader]
  · simp [Json.Fields.Holds, fields, told_iff, Json.Absence.inObject]

end ClusterStatus

/-! ## All of them -/

/-- An unknown member may stand before a known one, whose key may be spelled with an escape. -/
theorem isObject_escaped :
    IsObject "\x7b\"x\":[\"\\ud800\" ], \"n\\u0061me\":\"b\"\x7d".toList
      [("x", "[\"\\ud800\" ]".toList), ("name", "\"b\"".toList)] := by
  have none : IsBlanks [] := by simp
  have blank : IsBlanks [' '] := by simp [Json.isSpace]
  have x : Spells "x".toList "x" := .of_isVerbatim (by decide)
  have name : Spells ['n', '\\', 'u', '0', '0', '6', '1', 'm', 'e'] "name" :=
    ⟨_, .plain (by decide) (by decide) (by decide) <| .unit rfl <|
      .plain (by decide) (by decide) (by decide) <|
      .plain (by decide) (by decide) (by decide) .nil,
      .char <| .unit (by decide) <| .char <| .char .nil⟩
  have lone : IsSpelling ['\\', 'u', 'd', '8', '0', '0'] := ⟨_, .unit rfl .nil⟩
  have letter : Spells "b".toList "b" := .of_isVerbatim (by decide)
  have array : IsValue ('[' :: ([] ++ ('\"' :: (['\\', 'u', 'd', '8', '0', '0'] ++ ['\"']) ++
      ([' '] ++ [']'])))) :=
    .array (.entries none (.close blank)) (List.forall_mem_singleton.mpr (.string lone))
  have string : IsValue ('\"' :: ("b".toList ++ ['\"'])) := .string letter.isSpelling
  exact IsObject.members none none
    (.entries none <| .comma none blank <| .close none)
    (.cons (.keyed none none) <| .cons (.keyed none none) .nil)
    (.cons (b := ("x", _)) ⟨x, rfl⟩ <| .cons (b := ("name", _)) ⟨name, rfl⟩ .nil)
    (List.forall_mem_cons.mpr ⟨array, List.forall_mem_singleton.mpr string⟩)

/-- Members may stand in any order. -/
theorem isObject_health :
    IsObject "\x7b\"number_of_nodes\":3 , \"status\":\"red\",\"cluster_name\":\"b\"\x7d".toList
      [("number_of_nodes", ['3']), ("status", "\"red\"".toList),
        ("cluster_name", "\"b\"".toList)] := by
  have none : IsBlanks [] := by simp
  have blank : IsBlanks [' '] := by simp [Json.isSpace]
  have nodes : Spells "number_of_nodes".toList "number_of_nodes" := .of_isVerbatim (by decide)
  have status : Spells "status".toList "status" := .of_isVerbatim (by decide)
  have name : Spells "cluster_name".toList "cluster_name" := .of_isVerbatim (by decide)
  have red : Spells "red".toList "red" := .of_isVerbatim (by decide)
  have letter : Spells "b".toList "b" := .of_isVerbatim (by decide)
  have number : IsValue (['3'] ++ ([] ++ [])) :=
    .positive (.parts (.digits rfl (by decide) (by simp)) .none .none)
  exact IsObject.members none none
    (.entries none <| .comma blank blank <| .comma none none <| .close none)
    (.cons (.keyed none none) <| .cons (.keyed none none) <| .cons (.keyed none none) .nil)
    (.cons (b := ("number_of_nodes", _)) ⟨nodes, rfl⟩ <|
      .cons (b := ("status", _)) ⟨status, rfl⟩ <|
      .cons (b := ("cluster_name", _)) ⟨name, rfl⟩ .nil)
    (List.forall_mem_cons.mpr ⟨number, List.forall_mem_cons.mpr ⟨.string red.isSpelling,
      List.forall_mem_singleton.mpr (.string letter.isSpelling)⟩⟩)

/-- All objects are decoded by their members under known keys, wherever they stand. -/
theorem objects_read_by_members :
    ReadsMembers Health.reader Health.known ["cluster_name", "status"] [] Health.Told ∧
    ReadsMembers License.reader License.known ["uid", "type", "status"] ["expiry_date_in_millis"]
      License.Told ∧
    ReadsMembers License.envelopeReader License.knownInEnvelope ["license"] []
      License.ToldInEnvelope ∧
    ReadsMembers CredentialsSecretReference.reader CredentialsSecretReference.known ["name"] []
      CredentialsSecretReference.Told ∧
    ReadsMembers CaSecretReference.reader CaSecretReference.known ["name"] []
      CaSecretReference.Told ∧
    ReadsMembers ClusterSpec.reader ClusterSpec.known []
      ["endpoint", "credentialsSecretRef", "caSecretRef"] ClusterSpec.Told ∧
    ReadsMembers ClusterStatus.reader ClusterStatus.known ["phase"]
      ["clusterName", "numberOfNodes", "licenseType", "lastObserved"] ClusterStatus.Told :=
  ⟨Health.readsMembers, License.readsMembers, License.readsMembers_envelope,
    CredentialsSecretReference.readsMembers, CaSecretReference.readsMembers,
    ClusterSpec.readsMembers, ClusterStatus.readsMembers⟩

/-- Such objects are decoded, with the defaults for the keys that do not occur. -/
theorem objects_read_by_members_escaped :
    let red : Health := ⟨"b", .red, false, 3, 0, 0, 0, 0, 0, 0⟩
    CaSecretReference.Told [("x", "[\"\\ud800\" ]".toList), ("name", "\"b\"".toList)]
      ⟨"b", "ca.crt"⟩ ∧
    CaSecretReference.reader.decode "\x7b\"x\":[\"\\ud800\" ], \"n\\u0061me\":\"b\"\x7d" =
      .ok ⟨"b", "ca.crt"⟩ ∧
    Health.Told
      [("number_of_nodes", ['3']), ("status", "\"red\"".toList),
        ("cluster_name", "\"b\"".toList)] red ∧
    Health.reader.decode
        "\x7b\"number_of_nodes\":3 , \"status\":\"red\",\"cluster_name\":\"b\"\x7d" =
      .ok red := by
  intro red
  have told : CaSecretReference.Told
      [("x", "[\"\\ud800\" ]".toList), ("name", "\"b\"".toList)] ⟨"b", "ca.crt"⟩ :=
    ⟨.member rfl rfl, .absent rfl rfl⟩
  have told' : Health.Told
      [("number_of_nodes", ['3']), ("status", "\"red\"".toList),
        ("cluster_name", "\"b\"".toList)] red :=
    ⟨.member rfl rfl, .member rfl rfl, .absent rfl rfl, .member rfl rfl, .absent rfl rfl,
      .absent rfl rfl, .absent rfl rfl, .absent rfl rfl, .absent rfl rfl, .absent rfl rfl⟩
  obtain ⟨health, -, -, -, ca, -⟩ := objects_read_by_members
  exact ⟨told, (ca.decode_eq_ok_iff isObject_escaped _).mpr told, told',
    (health.decode_eq_ok_iff isObject_health _).mpr told'⟩

end ClusterWatch
