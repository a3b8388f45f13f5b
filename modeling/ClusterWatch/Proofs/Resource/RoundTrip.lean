import ClusterWatch.Elasticsearch.Health
import ClusterWatch.Elasticsearch.License
import ClusterWatch.Proofs.Json.Record
import ClusterWatch.Resource.Spec
import ClusterWatch.Resource.Status

/-!
# Values that are decoded as they were encoded

What clusters answer with, what resources ask for and what is reported of them is decoded from
the text that is written for it.
-/

namespace ClusterWatch

open Json (Reads Writes isVisible_int isVisible_object isVisible_string plainRecord reads_boolean
  reads_int64 reads_oneOf reads_text reads_timestamp reads_uint32)

theorem Health.reads (h : Health) : Reads reader h.toJson h := by
  have writes : Writes fields _ (h.clusterName, h.status, h.timedOut, h.numberOfNodes,
      h.numberOfDataNodes, h.activePrimaryShards, h.activeShards, h.relocatingShards,
      h.initializingShards, h.unassignedShards, ()) :=
    .member (reads_text _) <| .member (reads_oneOf h.status.lookup_name) <|
    .member (reads_boolean _) <| .member (reads_uint32 _) <| .member (reads_uint32 _) <|
    .member (reads_uint32 _) <| .member (reads_uint32 _) <| .member (reads_uint32 _) <|
    .member (reads_uint32 _) <| .member (reads_uint32 _) .nil
  exact (writes.reads (by decide) (plainRecord "Health")).map ofRow

theorem License.reads (l : License) : Reads reader l.toJson l := by
  have writes : Writes fields _ (l.uid, l.type, l.status, l.expiryDateInMillis, ()) :=
    .member (reads_text _) <| .member (reads_text _) <| .member (reads_text _) <|
    .optional _ (fun n _ => reads_int64 n) (fun _ => isVisible_int _) .nil
  exact (writes.reads (by decide) (plainRecord "License")).map ofRow

theorem CredentialsSecretReference.reads (r : CredentialsSecretReference) :
    Reads reader r.toJson r := by
  have writes : Writes fields _ (r.name, r.usernameKey, r.passwordKey, ()) :=
    .member (reads_text _) <| .member (reads_text _) <| .member (reads_text _) .nil
  exact (writes.reads (by decide) (plainRecord "CredentialsSecretReference")).map _

theorem CaSecretReference.reads (r : CaSecretReference) : Reads reader r.toJson r := by
  have writes : Writes fields _ (r.name, r.key, ()) :=
    .member (reads_text _) <| .member (reads_text _) .nil
  exact (writes.reads (by decide) (plainRecord "CaSecretReference")).map _

theorem ClusterSpec.reads (s : ClusterSpec) : Reads reader s.toJson s := by
  have writes : Writes fields _ (s.endpoint, s.credentials, s.ca, ()) :=
    .optional _ (fun endpoint _ => reads_text endpoint) (fun _ => isVisible_string _) <|
    .optional _ (fun reference _ => reference.reads) (fun _ => isVisible_object _) <|
    .optional _ (fun reference _ => reference.reads) (fun _ => isVisible_object _) .nil
  exact (writes.reads (by decide) (plainRecord "ElasticsearchClusterSpec")).map _

/-- A status is read if the year in which it was made has four digits. -/
theorem ClusterStatus.reads {s : ClusterStatus}
    (within : ∀ t, s.lastObserved = some t → 0 ≤ t.date.year ∧ t.date.year ≤ 9999) :
    Reads reader s.toJson s := by
  have writes : Writes fields _
      (s.phase, s.clusterName, s.numberOfNodes, s.licenseType, s.lastObserved, ()) :=
    .member (reads_oneOf s.phase.lookup_name) <|
    .optional _ (fun name _ => reads_text name) (fun _ => isVisible_string _) <|
    .optional _ (fun n _ => reads_uint32 n) (fun _ => isVisible_int _) <|
    .optional _ (fun type _ => reads_text type) (fun _ => isVisible_string _) <|
    .optional _ (fun t last => reads_timestamp (within t last)) (fun _ => isVisible_string _) .nil
  exact (writes.reads (by decide) (plainRecord "ElasticsearchClusterStatus")).map _

/-- Whatever strings, counters and moments are in it, and whatever is absent, a value is decoded
from the text that is written for it; of the moments at which statuses are made, those of years
of four digits. -/
theorem decode_write :
    (∀ h : Health, Health.reader.decode h.toJson.write = .ok h) ∧
    (∀ l : License, License.reader.decode l.toJson.write = .ok l) ∧
    (∀ r : CredentialsSecretReference,
      CredentialsSecretReference.reader.decode r.toJson.write = .ok r) ∧
    (∀ r : CaSecretReference, CaSecretReference.reader.decode r.toJson.write = .ok r) ∧
    (∀ s : ClusterSpec, ClusterSpec.reader.decode s.toJson.write = .ok s) ∧
    ∀ s : ClusterStatus,
      (∀ t, s.lastObserved = some t → 0 ≤ t.date.year ∧ t.date.year ≤ 9999) →
        ClusterStatus.reader.decode s.toJson.write = .ok s :=
  ⟨fun h => h.reads.decode, fun l => l.reads.decode, fun r => r.reads.decode,
    fun r => r.reads.decode, fun s => s.reads.decode,
    fun _ within => (ClusterStatus.reads within).decode⟩

/-- The status of a cluster with a line break in its name, made in a leap second. -/
def leapSecond : ClusterStatus :=
  ⟨.green, some "a\nb", none, none, (Rfc3339.read "2016-12-31 23:59:60.5 Z").toOption⟩

theorem decode_write_leap_second :
    leapSecond.toJson.write =
      "\x7b\"phase\":\"Green\",\"clusterName\":\"a\\nb\",\"lastObserved\":" ++
        "\"2016-12-31T23:59:60.500Z\"\x7d" ∧
      ClusterStatus.reader.decode leapSecond.toJson.write = .ok leapSecond := by
  have within : leapSecond.lastObserved.all fun t => 0 ≤ t.date.year ∧ t.date.year ≤ 9999 := by
    decide +kernel
  refine ⟨by decide +kernel, decode_write.2.2.2.2.2 leapSecond fun t last => ?_⟩
  rw [last] at within
  exact of_decide_eq_true within

end ClusterWatch
