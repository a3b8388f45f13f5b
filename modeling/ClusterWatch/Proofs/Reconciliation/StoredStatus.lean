import ClusterWatch.Proofs.Json.MergePatch
import ClusterWatch.Reconciliation.Report

/-!
# Stored statuses

A status is written as a merge patch that has no member for what is not known, so a
stored status keeps the parts that the new one does not have.  It says the same as
the new one exactly if each of its parts is known again.
-/

namespace ClusterWatch

theorem ClusterPhase.name_inj {a b : ClusterPhase} : a.name = b.name ↔ a = b := by
  constructor
  · intro same
    have found : some a = some b := by rw [← lookup_name a, same, lookup_name]
    exact Option.some.inj found
  · rintro rfl
    rfl

namespace ClusterStatus

/-! ## Stored statuses -/

/-- The keys of what a status says, the moment of the observation apart. -/
def saidKeys : List String :=
  ["phase", "clusterName", "numberOfNodes", "licenseType"]

/-- A JSON value has what a status says under its keys.  The order of its members
does not matter, nor what it has under other keys, and `null` is the same as no
member. -/
def IsWrittenIn (status : ClusterStatus) (value : Json) : Prop :=
  ∀ key ∈ saidKeys, value.known? key = status.toJson.known? key

/-- An object has a status, or none, under the key of its status. -/
def IsStoredIn : Option ClusterStatus → Json → Prop
  | none, object => object.known? "status" = none
  | some status, object =>
      ∃ value, object.known? "status" = some value ∧ status.IsWrittenIn value

/-- The status with the parts that a new one has, and otherwise with those of the
old one. -/
def overwrite (old : Option ClusterStatus) (new : ClusterStatus) : ClusterStatus where
  phase := new.phase
  clusterName := new.clusterName.or (old.bind clusterName)
  numberOfNodes := new.numberOfNodes.or (old.bind numberOfNodes)
  licenseType := new.licenseType.or (old.bind licenseType)
  lastObserved := new.lastObserved.or (old.bind lastObserved)

/-- A status is written with distinct keys and plain values. -/
private theorem exists_parts (s : ClusterStatus) :
    ∃ parts : List (String × Option Json), s.toJson = .ofMembers parts ∧
      (parts.map Prod.fst).Nodup ∧
      (∀ key value, (key, some value) ∈ parts → value.IsPlain) ∧
      ∀ key, (parts.lookup key).join =
        if key = "phase" then some (.string s.phase.name)
        else if key = "clusterName" then s.clusterName.map .string
        else if key = "numberOfNodes" then s.numberOfNodes.map fun n => .int n.toNat
        else if key = "licenseType" then s.licenseType.map .string
        else if key = "lastObserved" then s.lastObserved.map fun t => .string (Rfc3339.write t)
        else none := by
  refine ⟨_, rfl, by simp, ?_, ?_⟩
  · intro key value part
    simp only [List.mem_cons, Prod.mk.injEq, List.not_mem_nil, or_false] at part
    rcases part with ⟨-, h⟩ | ⟨-, h⟩ | ⟨-, h⟩ | ⟨-, h⟩ | ⟨-, h⟩
    · cases h
      trivial
    all_goals
      obtain ⟨_, -, rfl⟩ := Option.map_eq_some_iff.mp h.symm
      trivial
  · intro key
    simp only [lookup_cons_eq_ite, List.lookup_nil]
    repeat' split <;> try rfl

/-- The part of a status under a key. -/
theorem known?_toJson (s : ClusterStatus) (key : String) :
    s.toJson.known? key =
      if key = "phase" then some (.string s.phase.name)
      else if key = "clusterName" then s.clusterName.map .string
      else if key = "numberOfNodes" then s.numberOfNodes.map fun n => .int n.toNat
      else if key = "licenseType" then s.licenseType.map .string
      else if key = "lastObserved" then s.lastObserved.map fun t => .string (Rfc3339.write t)
      else none := by
  obtain ⟨parts, written, distinct, plain, found⟩ := s.exists_parts
  rw [written, Json.known?_ofMembers distinct plain, found]

/-- Writing a status over a value leaves the parts that the value had and the status
does not have. -/
theorem known?_mergePatch_toJson (s : ClusterStatus) (target : Json) (key : String) :
    (target.mergePatch s.toJson).known? key = (s.toJson.known? key).or (target.known? key) := by
  obtain ⟨parts, written, distinct, plain, -⟩ := s.exists_parts
  rw [written, Json.known?_mergePatch_ofMembers distinct plain]

theorem isWrittenIn_mergePatch_null (new : ClusterStatus) :
    (overwrite none new).IsWrittenIn (Json.null.mergePatch new.toJson) := by
  intro key _
  have absent : Json.null.known? key = none := rfl
  rw [known?_mergePatch_toJson, absent]
  simp [known?_toJson, overwrite]

theorem isWrittenIn_mergePatch {old : ClusterStatus} {target : Json}
    (written : old.IsWrittenIn target) (new : ClusterStatus) :
    (overwrite (some old) new).IsWrittenIn (target.mergePatch new.toJson) := by
  intro key known
  rw [known?_mergePatch_toJson, written key known]
  simp only [known?_toJson, overwrite, Option.bind_some]
  repeat' split
  · rfl
  · cases new.clusterName <;> rfl
  · cases new.numberOfNodes <;> rfl
  · cases new.licenseType <;> rfl
  · cases new.lastObserved <;> rfl
  · rfl

/-- The merge patch of a status leaves the old parts that it does not replace. -/
theorem isStoredIn_mergePatch {old : Option ClusterStatus} {stored : Json}
    (holds : IsStoredIn old stored) (new : ClusterStatus) :
    IsStoredIn (some (overwrite old new)) (stored.mergePatch new.patch) := by
  have known : (stored.mergePatch new.patch).known? "status" =
      some (((stored.known? "status").getD .null).mergePatch new.toJson) := by
    rw [patch, Json.known?, Json.member?_mergePatch (by simp),
      ← Json.getD_member?_eq_getD_known?]
    simp [Json.changed, toJson, Json.ofMembers, Json.mergePatch]
  refine ⟨_, known, ?_⟩
  cases old with
  | none =>
      have absent : stored.known? "status" = none := holds
      rw [absent]
      exact isWrittenIn_mergePatch_null new
  | some old =>
      obtain ⟨value, present, written⟩ := holds
      rw [present]
      exact isWrittenIn_mergePatch written new

theorem agrees_congr_left {a b c : ClusterStatus} (same : a.Agrees b) :
    a.Agrees c ↔ b.Agrees c := by
  obtain ⟨phase, name, nodes, type⟩ := same
  simp only [Agrees, phase, name, nodes, type]

/-- What an object stores says the same, however it is read. -/
theorem agrees_of_isStoredIn {a b : ClusterStatus} {object : Json}
    (one : IsStoredIn (some a) object) (two : IsStoredIn (some b) object) : a.Agrees b := by
  obtain ⟨value, found, first⟩ := one
  obtain ⟨_, same, second⟩ := two
  obtain rfl : value = _ := Option.some.inj (found.symm.trans same)
  have equal (key : String) (said : key ∈ saidKeys) :
      a.toJson.known? key = b.toJson.known? key :=
    (first key said).symm.trans (second key said)
  have phase := equal "phase" (by simp [saidKeys])
  have name := equal "clusterName" (by simp [saidKeys])
  have nodes := equal "numberOfNodes" (by simp [saidKeys])
  have type := equal "licenseType" (by simp [saidKeys])
  simp only [known?_toJson] at phase name nodes type
  refine ⟨?_, ?_, ?_, ?_⟩
  · exact ClusterPhase.name_inj.mp (by simpa using phase)
  · exact (Option.map_inj_right fun _ _ => Json.string.inj).mp name
  · exact (Option.map_inj_right fun _ _ same =>
      UInt32.toNat_inj.mp (Int.ofNat.inj (Json.int.inj same))).mp nodes
  · exact (Option.map_inj_right fun _ _ => Json.string.inj).mp type

/-! ## When the parts of an old status are known again -/

/-- An observation has all that an old status has: the health, if that has a name or
a number of nodes, and the license, if that has its type. -/
def IsCoveredBy (old : Option ClusterStatus) (o : Observation) : Prop :=
  ∀ s ∈ old, (s.clusterName.isSome ∨ s.numberOfNodes.isSome → o.health.isSome) ∧
    (s.licenseType.isSome → o.license.isSome)

theorem agrees_overwrite_iff (old : Option ClusterStatus) (o : Observation) (now : Timestamp) :
    (overwrite old (ofObservation o now)).Agrees (ofObservation o now) ↔
      IsCoveredBy old o := by
  cases old with
  | none => simp [Agrees, overwrite, IsCoveredBy]
  | some s =>
      cases health : o.health <;> cases license : o.license <;>
        simp [Agrees, overwrite, IsCoveredBy, ofObservation, health, license,
          Option.isSome_iff_ne_none, and_assoc]

/-- A status that says the same as an observation is covered by it. -/
theorem isCoveredBy_of_not_hasChanged {old : Option ClusterStatus} {o : Observation}
    {now : Timestamp} (same : hasChanged old (ofObservation o now) = false) :
    IsCoveredBy old o := by
  cases old with
  | none => simp [hasChanged] at same
  | some s =>
      have agrees : s.Agrees (ofObservation o now) := by simpa [hasChanged] using same
      obtain ⟨-, name, nodes, type⟩ := agrees
      simp [IsCoveredBy, name, nodes, type, ofObservation]

/-- A status that says the same as an observation has no part that the observation
would not replace by itself. -/
theorem isStoredIn_overwrite {old : Option ClusterStatus} {o : Observation} {now : Timestamp}
    {object : Json} (holds : IsStoredIn old object)
    (same : hasChanged old (ofObservation o now) = false) :
    IsStoredIn (some (overwrite old (ofObservation o now))) object := by
  cases old with
  | none => simp [hasChanged] at same
  | some s =>
      obtain ⟨value, found, written⟩ := holds
      have agrees : s.Agrees (ofObservation o now) := by simpa [hasChanged] using same
      obtain ⟨phase, name, nodes, type⟩ := agrees
      refine ⟨value, found, fun key said => ?_⟩
      rw [written key said, known?_toJson, known?_toJson]
      simp only [saidKeys, List.mem_cons, List.not_mem_nil, or_false] at said
      rcases said with rfl | rfl | rfl | rfl <;>
        simp [overwrite, ← phase, ← name, ← nodes, ← type]

end ClusterStatus

end ClusterWatch
