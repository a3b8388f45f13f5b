import ClusterWatch.Proofs.Reconciliation.Controller

/-!
# Reconciliations in line with their objects

A reconciliation of an object that is watched observes its cluster and removes no
finalizer.  One of an object that is being deleted stops the observer before it sends
anything.  As those of one object come one after another, at most one of them is under way.
-/

namespace ClusterWatch.Reconciliation

open Kubernetes (Identity)
open Observation (CallId)

/-! ## Jobs that keep to their duty -/

/-- A reconciliation is one of the object with an identity. -/
def Job.IsOf (job : Job) (id : Identity) : Prop :=
  job.cluster.metadata.space = some id.space ∧ job.cluster.metadata.name = some id.name

theorem Job.IsOf.identity {job : Job} {id : Identity} (isOf : job.IsOf id) :
    job.cluster.identity = id := by
  simp [Cluster.identity, Identity.ofMeta, isOf.1, isOf.2]

theorem Job.IsOf.isSameObject {a b : Job} {id : Identity} (first : a.IsOf id)
    (second : b.IsOf id) : IsSameObject a.cluster b.cluster :=
  ⟨first.1.trans second.1.symm, first.2.trans second.2.symm⟩

/-- Whatever the registry gives back, what is left to do has a property. -/
def Stage.Holds (P : Procedure → Prop) : Stage → Prop
  | .at procedure => P procedure
  | .waits _ next => ∀ outcome, P (next outcome)

/-- What a reconciliation has left to do is in line with what it has seen of its object.
If that is being deleted, then as soon as the registry has been asked to stop the observer,
the observer counts as stopped. -/
inductive Job.DoesDuty (stopped : Prop) (job : Job) : Prop where
  | ended : job.isOver = true → DoesDuty stopped job
  | watches :
      job.isDeleted = false →
        job.stage.Holds (Program.Only (fun request => ¬IsRemoval request) fun request =>
          Finalizer.work job.cluster.metadata = .apply ∧
            ∃ client, request = .resolve job.cluster.identity client) →
        DoesDuty stopped job
  | stops {procedure : Procedure} :
      job.isDeleted = true → job.stage = .at procedure →
        procedure.StopsFirst IsRemoval job.cluster.identity → DoesDuty stopped job
  | stopped :
      job.isDeleted = true → stopped →
        job.stage.Holds (Program.Only IsRemoval fun _ => False) → DoesDuty stopped job

theorem isDeleting_eq_of_work {metadata : Kubernetes.ObjectMeta} :
    Finalizer.isDeleting metadata =
      match Finalizer.work metadata with
      | .apply | .add => false
      | .cleanup _ | .wait => true := by
  unfold Finalizer.work
  cases (Finalizer.ofMeta metadata).findIdx? (· = Finalizer.name) <;>
    cases Finalizer.isDeleting metadata <;> rfl

theorem Job.doesDuty_start (settings : Observation.Settings) (cluster : Cluster)
    (stopped : Prop) : Job.DoesDuty stopped ⟨cluster, .at (reconcile settings cluster)⟩ := by
  have deleting := @isDeleting_eq_of_work cluster.metadata
  cases work : Finalizer.work cluster.metadata with
  | cleanup position =>
      rw [work] at deleting
      exact .stops deleting rfl (stopsFirst_reconcile work)
  | apply | add =>
      rw [work] at deleting
      exact .watches deleting (only_reconcile (by simp [work]))
  | wait =>
      refine .ended ?_
      unfold reconcile
      rw [work]
      cases cluster.metadata.space <;> rfl

theorem Job.DoesDuty.mono {stopped stopped' : Prop} {job : Job} (duty : job.DoesDuty stopped)
    (implies : stopped → stopped') : job.DoesDuty stopped' := by
  cases duty with
  | ended ended => exact .ended ended
  | watches live only => exact .watches live only
  | stops deleted stage stops => exact .stops deleted stage stops
  | stopped deleted stopped only => exact .stopped deleted (implies stopped) only

theorem Program.Only.proceed {α : Type} {sends : Kubernetes.Request → Prop}
    {calls : RegistryRequest → Prop} {p q : Program α} (only : p.Only sends calls)
    (proceeds : p.Proceeds q) : q.Only sends calls := by
  cases proceeds with
  | send exchange => exact only.2 exchange
  | clock now => exact only now
  | log => exact only

theorem Program.StopsFirst.proceed {α : Type} {sends : Kubernetes.Request → Prop}
    {cluster : Identity} {p q : Program α} (stops : p.StopsFirst sends cluster)
    (proceeds : p.Proceeds q) : q.StopsFirst sends cluster := by
  cases proceeds with
  | send exchange => exact stops.elim
  | clock now => exact stops now
  | log => exact stops

/-- A reconciliation that goes on by itself stays in line. -/
theorem Job.DoesDuty.proceed {stopped : Prop} {job : Job} {p q : Procedure}
    (duty : job.DoesDuty stopped) (stage : job.stage = .at p) (proceeds : p.Proceeds q) :
    Job.DoesDuty stopped { job with stage := .at q } := by
  cases duty with
  | ended ended =>
      rw [isOver, stage] at ended
      cases proceeds <;> cases ended
  | watches live only =>
      rw [stage] at only
      exact .watches live (Program.Only.proceed only proceeds)
  | stops deleted stage' stops =>
      cases stage.symm.trans stage'
      exact .stops deleted rfl (stops.proceed proceeds)
  | stopped deleted stopped only =>
      rw [stage] at only
      exact .stopped deleted stopped (Program.Only.proceed only proceeds)

/-- A reconciliation that has been told what its call has given stays in line. -/
theorem Job.DoesDuty.resume {stopped : Prop} {job : Job} {call : CallId}
    {next : Observation.Registry.Outcome → Procedure} (duty : job.DoesDuty stopped)
    (stage : job.stage = .waits call next) (outcome : Observation.Registry.Outcome) :
    Job.DoesDuty stopped { job with stage := .at (next outcome) } := by
  cases duty with
  | ended ended =>
      rw [isOver, stage] at ended
      cases ended
  | watches live only =>
      rw [stage] at only
      exact .watches live (only outcome)
  | stops _ stage' => cases stage.symm.trans stage'
  | stopped deleted stopped only =>
      rw [stage] at only
      exact .stopped deleted stopped (only outcome)

/-- A reconciliation calls the registry to observe its cluster, or to stop its observer,
which only one of an object that is being deleted does. -/
theorem Job.DoesDuty.call {stopped : Prop} {job : Job} {request : RegistryRequest}
    {next : Observation.Registry.Outcome → Procedure} (duty : job.DoesDuty stopped)
    (stage : job.stage = .at (.call request next)) :
    (Finalizer.work job.cluster.metadata = .apply ∧
        (∃ client, request = .resolve job.cluster.identity client) ∧
        ∀ stopped call, Job.DoesDuty stopped { job with stage := .waits call next }) ∨
      (job.isDeleted = true ∧ request = .stop job.cluster.identity ∧
        ∀ call, Job.DoesDuty True { job with stage := .waits call next }) := by
  cases duty with
  | ended ended =>
      rw [isOver, stage] at ended
      cases ended
  | watches live only =>
      rw [stage] at only
      exact .inl ⟨only.1.1, only.1.2, fun stopped call => .watches live only.2⟩
  | stops deleted stage' stops =>
      cases stage.symm.trans stage'
      exact .inr ⟨deleted, stops.1, fun call => .stopped deleted trivial stops.2⟩
  | stopped _ _ only =>
      rw [stage] at only
      exact only.1.elim

/-- What a reconciliation sends removes the finalizer exactly if its object is being
deleted, and then the observer has been stopped. -/
theorem Job.DoesDuty.send {stopped : Prop} {job : Job} {request : Kubernetes.Request}
    {next : Kubernetes.Exchange → Procedure} (duty : job.DoesDuty stopped)
    (stage : job.stage = .at (.send request next)) :
    (IsRemoval request ↔ job.isDeleted = true) ∧ (job.isDeleted = true → stopped) := by
  cases duty with
  | ended ended =>
      rw [isOver, stage] at ended
      cases ended
  | watches live only =>
      rw [stage] at only
      simp [live, only.1]
  | stops _ stage' stops =>
      cases stage.symm.trans stage'
      exact stops.elim
  | stopped deleted stopped only =>
      rw [stage] at only
      simp [deleted, stopped, only.1]

/-! ## Jobs one after another -/

/-- Reconciliations of one object come one after another, and once it has been deleted it
stays so. -/
def IsSequential (jobs : List Job) : Prop :=
  ∀ (i j : Nat) (earlier later : Job), i < j → jobs[i]? = some earlier → jobs[j]? = some later →
    IsSameObject earlier.cluster later.cluster →
      earlier.isOver = true ∧ (earlier.isDeleted = true → later.isDeleted = true)

namespace IsSequential

variable {jobs : List Job} (sequential : IsSequential jobs)

include sequential

/-- No two reconciliations of an object are under way. -/
theorem eq_of_isOf {i j : Nat} {a b : Job} {id : Identity} (known : jobs[i]? = some a)
    (known' : jobs[j]? = some b) (isOf : a.IsOf id) (isOf' : b.IsOf id)
    (goesOn : a.isOver = false) (goesOn' : b.isOver = false) : i = j ∧ a = b := by
  rcases Nat.lt_trichotomy i j with less | rfl | more
  · rw [(sequential i j a b less known known' (isOf.isSameObject isOf')).1] at goesOn
    cases goesOn
  · exact ⟨rfl, Option.some.inj (known.symm.trans known')⟩
  · rw [(sequential j i b a more known' known (isOf'.isSameObject isOf)).1] at goesOn'
    cases goesOn'

/-- A reconciliation that is under way knows that its object has been deleted if any other
does. -/
theorem isDeleted_of_isOf {i j : Nat} {a b : Job} {id : Identity} (known : jobs[i]? = some a)
    (known' : jobs[j]? = some b) (isOf : a.IsOf id) (isOf' : b.IsOf id)
    (deleted : a.isDeleted = true) (goesOn : b.isOver = false) : b.isDeleted = true := by
  rcases Nat.lt_trichotomy i j with less | rfl | more
  · exact (sequential i j a b less known known' (isOf.isSameObject isOf')).2 deleted
  · cases known.symm.trans known'
    exact deleted
  · rw [(sequential j i b a more known' known (isOf'.isSameObject isOf)).1] at goesOn
    cases goesOn

theorem concat {cluster : Cluster} {stage : Stage}
    (admitted : ∀ job ∈ jobs, IsSameObject job.cluster cluster →
      job.isOver = true ∧ (job.isDeleted = true → Finalizer.isDeleting cluster.metadata = true)) :
    IsSequential (jobs ++ [⟨cluster, stage⟩]) := by
  intro i j earlier later less known known' same
  rcases getElem?_concat_cases known' with known' | ⟨rfl, rfl⟩
  · rcases getElem?_concat_cases known with known | ⟨rfl, rfl⟩
    · exact sequential i j earlier later less known known' same
    · have within : j < jobs.length := (List.getElem?_eq_some_iff.mp known').1
      exact (Nat.lt_asymm within less).elim
  · rw [List.getElem?_append_left less] at known
    exact admitted earlier (List.mem_of_getElem? known) same

end IsSequential

/-- What the reconciliations are once one of them has gone on. -/
theorem Controller.goto_cases {s : Controller} {k j : Nat} {stage : Stage} {job' : Job}
    (known : (s.goto k stage).jobs[j]? = some job') :
    ∃ job, s.jobs[j]? = some job ∧
      (j = k ∧ job' = { job with stage } ∨ j ≠ k ∧ job' = job) := by
  rw [goto, getElem?_modify_eq_ite] at known
  split at known
  · next same =>
      obtain ⟨job, found, rfl⟩ := Option.map_eq_some_iff.mp known
      exact ⟨job, found, .inl ⟨same, rfl⟩⟩
  · next differs => exact ⟨job', known, .inr ⟨differs, rfl⟩⟩

/-- The other reconciliations have not gone on. -/
theorem Controller.getElem?_goto_of_ne {s : Controller} {k j : Nat} (differs : j ≠ k)
    (stage : Stage) : (s.goto k stage).jobs[j]? = s.jobs[j]? := by
  rw [goto, getElem?_modify_eq_ite, if_neg differs]

theorem IsSequential.goto {s : Controller} {k : Nat} {job : Job} (sequential : IsSequential s.jobs)
    (known : s.jobs[k]? = some job) (goesOn : job.isOver = false) (stage : Stage) :
    IsSequential (s.goto k stage).jobs := by
  intro i j earlier' later' less known₁ known₂ same
  obtain ⟨earlier, found, turns⟩ := Controller.goto_cases known₁
  obtain ⟨later, found', turns'⟩ := Controller.goto_cases known₂
  have kept : later'.cluster = later.cluster := by
    rcases turns' with ⟨-, rfl⟩ | ⟨-, rfl⟩ <;> rfl
  rw [kept] at same
  rcases turns with ⟨rfl, rfl⟩ | ⟨-, rfl⟩
  · obtain rfl : job = earlier := Option.some.inj (known.symm.trans found)
    rw [(sequential i j job later less found found' same).1] at goesOn
    cases goesOn
  · constructor
    · exact (sequential i j earlier' later less found found' same).1
    · intro deleted
      rw [Job.isDeleted, kept]
      exact (sequential i j earlier' later less found found' same).2 deleted

end ClusterWatch.Reconciliation
