import ClusterWatch.Proofs.Reconciliation.Convergence
import ClusterWatch.Proofs.Registry.Acquisition

/-!
# A registry while a program goes on

A program of a reconciliation and the registry of observers go on next to each other.  What the
program asks of the registry are calls on it; besides, anything may go on there that has
nothing to do with the cluster of the program.
-/

namespace ClusterWatch.Reconciliation

open Elasticsearch (Client)
open Kubernetes (Identity)
open Observation (Settings)
open Observation.Registry (Avoids Completes HasRead Label Outcome Regular Resolved)

/-- `Hosts cluster s trace labels t`: while a program interacts with the outside as the trace
says, the labels lead the registry from `s` to `t`.  Its calls on the registry are those in the
trace, and no other call works on the cluster meanwhile. -/
inductive Hosts (cluster : Identity) :
    Observers → List Interaction → List (Label Client) → Observers → Prop where
  | rest {s t : Observers} {labels : List (Label Client)} :
      Avoids cluster s labels t → Hosts cluster s [] labels t
  | skip {s t u : Observers} {labels more : List (Label Client)} {interaction : Interaction}
      {trace : List Interaction} :
      Avoids cluster s labels t → ¬interaction.IsCall → Hosts cluster t trace more u →
        Hosts cluster s (interaction :: trace) (labels ++ more) u
  | call {s t u v : Observers} {labels during more : List (Label Client)}
      {request : RegistryRequest} {outcome : Outcome} {trace : List Interaction} :
      Avoids cluster s labels t → Completes cluster request outcome t during u →
        Hosts cluster u trace more v →
        Hosts cluster s (.called request outcome :: trace)
          (labels ++ .begin request :: during ++ more) v

section Hosts

variable {cluster : Identity} {s t : Observers} {trace : List Interaction}
  {labels : List (Label Client)}

/-- A program that does not call the registry leaves the cluster alone. -/
theorem Hosts.avoids (hosts : Hosts cluster s trace labels t)
    (silent : ∀ interaction ∈ trace, ¬interaction.IsCall) : Avoids cluster s labels t := by
  induction hosts with
  | rest avoids => exact avoids
  | skip avoids _ _ ih =>
      exact avoids.trans (ih fun interaction mem => silent interaction (List.mem_cons_of_mem _ mem))
  | call => exact (silent _ List.mem_cons_self trivial).elim

/-- A program that calls the registry leaves the cluster alone before and afterwards. -/
theorem Hosts.exists_call {first rest : List Interaction} {request : RegistryRequest}
    {outcome : Outcome}
    (hosts : Hosts cluster s (first ++ .called request outcome :: rest) labels t)
    (silent : ∀ interaction ∈ first, ¬interaction.IsCall)
    (quiet : ∀ interaction ∈ rest, ¬interaction.IsCall) :
    ∃ u v before during after, labels = before ++ .begin request :: during ++ after ∧
      Avoids cluster s before u ∧ Completes cluster request outcome u during v ∧
      Avoids cluster v after t := by
  induction first generalizing s labels with
  | nil =>
      cases hosts with
      | skip _ apart => exact (apart trivial).elim
      | call avoids completes hosts =>
          exact ⟨_, _, _, _, _, rfl, avoids, completes, hosts.avoids quiet⟩
  | cons interaction first ih =>
      cases hosts with
      | skip avoids _ hosts =>
          obtain ⟨u, v, before, during, after, rfl, avoids', completes, rest⟩ := ih hosts
            fun interaction mem => silent interaction (List.mem_cons_of_mem _ mem)
          exact ⟨u, v, _, during, after, by simp, avoids.trans avoids', completes, rest⟩
      | call => exact (silent _ List.mem_cons_self trivial).elim

end Hosts

/-- A reconciliation that watches a cluster does the work for it, unless the resource has no
namespace. -/
theorem runs_reconcile_of_apply {settings : Settings} {cluster : Cluster}
    {trace : List Interaction} {result : Except Error Action}
    (watched : Finalizer.work cluster.metadata = .apply)
    (run : (reconcile settings cluster).Runs trace result) :
    (cluster.metadata.space = none ∧ trace = [] ∧ result = .error .missingNamespace) ∨
      cluster.metadata.space ≠ none ∧ ∃ outcome, (apply settings cluster).Runs trace outcome ∧
        result = outcome.mapError .apply := by
  unfold reconcile at run
  split at run
  · next absent => exact .inl ⟨absent, Program.runs_done_iff.mp run⟩
  · next space named =>
      rw [watched] at run
      exact .inr ⟨by simp [named], Program.runs_map run⟩

/-- A reconciliation that has got as far as to call the registry has resolved its cluster, with
the client that is built from what it has read. -/
theorem Hosts.exists_resolved {cluster : Cluster} {s t : Observers} {trace : List Interaction}
    {labels : List (Label Client)} {result : Except Error Action}
    (hosts : Hosts cluster.identity s trace labels t) (regular : Regular s)
    (watched : Finalizer.work cluster.metadata = .apply)
    (run : (reconcile s.settings cluster).Runs trace result)
    (calls : ∃ interaction ∈ trace, interaction.IsCall) :
    Regular t ∧ ∃ user ca id, Draws cluster trace user ca ∧
      ca.toList.all Elasticsearch.Certificate.acceptsPem = true ∧
      Resolved s t cluster.identity (clientWith s.settings cluster user ca) id ∧
      ∃ value u v during,
        .called (.resolve cluster.identity (clientWith s.settings cluster user ca))
          (.observation value) ∈ trace ∧
        Completes cluster.identity
          (.resolve cluster.identity (clientWith s.settings cluster user ca))
          (.observation value) u during v ∧
        HasRead u (.begin (.resolve cluster.identity (clientWith s.settings cluster user ca)) ::
          during) u.calls.length id value := by
  obtain ⟨interaction, mem, called⟩ := calls
  rcases runs_reconcile_of_apply watched run with ⟨-, rfl, -⟩ | ⟨-, outcome, works, -⟩
  · cases mem
  rcases runs_apply_cases works with
    ⟨cause, -, prepared⟩ | ⟨first, rest, outcome, user, ca, prepared, draws, accepted, rfl, reports⟩
  · exact (not_isCall_of_observations prepared.2.1 mem called).elim
  obtain ⟨-, silent, -⟩ := runs_report reports
  obtain ⟨u, v, before, during, after, -, avoids, completes, avoids'⟩ := hosts.exists_call
    (fun _ => not_isCall_of_observations prepared.2.1) fun _ => not_isCall_of_observations silent
  obtain ⟨regular, undisturbed⟩ := avoids.undisturbed regular
  obtain ⟨regular, id, resolved, value, rfl, read⟩ := completes.observes regular rfl
  have coherent := regular.sound.coherent
  obtain ⟨regular, undisturbed'⟩ := avoids'.undisturbed regular
  refine ⟨regular, user, ca, id, draws.append _, accepted, ?_, value, u, v, during, by simp,
    completes, read⟩
  exact resolved.undisturbed undisturbed undisturbed' coherent

/-! ## Both at once -/

instance : DecidablePred Interaction.IsCall
  | .called _ _ => .isTrue trivial
  | .sent _ _ | .asked _ | .entered _ => .isFalse id

/-- What the outside does for a program. -/
inductive Cue where
  /-- The API replies. -/
  | reply (exchange : Kubernetes.Exchange)
  /-- The registry goes on as the labels say until the call is over. -/
  | serve (labels : List (Label Client))
  /-- The clock tells the time. -/
  | tell (now : Timestamp)

/-- The registry is left as it is, as long as no call works on the cluster. -/
def rest? (cluster : Identity) (s : Observers) : Option Observers :=
  s.seclude? cluster (fun _ => False) []

theorem avoids_of_rest? {cluster : Identity} {s t : Observers} (rests : rest? cluster s = some t) :
    Avoids cluster s [] t :=
  Observation.Registry.secludes_of_seclude? rests

/-- A call is served, as long as no other call works on the cluster. -/
def serve? (cluster : Identity) (request : RegistryRequest) (labels : List (Label Client))
    (s : Observers) : Option (Outcome × Observers) :=
  (s.seclude? cluster (· = s.calls.length) (.begin request :: labels)).bind fun t =>
    match t.calls[s.calls.length]? with
    | some (.finished outcome) => some (outcome, t)
    | _ => none

theorem completes_of_serve? {cluster : Identity} {request : RegistryRequest}
    {labels : List (Label Client)} {s t : Observers} {outcome : Outcome}
    (serves : serve? cluster request labels s = some (outcome, t)) :
    Completes cluster request outcome s labels t := by
  obtain ⟨u, follows, serves⟩ := Option.bind_eq_some_iff.mp serves
  split at serves
  · next final =>
      cases serves
      exact ⟨Observation.Registry.secludes_of_seclude? follows, final⟩
  · cases serves

/-- A program that has come to a result: what it has asked and was told, and the registry
afterwards. -/
structure Hosted (α : Type) where
  trace : List Interaction
  registry : Observers
  result : α

/-- What a program has done with an interaction before that. -/
def Hosted.after {α : Type} (interaction : Interaction) (hosted : Hosted α) : Hosted α :=
  { hosted with trace := interaction :: hosted.trace }

/-- The registry rests until an interaction that is not a call on it, and the program goes on. -/
def skip? {α : Type} (cluster : Identity) (interaction : Interaction)
    (goesOn : Observers → Option (Hosted α)) (s : Observers) : Option (Hosted α) :=
  (rest? cluster s).bind fun t => (goesOn t).map (·.after interaction)

/-- A program and the registry go on as the cues say. -/
def Program.host? {α : Type} (cluster : Identity) :
    Program α → List Cue → Observers → Option (Hosted α)
  | .done result, [], s => (rest? cluster s).map fun t => ⟨[], t, result⟩
  | .send request next, .reply exchange :: cues, s =>
      skip? cluster (.sent request exchange) ((next exchange).host? cluster cues) s
  | .call request next, .serve labels :: cues, s =>
      (rest? cluster s).bind fun t =>
        (serve? cluster request labels t).bind fun served =>
          ((next served.1).host? cluster cues served.2).map (·.after (.called request served.1))
  | .clock next, .tell now :: cues, s =>
      skip? cluster (.asked now) ((next now).host? cluster cues) s
  | .log entry next, cues, s => skip? cluster (.entered entry) (next.host? cluster cues) s
  | _, _, _ => none

theorem hosts_of_skip? {α : Type} {cluster : Identity} {interaction : Interaction}
    {program : Program α} {goesOn : Observers → Option (Hosted α)} {s : Observers}
    {last : Hosted α} (skips : skip? cluster interaction goesOn s = some last)
    (silent : ¬interaction.IsCall)
    (hosts : ∀ {s : Observers} {last : Hosted α}, goesOn s = some last →
      program.Runs last.trace last.result ∧
        ∃ labels, Hosts cluster s last.trace labels last.registry) :
    ∃ rest, last.trace = interaction :: rest ∧ program.Runs rest last.result ∧
      ∃ labels, Hosts cluster s last.trace labels last.registry := by
  obtain ⟨t, rests, skips⟩ := Option.bind_eq_some_iff.mp skips
  obtain ⟨hosted, goes, rfl⟩ := Option.map_eq_some_iff.mp skips
  obtain ⟨run, labels, hosts⟩ := hosts goes
  exact ⟨hosted.trace, rfl, run, _, .skip (avoids_of_rest? rests) silent hosts⟩

theorem exists_hosts_of_host? {α : Type} {cluster : Identity} {program : Program α}
    {cues : List Cue} {s : Observers} {last : Hosted α}
    (hosts : program.host? cluster cues s = some last) :
    program.Runs last.trace last.result ∧
      ∃ labels, Hosts cluster s last.trace labels last.registry := by
  induction program generalizing cues s last with
  | done result =>
      rcases cues with - | ⟨cue, cues⟩
      · obtain ⟨t, rests, rfl⟩ := Option.map_eq_some_iff.mp hosts
        exact ⟨.done result, [], .rest (avoids_of_rest? rests)⟩
      · cases hosts
  | send request next ih =>
      rcases cues with - | ⟨exchange | labels | now, cues⟩ <;> try cases hosts
      obtain ⟨rest, same, run, hosts⟩ := hosts_of_skip? hosts id (ih exchange)
      exact ⟨same ▸ .send run, hosts⟩
  | call request next ih =>
      rcases cues with - | ⟨exchange | labels | now, cues⟩ <;> try cases hosts
      obtain ⟨t, rests, hosts⟩ := Option.bind_eq_some_iff.mp hosts
      obtain ⟨⟨outcome, u⟩, serves, hosts⟩ := Option.bind_eq_some_iff.mp hosts
      obtain ⟨hosted, goesOn, rfl⟩ := Option.map_eq_some_iff.mp hosts
      obtain ⟨run, labels, hosts⟩ := ih outcome goesOn
      exact ⟨.call run, _, .call (avoids_of_rest? rests) (completes_of_serve? serves) hosts⟩
  | clock next ih =>
      rcases cues with - | ⟨exchange | labels | now, cues⟩ <;> try cases hosts
      obtain ⟨rest, same, run, hosts⟩ := hosts_of_skip? hosts id (ih now)
      exact ⟨same ▸ .clock run, hosts⟩
  | log entry next ih =>
      rw [Program.host?] at hosts
      obtain ⟨rest, same, run, hosts⟩ := hosts_of_skip? hosts id ih
      exact ⟨same ▸ .log run, hosts⟩

end ClusterWatch.Reconciliation
