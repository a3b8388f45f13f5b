import ClusterWatch.Observation.Schedule
import ClusterWatch.Reconciliation.Cluster

/-!
# Running a reconciliation

A program runs against an API, a registry and a clock, while no other call on the
registry is under way.
-/

namespace ClusterWatch.Reconciliation

open Elasticsearch (Client)
open Observation (Registry.Environment Registry.Outcome)

/-- The registry of the observers of cluster resources. -/
abbrev Observers : Type :=
  Observation.Registry.State Client

/-- What a program has done: the requests that it sent and the entries that it
made, each in their order. -/
structure Trace where
  requests : List Kubernetes.Request := []
  entries : List Entry := []

/-- What a program runs against. -/
structure Surroundings where
  api : Kubernetes.Request → Kubernetes.Exchange
  environment : Registry.Environment Client
  now : Timestamp

/-- Runs a program to its end. -/
def Program.run {α : Type} (around : Surroundings) :
    Program α → Observers → Trace → α × Observers × Trace
  | .done result, observers, trace => (result, observers, trace)
  | .send request next, observers, trace =>
      (next (around.api request)).run around observers
        { trace with requests := trace.requests ++ [request] }
  | .call request next, observers, trace =>
      let (observers, outcome, _) := observers.complete around.environment request
      (next (outcome.getD .done)).run around observers trace
  | .clock next, observers, trace => (next around.now).run around observers trace
  | .log entry next, observers, trace =>
      next.run around observers { trace with entries := trace.entries ++ [entry] }

end ClusterWatch.Reconciliation
