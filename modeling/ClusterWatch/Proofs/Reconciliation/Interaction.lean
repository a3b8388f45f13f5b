import ClusterWatch.Reconciliation.Run

/-!
# What a program asks and is told

A program of a reconciliation is run against answers that may come from anywhere:
`Runs` relates a program to what it asks and is told on the way to a result.  The
run against fixed surroundings is one of these runs.
-/

namespace ClusterWatch.Reconciliation

open Observation (Registry.Outcome)

/-- One thing that a program asks of the outside, with what it is told. -/
inductive Interaction where
  | sent (request : Kubernetes.Request) (exchange : Kubernetes.Exchange)
  | called (request : RegistryRequest) (outcome : Registry.Outcome)
  | asked (now : Timestamp)
  | entered (entry : Entry)

/-- What a request that can be built asks for. -/
theorem ofName_eq_ok {method : Kubernetes.Method} {collection name rest : String}
    {change : Option Kubernetes.Change} {request : Kubernetes.Request}
    (built : Kubernetes.Request.ofName method collection name rest change = .ok request) :
    request.method = method ∧ request.change = change := by
  unfold Kubernetes.Request.ofName at built
  split at built
  · cases built
  · split at built
    · cases built
    · cases built
      exact ⟨rfl, rfl⟩

namespace Program

variable {α β : Type}

/-- The program asks and is told what a list says, and then is over with a result. -/
inductive Runs : Program α → List Interaction → α → Prop where
  | done (result : α) : Runs (.done result) [] result
  | send {request : Kubernetes.Request} {next : Kubernetes.Exchange → Program α}
      {exchange : Kubernetes.Exchange} {rest : List Interaction} {result : α} :
      Runs (next exchange) rest result →
        Runs (.send request next) (.sent request exchange :: rest) result
  | call {request : RegistryRequest} {next : Registry.Outcome → Program α}
      {outcome : Registry.Outcome} {rest : List Interaction} {result : α} :
      Runs (next outcome) rest result →
        Runs (.call request next) (.called request outcome :: rest) result
  | clock {next : Timestamp → Program α} {now : Timestamp} {rest : List Interaction}
      {result : α} :
      Runs (next now) rest result → Runs (.clock next) (.asked now :: rest) result
  | log {entry : Entry} {next : Program α} {rest : List Interaction} {result : α} :
      Runs next rest result → Runs (.log entry next) (.entered entry :: rest) result

@[simp]
theorem runs_done_iff {result last : α} {trace : List Interaction} :
    (done result).Runs trace last ↔ trace = [] ∧ last = result := by
  constructor
  · rintro ⟨⟩
    exact ⟨rfl, rfl⟩
  · rintro ⟨rfl, rfl⟩
    exact .done _

@[simp]
theorem runs_send_iff {request : Kubernetes.Request} {next : Kubernetes.Exchange → Program α}
    {trace : List Interaction} {result : α} :
    (send request next).Runs trace result ↔
      ∃ exchange rest, trace = .sent request exchange :: rest ∧
        (next exchange).Runs rest result := by
  constructor
  · rintro (_ | rest)
    exact ⟨_, _, rfl, rest⟩
  · rintro ⟨exchange, rest, rfl, run⟩
    exact .send run

@[simp]
theorem runs_call_iff {request : RegistryRequest} {next : Registry.Outcome → Program α}
    {trace : List Interaction} {result : α} :
    (call request next).Runs trace result ↔
      ∃ outcome rest, trace = .called request outcome :: rest ∧
        (next outcome).Runs rest result := by
  constructor
  · rintro (_ | _ | rest)
    exact ⟨_, _, rfl, rest⟩
  · rintro ⟨outcome, rest, rfl, run⟩
    exact .call run

@[simp]
theorem runs_clock_iff {next : Timestamp → Program α} {trace : List Interaction} {result : α} :
    (clock next).Runs trace result ↔
      ∃ now rest, trace = .asked now :: rest ∧ (next now).Runs rest result := by
  constructor
  · rintro (_ | _ | _ | rest)
    exact ⟨_, _, rfl, rest⟩
  · rintro ⟨now, rest, rfl, run⟩
    exact .clock run

@[simp]
theorem runs_log_iff {entry : Entry} {next : Program α} {trace : List Interaction}
    {result : α} :
    (log entry next).Runs trace result ↔
      ∃ rest, trace = .entered entry :: rest ∧ next.Runs rest result := by
  constructor
  · rintro (_ | _ | _ | _ | rest)
    exact ⟨_, rfl, rest⟩
  · rintro ⟨rest, rfl, run⟩
    exact .log run

end Program

/-- What has been done, with the requests and the entries of interactions after it. -/
def Trace.extend (trace : Trace) : List Interaction → Trace
  | [] => trace
  | .sent request _ :: rest => extend { trace with requests := trace.requests ++ [request] } rest
  | .entered entry :: rest => extend { trace with entries := trace.entries ++ [entry] } rest
  | .called _ _ :: rest => extend trace rest
  | .asked _ :: rest => extend trace rest

/-- Running a program against fixed surroundings is one of the ways in which it can
run. -/
theorem Program.exists_runs_of_run {α : Type} (around : Surroundings) (program : Program α)
    (observers : Observers) (trace : Trace) :
    ∃ interactions,
      program.Runs interactions (program.run around observers trace).1 ∧
        (program.run around observers trace).2.2 = trace.extend interactions := by
  induction program generalizing observers trace with
  | done result => exact ⟨[], .done result, rfl⟩
  | send request next ih =>
      obtain ⟨rest, run, extended⟩ := ih (around.api request) observers
        { trace with requests := trace.requests ++ [request] }
      exact ⟨_, .send run, extended⟩
  | call request next ih =>
      obtain ⟨rest, run, extended⟩ :=
        ih ((observers.complete around.environment request).2.1.getD .done)
          (observers.complete around.environment request).1 trace
      exact ⟨_, .call run, extended⟩
  | clock next ih =>
      obtain ⟨rest, run, extended⟩ := ih around.now observers trace
      exact ⟨_, .clock run, extended⟩
  | log entry next ih =>
      obtain ⟨rest, run, extended⟩ := ih observers
        { trace with entries := trace.entries ++ [entry] }
      exact ⟨_, .log run, extended⟩

end ClusterWatch.Reconciliation
