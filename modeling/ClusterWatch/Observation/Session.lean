import ClusterWatch.Elasticsearch.InMemory
import ClusterWatch.Observation.Schedule

/-!
# Sessions

A session is a registry whose clients are in memory, driven by commands from
outside.  Commands come one after another, or several together; then each goes on
until it has to wait, and the waiting ones are resumed in their order.  The
session numbers the observers it has been given in the order in which they
appeared, and it may drop them again.
-/

namespace ClusterWatch.Observation

open Elasticsearch (ClientError Connection HasConnection Interchangeable)
open Elasticsearch.InMemory (Answers Client)
open Kubernetes (Identity)
open Registry (Environment Events Request)

/-- How a client in memory serves requests. -/
def serviceOf (answers : Answers) : Service where
  healthDelay := some answers.delay.nanos
  licenseDelay := some answers.delay.nanos
  health := (answers.healthAnswer "").toOption
  license := (answers.licenseAnswer "").toOption

/-- An observer that the session has been given. -/
structure Handle where
  observer : ObserverId
  /-- The session has not dropped it. -/
  held : Bool

/-- What a client of the session asks: how it answers, and how often it was asked. -/
structure Backend where
  answers : Answers := {}
  healthCalls : Nat := 0
  licenseCalls : Nat := 0

/-- The backend once it has been asked for a part of an observation. -/
def Backend.ask (backend : Backend) : Part → Backend
  | .health => { backend with healthCalls := backend.healthCalls + 1 }
  | .license => { backend with licenseCalls := backend.licenseCalls + 1 }

/-- The state of a session. -/
structure Session where
  registry : Registry.State Client
  /-- The clients by name. -/
  clients : List (String × Client) := []
  /-- What the clients ask, by the number of the client. -/
  backends : List Backend := []
  handles : List Handle := []

namespace Session

/-! ## Commands -/

/-- A change of the answers of a client. -/
structure Change where
  health : Option (Option Health) := none
  license : Option (Option License) := none
  failing : Option Bool := none
  delay : Option Duration := none

/-- The answers after a change. -/
def Change.apply (change : Change) (answers : Answers) : Answers where
  health := change.health.getD answers.health
  license := change.license.getD answers.license
  failing := change.failing.getD answers.failing
  delay := change.delay.getD answers.delay

/-- What a session is told to do.  Clients go by name and observers by number. -/
inductive Command where
  /-- Makes a client. -/
  | client (name : String) (connection : Connection)
  /-- Changes the answers of a client. -/
  | set (client : String) (change : Change)
  /-- Compares two clients. -/
  | equal (a b : String)
  /-- Asks a client for the health of its cluster. -/
  | health (client : String)
  /-- Asks a client for the license of its cluster. -/
  | license (client : String)
  | observe (cluster : Identity) (client : String)
  | resolve (cluster : Identity) (client : String)
  | create (cluster : Identity) (client : String)
  | stop (cluster : Identity)
  | stopAll
  | get (cluster : Identity)
  /-- Asks for the settings of the registry. -/
  | settings
  /-- Creates an observer outside of the registry. -/
  | new (cluster : Identity) (client : String) (settings : Settings)
  /-- Asks for what is known of an observer. -/
  | info (observer : Nat)
  /-- Stops an observer and waits for its end. -/
  | halt (observer : Nat)
  /-- Drops an observer. -/
  | drop (observer : Nat)
  /-- Lets time pass. -/
  | advance (time : Duration)

/-- What is known of an observer. -/
structure Info where
  cluster : Identity
  endpoint : String
  settings : Settings
  last : Observation

/-- What comes of a command. -/
inductive Result where
  | nothing
  | flag (value : Bool)
  | health (answer : Except ClientError Health)
  | license (answer : Except ClientError License)
  | observer (number : Nat)
  | observation (value : Observation)
  | settings (value : Settings)
  | info (value : Info)

/-! ## State -/

/-- A session in which nothing has happened yet. -/
def start (settings : Settings) : Session where
  registry := { Registry.State.empty settings with clock := .ofThirtyYears }

/-- How the clients serve at this moment. -/
def environment (s : Session) : Environment Client := fun client =>
  match s.backends[client.id]? with
  | some backend => serviceOf backend.answers
  | none => .unreachable

/-- A client is asked for a part of an observation. -/
def ask (s : Session) (client : Client) (part : Part) : Session :=
  { s with backends := s.backends.modify client.id fun backend => backend.ask part }

/-- The session after events of tasks: their requests have gone to their clients. -/
def count (s : Session) (events : Events) : Session :=
  events.foldl (fun s (observer, event) =>
    match event, s.registry.observers[observer]? with
    | .requested _ part, some o => s.ask o.client part
    | _, _ => s) s

/-- Runs all tasks that get any further at this moment. -/
def settle (s : Session) : Session :=
  let (registry, events) := s.registry.settle s.environment
  { s with registry }.count events

/-- Lets time pass up to a moment. -/
def passTo (s : Session) (time : Nat) : Session :=
  let (registry, events) := s.registry.passTo s.environment time
  { s with registry }.count events

/-- Takes an observer, and gives its number. -/
def take (s : Session) (observer : ObserverId) : Session × Nat :=
  match s.handles.findIdx? fun handle => handle.observer = observer with
  | some number =>
      ({ s with handles := s.handles.modify number fun handle => { handle with held := true } },
        number)
  | none => ({ s with handles := s.handles ++ [⟨observer, true⟩] }, s.handles.length)

/-- The observer with a number, unless it has been dropped. -/
def held? (s : Session) (number : Nat) : Option ObserverId := do
  let handle ← s.handles[number]?
  if handle.held then some handle.observer else none

/-- A call holds an observer while it stands at a point. -/
def holds (observer : ObserverId) : Registry.Point Client → Bool
  | .halt _ o _ => o = observer
  | .remove _ o _ => o = observer
  | .insert _ o _ => o = observer
  | .displace o displaced _ => o = observer || displaced = observer
  | .read o => o = observer
  | _ => false

/-- Drops an observer.  One that nobody else holds is stopped. -/
def release (s : Session) (number : Nat) : Session :=
  match s.held? number with
  | none => s
  | some observer =>
      let s :=
        { s with handles := s.handles.modify number fun handle => { handle with held := false } }
      if s.registry.entries.any (fun entry => entry.2 = observer) ||
          s.registry.calls.any (holds observer) then s
      else { s with registry := s.registry.update observer Observer.cancel }

/-! ## Branches -/

/-- A command that is being carried out. -/
inductive Branch where
  | ready (command : Command)
  /-- Its call on the registry is under way. -/
  | calling (call : CallId)
  /-- It waits for a moment. -/
  | waiting (time : Nat) (command : Command)
  | over (result : Result)

/-- What a command that waits comes to in the end. -/
def answer (s : Session) : Command → Result
  | .health name =>
      match s.clients.lookup name with
      | none => .nothing
      | some client =>
          match s.backends[client.id]? with
          | none => .nothing
          | some backend => .health (backend.answers.healthAnswer client.connection.endpoint)
  | .license name =>
      match s.clients.lookup name with
      | none => .nothing
      | some client =>
          match s.backends[client.id]? with
          | none => .nothing
          | some backend => .license (backend.answers.licenseAnswer client.connection.endpoint)
  | _ => .nothing

/-- A command waits up to a moment, if that has not come yet. -/
def wait (s : Session) (time : Nat) (command : Command) : Session × Branch :=
  if time ≤ s.registry.now then (s, .over (s.answer command)) else (s, .waiting time command)

/-- A command waits for some time, as far as the clock reaches. -/
def waitFor (s : Session) (time : Duration) (command : Command) : Session × Branch :=
  s.wait (s.registry.clock.within s.registry.now (s.registry.now + time.nanos)) command

/-- A call goes on until it has to wait or is over. -/
def proceed (s : Session) (call : CallId) : Session × Branch :=
  let s := { s with registry := s.registry.proceed call }
  match s.registry.outcome? call with
  | none => (s, .calling call)
  | some (.observer id) =>
      let (s, number) := s.take id
      (s, .over (.observer number))
  | some (.entry (some id)) =>
      let (s, number) := s.take id
      (s, .over (.observer number))
  | some (.observation value) => (s, .over (.observation value))
  | some _ => (s, .over .nothing)

/-- A call on the registry begins. -/
def call (s : Session) (request : Request Client) : Session × Branch :=
  let (registry, call) := s.registry.beginCall request
  { s with registry }.proceed call

/-- A command that names a client. -/
def withClient (s : Session) (name : String) (go : Client → Session × Branch) :
    Session × Branch :=
  match s.clients.lookup name with
  | none => (s, .over .nothing)
  | some client => go client

/-- A command begins, and goes on until it has to wait or is over. -/
def begin (s : Session) : Command → Session × Branch
  | .client name connection =>
      let client : Client := ⟨s.backends.length, connection⟩
      ({ s with clients := (name, client) :: s.clients, backends := s.backends ++ [{}] },
        .over .nothing)
  | .set name change =>
      s.withClient name fun client =>
        ({ s with
            backends := s.backends.modify client.id fun backend =>
              { backend with answers := change.apply backend.answers } },
          .over .nothing)
  | .equal a b =>
      s.withClient a fun a => s.withClient b fun b =>
        (s, .over (.flag (decide (Interchangeable a b))))
  | .health name =>
      s.withClient name fun client =>
        let s := s.ask client .health
        s.waitFor (s.backends[client.id]?.elim ⟨0⟩ (·.answers.delay)) (.health name)
  | .license name =>
      s.withClient name fun client =>
        let s := s.ask client .license
        s.waitFor (s.backends[client.id]?.elim ⟨0⟩ (·.answers.delay)) (.license name)
  | .observe cluster name => s.withClient name fun client => s.call (.observe cluster client)
  | .resolve cluster name => s.withClient name fun client => s.call (.resolve cluster client)
  | .create cluster name => s.withClient name fun client => s.call (.create cluster client)
  | .stop cluster => s.call (.stop cluster)
  | .stopAll => s.call .stopAll
  | .get cluster => s.call (.get cluster)
  | .settings => (s, .over (.settings s.registry.settings))
  | .new cluster name settings =>
      s.withClient name fun client =>
        let observer : Observer Client := { cluster, client, settings }
        let id := s.registry.observers.length
        let s :=
          { s with
            registry := { s.registry with observers := s.registry.observers ++ [observer] } }
        let (s, number) := s.take id
        (s, .over (.observer number))
  | .info number =>
      match (s.held? number).bind fun id => s.registry.observers[id]? with
      | none => (s, .over .nothing)
      | some o =>
          (s, .over (.info ⟨o.cluster, o.client.connection.endpoint, o.settings, o.last⟩))
  | .halt number =>
      match s.held? number with
      | none => (s, .over .nothing)
      | some id => s.call (.halt id)
  | .drop number => (s.release number, .over .nothing)
  | .advance time => s.waitFor time (.advance time)

/-- A branch is resumed. -/
def resume (s : Session) : Branch → Session × Branch
  | .ready command => s.begin command
  | .calling call => s.proceed call
  | .waiting time command => s.wait time command
  | .over result => (s, .over result)

/-- Branches are resumed in their order. -/
def resumeAll (s : Session) : List Branch → Session × List Branch
  | [] => (s, [])
  | branch :: rest =>
      let (s, branch) := s.resume branch
      let (s, rest) := resumeAll s rest
      (s, branch :: rest)

/-- The result of a branch that is over. -/
def Branch.result? : Branch → Option Result
  | .over result => some result
  | _ => none

/-- The moment that a branch waits for. -/
def Branch.wake? : Branch → Option Nat
  | .waiting time _ => some time
  | _ => none

/-- The call of a branch can go on. -/
def canProceed (s : Session) : Branch → Bool
  | .calling call => (s.registry.proceed? call).isSome
  | _ => false

/-- Branches are resumed until all are over.  When all have to wait the tasks run,
and when these have nothing left to do time passes. -/
def finish : Nat → Session → List Branch → Session × List Branch
  | 0, s, branches => (s, branches)
  | rounds + 1, s, branches =>
      let (s, branches) := s.resumeAll branches
      if branches.all fun branch => branch.result?.isSome then (s, branches)
      else
        let s := s.settle
        if branches.any s.canProceed then finish rounds s branches
        else
          match (branches.filterMap Branch.wake?).min? with
          | none => (s, branches)
          | some time => finish rounds (s.passTo time) branches

/-- Carries out commands together.  Each waits at most twice for each observer. -/
def perform (s : Session) (commands : List Command) : Session × List Result :=
  let rounds := 2 * (commands.length + 1) * (s.registry.observers.length + commands.length + 2)
  let (s, branches) := finish rounds s (commands.map .ready)
  (s, branches.map fun branch => branch.result?.getD .nothing)

/-! ## What can be seen -/

/-- The identities of the clusters that are observed, in order. -/
def observed (s : Session) : List Identity :=
  Identity.sorted s.registry.clusters

/-- The observers that the session has been given; nothing stands for one that it
has dropped. -/
def observers (s : Session) : List (Option (Observer Client)) :=
  s.handles.map fun handle =>
    if handle.held then s.registry.observers[handle.observer]? else none

end Session

end ClusterWatch.Observation
