import ClusterWatch.Proofs.Registry.Isolation
import ClusterWatch.Proofs.Registry.Teardown

/-!
# What a replacement evicts

A call that finds an observer with another client replaces it: it stops the observer of the
cluster and then enters its own, whatever is entered at those two moments.  So it does not only
evict the observer that it has compared, but also one that another call has entered since.  Of
races between replacements the last one wins.
-/

namespace ClusterWatch.Observation.Registry

open Elasticsearch (HasConnection Interchangeable)
open Kubernetes (Identity)

variable {κ : Type}

/-- The observer that a call evicts: the one whose teardown it is on with, or the one that its
own observer has displaced. -/
def Point.evicts? : Point κ → Option ObserverId
  | .halt _ id (some _) => some id
  | .remove _ id _ => some id
  | .displace _ old _ => some old
  | _ => none

/-- A call has compared clients and replaces an observer: what it evicts is among the observers
that it may have met, and what it enters and gives back is an observer of its own. -/
inductive Point.Replaces (cluster : Identity) (client : κ)
    (met made installed : ObserverId → Prop) : Use → Point κ → Prop where
  | find {use : Use} :
      Replaces cluster client met made installed use (.find cluster (.create cluster client use))
  | halt {use : Use} {stage : Stage} {id : ObserverId} : met id →
      Replaces cluster client met made installed use
        (.halt stage id (some (cluster, .create cluster client use)))
  | remove {use : Use} {id : ObserverId} : met id →
      Replaces cluster client met made installed use
        (.remove cluster id (.create cluster client use))
  | spawn {use : Use} :
      Replaces cluster client met made installed use (.spawn cluster client use)
  | insert {use : Use} {id : ObserverId} : made id →
      Replaces cluster client met made installed use (.insert cluster id use)
  | displace {use : Use} {id old : ObserverId} : installed id → met old →
      Replaces cluster client met made installed use (.displace id old use)
  | read {id : ObserverId} : installed id →
      Replaces cluster client met made installed .read (.read id)
  | given {id : ObserverId} : installed id →
      Replaces cluster client met made installed .give (.finished (.observer id))
  | told {id : ObserverId} {value : Observation} : installed id →
      Replaces cluster client met made installed .read (.finished (.observation value))

section Points

variable {cluster : Identity} {client : κ} {use : Use}
  {met met' made made' installed installed' : ObserverId → Prop} {p : Point κ}

theorem Point.Replaces.mono (replaces : p.Replaces cluster client met made installed use)
    (more : ∀ id, met id → met' id) (more' : ∀ id, made id → made' id)
    (more'' : ∀ id, installed id → installed' id) :
    p.Replaces cluster client met' made' installed' use := by
  cases replaces with
  | find => exact .find
  | halt among => exact .halt (more _ among)
  | remove among => exact .remove (more _ among)
  | spawn => exact .spawn
  | insert own => exact .insert (more' _ own)
  | displace own among => exact .displace (more'' _ own) (more _ among)
  | read own => exact .read (more'' _ own)
  | given own => exact .given (more'' _ own)
  | told own => exact .told (more'' _ own)

theorem Point.Replaces.met_of_evicts? (replaces : p.Replaces cluster client met made installed use)
    {id : ObserverId} (evicts : p.evicts? = some id) : met id := by
  cases replaces with
  | halt among | remove among | displace _ among =>
      cases evicts
      exact among
  | _ => cases evicts

/-- A replacement that is over has entered an observer of its own, which it gives back. -/
theorem Point.Replaces.installed_of_finished {outcome : Outcome}
    (replaces : (Point.finished outcome : Point κ).Replaces cluster client met made installed use) :
    ∃ id, installed id ∧ (use = .give → outcome = .observer id) := by
  cases replaces with
  | given own => exact ⟨_, own, fun _ => rfl⟩
  | told own => exact ⟨_, own, nofun⟩

theorem Use.replaces_point (use : Use) {id : ObserverId} (own : installed id) :
    (use.point id : Point κ).Replaces cluster client met made installed use := by
  cases use with
  | give => exact .given own
  | read => exact .read own

theorem Use.isServed_point (use : Use) (id : ObserverId) :
    (use.point id : Point κ).IsServed := by
  cases use <;> trivial

end Points

variable [HasConnection κ]

/-! ## What calls do on the way of a run -/

/-- On the way from a state, the call does what is told of the state and its point there. -/
def Acts (s : State κ) (labels : List (Label κ)) (call : CallId)
    (does : State κ → Point κ → Prop) : Prop :=
  ∃ past label rest u events p, labels = past ++ label :: rest ∧ Run s past u events ∧
    label.call? = some call ∧ u.calls[call]? = some p ∧ does u p

/-- On the way from a state, a call other than the given one enters the observer. -/
def Enters (s : State κ) (labels : List (Label κ)) (call : CallId) (cluster : Identity)
    (id : ObserverId) : Prop :=
  ∃ other, other ≠ call ∧ Acts s labels other fun _ p => ∃ use, p = .insert cluster id use

/-- On the way from a state, a call other than the given one takes the entry of the cluster from
the observer. -/
def Takes (s : State κ) (labels : List (Label κ)) (call : CallId) (cluster : Identity)
    (id : ObserverId) : Prop :=
  ∃ other, other ≠ call ∧ Acts s labels other fun _ p => p.Unseats cluster id

/-- On the way from a state to another one, the call creates the observer, for the cluster and
with the client. -/
structure Creates (s : State κ) (labels : List (Label κ)) (t : State κ) (call : CallId)
    (cluster : Identity) (client : κ) (id : ObserverId) : Prop where
  spawned : Acts s labels call fun u p =>
    (∃ use, p = .spawn cluster client use) ∧ id = u.observers.length
  known : ∃ o, t.observers[id]? = some o ∧ o.cluster = cluster ∧ o.client = client

/-- On the way from a state to another one, the call creates the observer and enters it. -/
structure Installs (s : State κ) (labels : List (Label κ)) (t : State κ) (call : CallId)
    (cluster : Identity) (client : κ) (id : ObserverId) : Prop where
  created : Creates s labels t call cluster client id
  entered : Acts s labels call fun _ p => ∃ use, p = .insert cluster id use

/-- On the way from a state to another one, the call enters the observer, which is then the one
of the cluster, until another call takes its entry. -/
def Keeps (s : State κ) (labels : List (Label κ)) (t : State κ) (call : CallId)
    (cluster : Identity) (id : ObserverId) : Prop :=
  ∃ past label rest u w before during after use, labels = past ++ label :: rest ∧
    Run s past u before ∧ label.call? = some call ∧
      u.calls[call]? = some (.insert cluster id use) ∧ u.step label = some (w, during) ∧
        w.entry? cluster = some id ∧ Run w rest t after ∧
          (t.entry? cluster = some id ∨ Takes w rest call cluster id)

section Acts

variable {s t u : State κ} {labels : List (Label κ)} {call : CallId} {cluster : Identity}
  {client : κ} {id : ObserverId} {does : State κ → Point κ → Prop}

theorem Acts.append (acts : Acts s labels call does) (more : List (Label κ)) :
    Acts s (labels ++ more) call does := by
  obtain ⟨past, label, rest, u, events, p, rfl, run⟩ := acts
  exact ⟨past, label, rest ++ more, u, events, p, by simp, run⟩

/-- What a call does in the last step of a run it does on the way. -/
theorem Run.acts {events : List (ObserverId × Event)} (run : Run s labels t events)
    {label : Label κ} (moves : label.call? = some call) {p : Point κ}
    (stands : t.calls[call]? = some p) (holds : does t p) :
    Acts s (labels ++ [label]) call does :=
  ⟨labels, label, [], t, events, p, rfl, run, moves, stands, holds⟩

theorem Enters.append (enters : Enters s labels call cluster id) (more : List (Label κ)) :
    Enters s (labels ++ more) call cluster id := by
  obtain ⟨other, differs, acts⟩ := enters
  exact ⟨other, differs, acts.append more⟩

theorem Creates.append (creates : Creates s labels t call cluster client id)
    (more : List (Label κ)) (evolves : Evolves t.observers u.observers) :
    Creates s (labels ++ more) u call cluster client id := by
  obtain ⟨o, known, named, given⟩ := creates.known
  obtain ⟨o', known', continues⟩ := evolves id o known
  constructor
  · exact creates.spawned.append more
  · exact ⟨o', known', continues.cluster.trans named, continues.client.trans given⟩

theorem Installs.append (installs : Installs s labels t call cluster client id)
    (more : List (Label κ)) (evolves : Evolves t.observers u.observers) :
    Installs s (labels ++ more) u call cluster client id :=
  ⟨installs.created.append more evolves, installs.entered.append more⟩

end Acts

section Move

variable {s r : State κ} {call : CallId} {p q : Point κ} {cluster : Identity} {client : κ}
  {use : Use} {met made installed : ObserverId → Prop}

/-- A call that is served has entered its own observer, or is over; it does not enter one
again. -/
theorem Move.isServed_of_isServed (move : Move s call p q r) (served : p.IsServed) :
    q.IsServed := by
  cases move with
  | supersede => exact Use.isServed_point _ _
  | read => trivial
  | _ => exact served.elim

theorem Move.replaces_of_isServed (move : Move s call p q r)
    (replaces : p.Replaces cluster client met made installed use) (served : p.IsServed) :
    q.Replaces cluster client met made installed use := by
  cases replaces with
  | displace own =>
      cases move with
      | supersede => exact use.replaces_point own
  | read own =>
      cases move with
      | read => exact .told own
  | given | told => cases move
  | _ => exact served.elim

/-- What a replacement evicts is entered when it looks again, or when it enters its own
observer, which it has created before. -/
theorem Move.replaces (move : Move s call p q r)
    (replaces : p.Replaces cluster client met made installed use)
    (spawns : p = .spawn cluster client use → made s.observers.length)
    (puts : ∀ id, p = .insert cluster id use → made id → installed id)
    (among : p.IsServed ∨ ∀ id, s.entry? cluster = some id → met id) :
    q.Replaces cluster client met made installed use ∧
      (q.IsServed ∨ ∀ id, r.entry? cluster = some id → met id) := by
  by_cases served : p.IsServed
  · exact ⟨move.replaces_of_isServed replaces served, .inl (move.isServed_of_isServed served)⟩
  · replace among := among.resolve_left served
    cases replaces with
    | find =>
        cases move with
        | absent => exact ⟨.spawn, .inr among⟩
        | found entered => exact ⟨.halt (among _ entered), .inr among⟩
    | halt isMet =>
        cases move with
        | cancel | enqueue | acquire => exact ⟨.halt isMet, .inr among⟩
        | pass | join => exact ⟨.remove isMet, .inr among⟩
    | remove =>
        cases move with
        | remove =>
            refine ⟨.spawn, .inr fun id entered => ?_⟩
            rw [State.entry_leave, if_pos rfl] at entered
            cases entered
        | keep => exact ⟨.spawn, .inr among⟩
    | spawn =>
        cases move with
        | spawn => exact ⟨.insert (spawns rfl), .inr among⟩
    | insert own =>
        have own := puts _ rfl own
        cases move with
        | insert => exact ⟨use.replaces_point own, .inl (use.isServed_point _)⟩
        | displace entered => exact ⟨.displace own (among _ entered), .inl trivial⟩
    | displace | read | given | told => exact (served trivial).elim

/-- A step of a teardown concerns its own observer and no other. -/
theorem Move.others_of_teardown (move : Move s call p q r) {id other : ObserverId} {next : Next κ}
    (tears : p.teardown? = some (cluster, id, next)) (differs : other ≠ id) :
    r.cancelled? other = s.cancelled? other ∧
      ∀ place, s.entry? place = some other → r.entry? place = some other := by
  constructor
  · rcases move.cancelled_cases other with same | ⟨-, ⟨after, rfl⟩ | ⟨new, use, rfl⟩⟩ |
      ⟨-, -, -, place, use, rfl⟩
    · exact same
    · cases after <;> cases tears
      exact (differs rfl).elim
    · cases tears
    · obtain ⟨-, client, rfl, -⟩ := move.of_insert
      cases tears
  · intro place entered
    rcases move.entry_or_unseats entered with kept | unseats
    · exact kept
    · exact (differs (unseats.of_teardown tears)).elim

end Move

/-- On the way of a replacement, the call meets the observer that it has compared, and those
that other calls enter; the observer that it enters is one that it has created. -/
theorem Run.replaces {s t : State κ} {labels : List (Label κ)}
    {events : List (ObserverId × Event)} (run : Run s labels t events) {call : CallId}
    {cluster : Identity} {client : κ} {use : Use} {old : ObserverId}
    (stands : s.calls[call]? = some (.find cluster (.create cluster client use)))
    (entered : s.entry? cluster = some old) :
    ∃ p, t.calls[call]? = some p ∧
      p.Replaces cluster client (fun id => id = old ∨ Enters s labels call cluster id)
        (Creates s labels t call cluster client) (Installs s labels t call cluster client) use ∧
      (p.IsServed ∨ ∀ id, t.entry? cluster = some id →
        id = old ∨ Enters s labels call cluster id) := by
  refine run.induction_prefix (P := fun past u => ∃ p, u.calls[call]? = some p ∧
    p.Replaces cluster client (fun id => id = old ∨ Enters s past call cluster id)
      (Creates s past u call cluster client) (Installs s past u call cluster client) use ∧
    (p.IsServed ∨ ∀ id, u.entry? cluster = some id →
      id = old ∨ Enters s past call cluster id)) ?_ ?_
  · refine ⟨_, stands, .find, .inr fun id entered' => .inl ?_⟩
    exact Option.some.inj (entered'.symm.trans entered)
  · rintro past label later u v before during - run goes ⟨p, stands, replaces, among⟩
    have step := step_of_eq_some goes
    have more (id : ObserverId) (met : id = old ∨ Enters s past call cluster id) :
        id = old ∨ Enters s (past ++ [label]) call cluster id :=
      met.imp_right fun enters => enters.append [label]
    replace replaces := replaces.mono more (fun _ creates => creates.append [label] step.evolves)
      fun _ installs => installs.append [label] step.evolves
    replace among := among.imp_right fun among id entered => more id (among id entered)
    cases step with
    | begin =>
        have within := (List.getElem?_eq_some_iff.mp stands).1
        exact ⟨p, (List.getElem?_append_left within).trans stands, replaces, among⟩
    | @call label other p' q r moves stands' move =>
        rw [State.entry_goto, move.calls_goto]
        by_cases same : other = call
        · subst same
          cases stands.symm.trans stands'
          have spawns (isSpawn : p = .spawn cluster client use) :
              Creates s (past ++ [label]) (r.goto other q) other cluster client
                u.observers.length := by
            subst isSpawn
            constructor
            · exact run.acts moves stands ⟨⟨use, rfl⟩, rfl⟩
            · cases move with
              | spawn => exact ⟨_, List.getElem?_concat_length, rfl, rfl⟩
          have puts (id : ObserverId) (isInsert : p = .insert cluster id use)
              (creates : Creates s (past ++ [label]) (r.goto other q) other cluster client id) :
              Installs s (past ++ [label]) (r.goto other q) other cluster client id :=
            ⟨creates, run.acts moves stands ⟨use, isInsert⟩⟩
          obtain ⟨replaces', among'⟩ := move.replaces replaces spawns puts among
          exact ⟨q, List.getElem?_set_self (List.getElem?_eq_some_iff.mp stands).1, replaces',
            among'⟩
        · refine ⟨p, (List.getElem?_set_ne same).trans stands, replaces, ?_⟩
          refine among.imp_right fun among id entered => ?_
          rcases move.entry_cases cluster with kept | ⟨-, -, -, -, gone⟩ | ⟨new, use', rfl, put, -⟩
          · exact among id (kept ▸ entered)
          · cases gone.symm.trans entered
          · cases put.symm.trans entered
            exact .inr ⟨other, same, run.acts moves stands' ⟨use', rfl⟩⟩
    | _ => exact ⟨p, stands, replaces, among⟩

/-- A call that is served stays so. -/
theorem Run.isServed {s t : State κ} {labels : List (Label κ)}
    {events : List (ObserverId × Event)} (run : Run s labels t events) {call : CallId}
    (served : ∃ p, s.calls[call]? = some p ∧ p.IsServed) :
    ∃ p, t.calls[call]? = some p ∧ p.IsServed := by
  refine run.induction (P := fun u => ∃ p, u.calls[call]? = some p ∧ p.IsServed) served ?_
  rintro u v label - ⟨p, stands, served⟩ step
  rcases step.stands_cases stands with same | ⟨q, r, -, move, -, stands'⟩
  · exact ⟨p, same, served⟩
  · exact ⟨q, stands', move.isServed_of_isServed served⟩

/-- Once a call has entered its observer, that is the one of the cluster. -/
theorem Move.of_put {s r : State κ} {call : CallId} {cluster : Identity} {id : ObserverId}
    {use : Use} {q : Point κ} (move : Move s call (.insert cluster id use) q r) :
    r.entry? cluster = some id ∧ q.IsServed ∧
      ∀ former, s.entry? cluster = some former → q = .displace id former use := by
  have enters : State.entry? (s.enter cluster id) cluster = some id := by
    rw [State.entry_enter, if_pos rfl]
  cases move with
  | insert absent =>
      refine ⟨enters, use.isServed_point id, fun former entered => ?_⟩
      cases absent.symm.trans entered
  | displace entered =>
      refine ⟨enters, trivial, fun former entered' => ?_⟩
      cases entered.symm.trans entered'
      rfl

/-- What a call has entered stays the observer of the cluster until another call takes its
entry, since the call enters nothing again. -/
theorem Installs.keeps {s t : State κ} {labels : List (Label κ)}
    {events : List (ObserverId × Event)} {call : CallId} {cluster : Identity} {client : κ}
    {id : ObserverId} (installs : Installs s labels t call cluster client id)
    (run : Run s labels t events) : Keeps s labels t call cluster id := by
  obtain ⟨past, label, rest, u, before, p, rfl, run', moves, stands, use, rfl⟩ := installs.entered
  obtain ⟨u', _, _, first, second⟩ := run.exists_between
  cases run'.unique first
  cases second with
  | @cons _ w _ _ _ during after goes onward =>
      obtain ⟨q, r, move, rfl, there⟩ := (step_of_eq_some goes).exists_move moves stands
      obtain ⟨entered, served, -⟩ := move.of_put
      refine ⟨past, label, rest, u, _, before, during, after, use, rfl, run', moves, stands, goes,
        entered, onward, ?_⟩
      refine (onward.entry_or_unseats entered).imp_right ?_
      rintro ⟨past', label', rest', x, seen, other, p, rfl, run'', moves', stands', unseats⟩
      refine ⟨other, ?_, past', label', rest', x, seen, p, rfl, run'', moves', stands', unseats⟩
      rintro rfl
      obtain ⟨p', stands'', served⟩ := run''.isServed ⟨q, there, served⟩
      cases stands'.symm.trans stands''
      cases unseats <;> exact served

/-- A call that finds an observer with another client goes on to stop the observer of the
cluster. -/
theorem eq_of_lookup {s t : State κ} {call : CallId} {cluster : Identity} {client : κ} {use : Use}
    {id : ObserverId} {o : Observer κ} {events : List (ObserverId × Event)}
    (stands : s.calls[call]? = some (.lookup cluster client use))
    (entered : s.entry? cluster = some id) (known : s.observers[id]? = some o)
    (differs : ¬Interchangeable o.client client)
    (goes : s.step (.call call) = some (t, events)) :
    t = s.goto call (.find cluster (.create cluster client use)) := by
  obtain ⟨q, r, move, rfl, -⟩ := (step_of_eq_some goes).exists_move rfl stands
  cases move with
  | unobserved absent => cases absent.symm.trans entered
  | reuse entered' known' equal =>
      cases entered.symm.trans entered'
      cases known.symm.trans known'
      exact (differs equal).elim
  | replace => rfl

/-- Outside of its teardown a replacement does not have to wait, and nothing makes it give up. -/
theorem Point.Replaces.exists_step {t : State κ} {call : CallId} {p : Point κ}
    {cluster : Identity} {client : κ} {use : Use} {met made installed : ObserverId → Prop}
    (replaces : p.Replaces cluster client met made installed use)
    (stands : t.calls[call]? = some p) (free : p.teardown? = none)
    (known : ∀ id, installed id → ∃ o, t.observers[id]? = some o) :
    (∃ outcome, p = .finished outcome) ∨ ∃ w, t.step (.call call) = some (w, []) := by
  have unlisted (stopping : Bool) : p ≠ .enumerate stopping := by
    rintro rfl
    cases replaces
  have goes {q : Point κ} {r : State κ} (move : Move t call p q r) :
      ∃ w, t.step (.call call) = some (w, []) :=
    ⟨r.goto call q, by simp [State.step, stands, stepCall_of_move move unlisted]⟩
  cases replaces with
  | find =>
      cases entered : t.entry? cluster with
      | none => exact .inr (goes (.absent entered))
      | some id => exact .inr (goes (.found entered))
  | halt | remove => cases free
  | spawn => exact .inr (goes .spawn)
  | insert =>
      cases entered : t.entry? cluster with
      | none => exact .inr (goes (.insert entered))
      | some old => exact .inr (goes (.displace entered))
  | displace => exact .inr (goes .supersede)
  | read own =>
      obtain ⟨o, known⟩ := known _ own
      exact .inr (goes (.read known))
  | given | told => exact .inl ⟨_, rfl⟩

/-- A call that has found an observer whose client is not interchangeable with the given one
goes on to stop the observer of the cluster and to enter its own, in any run from there on:

* outside of its teardown it does not have to wait, whatever is entered for the cluster,
* it begins to stop the observer that it finds then, whichever that is, and creates its own at
  once if there is none,
* what it evicts is the observer that it has compared, or one that another call has entered
  since, so an observer with an interchangeable client is of the latter kind,
* once it has found the observer to stop, its steps up to the removal neither cancel nor
  remove any other, whoever enters it in the meantime,
* when it enters an observer, that is one that it has created with its client, and it takes the
  place of any other, which the call cancels next,
* when it is over, it has entered such an observer, which it gives back if it is to, and which
  is the one of the cluster until another call takes its entry. -/
theorem evictions_of_replacement {u v t : State κ} {labels : List (Label κ)}
    {events events' : List (ObserverId × Event)} {call : CallId} {cluster : Identity}
    {client : κ} {use : Use} {old : ObserverId} {o : Observer κ}
    (stands : u.calls[call]? = some (.lookup cluster client use))
    (entered : u.entry? cluster = some old) (known : u.observers[old]? = some o)
    (differs : ¬Interchangeable o.client client) (goes : u.step (.call call) = some (v, events))
    (onward : Run v labels t events') :
    v = u.goto call (.find cluster (.create cluster client use)) ∧
      (∀ p, t.calls[call]? = some p → p.teardown? = none →
        (∃ outcome, p = .finished outcome) ∨ ∃ w, t.step (.call call) = some (w, [])) ∧
      (∀ place next w seen, t.calls[call]? = some (.find place next) →
        t.step (.call call) = some (w, seen) →
          (t.entry? cluster = none ∧ w = t.goto call (.spawn cluster client use)) ∨
            ∃ id, t.entry? cluster = some id ∧
              w = t.goto call (.halt .cancel id (some (cluster, .create cluster client use)))) ∧
      (∀ p id, t.calls[call]? = some p → p.evicts? = some id →
        ((id = old ∧ ∃ o', t.observers[id]? = some o' ∧ ¬Interchangeable o'.client client) ∨
          Enters v labels call cluster id) ∧
        (p.teardown? = some (cluster, id, .create cluster client use) →
          ∀ w seen, t.step (.call call) = some (w, seen) → ∀ other, other ≠ id →
            w.cancelled? other = t.cancelled? other ∧
              ∀ place, t.entry? place = some other → w.entry? place = some other)) ∧
      (∀ place id use', t.calls[call]? = some (.insert place id use') →
        place = cluster ∧ Creates v labels t call cluster client id ∧
          ∀ w seen, t.step (.call call) = some (w, seen) →
            w.entry? cluster = some id ∧
              ∀ former, t.entry? cluster = some former →
                w.calls[call]? = some (.displace id former use)) ∧
      (∀ id former use' w seen, t.calls[call]? = some (.displace id former use') →
        t.step (.call call) = some (w, seen) →
          ∀ o', t.observers[former]? = some o' → w.cancelled? former = some true) ∧
      ∀ outcome, t.calls[call]? = some (.finished outcome) →
        ∃ id, (use = .give → outcome = .observer id) ∧
          Creates v labels t call cluster client id ∧ Keeps v labels t call cluster id := by
  have looks := eq_of_lookup stands entered known differs goes
  have finds : v.calls[call]? = some (.find cluster (.create cluster client use)) := by
    rw [looks]
    exact List.getElem?_set_self (List.getElem?_eq_some_iff.mp stands).1
  have entered' : v.entry? cluster = some old := looks ▸ entered
  have known' : v.observers[old]? = some o := looks ▸ known
  obtain ⟨p, stands', replaces, -⟩ := onward.replaces finds entered'
  refine ⟨looks, fun p' stands'' free => ?_, fun place next w seen stands'' goes' => ?_,
    fun p' id stands'' evicts => ⟨?_, ?_⟩, ?_, ?_, ?_⟩
  · cases stands'.symm.trans stands''
    refine replaces.exists_step stands' free fun id installs => ?_
    obtain ⟨o', known'', -⟩ := installs.created.known
    exact ⟨o', known''⟩
  · cases stands'.symm.trans stands''
    cases replaces with
    | find => exact find_cases stands' goes'
  · cases stands'.symm.trans stands''
    rcases replaces.met_of_evicts? evicts with rfl | enters
    · obtain ⟨o', known'', continues⟩ := onward.evolves id o known'
      exact .inl ⟨rfl, o', known'', continues.client ▸ differs⟩
    · exact .inr enters
  · intro tears w seen goes' other apart
    obtain ⟨q, r, move, rfl, -⟩ := (step_of_eq_some goes').exists_move rfl stands''
    exact move.others_of_teardown tears apart
  · intro place id use' stands''
    cases stands'.symm.trans stands''
    cases replaces with
    | insert creates =>
        refine ⟨rfl, creates, fun w seen goes' => ?_⟩
        obtain ⟨q, r, move, rfl, there⟩ := (step_of_eq_some goes').exists_move rfl stands'
        obtain ⟨put, -, displaces⟩ := move.of_put
        exact ⟨put, fun former entered => displaces former entered ▸ there⟩
  · intro id former use' w seen stands'' goes' o' known''
    obtain ⟨q, r, move, rfl, -⟩ := (step_of_eq_some goes').exists_move rfl stands''
    cases move with
    | supersede => simp [State.cancelled?, known'', Observer.cancel]
  · intro outcome stands''
    cases stands'.symm.trans stands''
    obtain ⟨id, installs, gives⟩ := replaces.installed_of_finished
    exact ⟨id, gives, installs.created, installs.keeps onward⟩

/-- A call has compared clients, and is about to stop the observer of the cluster.  Before it
looks for that, another call enters an observer with the same client, which is then found, so
the call has it at hand to cancel it.  In the end it has entered an observer of its own. -/
theorem evictions_of_replacement_overtaken :
    let old : Elasticsearch.InMemory.Client := ⟨0, "https://a:9200", none, []⟩
    let new : Elasticsearch.InMemory.Client := ⟨1, "https://b:9200", none, []⟩
    let cluster : Identity := ⟨"default", "a"⟩
    let past : List (Label Elasticsearch.InMemory.Client) :=
      [.begin (.observe cluster old), .call 0, .call 0, .call 0]
    let during : List (Label Elasticsearch.InMemory.Client) :=
      [.begin (.observe cluster new), .call 2, .call 2, .call 2, .call 2, .task 0 .unreachable,
        .call 2, .call 2, .call 2, .call 2, .call 2, .call 1]
    let later : List (Label Elasticsearch.InMemory.Client) :=
      [.call 1, .call 1, .call 1, .task 1 .unreachable, .call 1, .call 1, .call 1, .call 1]
    ∃ u v t w events₁ events₂ events₃ events₄,
      Run (.empty .default) (past ++ [.begin (.observe cluster new)]) u events₁ ∧
      u.entry? cluster = some 0 ∧ u.step (.call 1) = some (v, events₂) ∧
      (Run v during t events₃ ∧ t.entry? cluster = some 1 ∧
        (∃ p, t.calls[1]? = some p ∧ p.evicts? = some 1) ∧ Enters v during 1 cluster 1) ∧
      Run v (during ++ later) w events₄ ∧ w.entry? cluster = some 2 ∧
        w.calls[1]? = some (.finished (.observer 2)) ∧
        Creates v (during ++ later) w 1 cluster new 2 ∧
        Keeps v (during ++ later) w 1 cluster 2 := by
  intro old new cluster past during later
  have follows : ((State.empty .default).follow? past).any (fun before =>
      State.entry? before.1 cluster = some 0 ∧
      (before.1.observers[0]?.any fun o => ¬Interchangeable o.client new) ∧
      before.1.calls.length = 1 ∧
      (before.1.step (.begin (.observe cluster new))).any fun looks =>
        (looks.1.step (.call 1)).any fun differs =>
          (differs.1.follow? during).any fun found =>
            State.entry? found.1 cluster = some 1 ∧
              found.1.calls[1]?.bind Point.evicts? = some 1 ∧
              (found.1.follow? later).any fun last =>
                State.entry? last.1 cluster = some 2 ∧
                  last.1.calls[1]?.any fun p => p.remaining = 0 ∧ p.gives? = some 2) = true := by
    decide +kernel
  obtain ⟨⟨s, events₀⟩, run, holds⟩ := (Option.any_eq_true ..).mp follows
  obtain ⟨entered, other, alone, holds⟩ := of_decide_eq_true holds
  obtain ⟨o, known, other⟩ := (Option.any_eq_true ..).mp other
  obtain ⟨⟨u, events₁⟩, begins, holds⟩ := (Option.any_eq_true ..).mp holds
  obtain ⟨⟨v, events₂⟩, goes, holds⟩ := (Option.any_eq_true ..).mp holds
  obtain ⟨⟨t, events₃⟩, onward, holds⟩ := (Option.any_eq_true ..).mp holds
  obtain ⟨second, evicting, holds⟩ := of_decide_eq_true holds
  obtain ⟨⟨w, events₄⟩, ends, holds⟩ := (Option.any_eq_true ..).mp holds
  obtain ⟨third, ended⟩ := of_decide_eq_true holds
  obtain ⟨p, stands, evicts⟩ := Option.bind_eq_some_iff.mp evicting
  have looks : u.calls[1]? = some (.lookup cluster new .give) := by
    cases begins
    rw [← alone]
    exact List.getElem?_concat_length
  have entered' : u.entry? cluster = some 0 := by
    cases begins
    exact entered
  have known' : u.observers[0]? = some o := by
    cases begins
    exact known
  have differs : ¬Interchangeable o.client new := of_decide_eq_true other
  have run' := (run_iff_follow?_eq_some.mpr run).append (.cons begins (.nil u))
  have onward := run_iff_follow?_eq_some.mpr onward
  have onward' := onward.append (run_iff_follow?_eq_some.mpr ends)
  obtain ⟨q, stands', ended⟩ := (Option.any_eq_true ..).mp ended
  obtain ⟨remains, gives⟩ := of_decide_eq_true ended
  obtain ⟨outcome, rfl⟩ := exists_finished_of_remaining remains
  obtain ⟨-, -, -, evictions, -⟩ :=
    evictions_of_replacement looks entered' known' differs goes onward
  obtain ⟨-, -, -, -, -, -, ending⟩ :=
    evictions_of_replacement looks entered' known' differs goes onward'
  obtain ⟨id, same, creates, keeps⟩ := ending outcome stands'
  cases same rfl
  cases gives
  refine ⟨u, v, t, w, _, events₂, events₃, _, run', entered', goes, ⟨onward, second,
    ⟨p, stands, evicts⟩, ?_⟩, onward', third, stands', creates, keeps⟩
  · rcases (evictions p 1 stands evicts).1 with ⟨same, -⟩ | enters
    · cases same
    · exact enters

/-- A replacement evicts an observer that another call has entered since, with the very client
that it has been given itself.  In the first run the call looks for the observer to stop after
that one has been entered, and cancels and removes it.  In the second run two calls have
stopped the same observer; the one that enters its own observer last displaces and cancels
that of the other. -/
theorem fresh_observer_evicted_by_replacement :
    let old : Elasticsearch.InMemory.Client := ⟨0, "https://a:9200", none, []⟩
    let new : Elasticsearch.InMemory.Client := ⟨1, "https://b:9200", none, []⟩
    let cluster : Identity := ⟨"default", "a"⟩
    let compares : List (Label Elasticsearch.InMemory.Client) :=
      [.begin (.observe cluster old), .call 0, .call 0, .call 0, .begin (.observe cluster new),
        .call 1]
    let overtakes : List (Label Elasticsearch.InMemory.Client) :=
      [.begin (.observe cluster new), .call 2, .call 2, .call 2, .call 2, .task 0 .unreachable,
        .call 2, .call 2, .call 2, .call 2, .call 2]
    let tearsDown : List (Label Elasticsearch.InMemory.Client) :=
      [.call 1, .call 1, .call 1, .task 1 .unreachable, .call 1, .call 1, .call 1]
    let stopsToo : List (Label Elasticsearch.InMemory.Client) :=
      [.begin (.observe cluster new), .call 1, .call 1, .call 1, .call 1, .call 2, .call 2,
        .call 2, .call 2, .task 0 .unreachable, .call 1, .call 1, .call 1, .call 1]
    let displaces : List (Label Elasticsearch.InMemory.Client) :=
      [.call 2, .call 2, .call 2, .call 2, .call 2]
    ∃ u v w v' w' events₁ events₂ events₃ events₄ events₅,
      (Run (.empty .default) compares u events₁ ∧ u.entry? cluster = some 0 ∧
        (∃ o, u.observers[0]? = some o ∧ ¬Interchangeable o.client new) ∧
        ∃ p, u.calls[1]? = some p ∧ p.wants? = some (cluster, new, .give)) ∧
      (Run u overtakes v events₂ ∧ v.entry? cluster = some 1 ∧
        (∃ o, v.observers[1]? = some o ∧ Interchangeable o.client new ∧ o.cancelled = false) ∧
        Run v tearsDown w events₃ ∧ w.cancelled? 1 = some true ∧ w.entry? cluster = none) ∧
      Run u stopsToo v' events₄ ∧ v'.entry? cluster = some 1 ∧
        (∃ o, v'.observers[1]? = some o ∧ Interchangeable o.client new ∧ o.cancelled = false) ∧
        Run v' displaces w' events₅ ∧ w'.cancelled? 1 = some true ∧
        w'.entry? cluster = some 2 := by
  intro old new cluster compares overtakes tearsDown stopsToo displaces
  have follows : ((State.empty .default).follow? compares).any (fun compared =>
      State.entry? compared.1 cluster = some 0 ∧
      (compared.1.observers[0]?.any fun o => ¬Interchangeable o.client new) ∧
      compared.1.calls[1]?.bind Point.wants? = some (cluster, new, .give) ∧
      ((compared.1.follow? overtakes).any fun overtaken =>
        State.entry? overtaken.1 cluster = some 1 ∧
        (overtaken.1.observers[1]?.any fun o =>
          Interchangeable o.client new ∧ o.cancelled = false) ∧
        (overtaken.1.follow? tearsDown).any fun last =>
          last.1.cancelled? 1 = some true ∧ State.entry? last.1 cluster = none) ∧
      (compared.1.follow? stopsToo).any fun stopped =>
        State.entry? stopped.1 cluster = some 1 ∧
        (stopped.1.observers[1]?.any fun o =>
          Interchangeable o.client new ∧ o.cancelled = false) ∧
        (stopped.1.follow? displaces).any fun last =>
          last.1.cancelled? 1 = some true ∧ State.entry? last.1 cluster = some 2) = true := by
    decide +kernel
  obtain ⟨⟨u, events₁⟩, run, holds⟩ := (Option.any_eq_true ..).mp follows
  obtain ⟨entered, other, looks, overtaking, displacing⟩ := of_decide_eq_true holds
  obtain ⟨o, known, other⟩ := (Option.any_eq_true ..).mp other
  obtain ⟨p, stands, wants⟩ := Option.bind_eq_some_iff.mp looks
  obtain ⟨⟨v, events₂⟩, onward, holds⟩ := (Option.any_eq_true ..).mp overtaking
  obtain ⟨second, fresh, holds⟩ := of_decide_eq_true holds
  obtain ⟨x, known₁, fresh⟩ := (Option.any_eq_true ..).mp fresh
  obtain ⟨⟨w, events₃⟩, ends, holds⟩ := (Option.any_eq_true ..).mp holds
  obtain ⟨cancelled, removed⟩ := of_decide_eq_true holds
  obtain ⟨⟨v', events₄⟩, onward', holds⟩ := (Option.any_eq_true ..).mp displacing
  obtain ⟨second', fresh', holds⟩ := of_decide_eq_true holds
  obtain ⟨x', known₂, fresh'⟩ := (Option.any_eq_true ..).mp fresh'
  obtain ⟨⟨w', events₅⟩, ends', holds⟩ := (Option.any_eq_true ..).mp holds
  obtain ⟨cancelled', displaced⟩ := of_decide_eq_true holds
  refine ⟨u, v, w, v', w', events₁, events₂, events₃, events₄, events₅, ?_, ?_, ?_⟩
  · exact ⟨run_iff_follow?_eq_some.mpr run, entered, ⟨o, known, of_decide_eq_true other⟩,
      p, stands, wants⟩
  · exact ⟨run_iff_follow?_eq_some.mpr onward, second, ⟨x, known₁, of_decide_eq_true fresh⟩,
      run_iff_follow?_eq_some.mpr ends, cancelled, removed⟩
  · exact ⟨run_iff_follow?_eq_some.mpr onward', second', ⟨x', known₂, of_decide_eq_true fresh'⟩,
      run_iff_follow?_eq_some.mpr ends', cancelled', displaced⟩

end ClusterWatch.Observation.Registry
