import ClusterWatch.Proofs.Observer.Cadence

/-!
# What a poll makes of the answers

A client takes some time for each request of a poll, and then it has an answer or fails.  If the
task runs at the very moments it waits for, each part of the result is the answer to its own
request, provided that this came in time, and it is absent otherwise.
-/

namespace ClusterWatch.Observation

open Clock (IsWhole)

variable {α : Type}

/-! ## Answers to requests -/

namespace Pending

variable {answer : Service → Option α} {deadline : Nat} {due : Option Nat}
  {visits : List Visit} {result : Option α}

/-- A request goes on in runs of which none is later than its end. -/
def KeepsTime (answer : Service → Option α) (deadline : Nat) : Pending α → List Visit → Prop
  | _, [] => True
  | request, visit :: visits =>
      visit.time ≤ request.limit deadline ∧
        KeepsTime answer deadline (request.advance visit.time deadline (answer visit.service))
          visits

theorem keepsTime_concat_iff {request : Pending α} {visit : Visit} :
    KeepsTime answer deadline request (visits ++ [visit]) ↔
      KeepsTime answer deadline request visits ∧
        visit.time ≤ (request.after answer deadline visits).limit deadline := by
  induction visits generalizing request with
  | nil => simp [KeepsTime, after]
  | cons first visits ih =>
      rw [List.cons_append, KeepsTime, KeepsTime, ih, and_assoc]
      rfl

/-- What becomes of a request whose answer is due at a moment: it has the answer that the
client gives at that moment, or none if its time has run out before. -/
inductive Ends (answer : Service → Option α) (deadline : Nat) (due : Option Nat)
    (visits : List Visit) : Option α → Prop where
  | answered {moment : Nat} {visit : Visit} :
      due = some moment → moment ≤ deadline →
        visits.find? (fun visit => visit.time = moment) = some visit →
        Ends answer deadline due visits (answer visit.service)
  | late : (∀ moment ∈ due, deadline < moment) → Ends answer deadline due visits none

theorem after_settled (visits : List Visit) :
    (settled result).after answer deadline visits = .settled result := by
  induction visits with
  | nil => rfl
  | cons visit visits ih => exact ih

theorem after_cons (request : Pending α) (visit : Visit) (visits : List Visit) :
    request.after answer deadline (visit :: visits) =
      (request.advance visit.time deadline (answer visit.service)).after answer deadline visits :=
  rfl

theorem Ends.cons {visit : Visit} (ends : Ends answer deadline due visits result)
    (early : visit.time < (awaited due : Pending α).limit deadline) :
    Ends answer deadline due (visit :: visits) result := by
  cases ends with
  | @answered moment _ isDue inTime found =>
      apply Ends.answered isDue inTime
      rw [isDue] at early
      have before := Nat.lt_of_lt_of_le early (limit_le_due deadline moment)
      rw [List.find?_cons_of_neg (by simpa using Nat.ne_of_lt before)]
      exact found
  | late late => exact .late late

/-- A request that is over in the end has come to its end in one of the runs. -/
theorem ends_of_after (keeps : KeepsTime answer deadline (awaited due) visits)
    (settles : (awaited due).after answer deadline visits = .settled result) :
    Ends answer deadline due visits result := by
  induction visits with
  | nil => cases settles
  | cons visit visits ih =>
      obtain ⟨early, keeps⟩ := keeps
      rw [after_cons] at settles
      rcases Nat.lt_or_eq_of_le early with before | now
      · rw [advance_of_lt_limit before] at keeps settles
        exact (ih keeps settles).cons before
      · cases due with
        | none =>
            have reached : deadline ≤ visit.time := by simpa [limit, wake?] using now.ge
            simp only [advance, Option.any_none, Bool.false_eq_true, if_false, if_pos reached,
              after_settled] at settles
            cases settles
            apply Ends.late
            rintro moment isDue
            cases isDue
        | some moment =>
            have now : visit.time = min deadline moment := now
            -- At the deadline itself an answer that is due then comes before the end.
            by_cases inTime : moment ≤ deadline
            · rw [Nat.min_eq_right inTime] at now
              have isDue : (some moment).any (fun due => decide (due ≤ visit.time)) = true := by
                simp [now]
              simp only [advance, isDue, if_true, after_settled] at settles
              cases settles
              exact .answered rfl inTime (List.find?_cons_of_pos (by simpa using now))
            · have late := Nat.not_le.mp inTime
              rw [Nat.min_eq_left late.le] at now
              have notDue : (some moment).any (fun due => decide (due ≤ visit.time)) = false := by
                simpa [now] using late
              simp only [advance, notDue, Bool.false_eq_true, if_false, if_pos now.ge,
                after_settled] at settles
              cases settles
              exact .late fun other isDue => Option.some.inj isDue ▸ late

end Pending

/-- The request of a poll comes back at a moment, and what it comes back with: the client takes
for it the time that it said when the poll began, and this is what it has to say then. -/
structure ReturnsAt (clock : Clock) (delay : Service → Option Nat) (answer : Service → Option α)
    (during : List Visit) (time : Nat) (result : Option α) : Prop where
  takes : ∃ first ∈ during.head?, ∃ d ∈ delay first.service, time = first.time + clock.span d
  gives : ∃ visit, during.find? (fun visit => visit.time = time) = some visit ∧
    answer visit.service = result

/-- A part of the result of a poll is the answer to its request if that has come back in time,
and it is absent if the request has failed or has not come back in time. -/
structure Reports (clock : Clock) (timeout : Nat) (delay : Service → Option Nat)
    (answer : Service → Option α) (during : List Visit) (result : Option α) : Prop where
  known : ∀ a, result = some a ↔
    ∃ first ∈ during.head?, ∃ time ≤ first.time + timeout,
      ReturnsAt clock delay answer during time (some a)
  absent : result = none ↔
    ∃ first ∈ during.head?,
      (∃ time ≤ first.time + timeout, ReturnsAt clock delay answer during time none) ∨
        ∀ d ∈ delay first.service, timeout < clock.span d

theorem ReturnsAt.unique {clock : Clock} {delay : Service → Option Nat}
    {answer : Service → Option α} {during : List Visit} {time time' : Nat}
    {result result' : Option α} (returns : ReturnsAt clock delay answer during time result)
    (returns' : ReturnsAt clock delay answer during time' result') :
    time = time' ∧ result = result' := by
  obtain ⟨⟨first, isFirst, d, takes, rfl⟩, visit, found, rfl⟩ := returns
  obtain ⟨⟨first', isFirst', d', takes', rfl⟩, visit', found', rfl⟩ := returns'
  obtain rfl := Option.some.inj (isFirst.symm.trans isFirst')
  obtain rfl := Option.some.inj (takes.symm.trans takes')
  obtain rfl := Option.some.inj (found.symm.trans found')
  exact ⟨rfl, rfl⟩

theorem Pending.Ends.reports {clock : Clock} {timeout : Nat} {delay : Service → Option Nat}
    {answer : Service → Option α} {first : Visit} {more : List Visit} {result : Option α}
    (ends : Ends answer (first.time + clock.span timeout)
      ((delay first.service).map fun d => first.time + clock.span d) (first :: more) result) :
    Reports clock timeout delay answer (first :: more) result := by
  have inTime_iff (d : Nat) := clock.span_le_span_iff d timeout
  cases ends with
  | @answered moment visit isDue inTime found =>
      obtain ⟨d, takes, rfl⟩ := Option.map_eq_some_iff.mp isDue
      have inTime := (inTime_iff d).mp (Nat.le_of_add_le_add_left inTime)
      have returns : ReturnsAt clock delay answer (first :: more) (first.time + clock.span d)
          (answer visit.service) :=
        ⟨⟨first, rfl, d, takes, rfl⟩, visit, found, rfl⟩
      have le : first.time + clock.span d ≤ first.time + timeout := Nat.add_le_add_left inTime _
      constructor
      · intro a
        constructor
        · intro same
          exact ⟨first, rfl, _, le, same ▸ returns⟩
        · rintro ⟨_, _, _, _, returns'⟩
          exact (returns.unique returns').2
      · constructor
        · intro same
          exact ⟨first, rfl, .inl ⟨_, le, same ▸ returns⟩⟩
        · rintro ⟨first', isFirst, ⟨_, _, returns'⟩ | late⟩
          · exact (returns.unique returns').2
          · cases isFirst
            exact absurd (late d takes) (Nat.not_lt.mpr inTime)
  | late late =>
      have late (d : Nat) (takes : d ∈ delay first.service) : timeout < clock.span d := by
        have late := late _ (Option.map_eq_some_iff.mpr ⟨d, takes, rfl⟩)
        have inTime_iff := inTime_iff d
        omega
      constructor
      · intro a
        constructor
        · nofun
        · rintro ⟨first', isFirst, time, le, ⟨first'', isFirst', d, takes, rfl⟩, -⟩
          cases isFirst
          cases isFirst'
          have late := late d takes
          omega
      · constructor
        · intro _
          exact ⟨first, rfl, .inr late⟩
        · intro _
          rfl

/-! ## Polls in the life of an observer -/

/-- The client takes whole milliseconds for its answers. -/
structure Service.InMillis (service : Service) : Prop where
  health : ∀ d ∈ service.healthDelay, IsWhole d
  license : ∀ d ∈ service.licenseDelay, IsWhole d

instance : DecidablePred Service.InMillis := fun service =>
  decidable_of_iff
    ((∀ d ∈ service.healthDelay, IsWhole d) ∧ ∀ d ∈ service.licenseDelay, IsWhole d)
    ⟨fun ⟨health, license⟩ => ⟨health, license⟩, fun ⟨health, license⟩ => ⟨health, license⟩⟩

/-- A request whose time and whose answer's are whole milliseconds reports that answer, if it
keeps time. -/
theorem Pending.reports {clock : Clock} {timeout : Nat} {delay : Service → Option Nat}
    {answer : Service → Option α} {first : Visit} {more : List Visit} {result : Option α}
    (reach : ∀ reach ∈ clock.reach, IsWhole reach) (whole : IsWhole first.time)
    (limit : IsWhole timeout) (delays : ∀ d ∈ delay first.service, IsWhole d)
    (keeps : KeepsTime answer (Clock.roundUp (first.time + clock.span timeout))
      (start clock first.time (delay first.service)) (first :: more))
    (settles : (start clock first.time (delay first.service)).after answer
      (Clock.roundUp (first.time + clock.span timeout)) (first :: more) = .settled result) :
    Reports clock timeout delay answer (first :: more) result := by
  have due : (start clock first.time (delay first.service) : Pending α) =
      .awaited ((delay first.service).map fun d => first.time + clock.span d) := by
    rw [start_eq]
    congr 1
    apply Option.map_congr
    intro d takes
    exact (whole.add (Clock.isWhole_span reach (delays d takes))).roundUp_eq
  rw [due, (whole.add (Clock.isWhole_span reach limit)).roundUp_eq] at keeps settles
  exact (ends_of_after keeps settles).reports

namespace Poll

variable {poll : Poll} {visits : List Visit}

@[simp]
theorem deadline_after (poll : Poll) (visits : List Visit) :
    (poll.after visits).deadline = poll.deadline := by
  induction visits generalizing poll with
  | nil => rfl
  | cons visit visits ih => exact ih (poll.advance visit.time visit.service)

theorem after_singleton (poll : Poll) (visit : Visit) :
    poll.after [visit] = poll.advance visit.time visit.service :=
  rfl

theorem after_concat (poll : Poll) (visits : List Visit) (visit : Visit) :
    poll.after (visits ++ [visit]) =
      (poll.after visits).advance visit.time visit.service := by
  simp [after]

/-- A poll goes on in runs of which none is later than the next moment at which one of its
requests ends. -/
structure KeepsTime (poll : Poll) (visits : List Visit) : Prop where
  health : poll.health.KeepsTime Service.health poll.deadline visits
  license : poll.license.KeepsTime Service.license poll.deadline visits

theorem KeepsTime.concat (keeps : poll.KeepsTime visits) {visit : Visit}
    (early : visit.time ≤ (poll.after visits).wake) : poll.KeepsTime (visits ++ [visit]) := by
  rw [wake_eq, health_after, license_after, deadline_after] at early
  obtain ⟨early, early'⟩ := Nat.le_min.mp early
  constructor
  · exact Pending.keepsTime_concat_iff.mpr ⟨keeps.health, early⟩
  · exact Pending.keepsTime_concat_iff.mpr ⟨keeps.license, early'⟩

theorem keepsTime_start (clock : Clock) (timeout : Duration) (visit : Visit) :
    (start clock timeout visit.time visit.service).KeepsTime [visit] := by
  have keeps : (start clock timeout visit.time visit.service).KeepsTime [] := ⟨trivial, trivial⟩
  exact keeps.concat (le_wake_start clock timeout visit.time visit.service)

/-- The result of a poll that keeps time reports the answers that have come in time. -/
theorem KeepsTime.reports {clock : Clock} {settings : Settings} {first : Visit}
    {more : List Visit} {value : Observation} (millis : settings.InMillis clock)
    (whole : IsWhole first.time) (delays : first.service.InMillis)
    (keeps : (start clock settings.timeout first.time first.service).KeepsTime (first :: more))
    (ends : ((start clock settings.timeout first.time first.service).after
      (first :: more)).result? = some value) :
    Reports clock settings.timeout.nanos Service.healthDelay Service.health (first :: more)
        value.health ∧
      Reports clock settings.timeout.nanos Service.licenseDelay Service.license (first :: more)
        value.license := by
  obtain ⟨settled, settled'⟩ := result?_eq_some_iff.mp ends
  obtain ⟨keeps, keeps'⟩ := keeps
  rw [health_start, deadline_start] at keeps
  rw [license_start, deadline_start] at keeps'
  rw [health_after, health_start, deadline_start] at settled
  rw [license_after, license_start, deadline_start] at settled'
  constructor
  · exact Pending.reports millis.isWhole_reach whole millis.timeout delays.health keeps settled
  · exact Pending.reports millis.isWhole_reach whole millis.timeout delays.license keeps'
      settled'

end Poll

namespace Task

variable {clock : Clock} {settings : Settings} {now time deadline : Nat} {service : Service}

/-- If the last thing in a run is that a poll begins, the task has gone on with that poll. -/
theorem exists_polling_of_tick
    (asked : (tick clock settings now service deadline).2.getLast? =
      some (.requested time .license)) :
    ∃ next, (tick clock settings now service deadline).1 =
      .polling ((Poll.start clock settings.timeout now service).advance now service) next := by
  cases ends : ((Poll.start clock settings.timeout now service).advance now service).result? with
  | none =>
      rw [tick, goOn_of_no_result ends]
      exact ⟨_, rfl⟩
  | some value =>
      rw [tick, goOn_of_result ends] at asked
      simp at asked

theorem exists_polling_of_rest
    (asked : (rest clock settings now service deadline).2.getLast? =
      some (.requested time .license)) :
    ∃ next, (rest clock settings now service deadline).1 =
      .polling ((Poll.start clock settings.timeout now service).advance now service) next := by
  unfold Task.rest at asked ⊢
  split at asked
  · next isDue =>
      rw [if_pos isDue]
      exact exists_polling_of_tick asked
  · cases asked

theorem exists_polling_of_run {task : Task} {cancelled : Bool}
    (asked : (task.run clock settings cancelled now service).2.getLast? =
      some (.requested time .license)) :
    ∃ next, (task.run clock settings cancelled now service).1 =
      .polling ((Poll.start clock settings.timeout now service).advance now service) next := by
  cases cancelled with
  | true =>
      rw [run_of_cancelled] at asked
      cases asked
  | false =>
      cases task with
      | finished => cases asked
      | created =>
          rw [run_created] at asked ⊢
          exact exists_polling_of_tick asked
      | resting deadline =>
          rw [run_resting] at asked ⊢
          exact exists_polling_of_rest asked
      | polling poll deadline =>
          rw [run_polling] at asked ⊢
          cases ends : (poll.advance now service).result? with
          | none =>
              rw [goOn_of_no_result ends, follow_polling] at asked
              cases asked
          | some value =>
              rw [goOn_of_result ends, snd_follow_resting, List.getLast?_append] at asked
              rw [goOn_of_result ends, fst_follow_resting]
              have asked : (rest clock settings now service deadline).2.getLast? =
                  some (.requested time .license) := by
                cases last : (rest clock settings now service deadline).2.getLast? with
                | none => simp [last] at asked
                | some event => simpa [last] using asked
              exact exists_polling_of_rest asked

/-- A task in whose run nothing happens has gone on with its poll, or it has ended. -/
theorem finished_or_polling_of_run {poll : Poll} {cancelled : Bool}
    (idle : (Task.run clock settings cancelled now service (.polling poll deadline)).2 = []) :
    (Task.run clock settings cancelled now service (.polling poll deadline)).1 = .finished ∨
      (Task.run clock settings cancelled now service (.polling poll deadline)).1 =
        .polling (poll.advance now service) deadline := by
  cases cancelled with
  | true =>
      rw [run_of_cancelled]
      exact .inl rfl
  | false =>
      rw [run_polling] at idle ⊢
      cases ends : (poll.advance now service).result? with
      | none =>
          rw [goOn_of_no_result ends, follow_polling]
          exact .inr rfl
      | some value =>
          rw [goOn_of_result ends, snd_follow_resting] at idle
          cases (List.append_eq_nil_iff.mp idle).1

end Task

theorem IsPoll.mem_starts {clock : Clock} {timeout : Duration} {value : Observation}
    {during : List Visit} (isPoll : IsPoll clock timeout value during) :
    ∀ first ∈ during.head?, first.time ∈ starts (Observer.history during) := by
  intro first isFirst
  have mem (more : List Visit) (asked : .requested first.time .health ∈ first.events) :
      first.time ∈ starts (Observer.history (first :: more)) := by
    apply List.mem_filterMap.mpr
    refine ⟨.requested first.time .health, ?_, rfl⟩
    exact List.mem_flatMap.mpr ⟨first, List.mem_cons_self, asked⟩
  cases isPoll with
  | atOnce _ events =>
      cases isFirst
      exact mem [] (events ▸ by simp [Poll.mem_requests])
  | inTime _ asked =>
      cases isFirst
      exact mem _ (asked ▸ by simp [Poll.mem_requests])

namespace Observer

variable {κ : Type} {clock : Clock} {o : Observer κ} {now : Nat} {earlier between : List Visit}
  {first : Visit}

/-- A poll that began in a run, with nothing happening since, is under way and has kept time, or
the task has ended. -/
theorem Life.finished_or_polling (life : Life clock (earlier ++ first :: between) o now)
    (millis : o.settings.InMillis clock) (start : StartsInMillis (earlier ++ first :: between))
    (asked : first.events.getLast? = some (.requested first.time .license))
    (idle : ∀ visit ∈ between, visit.events = []) :
    o.task = .finished ∨
      (Poll.start clock o.settings.timeout first.time first.service).KeepsTime
          (first :: between) ∧
        ∃ deadline, o.task = .polling ((Poll.start clock o.settings.timeout first.time
          first.service).after (first :: between)) deadline := by
  induction between using List.reverseRecOn generalizing o now with
  | nil =>
      obtain ⟨before, life, events, task, settings⟩ := life.exists_before
      rw [events, Observer.run_eq] at asked
      rw [task, Observer.run_eq, settings]
      rw [Poll.after_singleton]
      exact .inr ⟨Poll.keepsTime_start clock _ first, Task.exists_polling_of_run asked⟩
  | append_singleton between visit ih =>
      rw [← List.cons_append, ← List.append_assoc] at life start
      obtain ⟨before, life, events, task, settings⟩ := life.exists_before
      rw [settings] at millis ⊢
      have idle' (other : Visit) (mem : other ∈ between) : other.events = [] :=
        idle other (List.mem_append_left _ mem)
      have silent := idle visit (List.mem_append_right _ List.mem_cons_self)
      rw [events, Observer.run_eq] at silent
      rw [task, Observer.run_eq]
      rcases ih life millis start.of_append idle' with finished | ⟨keeps, deadline, polls⟩
      · rw [finished]
        exact .inl rfl
      · have stands := (life.paced millis start.of_append).2
        rw [polls] at silent stands ⊢
        rcases Task.finished_or_polling_of_run silent with ended | goesOn
        · exact .inl ended
        · cases stands with
          | polling _ _ underway =>
              right
              constructor
              · exact keeps.concat underway.early
              · rw [goesOn, ← List.cons_append, Poll.after_concat]
                exact ⟨deadline, rfl⟩

/-- A poll that has been published has kept time. -/
theorem Life.keepsTime {during : List Visit} {value : Observation}
    (life : Life clock (earlier ++ during) o now) (millis : o.settings.InMillis clock)
    (start : StartsInMillis (earlier ++ during))
    (isPoll : IsPoll clock o.settings.timeout value during) :
    ∀ first ∈ during.head?,
      (Poll.start clock o.settings.timeout first.time first.service).KeepsTime during := by
  intro first isFirst
  cases isPoll with
  | atOnce =>
      cases isFirst
      exact Poll.keepsTime_start clock _ _
  | @inTime first last between before later _ asked idle published =>
      cases isFirst
      rw [← List.append_assoc] at life start
      have asked : first.events.getLast? = some (.requested first.time .license) := by
        rw [asked]
        exact Poll.getLast?_append_requests before first.time
      obtain ⟨o', life, events, -, settings⟩ := life.exists_before
      rw [settings] at millis ⊢
      rcases life.finished_or_polling millis start.of_append asked idle with
        finished | ⟨keeps, deadline, polls⟩
      · rw [published, Observer.run_eq, finished, Task.run_finished] at events
        cases events
      · have stands := (life.paced millis start.of_append).2
        rw [polls] at stands
        cases stands with
        | polling _ _ underway => exact keeps.concat underway.early

/-- What an observer has published reports the answers that have come in time. -/
theorem Life.reports {during later : List Visit} {value : Observation}
    (life : Life clock (earlier ++ during ++ later) o now) (millis : o.settings.InMillis clock)
    (start : StartsInMillis (earlier ++ during ++ later))
    (delays : ∀ visit ∈ during, visit.service.InMillis)
    (isPoll : IsPoll clock o.settings.timeout value during) :
    Reports clock o.settings.timeout.nanos Service.healthDelay Service.health during
        value.health ∧
      Reports clock o.settings.timeout.nanos Service.licenseDelay Service.license during
        value.license := by
  obtain ⟨o', now', life, settings⟩ := life.exists_earlier
  rw [← settings] at millis isPoll ⊢
  have keeps := life.keepsTime millis start.of_append isPoll
  have begun := isPoll.mem_starts
  obtain ⟨first, more, rfl, ends⟩ := isPoll.exists_result
  have whole : IsWhole first.time := by
    apply (life.paced millis start.of_append).1.whole
    rw [history, List.flatMap_append, starts_append]
    exact List.mem_append_right _ (begun first rfl)
  exact (keeps first rfl).reports millis whole (delays first List.mem_cons_self) ends

end Observer

end ClusterWatch.Observation
