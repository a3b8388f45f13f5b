import ClusterWatch.Proofs.Observer.Life

/-!
# When requests end

A request ends with its answer, at the moment that is due, or when its time has run out.  While
time passes no further than to the next of these moments, a poll that has begun at a whole
millisecond is over at one, within its time.
-/

namespace ClusterWatch.Observation

open Clock (IsWhole)

namespace Pending

variable {α : Type} {now deadline : Nat} {answer : Option α} {due : Option Nat}
  {request : Pending α}

/-- The moment at which a request ends, or that at which it would have to, once it is over. -/
def limit (deadline : Nat) (request : Pending α) : Nat :=
  (request.wake? deadline).getD deadline

theorem limit_le (deadline : Nat) (request : Pending α) : request.limit deadline ≤ deadline := by
  cases request with
  | settled result => exact Nat.le_refl deadline
  | awaited due => exact Nat.min_le_left _ _

theorem limit_le_due (deadline moment : Nat) :
    (awaited (some moment) : Pending α).limit deadline ≤ moment :=
  Nat.min_le_right _ _

theorem advance_of_lt_limit (early : now < (awaited due : Pending α).limit deadline) :
    (awaited due).advance now deadline answer = .awaited due := by
  have inTime : ¬deadline ≤ now :=
    Nat.not_le.mpr (Nat.lt_of_lt_of_le early (limit_le deadline _))
  cases due with
  | none => simp [advance, inTime]
  | some moment =>
      have notDue : ¬moment ≤ now :=
        Nat.not_le.mpr (Nat.lt_of_lt_of_le early (limit_le_due deadline moment))
      simp [advance, inTime, notDue]

/-- A request that was not late before is over at the very moment at which it ends. -/
theorem eq_limit_of_settles {result : Option α}
    (early : now ≤ (awaited due : Pending α).limit deadline)
    (settles : (awaited due).advance now deadline answer = .settled result) :
    now = (awaited due : Pending α).limit deadline := by
  rcases Nat.lt_or_eq_of_le early with before | same
  · rw [advance_of_lt_limit before] at settles
    cases settles
  · exact same

theorem exists_settled_of_le (late : deadline ≤ now) (request : Pending α)
    (answer : Option α) : ∃ result, request.advance now deadline answer = .settled result := by
  cases request with
  | settled result => exact ⟨result, rfl⟩
  | awaited due =>
      simp only [advance, if_pos late]
      split
      · exact ⟨answer, rfl⟩
      · exact ⟨none, rfl⟩

/-- A request that has not come to its end is as it was. -/
theorem awaited_of_advance (awaits : request.advance now deadline answer = .awaited due) :
    request = .awaited due ∧ now < (awaited due : Pending α).limit deadline := by
  cases request with
  | settled result => cases awaits
  | awaited moment =>
      by_cases early : now < (awaited moment : Pending α).limit deadline
      · rw [advance_of_lt_limit early] at awaits
        cases awaits
        exact ⟨rfl, early⟩
      · have late := Nat.not_lt.mp early
        cases moment with
        | none =>
            have late : deadline ≤ now := by simpa [limit, wake?] using late
            simp [advance, late] at awaits
        | some moment =>
            simp only [limit, wake?, Option.getD_some] at late
            by_cases isDue : moment ≤ now
            · simp [advance, isDue] at awaits
            · have late : deadline ≤ now := by omega
              simp [advance, isDue, late] at awaits

theorem lt_limit_advance (early : now < deadline) (request : Pending α) (answer : Option α) :
    now < (request.advance now deadline answer).limit deadline := by
  cases advanced : request.advance now deadline answer with
  | settled result => exact early
  | awaited due => exact (awaited_of_advance advanced).2

theorem start_eq (clock : Clock) (now : Nat) (delay : Option Nat) :
    (start clock now delay : Pending α) =
      .awaited (delay.map fun d => Clock.roundUp (now + clock.span d)) := by
  simp only [start, Clock.within_add]

/-- A request is not over before its answer is due or its time has run out. -/
theorem le_limit_awaited (le : now ≤ deadline) (later : ∀ moment ∈ due, now ≤ moment) :
    now ≤ (awaited due : Pending α).limit deadline := by
  cases due with
  | none => simpa [limit, wake?] using le
  | some moment => exact Nat.le_min.mpr ⟨le, later moment rfl⟩

theorem le_limit_start (clock : Clock) (now : Nat) (delay : Option Nat) (le : now ≤ deadline) :
    now ≤ (start clock now delay : Pending α).limit deadline := by
  rw [start_eq]
  apply le_limit_awaited le
  intro moment due
  obtain ⟨time, -, rfl⟩ := Option.map_eq_some_iff.mp due
  exact Nat.le_trans (Nat.le_add_right now (clock.span time)) (Clock.le_roundUp _)

/-- The answer to a request comes at a whole millisecond, if it comes. -/
def IsTimed (request : Pending α) : Prop :=
  ∀ moment, request = .awaited (some moment) → IsWhole moment

theorem isTimed_start (clock : Clock) (now : Nat) (delay : Option Nat) :
    (start clock now delay : Pending α).IsTimed := by
  intro moment starts
  cases delay with
  | none => cases starts
  | some delay =>
      cases starts
      exact Clock.isWhole_roundUp _

theorem IsTimed.advance (timed : request.IsTimed) :
    (request.advance now deadline answer).IsTimed := by
  intro moment advanced
  exact timed moment (awaited_of_advance advanced).1

theorem IsTimed.isWhole_limit (timed : request.IsTimed) (whole : IsWhole deadline) :
    IsWhole (request.limit deadline) := by
  cases request with
  | settled result => exact whole
  | awaited due =>
      cases due with
      | none => simpa [limit, wake?] using whole
      | some moment =>
          rcases Nat.le_total deadline moment with le | le
          · simpa [limit, wake?, Nat.min_eq_left le] using whole
          · simpa [limit, wake?, Nat.min_eq_right le] using timed moment rfl

end Pending

namespace Poll

variable {now : Nat} {service : Service} {poll : Poll}

theorem wake_eq (poll : Poll) :
    poll.wake = min (poll.health.limit poll.deadline) (poll.license.limit poll.deadline) :=
  rfl

theorem wake_le_deadline (poll : Poll) : poll.wake ≤ poll.deadline :=
  Nat.le_trans (Nat.min_le_left _ _) (poll.health.limit_le poll.deadline)

theorem result?_eq_none_iff : poll.result? = none ↔
    (∃ due, poll.health = .awaited due) ∨ ∃ due, poll.license = .awaited due := by
  unfold result?
  split
  · next health license =>
      simp [health, license]
  · next unsettled =>
      simp only [true_iff]
      cases health : poll.health with
      | awaited due => exact .inl ⟨due, rfl⟩
      | settled result =>
          cases license : poll.license with
          | awaited due => exact .inr ⟨due, rfl⟩
          | settled result' => exact (unsettled result result' health license).elim

theorem exists_result_of_le (late : poll.deadline ≤ now) (service : Service) :
    ∃ value, (poll.advance now service).result? = some value := by
  obtain ⟨health, settled⟩ := Pending.exists_settled_of_le late poll.health service.health
  obtain ⟨license, settled'⟩ := Pending.exists_settled_of_le late poll.license service.license
  exact ⟨⟨health, license⟩, result?_eq_some_iff.mpr ⟨settled, settled'⟩⟩

/-- A poll that began at a moment is under way: it goes on at a later one at the latest. -/
structure IsUnderway (timeout begun later : Nat) (poll : Poll) : Prop where
  unsettled : poll.result? = none
  limit : poll.deadline = begun + timeout
  whole : IsWhole poll.deadline
  health : poll.health.IsTimed
  license : poll.license.IsTimed
  early : later ≤ poll.wake

theorem deadline_start (clock : Clock) (timeout : Duration) (now : Nat) (service : Service) :
    (start clock timeout now service).deadline =
      Clock.roundUp (now + clock.span timeout.nanos) := by
  simp only [start, Clock.within_add]

theorem health_start (clock : Clock) (timeout : Duration) (now : Nat) (service : Service) :
    (start clock timeout now service).health = Pending.start clock now service.healthDelay :=
  rfl

theorem license_start (clock : Clock) (timeout : Duration) (now : Nat) (service : Service) :
    (start clock timeout now service).license = Pending.start clock now service.licenseDelay :=
  rfl

/-- A poll does not end before it begins. -/
theorem le_wake_start (clock : Clock) (timeout : Duration) (now : Nat) (service : Service) :
    now ≤ (start clock timeout now service).wake := by
  have le : now ≤ (start clock timeout now service).deadline := by
    rw [deadline_start]
    exact Nat.le_trans (Nat.le_add_right now _) (Clock.le_roundUp _)
  rw [wake_eq]
  apply Nat.le_min.mpr
  constructor
  · exact Pending.le_limit_start clock now service.healthDelay le
  · exact Pending.le_limit_start clock now service.licenseDelay le

theorem isUnderway_start {clock : Clock} {timeout : Duration} (whole : IsWhole now)
    (whole' : IsWhole (clock.span timeout.nanos)) (service : Service) :
    (start clock timeout now service).IsUnderway (clock.span timeout.nanos) now now := by
  have limit : (start clock timeout now service).deadline = now + clock.span timeout.nanos := by
    rw [deadline_start]
    exact (whole.add whole').roundUp_eq
  constructor
  · exact result?_eq_none_iff.mpr (.inl ⟨_, rfl⟩)
  · exact limit
  · exact limit ▸ whole.add whole'
  · exact Pending.isTimed_start clock now service.healthDelay
  · exact Pending.isTimed_start clock now service.licenseDelay
  · exact le_wake_start clock timeout now service

theorem IsUnderway.mono {timeout begun later sooner : Nat}
    (underway : poll.IsUnderway timeout begun later) (le : sooner ≤ later) :
    poll.IsUnderway timeout begun sooner :=
  { underway with early := Nat.le_trans le underway.early }

/-- A poll that does not end at a moment goes on later. -/
theorem IsUnderway.advance {timeout begun : Nat} (underway : poll.IsUnderway timeout begun now)
    (unsettled : (poll.advance now service).result? = none) :
    (poll.advance now service).IsUnderway timeout begun (now + 1) := by
  have beforeDeadline : now < poll.deadline := by
    rcases result?_eq_none_iff.mp unsettled with ⟨due, awaits⟩ | ⟨due, awaits⟩
    · exact Nat.lt_of_lt_of_le (Pending.awaited_of_advance awaits).2 (Pending.limit_le _ _)
    · exact Nat.lt_of_lt_of_le (Pending.awaited_of_advance awaits).2 (Pending.limit_le _ _)
  constructor
  · exact unsettled
  · exact underway.limit
  · exact underway.whole
  · exact underway.health.advance
  · exact underway.license.advance
  · rw [wake_eq]
    apply Nat.le_min.mpr
    constructor
    · exact Pending.lt_limit_advance beforeDeadline poll.health service.health
    · exact Pending.lt_limit_advance beforeDeadline poll.license service.license

/-- A poll ends at a whole millisecond, within its time. -/
theorem IsUnderway.ends {timeout begun : Nat} {value : Observation}
    (underway : poll.IsUnderway timeout begun now)
    (ends : (poll.advance now service).result? = some value) :
    IsWhole now ∧ now ≤ begun + timeout := by
  obtain ⟨settled, settled'⟩ := result?_eq_some_iff.mp ends
  constructor
  · rcases result?_eq_none_iff.mp underway.unsettled with ⟨due, awaits⟩ | ⟨due, awaits⟩
    · have early : now ≤ poll.health.limit poll.deadline :=
        Nat.le_trans underway.early (Nat.min_le_left _ _)
      have whole := underway.health.isWhole_limit underway.whole
      simp only [Poll.advance, awaits] at settled early whole
      rw [Pending.eq_limit_of_settles early settled]
      exact whole
    · have early : now ≤ poll.license.limit poll.deadline :=
        Nat.le_trans underway.early (Nat.min_le_right _ _)
      have whole := underway.license.isWhole_limit underway.whole
      simp only [Poll.advance, awaits] at settled' early whole
      rw [Pending.eq_limit_of_settles early settled']
      exact whole
  · exact underway.limit ▸ Nat.le_trans underway.early poll.wake_le_deadline

end Poll

end ClusterWatch.Observation
