import ClusterWatch.Proofs.Observer.Publication
import Mathlib.Data.List.Chain

/-!
# The life of an observer on a clock

On a clock that moves only while the task of an observer has nothing to do, the task runs at
the very moment at which something is due.  The life of an observer tells in which order time
passes, its task runs, and others change it; what holds at every moment is proved by induction
on it.
-/

namespace ClusterWatch

/-- The instant is a whole number of milliseconds. -/
def Clock.IsWhole (t : Nat) : Prop :=
  Duration.nanosPerMilli ∣ t

instance : DecidablePred Clock.IsWhole :=
  fun t => inferInstanceAs (Decidable (Duration.nanosPerMilli ∣ t))

theorem Clock.IsWhole.roundUp_eq {t : Nat} (whole : IsWhole t) : roundUp t = t := by
  obtain ⟨n, rfl⟩ := whole
  rw [Nat.mul_comm]
  exact roundUp_mul n

theorem Clock.isWhole_roundUp (t : Nat) : IsWhole (roundUp t) :=
  Nat.dvd_mul_left _ _

theorem Clock.IsWhole.add {t d : Nat} (first : IsWhole t) (second : IsWhole d) :
    IsWhole (t + d) :=
  Nat.dvd_add first second

/-- How far into the future a timer of a given length is set. -/
def Clock.span (clock : Clock) (length : Nat) : Nat :=
  clock.within 0 length

@[simp]
theorem Clock.span_unbounded (length : Nat) : span {} length = length :=
  rfl

theorem Clock.span_le (clock : Clock) (length : Nat) : clock.span length ≤ length :=
  clock.within_le 0 length

theorem Clock.within_add (clock : Clock) (now length : Nat) :
    clock.within now (now + length) = now + clock.span length := by
  unfold span within
  split <;> omega

/-- A timer is not set further than another one if it is not longer than that. -/
theorem Clock.span_le_span_iff (clock : Clock) (short long : Nat) :
    clock.span short ≤ clock.span long ↔ clock.span short ≤ long := by
  unfold span within
  split <;> omega

theorem Clock.isWhole_within {clock : Clock} {now deadline : Nat}
    (reach : ∀ reach ∈ clock.reach, IsWhole reach) (whole : IsWhole now)
    (whole' : IsWhole deadline) : IsWhole (clock.within now deadline) := by
  unfold within
  split
  · exact whole'
  · next far =>
      rcases Nat.le_total deadline (now + _) with le | le
      · rw [Nat.min_eq_left le]
        exact whole'
      · rw [Nat.min_eq_right le]
        exact whole.add (reach _ far)

theorem Clock.isWhole_span {clock : Clock} {length : Nat}
    (reach : ∀ reach ∈ clock.reach, IsWhole reach) (whole : IsWhole length) :
    IsWhole (clock.span length) :=
  isWhole_within reach (Nat.dvd_zero _) whole

namespace Observation

open Clock (IsWhole)

variable {κ : Type}

/-- The settings of an observer are whole milliseconds; so is how far the clock reaches, if
that has a bound, and it reaches further than the tolerance for ticks. -/
structure Settings.InMillis (clock : Clock) (settings : Settings) : Prop where
  reach : ∀ reach ∈ clock.reach, IsWhole reach ∧ tolerance < reach
  interval : IsWhole settings.interval.nanos
  timeout : IsWhole settings.timeout.nanos

namespace Settings.InMillis

variable {clock : Clock} {settings : Settings}

theorem isWhole_reach (millis : settings.InMillis clock) : ∀ reach ∈ clock.reach, IsWhole reach :=
  fun reach bound => (millis.reach reach bound).1

theorem isWhole_period (millis : settings.InMillis clock) : IsWhole settings.period := by
  unfold Settings.period Duration.longer
  rcases Nat.le_total settings.interval.nanos Settings.shortestPeriod.nanos with le | le
  · rw [Nat.max_eq_right le]
    exact Nat.dvd_mul_left _ _
  · rw [Nat.max_eq_left le]
    exact millis.interval

theorem tolerance_lt (millis : settings.InMillis clock) :
    tolerance < clock.span settings.period := by
  have le : Settings.shortestPeriod.nanos ≤ settings.period := Nat.le_max_right _ _
  have lt : tolerance < Settings.shortestPeriod.nanos := by decide
  unfold Clock.span Clock.within
  split
  · omega
  · next far =>
      have ample := (millis.reach _ far).2
      omega

end Settings.InMillis

/-- The moment at which a task starts is a whole millisecond, if it has started. -/
def StartsInMillis (visits : List Visit) : Prop :=
  ∀ visit ∈ visits.head?, IsWhole visit.time

instance (visits : List Visit) : Decidable (StartsInMillis visits) :=
  inferInstanceAs (Decidable (∀ visit ∈ visits.head?, IsWhole visit.time))

theorem StartsInMillis.of_append {visits more : List Visit}
    (starts : StartsInMillis (visits ++ more)) : StartsInMillis visits := by
  intro visit first
  apply starts
  rw [List.head?_append, Option.mem_def.mp first]
  rfl

theorem StartsInMillis.concat {visits : List Visit} {visit : Visit}
    (starts : StartsInMillis visits) (first : visits = [] → IsWhole visit.time) :
    StartsInMillis (visits ++ [visit]) := by
  intro other isFirst
  cases visits with
  | nil =>
      cases isFirst
      exact first rfl
  | cons => exact starts other isFirst

/-! ## What a run makes of a task -/

namespace Task

theorem isFinished_iff {task : Task} : task.isFinished = true ↔ task = .finished := by
  cases task <;> simp [isFinished]

/-- The task has run and has not ended. -/
def IsOngoing : Task → Prop
  | .resting _ | .polling _ _ => True
  | .created | .finished => False

theorem IsOngoing.isFinished_eq {task : Task} (ongoing : task.IsOngoing) :
    task.isFinished = false := by
  cases task with
  | finished => exact ongoing.elim
  | _ => rfl

theorem isOngoing_goOn (now : Nat) (service : Service) (poll : Poll) (deadline : Nat) :
    (goOn now service poll deadline).1.IsOngoing := by
  cases ends : (poll.advance now service).result? with
  | none =>
      rw [goOn_of_no_result ends]
      exact trivial
  | some value =>
      rw [goOn_of_result ends]
      exact trivial

section Ongoing

variable (clock : Clock) (settings : Settings) (now : Nat) (service : Service)

theorem isOngoing_tick (deadline : Nat) :
    (tick clock settings now service deadline).1.IsOngoing := by
  simp only [tick]
  exact isOngoing_goOn _ _ _ _

theorem isOngoing_rest (deadline : Nat) :
    (rest clock settings now service deadline).1.IsOngoing := by
  unfold Task.rest
  split
  · exact isOngoing_tick clock settings now service deadline
  · exact trivial

/-- A task ends only in a run in which it is cancelled. -/
theorem isOngoing_run {task : Task} (unfinished : task.isFinished = false) :
    (task.run clock settings false now service).1.IsOngoing := by
  cases task with
  | finished => cases unfinished
  | created =>
      rw [run_created]
      exact isOngoing_tick clock settings now service now
  | resting deadline =>
      rw [run_resting]
      exact isOngoing_rest clock settings now service deadline
  | polling poll deadline =>
      rw [run_polling]
      cases ends : (poll.advance now service).result? with
      | none =>
          rw [goOn_of_no_result ends, follow_polling]
          exact trivial
      | some value =>
          rw [goOn_of_result ends, fst_follow_resting]
          exact isOngoing_rest clock settings now service deadline

theorem isFinished_run (cancelled : Bool) (task : Task) :
    (task.run clock settings cancelled now service).1.isFinished =
      (task.isFinished || cancelled) := by
  cases cancelled with
  | true => simp [run_of_cancelled, isFinished]
  | false =>
      cases finished : task.isFinished with
      | true =>
          rw [isFinished_iff.mp finished]
          rfl
      | false => exact (isOngoing_run clock settings now service finished).isFinished_eq

theorem run_ne_created (cancelled : Bool) (task : Task) :
    (task.run clock settings cancelled now service).1 ≠ .created := by
  cases cancelled with
  | true => simp [run_of_cancelled]
  | false =>
      cases finished : task.isFinished with
      | true =>
          rw [isFinished_iff.mp finished]
          nofun
      | false =>
          intro created
          have ongoing := isOngoing_run clock settings now service finished
          rw [created] at ongoing
          exact ongoing

end Ongoing

end Task

/-! ## The course of a life -/

namespace Observer

/-- `Life clock visits o now`: at the moment `now`, `o` is what an observer has come to, and
`visits` are the runs of its task so far.  Time passes no further than to the moment at which
the task has something to do. -/
inductive Life (clock : Clock) : List Visit → Observer κ → Nat → Prop where
  | created {o : Observer κ} {now : Nat} : o.task = .created → Life clock [] o now
  | pass {visits : List Visit} {o : Observer κ} {now later : Nat} :
      Life clock visits o now → now ≤ later →
        (∀ moment, o.wake? = some moment → later ≤ max now moment) → Life clock visits o later
  | change {visits : List Visit} {o o' : Observer κ} {now : Nat} :
      Life clock visits o now → o'.settings = o.settings → o'.task = o.task →
        (o.cancelled = true → o'.cancelled = true) → Life clock visits o' now
  | run {visits : List Visit} {o : Observer κ} {now : Nat} (service : Service) :
      Life clock visits o now →
        Life clock (visits ++ [⟨now, service, (o.run clock now service).2⟩])
          (o.run clock now service).1 now

/-- What has happened in the runs of a task, in its order. -/
def history (visits : List Visit) : List Event :=
  visits.flatMap Visit.events

@[simp]
theorem history_concat (visits : List Visit) (visit : Visit) :
    history (visits ++ [visit]) = history visits ++ visit.events := by
  simp [history]

/-- Each run of the task has been one of the observer as it was then. -/
theorem Life.exists_before {clock : Clock} {o : Observer κ} {now : Nat} {visits : List Visit}
    {visit : Visit} (life : Life clock (visits ++ [visit]) o now) :
    ∃ before : Observer κ, Life clock visits before visit.time ∧
      visit.events = (before.run clock visit.time visit.service).2 ∧
      o.task = (before.run clock visit.time visit.service).1.task ∧
      o.settings = before.settings := by
  generalize ran : visits ++ [visit] = all at life
  induction life with
  | created => simp at ran
  | pass _ _ _ ih => exact ih ran
  | change _ settings task _ ih =>
      obtain ⟨before, life, events, task', settings'⟩ := ih ran
      exact ⟨before, life, events, task.trans task', settings.trans settings'⟩
  | @run earlier o now service life =>
      obtain ⟨rfl, same⟩ := List.append_inj' ran rfl
      cases same
      exact ⟨o, life, rfl, rfl, rfl⟩

/-- The life of an observer up to one of the runs of its task. -/
theorem Life.exists_earlier {clock : Clock} {o : Observer κ} {now : Nat}
    {visits later : List Visit} (life : Life clock (visits ++ later) o now) :
    ∃ (o' : Observer κ) (now' : Nat), Life clock visits o' now' ∧ o'.settings = o.settings := by
  induction later using List.reverseRecOn generalizing o now with
  | nil =>
      rw [List.append_nil] at life
      exact ⟨o, now, life, rfl⟩
  | append_singleton later visit ih =>
      rw [← List.append_assoc] at life
      obtain ⟨before, life, -, -, settings⟩ := life.exists_before
      obtain ⟨o', now', life, settings'⟩ := ih life
      exact ⟨o', now', life, settings'.trans settings.symm⟩

section Moments

variable {clock : Clock} {visits : List Visit} {o : Observer κ} {now : Nat}

theorem Life.task_eq_created (life : Life clock [] o now) : o.task = .created := by
  generalize none : [] = visits at life
  induction life with
  | created task => exact task
  | pass _ _ _ ih => exact ih none
  | change _ _ task _ ih => rw [task, ih none]
  | run => simp at none

/-- A run of the task of a cancelled observer ends the task, and that is all it does: a poll
under way is dropped, also if it would be over now. -/
theorem run_of_cancelled {o : Observer κ} (cancelled : o.cancelled = true)
    (clock : Clock) (now : Nat) (service : Service) :
    o.run clock now service = ({ o with task := .finished }, []) := by
  rw [Observer.run_eq, cancelled, Task.run_of_cancelled]
  obtain ⟨cluster, client, settings, isCancelled, task, last, joined, queue⟩ := o
  cases cancelled
  rfl

theorem isFinished_run_iff {service : Service} :
    (o.run clock now service).1.task.isFinished = true ↔
      o.task.isFinished = true ∨ o.cancelled = true := by
  rw [Observer.run_eq]
  simp only [Task.isFinished_run, Bool.or_eq_true]

/-- A task ends only once the observer has been cancelled. -/
theorem Life.cancelled_of_isFinished (life : Life clock visits o now)
    (finished : o.task.isFinished = true) : o.cancelled = true := by
  induction life with
  | created task =>
      rw [task] at finished
      cases finished
  | pass _ _ _ ih => exact ih finished
  | change _ _ task cancelled ih =>
      rw [task] at finished
      exact cancelled (ih finished)
  | run service _ ih =>
      rcases isFinished_run_iff.mp finished with finished | cancelled
      · exact ih finished
      · exact cancelled

theorem Life.visits_eq_nil_of_created (life : Life clock visits o now)
    (created : o.task = .created) : visits = [] := by
  induction life with
  | created => rfl
  | pass _ _ _ ih => exact ih created
  | change _ _ task _ ih => exact ih (task.symm.trans created)
  | run service _ _ =>
      rw [Observer.run_eq] at created
      exact (Task.run_ne_created _ _ _ _ _ _ created).elim

theorem Life.isWhole_of_created {visit : Visit} (life : Life clock visits o now)
    (start : StartsInMillis (visits ++ [visit])) (created : o.task = .created) :
    IsWhole visit.time := by
  apply start
  rw [life.visits_eq_nil_of_created created]
  rfl

/-- Time passes no further than the task of the observer lets it. -/
theorem Life.le_wake (life : Life clock visits o now) {later moment : Nat} (le : now ≤ later)
    (early : ∀ moment, o.wake? = some moment → later ≤ max now moment)
    (wakes : o.task.wake? = some moment) : later ≤ max now moment := by
  cases cancelled : o.cancelled with
  | true =>
      cases finished : o.task.isFinished with
      | true =>
          rw [Task.isFinished_iff.mp finished] at wakes
          cases wakes
      | false =>
          have early := early 0 (by simp [wake?, finished, cancelled])
          omega
  | false =>
      have unfinished : o.task.isFinished = false := by
        apply Bool.eq_false_iff.mpr
        intro finished
        rw [life.cancelled_of_isFinished finished] at cancelled
        cases cancelled
      exact early moment (by simp [wake?, unfinished, cancelled, wakes])

end Moments

end Observer

end Observation

end ClusterWatch
