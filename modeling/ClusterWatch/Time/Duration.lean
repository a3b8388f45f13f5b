/-!
# Lengths of time

Durations in whole nanoseconds, and instants of a clock that starts at zero.
Timers of the clock have a resolution of one millisecond, so a deadline between
two milliseconds expires at the later one, and a clock may not reach further than
a certain time into the future.
-/

namespace ClusterWatch

/-- A length of time in nanoseconds. -/
structure Duration where
  nanos : Nat
  deriving DecidableEq, Repr, Inhabited

namespace Duration

/-- Nanoseconds in a second. -/
def nanosPerSecond : Nat := 1000000000

/-- Nanoseconds in a millisecond. -/
def nanosPerMilli : Nat := 1000000

/-- A whole number of seconds. -/
def ofSeconds (n : Nat) : Duration := ⟨n * nanosPerSecond⟩

/-- A whole number of milliseconds. -/
def ofMillis (n : Nat) : Duration := ⟨n * nanosPerMilli⟩

/-- The whole seconds of a duration. -/
def seconds (d : Duration) : Nat := d.nanos / nanosPerSecond

/-- The nanoseconds past the whole seconds. -/
def subsecondNanos (d : Duration) : Nat := d.nanos % nanosPerSecond

/-- The longer of two durations. -/
def longer (a b : Duration) : Duration := ⟨max a.nanos b.nanos⟩

@[simp]
theorem seconds_ofSeconds (n : Nat) : (ofSeconds n).seconds = n := by
  simp [ofSeconds, seconds, nanosPerSecond]

@[simp]
theorem subsecondNanos_ofSeconds (n : Nat) : (ofSeconds n).subsecondNanos = 0 := by
  simp [ofSeconds, subsecondNanos, nanosPerSecond]

end Duration

/-- A clock with timers. -/
structure Clock where
  /-- How far into the future a timer may be set, in nanoseconds, if that has a
  bound. -/
  reach : Option Nat := none
  deriving DecidableEq, Repr

namespace Clock

/-- The clock that reaches thirty years of 365 days into the future. -/
def ofThirtyYears : Clock :=
  ⟨some (Duration.ofSeconds (30 * 365 * 24 * 60 * 60)).nanos⟩

/-- The deadline of a timer that is set at the instant `now`: the one that is asked
for, unless the clock does not reach so far. -/
def within (clock : Clock) (now deadline : Nat) : Nat :=
  match clock.reach with
  | none => deadline
  | some reach => min deadline (now + reach)

/-- A clock without a bound keeps every deadline. -/
@[simp]
theorem within_unbounded (now deadline : Nat) : within {} now deadline = deadline :=
  rfl

theorem within_le (clock : Clock) (now deadline : Nat) :
    clock.within now deadline ≤ deadline := by
  unfold within
  split <;> omega

/-- The first whole millisecond that is not before the instant `t`, both in
nanoseconds since the clock started. -/
def roundUp (t : Nat) : Nat :=
  (t + (Duration.nanosPerMilli - 1)) / Duration.nanosPerMilli * Duration.nanosPerMilli

/-- A whole millisecond is not moved. -/
@[simp]
theorem roundUp_mul (n : Nat) :
    roundUp (n * Duration.nanosPerMilli) = n * Duration.nanosPerMilli := by
  simp only [roundUp, Duration.nanosPerMilli]
  omega

theorem le_roundUp (t : Nat) : t ≤ roundUp t := by
  simp only [roundUp, Duration.nanosPerMilli]
  omega

end Clock

end ClusterWatch
