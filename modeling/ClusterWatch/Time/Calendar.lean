/-!
# Dates and times of day

Moments in Coordinated Universal Time as calendar fields.  A second numbered 60
is a leap second and stays one.  Shifting a moment by the offset of a time zone
moves it by at most one day, so stepping to the neighbouring date is all the
calendar arithmetic that is needed.
-/

namespace ClusterWatch

/-- A leap year of the Gregorian calendar, extended to all years. -/
def isLeapYear (year : Int) : Bool :=
  year % 4 == 0 && (year % 100 != 0 || year % 400 == 0)

/-- The number of days of a month, and zero for a number that is no month. -/
def daysInMonth (year : Int) (month : Nat) : Nat :=
  if month = 2 then (if isLeapYear year then 29 else 28)
  else if month = 4 ∨ month = 6 ∨ month = 9 ∨ month = 11 then 30
  else if 1 ≤ month ∧ month ≤ 12 then 31
  else 0

/-- A date of the Gregorian calendar. -/
structure Date where
  year : Int
  month : Nat
  day : Nat
  month_pos : 1 ≤ month
  month_le : month ≤ 12
  day_pos : 1 ≤ day
  day_le : day ≤ daysInMonth year month
  deriving DecidableEq

namespace Date

/-- The date with these fields, if there is one. -/
def of? (year : Int) (month day : Nat) : Option Date :=
  if h : (1 ≤ month ∧ month ≤ 12) ∧ (1 ≤ day ∧ day ≤ daysInMonth year month) then
    some ⟨year, month, day, h.1.1, h.1.2, h.2.1, h.2.2⟩
  else none

/-- Every month has at least 28 days. -/
theorem le_daysInMonth {year : Int} {month : Nat} (lower : 1 ≤ month) (upper : month ≤ 12) :
    28 ≤ daysInMonth year month := by
  unfold daysInMonth
  split
  · split <;> decide
  · split
    · decide
    · simp [lower, upper]

/-- The date after this one. -/
def next (d : Date) : Date :=
  if inMonth : d.day + 1 ≤ daysInMonth d.year d.month then
    { d with day := d.day + 1, day_pos := Nat.succ_pos _, day_le := inMonth }
  else if inYear : d.month + 1 ≤ 12 then
    { d with
      month := d.month + 1, day := 1, month_pos := Nat.succ_pos _, month_le := inYear
      day_pos := Nat.le_refl _
      day_le := Nat.le_trans (by decide) (le_daysInMonth (Nat.succ_pos _) inYear) }
  else
    { year := d.year + 1, month := 1, day := 1, month_pos := by decide, month_le := by decide
      day_pos := by decide
      day_le := Nat.le_trans (by decide) (le_daysInMonth (by decide) (by decide)) }

/-- The date before this one. -/
def previous (d : Date) : Date :=
  if inMonth : 1 ≤ d.day - 1 then
    { d with
      day := d.day - 1, day_pos := inMonth
      day_le := Nat.le_trans (Nat.sub_le _ _) d.day_le }
  else if inYear : 1 ≤ d.month - 1 then
    { d with
      month := d.month - 1, day := daysInMonth d.year (d.month - 1), month_pos := inYear
      month_le := Nat.le_trans (Nat.sub_le _ _) d.month_le
      day_pos := Nat.le_trans (by decide)
        (le_daysInMonth inYear (Nat.le_trans (Nat.sub_le _ _) d.month_le))
      day_le := Nat.le_refl _ }
  else
    { year := d.year - 1, month := 12, day := 31, month_pos := by decide, month_le := by decide
      day_pos := by decide, day_le := by simp [daysInMonth] }

end Date

/-- A time of day to the nanosecond, leap seconds included. -/
structure TimeOfDay where
  hour : Nat
  minute : Nat
  second : Nat
  nanos : Nat
  hour_lt : hour < 24
  minute_lt : minute < 60
  second_le : second ≤ 60
  nanos_lt : nanos < 1000000000
  deriving DecidableEq

/-- A moment in Coordinated Universal Time. -/
structure Timestamp where
  date : Date
  time : TimeOfDay
  deriving DecidableEq

namespace Timestamp

/-- The first moment of the year 1970, from which machines count. -/
def epoch : Timestamp where
  date := ⟨1970, 1, 1, by decide, by decide, by decide, by decide⟩
  time := ⟨0, 0, 0, 0, by decide, by decide, by decide, by decide⟩

/-- The moment at which a clock that runs `minutes` minutes ahead shows the given
date and time, for an offset of less than one day. -/
def ofLocal (date : Date) (time : TimeOfDay) (minutes : Int) : Timestamp :=
  let total : Int := time.hour * 60 + time.minute - minutes
  let shifted :=
    if total < 0 then date.previous
    else if 1440 ≤ total then date.next
    else date
  let minuteOfDay := (total % 1440).toNat
  { date := shifted
    time :=
      { time with
        hour := minuteOfDay / 60
        minute := minuteOfDay % 60
        hour_lt := by omega
        minute_lt := Nat.mod_lt _ (by decide) } }

end Timestamp

end ClusterWatch
