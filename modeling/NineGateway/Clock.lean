import NineGateway.Library.Calendar
import NineGateway.Library.Word64

set_option autoImplicit false

namespace NineGateway

open Calendar

-- A time.Time is an Int, the exact count of nanoseconds from the Unix epoch, and
-- a time.Duration an Int count of nanoseconds. Every instant the limiters store
-- or compare has passed through UTC(), which drops the location and the
-- monotonic reading, so == and Before are equality and order of the counts.

def secondNanos : Int := 1000000000
def dayNanos : Int := 86400000000000

-- The zero time.Time, midnight of 1 January of year 1.
def zeroTime : Int := -62135596800000000000

def unix (moment : Int) : Int := moment / secondNanos
def nanosecond (moment : Int) : Int := moment % secondNanos
def unixNano (moment : Int) : Int := Word64.wrap moment

def dayNumber (moment : Int) : Int := moment / dayNanos
def year (moment : Int) : Int := Calendar.monthOf (dayNumber moment) / 12
def month (moment : Int) : Int := Calendar.monthOf (dayNumber moment) % 12 + 1
def day (moment : Int) : Int := dayNumber moment - Calendar.monthStart (Calendar.monthOf (dayNumber moment)) + 1

-- time.Date at midnight UTC; a month outside 1..12 carries into the year.
def date (year month day : Int) : Int := dayNanos * (Calendar.monthStart (12 * year + (month - 1)) + (day - 1))

def currentDay (now : Int) : Int := date (year now) (month now) (day now)
def currentMonth (now : Int) : Int := date (year now) (month now) 1
def nextMonth (start : Int) : Int := date (year start) (month start + 1) (day start)
def validDayStart (start : Int) : Bool := decide (start ≠ zeroTime) && decide (start = currentDay start)
def validMonthStart (start : Int) : Bool := decide (start ≠ zeroTime) && decide (start = currentMonth start)

-- nowTime and currentTimeLocked hold time still when the clock moves back. The
-- result is what both return and what both leave in lastNow.
def clampTime (lastNow reading : Int) : Int :=
  if lastNow ≠ zeroTime ∧ reading < lastNow then lastNow else reading

-- resetAt.Sub(now) saturates at the ends of a signed 64-bit duration.
def retryAfterSecondsAt (now resetAt : Int) : Int :=
  let delta := max Word64.minInt64 (min Word64.maxInt64 (resetAt - now))
  if delta ≤ 0 then 1
  else if delta % secondNanos ≠ 0 then delta / secondNanos + 1 else delta / secondNanos

theorem month_number (moment : Int) : 12 * year moment + (month moment - 1) = monthOf (dayNumber moment) := by
  unfold year month
  omega

variable (now : Int)

theorem current_day_eq : currentDay now = dayNanos * dayNumber now := by
  unfold currentDay date
  rw [month_number]
  unfold day
  congr 1
  omega

theorem current_month_eq : currentMonth now = dayNanos * monthStart (monthOf (dayNumber now)) := by
  unfold currentMonth date
  rw [month_number]
  congr 1
  omega

theorem day_number_midnight (number : Int) : dayNumber (dayNanos * number) = number := by
  unfold dayNumber dayNanos
  omega

variable {first second : Int}

theorem day_number_mono (order : first ≤ second) : dayNumber first ≤ dayNumber second := by
  unfold dayNumber dayNanos
  omega

theorem midnight_mono (order : first ≤ second) : dayNanos * first ≤ dayNanos * second := by
  unfold dayNanos
  omega

theorem current_day_idem : currentDay (currentDay now) = currentDay now := by
  rw [current_day_eq (currentDay now), current_day_eq now, day_number_midnight]

theorem current_day_mono (order : first ≤ second) : currentDay first ≤ currentDay second := by
  rw [current_day_eq, current_day_eq]
  exact midnight_mono (day_number_mono order)

theorem current_month_idem : currentMonth (currentMonth now) = currentMonth now := by
  rw [current_month_eq (currentMonth now), current_month_eq now, day_number_midnight, month_of_start]

theorem current_month_mono (order : first ≤ second) : currentMonth first ≤ currentMonth second := by
  rw [current_month_eq, current_month_eq]
  exact midnight_mono (month_start_mono (month_of_mono (day_number_mono order)))

theorem current_month_of_day : currentMonth (currentDay now) = currentMonth now := by
  rw [current_month_eq (currentDay now), current_month_eq now, current_day_eq, day_number_midnight]

theorem valid_day_start_iff (start : Int) : validDayStart start = true ↔ start ≠ zeroTime ∧ start = currentDay start := by
  simp [validDayStart]

theorem valid_month_start_iff (start : Int) : validMonthStart start = true ↔ start ≠ zeroTime ∧ start = currentMonth start := by
  simp [validMonthStart]

theorem valid_day_start_current : validDayStart (currentDay now) = decide (currentDay now ≠ zeroTime) := by
  simp [validDayStart, current_day_idem]

theorem valid_month_start_current : validMonthStart (currentMonth now) = decide (currentMonth now ≠ zeroTime) := by
  simp [validMonthStart, current_month_idem]

theorem current_day_nonzero {now : Int} (later : currentMonth now ≠ zeroTime) : currentDay now ≠ zeroTime := by
  intro zero
  apply later
  rw [← current_month_of_day, zero]
  decide +kernel

theorem next_day_after (now : Int) : now < currentDay now + dayNanos := by
  rw [current_day_eq]
  unfold dayNumber dayNanos
  omega

theorem next_month_after (now : Int) : now < nextMonth (currentMonth now) := by
  have first : dayNumber (currentMonth now) = monthStart (monthOf (dayNumber now)) := by
    rw [current_month_eq, day_number_midnight]
  have number := month_number (currentMonth now)
  rw [first, month_of_start] at number
  have last := (month_of_bounds (dayNumber now)).2
  unfold nextMonth date day
  rw [first, month_of_start, show 12 * year (currentMonth now) + (month (currentMonth now) + 1 - 1) =
    monthOf (dayNumber now) + 1 by omega]
  unfold dayNumber dayNanos at *
  omega

theorem clamp_time_ge (lastNow read : Int) (begun : lastNow ≠ zeroTime) : lastNow ≤ clampTime lastNow read := by
  unfold clampTime
  split
  · exact Int.le_refl _
  · rename_i forward
    by_contra back
    exact forward ⟨begun, by omega⟩

theorem clamp_time_cases (lastNow read : Int) : clampTime lastNow read = read ∨ (lastNow ≠ zeroTime ∧ clampTime lastNow read = lastNow) := by
  unfold clampTime
  split
  · rename_i back
    exact .inr ⟨back.1, rfl⟩
  · exact .inl rfl

end NineGateway
