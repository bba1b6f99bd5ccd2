import Mathlib.Algebra.Ring.Int.Defs

set_option autoImplicit false

-- The proleptic Gregorian calendar over day numbers counted from 1970-01-01.
-- Months are numbered consecutively, twelve to a year, so that the calendar is
-- a strictly increasing sequence of month starts and "the month of a day" is
-- the interval of that sequence the day falls into.
namespace Calendar

def leap (year : Int) : Bool := decide (year % 4 = 0) && (decide (year % 100 ≠ 0) || decide (year % 400 = 0))

def yearStart (year : Int) : Int := 365 * (year - 1) + (year - 1) / 4 - (year - 1) / 100 + (year - 1) / 400 - 719162

-- Whole cycles of 400, 100, 4 and 1 years. The last hundred and the last year
-- of a cycle are one day longer, which the two caps account for.
def yearOf (day : Int) : Int :=
  let count := day + 719162
  let centuries := min (count % 146097 / 36524) 3
  let rest := count % 146097 - 36524 * centuries
  400 * (count / 146097) + 100 * centuries + 4 * (rest / 1461) + min (rest % 1461 / 365) 3 + 1

def monthLengths (leapYear : Bool) : List Int :=
  [31, if leapYear then 29 else 28, 31, 30, 31, 30, 31, 31, 30, 31, 30, 31]

def daysBefore (leapYear : Bool) (month : Int) : Int := ((monthLengths leapYear).take month.toNat).sum

def locate : List Int → Int → Nat
  | [], _ => 0
  | length :: rest, offset => if offset < length then 0 else locate rest (offset - length) + 1

def monthOfYearDay (leapYear : Bool) (yearDay : Int) : Int := locate (monthLengths leapYear) yearDay

def monthStart (month : Int) : Int := yearStart (month / 12) + daysBefore (leap (month / 12)) (month % 12)

def monthOf (day : Int) : Int :=
  12 * yearOf day + monthOfYearDay (leap (yearOf day)) (day - yearStart (yearOf day))

theorem year_length (year : Int) : yearStart (year + 1) = yearStart year + 365 + (if leap year then 1 else 0) := by
  have split : leap year = true ↔ year % 4 = 0 ∧ (year % 100 ≠ 0 ∨ year % 400 = 0) := by simp [leap]
  unfold yearStart
  by_cases long : leap year = true
  · have shape := split.mp long
    simp only [long, if_true]
    omega
  · have shape : ¬ (year % 4 = 0 ∧ (year % 100 ≠ 0 ∨ year % 400 = 0)) := fun h => long (split.mpr h)
    simp only [long, Bool.false_eq_true, if_false]
    omega

theorem year_start_cycles (cycles centuries fours years : Int) (centuriesRange : 0 ≤ centuries ∧ centuries ≤ 3)
    (foursRange : 0 ≤ fours ∧ fours ≤ 24) (yearsRange : 0 ≤ years ∧ years ≤ 3) :
    yearStart (400 * cycles + 100 * centuries + 4 * fours + years + 1) =
      146097 * cycles + 36524 * centuries + 1461 * fours + 365 * years - 719162 := by
  have byFour : (400 * cycles + 100 * centuries + 4 * fours + years) / 4 = 100 * cycles + 25 * centuries + fours := by omega
  have byHundred : (400 * cycles + 100 * centuries + 4 * fours + years) / 100 = 4 * cycles + centuries := by omega
  have byCycle : (400 * cycles + 100 * centuries + 4 * fours + years) / 400 = cycles := by omega
  unfold yearStart
  omega

theorem leap_cycles (cycles centuries fours : Int) (foursRange : 0 ≤ fours ∧ fours ≤ 24) (long : fours < 24 ∨ centuries = 3) :
    leap (400 * cycles + 100 * centuries + 4 * fours + 3 + 1) = true := by
  simp only [leap, Bool.and_eq_true, Bool.or_eq_true, decide_eq_true_eq]
  refine ⟨by omega, ?_⟩
  rcases long with inner | final
  · exact .inl (by omega)
  · by_cases edge : fours = 24
    · exact .inr (by omega)
    · exact .inl (by omega)

variable (day : Int)

theorem year_of_cycles : ∃ cycles centuries fours years left : Int, (0 ≤ centuries ∧ centuries ≤ 3)
    ∧ (0 ≤ fours ∧ fours ≤ 24) ∧ (0 ≤ years ∧ years ≤ 3) ∧ 0 ≤ left ∧ (left ≤ 364 ∨ left = 365 ∧ years = 3 ∧ (fours < 24 ∨ centuries = 3)) ∧
    yearOf day = 400 * cycles + 100 * centuries + 4 * fours + years + 1 ∧
    day = 146097 * cycles + 36524 * centuries + 1461 * fours + 365 * years + left - 719162 := by
  let count := day + 719162
  let centuries := min (count % 146097 / 36524) 3
  let rest := count % 146097 - 36524 * centuries
  let years := min (rest % 1461 / 365) 3
  refine ⟨count / 146097, centuries, rest / 1461, years, rest % 1461 - 365 * years, ?_, ?_, ?_, ?_, ?_, rfl, ?_⟩ <;> omega

theorem year_of_bounds : yearStart (yearOf day) ≤ day ∧ day < yearStart (yearOf day + 1) := by
  obtain ⟨cycles, centuries, fours, years, left, centuriesRange, foursRange, yearsRange, nonneg, room, shape, dayShape⟩ :=
    year_of_cycles day
  have start := year_start_cycles cycles centuries fours years centuriesRange foursRange yearsRange
  rw [year_length, shape, start]
  refine ⟨by omega, ?_⟩
  rcases room with short | ⟨full, last, long⟩
  · split <;> omega
  · subst last
    rw [if_pos (leap_cycles cycles centuries fours foursRange long)]
    omega

theorem month_start_year (year m : Int) (lower : 0 ≤ m) (upper : m < 12) :
    monthStart (12 * year + m) = yearStart year + daysBefore (leap year) m := by
  unfold monthStart
  have quotient : (12 * year + m) / 12 = year := by omega
  have remainder : (12 * year + m) % 12 = m := by omega
  rw [quotient, remainder]

theorem days_before_step (leapYear : Bool) (m : Int) (lower : 0 ≤ m) (upper : m < 12) :
    daysBefore leapYear m + 28 ≤ daysBefore leapYear (m + 1) := by
  have cases : m = 0 ∨ m = 1 ∨ m = 2 ∨ m = 3 ∨ m = 4 ∨ m = 5 ∨ m = 6 ∨ m = 7 ∨ m = 8 ∨ m = 9 ∨ m = 10 ∨ m = 11 := by omega
  cases leapYear <;> rcases cases with rfl | rfl | rfl | rfl | rfl | rfl | rfl | rfl | rfl | rfl | rfl | rfl <;> decide

theorem days_before_full (year : Int) : yearStart year + daysBefore (leap year) 12 = yearStart (year + 1) := by
  have whole : daysBefore (leap year) 12 = 365 + (if leap year then 1 else 0) := by cases leap year <;> decide
  rw [year_length, whole]
  omega

theorem month_start_succ (year m : Int) (lower : 0 ≤ m) (upper : m < 12) :
    monthStart (12 * year + m + 1) = yearStart year + daysBefore (leap year) (m + 1) := by
  by_cases last : m = 11
  · subst last
    have next := month_start_year (year + 1) 0 (by omega) (by omega)
    have shift : 12 * year + 11 + 1 = 12 * (year + 1) + 0 := by omega
    rw [shift, next, show (11 : Int) + 1 = 12 from rfl, days_before_full]
    simp [daysBefore]
  · have inside := month_start_year year (m + 1) (by omega) (by omega)
    rwa [← Int.add_assoc] at inside

theorem month_start_step (m : Int) : monthStart m + 28 ≤ monthStart (m + 1) := by
  have split : m = 12 * (m / 12) + m % 12 := by omega
  have here := month_start_year (m / 12) (m % 12) (by omega) (by omega)
  have next := month_start_succ (m / 12) (m % 12) (by omega) (by omega)
  have step := days_before_step (leap (m / 12)) (m % 12) (by omega) (by omega)
  rw [← split] at here next
  omega

theorem month_start_mono {first second : Int} (order : first ≤ second) : monthStart first ≤ monthStart second := by
  have gap : ∀ steps : Nat, monthStart first ≤ monthStart (first + steps) := by
    intro steps
    induction steps with
    | zero => simp
    | succ steps =>
      have step := month_start_step (first + steps)
      have shift : first + ((steps + 1 : Nat) : Int) = first + steps + 1 := by omega
      rw [shift]
      omega
  have got := gap (second - first).toNat
  have distance : first + ((second - first).toNat : Int) = second := by omega
  rwa [distance] at got

theorem locate_bounds (lengths : List Int) (offset : Int) (lower : 0 ≤ offset) (upper : offset < lengths.sum) :
    locate lengths offset < lengths.length ∧ (lengths.take (locate lengths offset)).sum ≤ offset ∧
      offset < (lengths.take (locate lengths offset + 1)).sum := by
  induction lengths generalizing offset with
  | nil =>
    simp only [List.sum_nil] at upper
    omega
  | cons length _ ih =>
    by_cases here : offset < length
    · simpa [locate, here] using lower
    · simp only [List.sum_cons] at upper
      obtain ⟨inside, below, above⟩ := ih (offset - length) (by omega) (by omega)
      simp only [locate, if_neg here, List.length_cons, List.take_succ_cons, List.sum_cons]
      omega

theorem month_of_year_day_bounds (leapYear : Bool) (yearDay : Int) (lower : 0 ≤ yearDay) (upper : yearDay < 365 + (if leapYear then 1 else 0)) :
    0 ≤ monthOfYearDay leapYear yearDay ∧ monthOfYearDay leapYear yearDay < 12 ∧
      daysBefore leapYear (monthOfYearDay leapYear yearDay) ≤ yearDay ∧
      yearDay < daysBefore leapYear (monthOfYearDay leapYear yearDay + 1) := by
  have whole : (monthLengths leapYear).sum = 365 + (if leapYear then 1 else 0) := by cases leapYear <;> decide
  obtain ⟨inside, below, above⟩ := locate_bounds (monthLengths leapYear) yearDay lower (by rw [whole]; exact upper)
  have next : ((locate (monthLengths leapYear) yearDay : Int) + 1).toNat = locate (monthLengths leapYear) yearDay + 1 := by omega
  have twelve : (monthLengths leapYear).length = 12 := rfl
  simp only [monthOfYearDay, daysBefore, Int.toNat_natCast, next]
  exact ⟨by omega, by omega, below, above⟩

theorem month_of_bounds : monthStart (monthOf day) ≤ day ∧ day < monthStart (monthOf day + 1) := by
  obtain ⟨yearLower, yearUpper⟩ := year_of_bounds day
  rw [year_length] at yearUpper
  obtain ⟨first, last, below, above⟩ :=
    month_of_year_day_bounds (leap (yearOf day)) (day - yearStart (yearOf day)) (by omega) (by omega)
  have here := month_start_year (yearOf day) _ first last
  have next := month_start_succ (yearOf day) _ first last
  unfold monthOf
  omega

theorem month_of_unique (m : Int) (lower : monthStart m ≤ day) (upper : day < monthStart (m + 1)) : monthOf day = m := by
  obtain ⟨own, ownUpper⟩ := month_of_bounds day
  by_contra different
  rcases Int.lt_or_gt_of_ne different with before | after
  · have order := month_start_mono (show monthOf day + 1 ≤ m by omega)
    omega
  · have order := month_start_mono (show m + 1 ≤ monthOf day by omega)
    omega

theorem month_of_start (m : Int) : monthOf (monthStart m) = m := by
  have step := month_start_step m
  exact month_of_unique (monthStart m) m (Int.le_refl _) (by omega)

theorem month_of_mono {first second : Int} (order : first ≤ second) : monthOf first ≤ monthOf second := by
  obtain ⟨lower, _⟩ := month_of_bounds first
  obtain ⟨_, upper⟩ := month_of_bounds second
  by_contra reversed
  have gap := month_start_mono (show monthOf second + 1 ≤ monthOf first by omega)
  omega

end Calendar
