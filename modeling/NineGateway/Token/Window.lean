import NineGateway.Clock

set_option autoImplicit false

namespace NineGateway.Token

open Word64

def checkedNonNegativeAdd (left right : Int) : Option Int :=
  if left < 0 ∨ right < 0 ∨ left > maxInt64 - right then none else some (left + right)

def checkedSignedAdd (left right : Int) : Option Int :=
  if right > 0 ∧ left > maxInt64 - right then none
  else if right < 0 ∧ left < minInt64 - right then none
  else some (left + right)

-- The remainder both window functions subtract, from int64 division that
-- truncates toward zero.
def flooredRemainder (nanos width : Int) : Int :=
  if nanos.tmod width < 0 then nanos.tmod width + width else nanos.tmod width

-- minInt64-nanoseconds wraps for a positive sub-second part.
def fixedWindowStartChecked (now duration : Int) : Option Int :=
  if duration ≤ 0 then none
  else if unix now > (maxInt64 - nanosecond now).tdiv secondNanos ∨ unix now < (wrap (minInt64 - nanosecond now)).tdiv secondNanos then none
  else
    let nanos := wrap (wrap (unix now * secondNanos) + nanosecond now)
    if nanos = minInt64 then none
    else checkedSignedAdd nanos (-flooredRemainder nanos duration)

def checkedWindowReset (start duration : Int) : Option Int := checkedSignedAdd (unixNano start) duration

def fixedWindowStart (now duration : Int) : Int :=
  if duration ≤ 0 then zeroTime
  else wrap (unixNano now - flooredRemainder (unixNano now) duration)

variable {left right sum : Int}

theorem nonnegative_add_some (good : checkedNonNegativeAdd left right = some sum) :
    0 ≤ left ∧ 0 ≤ right ∧ sum = left + right ∧ sum ≤ maxInt64 := by
  unfold checkedNonNegativeAdd at good
  split at good
  · simp at good
  · simp only [Option.some.injEq] at good
    omega

theorem nonnegative_add_fits (leftSign : 0 ≤ left) (rightSign : 0 ≤ right) (fits : left + right ≤ maxInt64) :
    checkedNonNegativeAdd left right = some (left + right) := by
  unfold checkedNonNegativeAdd
  rw [if_neg (by omega)]

theorem signed_add_some (good : checkedSignedAdd left right = some sum) : sum = left + right := by
  unfold checkedSignedAdd at good
  split at good
  · simp at good
  · split at good
    · simp at good
    · simpa using good.symm

theorem signed_add_fits (lower : minInt64 ≤ left + right) (upper : left + right ≤ maxInt64) :
    checkedSignedAdd left right = some (left + right) := by
  unfold checkedSignedAdd
  rw [if_neg (by omega), if_neg (by omega)]

theorem floored_remainder_eq {nanos width : Int} (pos : 0 < width) : flooredRemainder nanos width = nanos % width :=
  floored_remainder nanos width pos

-- The instants the wrapped guard lets through: whole seconds, and the last
-- second a signed 64-bit count of nanoseconds can reach.
def guardPasses (now : Int) : Bool := decide (now % secondNanos = 0) || decide (maxInt64 + 1 - secondNanos < now)

theorem floor_to_bounds (now dur : Int) (pos : 0 < dur) : floorTo dur now ≤ now ∧ now < floorTo dur now + dur := by
  have lower := Int.emod_nonneg now (Int.ne_of_gt pos)
  have upper := Int.emod_lt_of_pos now pos
  unfold floorTo
  omega

theorem nanosecond_bounds (now : Int) : 0 ≤ nanosecond now ∧ nanosecond now < 1000000000 := by
  unfold nanosecond secondNanos
  omega

theorem unix_split (now : Int) : unix now * secondNanos + nanosecond now = now := by
  unfold unix nanosecond
  have split := Int.emod_add_mul_ediv now secondNanos
  rw [Int.mul_comm] at split
  omega

section Instant

variable {now dur : Int}

theorem upper_guard (upper : now ≤ maxInt64) : ¬ unix now > (maxInt64 - nanosecond now).tdiv secondNanos := by
  unfold unix nanosecond maxInt64 secondNanos at *
  rw [Int.tdiv_eq_ediv_of_nonneg (by omega)]
  omega

theorem lower_guard (lower : minInt64 ≤ now) (upper : now ≤ maxInt64) :
    unix now < (wrap (minInt64 - nanosecond now)).tdiv secondNanos ↔ guardPasses now = false := by
  have size := nanosecond_bounds now
  by_cases whole : nanosecond now = 0
  · have passes : guardPasses now = true := by
      unfold nanosecond at whole
      simp [guardPasses, whole]
    rw [whole, Int.sub_zero, wrap_fits _ (Int.le_refl _) (by decide), passes]
    have floor : (minInt64.tdiv secondNanos) = -9223372036 := by decide
    unfold nanosecond secondNanos at whole
    unfold unix minInt64 maxInt64 secondNanos at *
    simp
    omega
  · rw [wrap_below _ (by omega) (by unfold minInt64; omega)]
    have v : minInt64 - nanosecond now + 18446744073709551616 = 9223372036854775808 - nanosecond now := by
      unfold minInt64
      omega
    rw [v, Int.tdiv_eq_ediv_of_nonneg (by omega)]
    unfold guardPasses
    unfold nanosecond secondNanos at *
    unfold unix minInt64 maxInt64 secondNanos at *
    simp only [Bool.or_eq_false_iff, decide_eq_false_iff_not]
    omega

theorem instant_nanos (lower : minInt64 ≤ now) (upper : now ≤ maxInt64) : wrap (wrap (unix now * secondNanos) + nanosecond now) = now := by
  have bounds := nanosecond_bounds now
  have whole := unix_split now
  by_cases inside : minInt64 ≤ unix now * secondNanos
  · rw [wrap_fits (unix now * secondNanos) inside (by omega), whole, wrap_fits now lower upper]
  · unfold wrap
    unfold minInt64 maxInt64 at *
    omega

theorem guard_bounds (early : ¬ unix now > (maxInt64 - nanosecond now).tdiv secondNanos)
    (late : ¬ unix now < (wrap (minInt64 - nanosecond now)).tdiv secondNanos) : minInt64 < now ∧ now ≤ maxInt64 := by
  have size := nanosecond_bounds now
  have whole := unix_split now
  rw [Int.tdiv_eq_ediv_of_nonneg (by unfold maxInt64; omega)] at early
  by_cases even : nanosecond now = 0
  · have floor : (minInt64.tdiv secondNanos) = -9223372036 := by decide
    rw [even, Int.sub_zero, wrap_fits _ (Int.le_refl _) (by decide), floor] at late
    unfold maxInt64 minInt64 secondNanos at *
    omega
  · have v : wrap (minInt64 - nanosecond now) = 9223372036854775808 - nanosecond now := by
      rw [wrap_below _ (by omega) (by unfold minInt64; omega)]
      unfold minInt64
      omega
    rw [v, Int.tdiv_eq_ediv_of_nonneg (by omega)] at late
    unfold maxInt64 minInt64 secondNanos at *
    omega

theorem window_start_eq (pos : 0 < dur) (lower : minInt64 < now) (upper : now ≤ maxInt64) (fits : minInt64 ≤ floorTo dur now) :
    fixedWindowStartChecked now dur = if guardPasses now then some (floorTo dur now) else none := by
  have pre := (floor_to_bounds now dur pos).1
  unfold fixedWindowStartChecked
  rw [if_neg (by omega)]
  cases passes : guardPasses now with
  | false => rw [if_pos (.inr ((lower_guard (Int.le_of_lt lower) upper).mpr passes)), if_neg Bool.false_ne_true]
  | true =>
    have clear : ¬ unix now < (wrap (minInt64 - nanosecond now)).tdiv secondNanos := by
      rw [lower_guard (Int.le_of_lt lower) upper, passes]
      decide
    rw [if_neg (not_or.mpr ⟨upper_guard upper, clear⟩), instant_nanos (Int.le_of_lt lower) upper]
    simp only [if_neg (Int.ne_of_gt lower), if_true, floored_remainder_eq pos]
    unfold floorTo at fits pre ⊢
    rw [signed_add_fits (by omega) (by omega), Int.sub_eq_add_neg]

variable {start : Int}

theorem window_start_some (good : fixedWindowStartChecked now dur = some start) :
    0 < dur ∧ minInt64 < now ∧ now ≤ maxInt64 ∧ start = floorTo dur now := by
  unfold fixedWindowStartChecked at good
  split at good
  · simp at good
  have pos : 0 < dur := by omega
  split at good
  · simp at good
  rename_i guarded
  rw [not_or] at guarded
  have range := guard_bounds guarded.1 guarded.2
  simp only [instant_nanos (Int.le_of_lt range.1) range.2, floored_remainder_eq pos] at good
  split at good
  · simp at good
  · refine ⟨pos, range.1, range.2, ?_⟩
    rw [signed_add_some good]
    rfl

theorem window_start_plain (pos : 0 < dur) (lower : minInt64 < now) (upper : now ≤ maxInt64)
    (fits : minInt64 ≤ floorTo dur now) : fixedWindowStart now dur = floorTo dur now := by
  have pre := (floor_to_bounds now dur pos).1
  unfold fixedWindowStart unixNano
  rw [if_neg (by omega), wrap_fits now (Int.le_of_lt lower) upper, floored_remainder_eq pos]
  exact wrap_fits _ fits (by unfold floorTo at pre; omega)

theorem window_reset_fits (lower : minInt64 ≤ start) (pos : 0 < dur) (upper : start + dur ≤ maxInt64) :
    checkedWindowReset start dur = some (start + dur) := by
  unfold checkedWindowReset unixNano
  rw [wrap_fits start lower (by omega), signed_add_fits (by omega) upper]

end Instant

end NineGateway.Token
