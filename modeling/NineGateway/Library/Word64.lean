import Mathlib.Data.Int.Basic

set_option autoImplicit false

-- Signed 64-bit arithmetic over Int: the range, reduction into it, and the
-- floor of a value to a multiple, which truncating division does not give
-- directly for negative operands.
namespace Word64

def maxInt64 : Int := 9223372036854775807
def minInt64 : Int := -9223372036854775808

def wrap (value : Int) : Int := (value + 9223372036854775808) % 18446744073709551616 - 9223372036854775808

def floorTo (width value : Int) : Int := value - value % width

theorem wrap_fits (v : Int) (lower : minInt64 ≤ v) (upper : v ≤ maxInt64) : wrap v = v := by
  unfold minInt64 at lower
  unfold maxInt64 at upper
  unfold wrap
  omega

theorem wrap_below (v : Int) (under : v < minInt64) (near : minInt64 - 18446744073709551616 ≤ v) : wrap v = v + 18446744073709551616 := by
  unfold minInt64 at under near
  unfold wrap
  omega

theorem floored_remainder (v width : Int) (pos : 0 < width) : (if v.tmod width < 0 then v.tmod width + width else v.tmod width)
    = v % width := by
  have lower := Int.emod_nonneg v (Int.ne_of_gt pos)
  have upper := Int.emod_lt_of_pos v pos
  rw [Int.tmod_eq_emod]
  by_cases exact : 0 ≤ v ∨ width ∣ v
  · simp only [if_pos exact]
    omega
  · simp only [if_neg exact]
    omega

theorem floor_to_greatest (width v : Int) (pos : 0 < width) : width ∣ floorTo width v ∧ floorTo width v ≤ v ∧
      ∀ multiple, width ∣ multiple → multiple ≤ v → multiple ≤ floorTo width v := by
  have lower := Int.emod_nonneg v (Int.ne_of_gt pos)
  refine ⟨Int.dvd_self_sub_emod, by unfold floorTo; omega, ?_⟩
  intro multiple divides below
  obtain ⟨count, rfl⟩ := divides
  have split := Int.emod_add_mul_ediv v width
  have quotient : count ≤ v / width := by
    apply (Int.le_ediv_iff_mul_le pos).mpr
    rwa [Int.mul_comm]
  have scaled := Int.mul_le_mul_of_nonneg_left quotient (Int.le_of_lt pos)
  unfold floorTo
  omega

end Word64
