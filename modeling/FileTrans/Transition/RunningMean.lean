import Mathlib.Tactic.Linarith
import Mathlib.Tactic.Ring

/-!
# Running means in whole numbers

A mean that is kept as a whole number is multiplied out again for every new
sample.  What a division drops is missing from all later totals, so that the
mean falls behind the exact one; how far is the sum of the remainders over the
number of samples.
-/

namespace FileTrans.Transition

/-- The mean of the samples so far and one more. -/
def nextMean (mean count sample : Nat) : Nat :=
  (mean * count + sample) / (count + 1)

/-- What the mean, multiplied out, lacks of the total. -/
def shortfall (total mean count : Nat) : Nat :=
  total - mean * count

variable {total mean count sample : Nat}

/-- Every division adds its remainder to the shortfall. -/
theorem shortfall_nextMean (le : mean * count ≤ total) :
    shortfall (total + sample) (nextMean mean count sample) (count + 1) =
      shortfall total mean count + (mean * count + sample) % (count + 1) := by
  have division := Nat.div_add_mod' (mean * count + sample) (count + 1)
  rw [shortfall, shortfall, nextMean]
  omega

/-- A mean is within one of the exact one exactly if its shortfall is less than the number of
samples. -/
theorem abs_sub_mean_lt_one_iff (positive : 0 < count) (le : mean * count ≤ total) :
    |(mean : ℚ) - (total : ℚ) / count| < 1 ↔ shortfall total mean count < count := by
  have some_samples : (0 : ℚ) < count := Nat.cast_pos.mpr positive
  have below : (mean : ℚ) ≤ total / count := by
    rw [le_div_iff₀ some_samples]
    exact_mod_cast le
  have within : (total : ℚ) / count < mean + 1 ↔ total < (mean + 1) * count := by
    rw [div_lt_iff₀ some_samples]
    exact_mod_cast Iff.rfl
  rw [abs_of_nonpos (sub_nonpos.mpr below), neg_sub, sub_lt_iff_lt_add', within, shortfall,
    Nat.add_mul, Nat.one_mul]
  omega

/-- After so many samples the shortfall is at most that of divisions that all drop as much as
they can. -/
theorem two_mul_shortfall_le (le : mean * count ≤ total)
    (bound : 2 * shortfall total mean count ≤ count * (count - 1)) :
    2 * shortfall (total + sample) (nextMean mean count sample) (count + 1) ≤
      (count + 1) * count := by
  have dropped := Nat.lt_succ_iff.mp (Nat.mod_lt (mean * count + sample) count.succ_pos)
  rw [shortfall_nextMean le, Nat.mul_add]
  cases count with
  | zero => omega
  | succ count =>
      rw [Nat.add_sub_cancel] at bound
      calc
        _ ≤ (count + 1) * count + 2 * (count + 1) :=
          Nat.add_le_add bound (Nat.mul_le_mul_left 2 dropped)
        _ = (count + 1 + 1) * (count + 1) := by ring

/-- With such a shortfall the mean is not above the exact one, and behind it by at most half the
number of further samples. -/
theorem sub_mean_le_half (positive : 0 < count) (le : mean * count ≤ total)
    (bound : 2 * shortfall total mean count ≤ count * (count - 1)) :
    (mean : ℚ) ≤ total / count ∧ (total : ℚ) / count - mean ≤ (count - 1) / 2 := by
  have some_samples : (0 : ℚ) < count := Nat.cast_pos.mpr positive
  have lacks : 2 * ((total : ℚ) - mean * count) ≤ count * (count - 1) := by
    rw [← Nat.cast_mul, ← Nat.cast_sub le, ← Nat.cast_pred positive]
    exact_mod_cast bound
  constructor
  · rw [le_div_iff₀ some_samples]
    exact_mod_cast le
  · rw [sub_le_iff_le_add, div_le_iff₀ some_samples]
    linarith

end FileTrans.Transition
