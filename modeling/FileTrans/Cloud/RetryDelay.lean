import Mathlib.Data.Rat.Floor

/-!
# Delays between retries

The delay grows with every attempt up to the maximum, and a jitter between a half
and one and a half is applied afterwards.  Doubles are exact rationals.
-/

namespace FileTrans.Cloud

/-- `cloud_retry_policy`, as far as the delays depend on it; delays are in milliseconds. -/
structure CloudRetryPolicy where
  initialDelay : Nat
  maxDelay : Nat
  backoffMultiplier : Rat
  useJitter : Bool
  initialDelay_lt : initialDelay < 2 ^ 63
  maxDelay_lt : maxDelay < 2 ^ 63
  one_le : 1 ≤ backoffMultiplier

/-- What `uniform_real_distribution<>(0.5, 1.5)` draws. -/
structure JitterFactor where
  value : Rat
  half_le : 1 / 2 ≤ value
  lt_three_halves : value < 3 / 2

/-- `static_cast<int64_t>` of a double, if it is defined. -/
def toInt64 (value : Rat) : Option Int :=
  let truncated := if 0 ≤ value then ⌊value⌋ else ⌈value⌉
  if -2 ^ 63 ≤ truncated ∧ truncated < 2 ^ 63 then some truncated else none

namespace CloudRetryPolicy

variable (policy : CloudRetryPolicy)

/-- The delay after the loop of `calculate_retry_delay`. -/
def grownDelay (attempt : Nat) : Rat :=
  (· * policy.backoffMultiplier)^[attempt - 1] policy.initialDelay

/-- `calculate_retry_delay`, if the conversion at its end is defined. -/
def calculateRetryDelay (attempt : Nat) (factor : JitterFactor) : Option Int :=
  let delay := min (policy.grownDelay attempt) policy.maxDelay
  toInt64 (if policy.useJitter then delay * factor.value else delay)

/-- Whatever the jitter, the delay is not negative and at most the maximum; and without jitter no
later attempt has a shorter one. -/
def KeepsMaximum (attempt : Nat) : Prop :=
  (∀ factor, ∃ delay, policy.calculateRetryDelay attempt factor = some delay ∧
    0 ≤ delay ∧ delay ≤ policy.maxDelay) ∧
  (policy.useJitter = false → ∀ later, attempt ≤ later → ∀ factor other delay laterDelay,
    policy.calculateRetryDelay attempt factor = some delay →
      policy.calculateRetryDelay later other = some laterDelay → delay ≤ laterDelay)

variable {policy} {attempt later : Nat} {factor other : JitterFactor}

/-! ## Growth -/

theorem grownDelay_eq (attempt : Nat) :
    policy.grownDelay attempt = policy.initialDelay * policy.backoffMultiplier ^ (attempt - 1) := by
  rw [grownDelay, mul_right_iterate_apply]

theorem grownDelay_nonneg (attempt : Nat) : 0 ≤ policy.grownDelay attempt := by
  have multiplier := policy.one_le
  rw [grownDelay_eq]
  positivity

theorem grownDelay_mono (later_le : attempt ≤ later) :
    policy.grownDelay attempt ≤ policy.grownDelay later := by
  rw [grownDelay_eq, grownDelay_eq]
  apply mul_le_mul_of_nonneg_left _ (Nat.cast_nonneg _)
  exact pow_le_pow_right₀ policy.one_le (Nat.sub_le_sub_right later_le 1)

/-! ## Conversion -/

theorem toInt64_of_nonneg {value : Rat} (nonneg : 0 ≤ value) :
    toInt64 value = if ⌊value⌋ < 2 ^ 63 then some ⌊value⌋ else none := by
  have floor := Int.floor_nonneg.mpr nonneg
  have lower : -2 ^ 63 ≤ ⌊value⌋ := le_trans (by decide) floor
  simp only [toInt64, if_pos nonneg, lower, true_and]

theorem toInt64_le_iff {value : Rat} (nonneg : 0 ≤ value) {most : Nat} (fits : most < 2 ^ 63) :
    (∃ delay, toInt64 value = some delay ∧ 0 ≤ delay ∧ delay ≤ most) ↔ value < most + 1 := by
  have floor : ⌊value⌋ ≤ (most : Int) ↔ value < most + 1 := by
    rw [← Int.lt_add_one_iff, Int.floor_lt]
    push_cast
    rfl
  rw [toInt64_of_nonneg nonneg, ← floor]
  constructor
  · rintro ⟨delay, converted, -, small⟩
    split_ifs at converted
    cases converted
    exact small
  · intro small
    exact ⟨⌊value⌋, if_pos (by omega), Int.floor_nonneg.mpr nonneg, small⟩

/-! ## Delays -/

theorem capped_nonneg : 0 ≤ min (policy.grownDelay attempt) policy.maxDelay :=
  le_min (grownDelay_nonneg attempt) (Nat.cast_nonneg _)

theorem calculateRetryDelay_plain (plain : policy.useJitter = false) :
    policy.calculateRetryDelay attempt factor =
      toInt64 (min (policy.grownDelay attempt) policy.maxDelay) := by
  simp [calculateRetryDelay, plain]

theorem calculateRetryDelay_jitter (jitter : policy.useJitter = true) :
    policy.calculateRetryDelay attempt factor =
      toInt64 (min (policy.grownDelay attempt) policy.maxDelay * factor.value) := by
  simp [calculateRetryDelay, jitter]

theorem calculateRetryDelay_mono (plain : policy.useJitter = false) (later_le : attempt ≤ later)
    {delay laterDelay : Int} (first : policy.calculateRetryDelay attempt factor = some delay)
    (second : policy.calculateRetryDelay later other = some laterDelay) : delay ≤ laterDelay := by
  rw [calculateRetryDelay_plain plain, toInt64_of_nonneg capped_nonneg] at first second
  split_ifs at first second
  cases first
  cases second
  exact Int.floor_mono (min_le_min_right _ (grownDelay_mono later_le))

/-- Every jitter keeps a capped delay below a bound exactly if one and a half of it is not above
the bound: the factors come as close to this as one likes. -/
theorem forall_jitter_lt_iff {delay bound : Rat} (nonneg : 0 ≤ delay) (below : delay < bound) :
    (∀ factor : JitterFactor, delay * factor.value < bound) ↔ 3 * delay ≤ 2 * bound := by
  constructor
  · intro every
    by_contra above
    have positive : 0 < delay := by linarith
    have least : 1 / 2 ≤ bound / delay := by
      rw [le_div_iff₀ positive]
      linarith
    have most : bound / delay < 3 / 2 := by
      rw [div_lt_iff₀ positive]
      linarith
    have reached := every ⟨bound / delay, least, most⟩
    rw [mul_div_cancel₀ bound positive.ne'] at reached
    exact lt_irrefl _ reached
  · intro small factor
    rcases nonneg.eq_or_lt with zero | positive
    · rw [← zero, zero_mul]
      linarith
    · have less := mul_lt_mul_of_pos_left factor.lt_three_halves positive
      linarith

theorem capped_small_iff (most : Nat) (grown : Rat) :
    3 * min grown most ≤ 2 * (most + 1 : Rat) ↔ most ≤ 2 ∨ 3 * grown ≤ 2 * (most + 1) := by
  have whole : (3 : Rat) * most ≤ 2 * (most + 1) ↔ most ≤ 2 := by
    constructor
    · intro small
      have cast : (most : Rat) ≤ 2 := by linarith
      exact_mod_cast cast
    · intro small
      have cast : (most : Rat) ≤ 2 := by exact_mod_cast small
      linarith
  rw [← whole]
  rcases le_total grown most with less | more
  · rw [min_eq_left less]
    constructor
    · exact .inr
    · rintro (small | small)
      · linarith
      · exact small
  · rw [min_eq_right more]
    constructor
    · exact .inl
    · rintro (small | small)
      · exact small
      · linarith

/-- The maximum is kept exactly if there is no jitter, or the delay before the jitter leaves room
for it. -/
theorem keepsMaximum_iff (policy : CloudRetryPolicy) (attempt : Nat) :
    policy.KeepsMaximum attempt ↔ policy.useJitter = false ∨ policy.maxDelay ≤ 2 ∨
      3 * (policy.initialDelay * policy.backoffMultiplier ^ (attempt - 1)) ≤
        2 * (policy.maxDelay + 1 : Rat) := by
  have below : min (policy.grownDelay attempt) policy.maxDelay < (policy.maxDelay : Rat) + 1 :=
    (min_le_right _ _).trans_lt (lt_add_one _)
  have mono (plain : policy.useJitter = false) (later) (later_le : attempt ≤ later)
      (factor other delay laterDelay)
      (first : policy.calculateRetryDelay attempt factor = some delay)
      (second : policy.calculateRetryDelay later other = some laterDelay) : delay ≤ laterDelay :=
    calculateRetryDelay_mono plain later_le first second
  cases jitter : policy.useJitter with
  | false =>
      apply iff_of_true _ (.inl rfl)
      refine ⟨fun factor => ?_, mono⟩
      rw [calculateRetryDelay_plain jitter]
      exact (toInt64_le_iff capped_nonneg policy.maxDelay_lt).mpr below
  | true =>
      have capped : (∀ factor : JitterFactor, ∃ delay,
          policy.calculateRetryDelay attempt factor = some delay ∧
            0 ≤ delay ∧ delay ≤ policy.maxDelay) ↔
          ∀ factor : JitterFactor,
            min (policy.grownDelay attempt) policy.maxDelay * factor.value <
              (policy.maxDelay : Rat) + 1 := by
        apply forall_congr'
        intro factor
        have positive : 0 ≤ factor.value := le_trans (by norm_num) factor.half_le
        rw [calculateRetryDelay_jitter jitter]
        exact toInt64_le_iff (mul_nonneg capped_nonneg positive) policy.maxDelay_lt
      rw [KeepsMaximum, and_iff_left mono, capped, forall_jitter_lt_iff capped_nonneg below,
        capped_small_iff, grownDelay_eq]
      simp

def default : CloudRetryPolicy where
  initialDelay := 1000
  maxDelay := 30000
  backoffMultiplier := 2
  useJitter := true
  initialDelay_lt := by decide
  maxDelay_lt := by decide
  one_le := by norm_num

/-- Before the sixth retry the default policy may wait for 42 seconds, with a maximum of 30. -/
theorem default_above_maximum :
    default.calculateRetryDelay 6 ⟨7 / 5, by norm_num, by norm_num⟩ = some 42000 ∧
      ¬ default.KeepsMaximum 6 := by
  have grown : default.grownDelay 6 = 32000 := by
    rw [grownDelay_eq]
    norm_num [default]
  have capped : min (default.grownDelay 6) default.maxDelay * (7 / 5) = 42000 := by
    rw [grown]
    norm_num [default]
  have delay : default.calculateRetryDelay 6 ⟨7 / 5, by norm_num, by norm_num⟩ = some 42000 := by
    rw [calculateRetryDelay_jitter rfl, capped]
    rfl
  refine ⟨delay, fun keeps => ?_⟩
  rcases keeps.1 ⟨7 / 5, by norm_num, by norm_num⟩ with ⟨found, same, -, most⟩
  cases delay.symm.trans same
  exact absurd most (by decide)

end CloudRetryPolicy

end FileTrans.Cloud
