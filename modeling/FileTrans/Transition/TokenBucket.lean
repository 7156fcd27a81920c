import Mathlib.Algebra.Order.Field.Basic
import Mathlib.Algebra.BigOperators.Group.List.Basic
import Mathlib.Tactic.Linarith
import Mathlib.Tactic.Ring

/-!
# Token buckets

A bucket fills at a rate up to its capacity, and tokens are taken from it.  A
take may leave the bucket in debt.  What is taken in an interval is at most the
capacity, what flows in during the interval, and the greatest debt that a take
leaves.
-/

namespace FileTrans.Transition

universe u

variable {K : Type u}

/-- How much is in a bucket, and when that was counted. -/
structure Bucket (K : Type u) where
  level : K
  time : K

/-- How much was taken, and when. -/
structure Take (K : Type u) where
  amount : K
  time : K

section

variable [Field K] [LinearOrder K]

/-- What flowed in until now, up to the capacity. -/
def Bucket.fill (rate capacity now : K) (bucket : Bucket K) : Bucket K :=
  if bucket.time < now then
    ⟨min (bucket.level + (now - bucket.time) * rate) capacity, now⟩
  else bucket

/-- Take from the bucket. -/
def Bucket.draw (amount : K) (bucket : Bucket K) : Bucket K :=
  { bucket with level := bucket.level - amount }

/-- What was taken in an interval. -/
def taken (first last : K) (takes : List (Take K)) : K :=
  ((takes.filter fun take => first ≤ take.time ∧ take.time ≤ last).map Take.amount).sum

@[simp]
theorem taken_nil (first last : K) : taken first last [] = 0 :=
  rfl

theorem taken_concat (first last : K) (takes : List (Take K)) (take : Take K) :
    taken first last (takes ++ [take]) =
      taken first last takes +
        if first ≤ take.time ∧ take.time ≤ last then take.amount else 0 := by
  rw [taken, taken, List.filter_append, List.map_append, List.sum_append]
  by_cases inside : first ≤ take.time ∧ take.time ≤ last
  · simp [inside]
  · simp [inside]

/-! ## Takes in an interval -/

/-- What the takes so far have to do with the bucket, for one interval. -/
structure Covered (rate capacity debt first last : K) (takes : List (Take K)) (bucket : Bucket K) :
    Prop where
  level_le : bucket.level ≤ capacity
  before : bucket.time < first → taken first last takes = 0
  during : first ≤ bucket.time → bucket.time ≤ last →
    taken first last takes + bucket.level ≤ capacity + rate * (bucket.time - first)
  bounded : taken first last takes ≤ capacity + rate * (last - first) + debt

variable {rate capacity debt first last now amount : K} {takes : List (Take K)} {bucket : Bucket K}

/-- After filling, the bucket was counted now. -/
theorem Bucket.time_fill (past : bucket.time ≤ now) :
    (bucket.fill rate capacity now).time = now := by
  rw [fill]
  split
  · rfl
  · rename_i same
    exact le_antisymm past (not_lt.mp same)

variable [IsStrictOrderedRing K]

/-- Before anything is taken, everything is covered. -/
theorem Covered.start (rate_nonneg : 0 ≤ rate) (capacity_nonneg : 0 ≤ capacity)
    (debt_nonneg : 0 ≤ debt) (interval : first ≤ last) (level_le : bucket.level ≤ capacity) :
    Covered rate capacity debt first last [] bucket where
  level_le := level_le
  before _ := taken_nil first last
  during after _ := by
    have flow : 0 ≤ rate * (bucket.time - first) := mul_nonneg rate_nonneg (sub_nonneg.mpr after)
    rw [taken_nil]
    linarith
  bounded := by
    have flow : 0 ≤ rate * (last - first) := mul_nonneg rate_nonneg (sub_nonneg.mpr interval)
    rw [taken_nil]
    linarith

/-- Filling keeps the takes covered. -/
theorem Covered.fill (rate_nonneg : 0 ≤ rate)
    (covered : Covered rate capacity debt first last takes bucket) (now : K) :
    Covered rate capacity debt first last takes (bucket.fill rate capacity now) := by
  rw [Bucket.fill]
  split
  · rename_i later
    constructor
    · exact min_le_right _ _
    · intro before
      exact covered.before (later.trans before)
    · intro after inside
      by_cases begun : first ≤ bucket.time
      · have during := covered.during begun (later.le.trans inside)
        have level : min (bucket.level + (now - bucket.time) * rate) capacity ≤
            bucket.level + (now - bucket.time) * rate := min_le_left _ _
        calc taken first last takes + min (bucket.level + (now - bucket.time) * rate) capacity
            ≤ taken first last takes + bucket.level + (now - bucket.time) * rate := by linarith
          _ ≤ capacity + rate * (bucket.time - first) + (now - bucket.time) * rate := by linarith
          _ = capacity + rate * (now - first) := by ring
      · have none := covered.before (not_le.mp begun)
        rw [none, zero_add]
        have flow : 0 ≤ rate * (now - first) := mul_nonneg rate_nonneg (sub_nonneg.mpr after)
        exact (min_le_right _ _).trans (le_add_of_nonneg_right flow)
    · exact covered.bounded
  · exact covered

/-- A take that leaves no greater debt keeps the takes covered. -/
theorem Covered.draw (rate_nonneg : 0 ≤ rate)
    (covered : Covered rate capacity debt first last takes bucket) (amount_nonneg : 0 ≤ amount)
    (left : -debt ≤ bucket.level - amount) :
    Covered rate capacity debt first last (takes ++ [⟨amount, bucket.time⟩])
      (bucket.draw amount) := by
  by_cases inside : first ≤ bucket.time ∧ bucket.time ≤ last
  · have during := covered.during inside.1 inside.2
    have total : taken first last (takes ++ [⟨amount, bucket.time⟩]) =
        taken first last takes + amount := by
      rw [taken_concat, if_pos inside]
    constructor
    · exact (sub_le_self _ amount_nonneg).trans covered.level_le
    · intro before
      exact absurd inside.1 (not_le.mpr before)
    · intro _ _
      rw [total, Bucket.draw]
      simp only
      linarith
    · have flow : rate * (bucket.time - first) ≤ rate * (last - first) :=
        mul_le_mul_of_nonneg_left (sub_le_sub_right inside.2 first) rate_nonneg
      rw [total]
      linarith
  · have total : taken first last (takes ++ [⟨amount, bucket.time⟩]) = taken first last takes := by
      rw [taken_concat, if_neg inside, add_zero]
    constructor
    · exact (sub_le_self _ amount_nonneg).trans covered.level_le
    · intro before
      rw [total]
      exact covered.before before
    · intro after before
      exact absurd ⟨after, before⟩ inside
    · rw [total]
      exact covered.bounded

end

end FileTrans.Transition
