import FileTrans.Core.BandwidthWindows

/-!
# Limits that change

The limit may be set, switched off and on, and the bucket filled by hand, while bytes
are granted.  Some calls look at whether there is a limit before they take the mutex,
and `disable` takes none, so that an answer may be outdated when it is used.

Under a limit a grant costs the time in which its bytes flow in.  Whatever becomes of the
limit, the grants of a run cost no more than the time that it takes, and a second and a
microsecond for the start and for each time that the bucket is filled.
-/

namespace FileTrans.Core

open FileTrans.Transition

/-- What goes on at a limiter.  The last three use an outdated answer: a pass of `acquire` during
which the limit is disabled, a `try_acquire` that still saw it enabled, and an `enable` that
still saw a limit. -/
inductive LimitAction (Thread : Type)
  | threads (action : LimiterAction Thread)
  | setLimit (bytesPerSecond : UInt64)
  | enable
  | disable
  | reset
  | disableInPass
  | lateTryAcquire (bytes : UInt64)
  | lateEnable

/-- An action and the time that it reads from the clock. -/
structure LimitInput (Thread : Type) where
  action : LimitAction Thread
  now : ℚ

/-- What a step costs in seconds, and how often it fills the bucket. -/
structure Charge where
  seconds : ℚ
  fills : Nat

namespace BandwidthLimiter

/-- The time in which the bytes of a grant flow in, if a limit is in force. -/
def cost (limiter : BandwidthLimiter) (granted : Option (Take ℚ)) : ℚ :=
  if limiter.enabled then (granted.map Take.amount).getD 0 / limiter.bytesPerSecond.toNat else 0

/-- For how many seconds of the limit there are tokens: at most one, and at least the microsecond
that may be owed. -/
def level (limiter : BandwidthLimiter) (now : ℚ) : ℚ :=
  if limiter.bytesPerSecond = 0 then -(1 / 1000000)
  else
    max (min (limiter.tokens / limiter.bytesPerSecond.toNat + max 0 (now - limiter.lastRefill)) 1)
      (-(1 / 1000000))

end BandwidthLimiter

namespace LimiterThreads

variable {Thread : Type} [DecidableEq Thread] (outOfRange : ℚ → Int64)

/-- Replace the limiter, unless a thread holds the mutex. -/
def locked (threads : LimiterThreads Thread) (fills : Nat) (limiter : BandwidthLimiter) :
    Charge × LimiterThreads Thread :=
  if threads.holder.isSome then (⟨0, 0⟩, threads) else (⟨0, fills⟩, { threads with limiter })

def limitStep : Step (LimiterThreads Thread) (LimitInput Thread) Charge :=
  fun threads input =>
    let limiter := threads.limiter
    match input.action with
    | .threads action =>
        let (granted, after) := step outOfRange threads ⟨action, input.now⟩
        (⟨limiter.cost granted, 0⟩, after)
    | .setLimit bytesPerSecond =>
        let scales := bytesPerSecond = 0 ∨ 0 < limiter.bytesPerSecond ∧ 0 < limiter.capacity
        threads.locked (if scales then 0 else 1) (limiter.setLimit bytesPerSecond input.now)
    | .enable => threads.locked 0 (limiter.enable input.now)
    | .disable => (⟨0, 0⟩, { threads with limiter := limiter.disable })
    | .reset => threads.locked 1 (limiter.reset input.now)
    | .disableInPass =>
        match threads.holder with
        | some (_, .head bytes) =>
            let limiter := (limiter.disable.attempt outOfRange bytes input.now).2
            (⟨0, 0⟩, { threads with limiter, holder := none })
        | _ => (⟨0, 0⟩, threads)
    | .lateTryAcquire bytes =>
        if limiter.enabled then (⟨0, 0⟩, threads)
        else
          let filled := limiter.refillTokens input.now
          threads.locked 0 (if bytes.toNat ≤ filled.tokens then filled.take bytes else filled)
    | .lateEnable => threads.locked 0 { limiter with enabled := true, lastRefill := input.now }

/-- The wait that the step computes, if it computes one, can be given in microseconds. -/
def LimitInRange (threads : LimiterThreads Thread) (input : LimitInput Thread) : Prop :=
  ∀ action, input.action = .threads action → threads.InRange ⟨action, input.now⟩

/-- What the steps of a run cost. -/
def spent (start : LimiterThreads Thread) (inputs : List (LimitInput Thread)) : ℚ :=
  ((outputs (limitStep outOfRange) start inputs).map Charge.seconds).sum

/-- How often the bucket is filled in a run. -/
def fills (start : LimiterThreads Thread) (inputs : List (LimitInput Thread)) : Nat :=
  ((outputs (limitStep outOfRange) start inputs).map Charge.fills).sum

end LimiterThreads

/-! ## The level -/

namespace BandwidthLimiter

variable {limiter : BandwidthLimiter} {now : ℚ} {bytes : UInt64}

theorem le_level : -(1 / 1000000) ≤ limiter.level now := by
  unfold level
  split
  · exact le_rfl
  · exact le_max_right _ _

theorem level_le_one : limiter.level now ≤ 1 := by
  unfold level
  split
  · norm_num
  · exact max_le (min_le_right _ _) (by norm_num)

theorem level_le_add {later : ℚ} (ordered : now ≤ later) :
    limiter.level later ≤ limiter.level now + (later - now) := by
  unfold level
  split
  · linarith
  · have flow : max 0 (later - limiter.lastRefill) ≤
        max 0 (now - limiter.lastRefill) + (later - now) := by
      rw [← max_add_add_right]
      apply max_le_max <;> linarith
    rw [← max_add_add_right, ← min_add_add_right]
    apply max_le_max (min_le_min _ _) <;> linarith

theorem level_le_level {other : BandwidthLimiter}
    (same : other.bytesPerSecond = limiter.bytesPerSecond) (tokens : other.tokens ≤ limiter.tokens)
    (flow : max 0 (now - other.lastRefill) ≤ max 0 (now - limiter.lastRefill)) :
    other.level now ≤ limiter.level now := by
  unfold level
  rw [same]
  split
  · exact le_rfl
  · exact max_le_max_right _ (min_le_min_right _
      (add_le_add (div_le_div_of_nonneg_right tokens (Nat.cast_nonneg _)) flow))

theorem level_take_le : (limiter.take bytes).level now ≤ limiter.level now :=
  level_le_level rfl (sub_le_self _ (Nat.cast_nonneg _)) le_rfl

theorem level_restart_le (enabled : Bool) :
    { limiter with enabled, lastRefill := now }.level now ≤ limiter.level now :=
  level_le_level rfl le_rfl (by simp)

theorem tokens_div_le_one (limit : limiter.bytesPerSecond ≠ 0) :
    limiter.tokens / limiter.bytesPerSecond.toNat ≤ 1 := by
  rw [div_le_one (rate_pos limit), ← limiter.capacity_eq limit]
  exact limiter.tokens_le

theorem level_of_counted (limit : limiter.bytesPerSecond ≠ 0) (counted : now ≤ limiter.lastRefill) :
    limiter.level now =
      max (limiter.tokens / limiter.bytesPerSecond.toNat) (-(1 / 1000000)) := by
  rw [level, if_neg limit, max_eq_left (sub_nonpos.mpr counted), add_zero,
    min_eq_left (tokens_div_le_one limit)]

theorem tokens_div_le_level (limit : limiter.bytesPerSecond ≠ 0) :
    limiter.tokens / limiter.bytesPerSecond.toNat ≤ limiter.level now := by
  rw [level, if_neg limit]
  exact le_max_of_le_left
    (le_min (le_add_of_nonneg_right (le_max_left _ _)) (tokens_div_le_one limit))

theorem level_refillTokens : (limiter.refillTokens now).level now = limiter.level now := by
  by_cases limit : limiter.bytesPerSecond = 0
  · rw [level, level, bytesPerSecond_refillTokens, if_pos limit, if_pos limit]
  · have rate := rate_pos limit
    unfold refillTokens
    split
    · rename_i later
      rw [level_of_counted (by exact limit) (by exact le_rfl), level, if_neg limit]
      dsimp only
      rw [limiter.capacity_eq limit, ← min_div_div_right rate.le, add_div,
        mul_div_cancel_right₀ _ rate.ne', div_self rate.ne',
        max_eq_right (sub_nonneg.mpr later.le)]
    · rfl

theorem level_taken_le : ((limiter.refillTokens now).take bytes).level now ≤ limiter.level now :=
  level_take_le.trans_eq level_refillTokens

theorem level_attempt_le (outOfRange : ℚ → Int64) :
    (limiter.attempt outOfRange bytes now).2.level now ≤ limiter.level now := by
  unfold attempt
  dsimp only
  split
  · exact level_taken_le
  · split
    · exact level_taken_le
    · exact level_refillTokens.le

theorem level_tryAcquire_le : (limiter.tryAcquire bytes now).2.level now ≤ limiter.level now := by
  unfold tryAcquire
  split
  · exact le_rfl
  · split
    · exact le_rfl
    · dsimp only
      split
      · exact level_taken_le
      · exact level_refillTokens.le

theorem level_setLimit_le {bytesPerSecond : UInt64}
    (scales : bytesPerSecond = 0 ∨ 0 < limiter.bytesPerSecond ∧ 0 < limiter.capacity) :
    (limiter.setLimit bytesPerSecond now).level now ≤ limiter.level now := by
  by_cases positive : 0 < bytesPerSecond
  · have before := scales.resolve_left (UInt64.pos_iff_ne_zero.mp positive)
    have limit := UInt64.pos_iff_ne_zero.mp before.1
    have newRate : (0 : ℚ) < bytesPerSecond.toNat := by
      exact_mod_cast UInt64.lt_iff_toNat_lt.mp positive
    unfold setLimit
    rw [if_pos positive, level_of_counted (UInt64.pos_iff_ne_zero.mp positive) le_rfl]
    apply max_le _ le_level
    apply le_trans _ (tokens_div_le_level limit)
    dsimp only
    rw [if_pos before, limiter.capacity_eq limit, div_le_iff₀ newRate]
    apply (min_le_left _ _).trans_eq
    ring
  · unfold setLimit
    rw [if_neg positive, level, if_pos rfl]
    exact le_level

theorem cost_add_level_le {granted : Option (Take ℚ)} {after : BandwidthLimiter}
    (limit : limiter.bytesPerSecond ≠ 0) (enabled : limiter.enabled = true)
    (does : LimiterThreads.Does limiter now granted after) :
    limiter.cost granted + after.level now ≤ limiter.level now := by
  cases does with
  | nothing => simp [cost]
  | refill => simp [cost, level_refillTokens]
  | take bytes close =>
      have same := limiter.bytesPerSecond_refillTokens now
      have counted : now ≤ (limiter.refillTokens now).lastRefill := by
        unfold refillTokens
        split
        · exact le_rfl
        · exact not_lt.mp ‹_›
      have costs : limiter.cost (some ⟨bytes.toNat, now⟩) =
          bytes.toNat / limiter.bytesPerSecond.toNat := by
        rw [cost, if_pos enabled]
        rfl
      rw [shortfall, sub_div, same] at close
      have above := le_max_left ((limiter.refillTokens now).tokens / limiter.bytesPerSecond.toNat)
        (-(1 / 1000000) : ℚ)
      rw [costs, ← @level_refillTokens limiter, level_of_counted (same ▸ limit) counted,
        @level_of_counted ((limiter.refillTokens now).take bytes) now (same ▸ limit) counted]
      change _ + max (((limiter.refillTokens now).tokens - bytes.toNat) /
        (limiter.refillTokens now).bytesPerSecond.toNat) _ ≤ _
      rw [same, sub_div, max_eq_left (by linarith)]
      linarith

end BandwidthLimiter

/-! ## Runs -/

namespace LimiterThreads

variable {Thread : Type} [DecidableEq Thread] {outOfRange : ℚ → Int64}
  {threads start : LimiterThreads Thread} {input : LimitInput Thread}
  {inputs : List (LimitInput Thread)} {first last now : ℚ}

theorem level_step_le (input : LimiterInput Thread) :
    (step outOfRange threads input).2.limiter.level input.now ≤
      threads.limiter.level input.now := by
  have branches {p : Prop} [Decidable p] (yes no : Option (Take ℚ) × LimiterThreads Thread) :
      (if p then yes else no).2.limiter = if p then yes.2.limiter else no.2.limiter := by
    split <;> rfl
  rcases input with ⟨action, now⟩
  cases action with
  | acquire thread bytes =>
      simp only [step, branches, ite_self, le_refl]
  | tryAcquire bytes =>
      simp only [step, branches]
      split
      · exact le_rfl
      · split
        · exact le_rfl
        · split
          · exact le_rfl
          · exact BandwidthLimiter.level_tryAcquire_le
  | wake thread timedOut =>
      simp only [step]
      split <;> exact le_rfl
  | advance =>
      simp only [step]
      split
      · exact le_rfl
      · rename_i thread point held
        cases point with
        | head bytes =>
            have attempts := @BandwidthLimiter.level_attempt_le threads.limiter now bytes outOfRange
            simp only [advance]
            split
            · exact le_rfl
            · split <;> rename_i attempted <;> rw [attempted] at attempts <;> exact attempts
        | predicate bytes timedOut =>
            simp only [advance, branches, ite_self]
            exact BandwidthLimiter.level_refillTokens.le

omit [DecidableEq Thread] in
theorem charge_locked {fills : Nat} {limiter : BandwidthLimiter}
    (kept : limiter.level now ≤ threads.limiter.level now + fills * (1 + 1 / 1000000)) :
    (threads.locked fills limiter).1.seconds + (threads.locked fills limiter).2.limiter.level now ≤
      threads.limiter.level now + (threads.locked fills limiter).1.fills * (1 + 1 / 1000000) := by
  unfold locked
  split
  · simp
  · simpa using kept

/-- A step costs what it takes from the level; to fill the bucket may raise that from the least
to the most. -/
theorem charge_step (range : threads.LimitInRange input) :
    (limitStep outOfRange threads input).1.seconds +
        (limitStep outOfRange threads input).2.limiter.level input.now ≤
      threads.limiter.level input.now +
        (limitStep outOfRange threads input).1.fills * (1 + 1 / 1000000) := by
  have full (limiter : BandwidthLimiter) : limiter.level input.now ≤
      threads.limiter.level input.now + (1 : Nat) * (1 + 1 / 1000000) := by
    have most : limiter.level input.now ≤ 1 := BandwidthLimiter.level_le_one
    have least : -(1 / 1000000) ≤ threads.limiter.level input.now := BandwidthLimiter.le_level
    push_cast
    linarith
  rcases input with ⟨action, now⟩
  cases action with
  | threads action =>
      simp only [limitStep, Nat.cast_zero, zero_mul, add_zero]
      by_cases counts : threads.limiter.bytesPerSecond ≠ 0 ∧ threads.limiter.enabled = true
      · exact BandwidthLimiter.cost_add_level_le counts.1 counts.2
          (does_step counts.1 counts.2 (range action rfl))
      · have nothing (granted : Option (Take ℚ)) : threads.limiter.cost granted = 0 := by
          rw [BandwidthLimiter.cost]
          split
          · rename_i enabled
            rw [not_not.mp fun limit => counts ⟨limit, enabled⟩]
            exact div_zero _
          · rfl
        rw [nothing, zero_add]
        exact level_step_le ⟨action, now⟩
  | setLimit bytesPerSecond =>
      apply charge_locked
      split
      · rename_i scales
        simpa using BandwidthLimiter.level_setLimit_le scales
      · exact full _
  | enable =>
      apply charge_locked
      simp only [Nat.cast_zero, zero_mul, add_zero, BandwidthLimiter.enable]
      split
      · exact BandwidthLimiter.level_restart_le true
      · exact le_rfl
  | disable =>
      simp only [limitStep, Nat.cast_zero, zero_mul, zero_add, add_zero]
      exact le_rfl
  | reset => exact charge_locked (full _)
  | disableInPass =>
      simp only [limitStep]
      split
      · simp only [Nat.cast_zero, zero_mul, zero_add, add_zero]
        exact BandwidthLimiter.level_attempt_le outOfRange
      · simp
  | lateTryAcquire bytes =>
      simp only [limitStep]
      split
      · simp
      · apply charge_locked
        simp only [Nat.cast_zero, zero_mul, add_zero]
        split
        · exact BandwidthLimiter.level_taken_le
        · exact BandwidthLimiter.level_refillTokens.le
  | lateEnable =>
      apply charge_locked
      simpa using BandwidthLimiter.level_restart_le true

theorem charge_run (clock : (now :: inputs.map LimitInput.now ++ [last]).Pairwise (· ≤ ·))
    (range : Guarded (limitStep outOfRange) LimitInRange start inputs) :
    spent outOfRange start inputs +
        (final (limitStep outOfRange) start inputs).limiter.level last ≤
      start.limiter.level now + fills outOfRange start inputs * (1 + 1 / 1000000) +
        (last - now) := by
  induction inputs generalizing start now with
  | nil =>
      have ordered : now ≤ last := (List.pairwise_cons.mp clock).1 last (by simp)
      simpa [fills, spent] using start.limiter.level_le_add ordered
  | cons input rest ih =>
      obtain ⟨here, later⟩ := range
      obtain ⟨ordered, tail⟩ := List.pairwise_cons.mp clock
      have flow := start.limiter.level_le_add (ordered input.now (by simp))
      have one := @charge_step Thread _ outOfRange start input here
      have more := ih tail later
      rw [spent, fills, outputs_cons, List.map_cons, List.map_cons, List.sum_cons, List.sum_cons,
        final_cons, ← spent, ← fills]
      push_cast
      linarith

/-- Whatever becomes of the limit, the grants of a run whose waits can be given in microseconds
cost no more than the run takes, and a second and a microsecond for the start and for each time
that the bucket is filled. -/
theorem spent_le (clock : (first :: inputs.map LimitInput.now ++ [last]).Pairwise (· ≤ ·))
    (range : Guarded (limitStep outOfRange) LimitInRange start inputs) :
    spent outOfRange start inputs ≤
      (1 + fills outOfRange start inputs) * (1 + 1 / 1000000) + (last - first) := by
  have charged := charge_run clock range
  have most : start.limiter.level first ≤ 1 := BandwidthLimiter.level_le_one
  have least : -(1 / 1000000) ≤
      (final (limitStep outOfRange) start inputs).limiter.level last :=
    BandwidthLimiter.le_level
  linarith

/-- Half of the bucket at one limit, and half of it at another. -/
def halves : List (LimitInput Unit) :=
  [⟨.threads (.tryAcquire 500), 0⟩, ⟨.setLimit 4000, 0⟩, ⟨.threads (.tryAcquire 2000), 0⟩]

theorem spent_halves : spent shortest (ready 1000) halves ≤
    (1 + fills shortest (ready 1000) halves) * (1 + 1 / 1000000) + (0 - 0) := by
  apply spent_le
  · simp [halves]
  · refine ⟨?_, ?_, ?_, trivial⟩ <;> rintro _ ⟨⟩ _ _ ⟨⟩

end LimiterThreads

end FileTrans.Core
