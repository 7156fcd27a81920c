import FileTrans.Core.Types
import FileTrans.Transition.TokenBucket
import Mathlib.Data.Rat.Floor

/-!
# The bandwidth limiter

A token bucket whose capacity is what flows in within one second.  Doubles are taken
as exact rationals; a conversion to a 64-bit integer out of its range is undefined,
and what it gives is a parameter.

Times are in seconds, and waits in microseconds.
-/

namespace FileTrans.Core

open FileTrans.Transition

/-- `static_cast<int64_t>` of a double. -/
def toInt64 (outOfRange : ℚ → Int64) (value : ℚ) : Int :=
  let truncated := if 0 ≤ value then ⌊value⌋ else ⌈value⌉
  if -2 ^ 63 ≤ truncated ∧ truncated < 2 ^ 63 then truncated else (outOfRange value).toInt

/-- `bandwidth_limiter`, without its mutex and its condition variable.  The bucket holds at most
its capacity, which is the limit if there is one. -/
structure BandwidthLimiter where
  bytesPerSecond : UInt64
  enabled : Bool
  tokens : ℚ
  capacity : ℚ
  lastRefill : ℚ
  tokens_le : tokens ≤ capacity
  capacity_eq : bytesPerSecond ≠ 0 → capacity = bytesPerSecond.toNat

namespace BandwidthLimiter

/-- The constructor. -/
def create (bytesPerSecond : UInt64) (now : ℚ) : BandwidthLimiter where
  bytesPerSecond := bytesPerSecond
  enabled := 0 < bytesPerSecond
  tokens := if 0 < bytesPerSecond then bytesPerSecond.toNat else 0
  capacity := if 0 < bytesPerSecond then bytesPerSecond.toNat else 0
  lastRefill := now
  tokens_le := le_rfl
  capacity_eq limit := if_pos (UInt64.pos_iff_ne_zero.mpr limit)

variable (limiter : BandwidthLimiter)

def refillTokens (now : ℚ) : BandwidthLimiter :=
  if limiter.lastRefill < now then
    { limiter with
      tokens := min (limiter.tokens + (now - limiter.lastRefill) * limiter.bytesPerSecond.toNat)
        limiter.capacity
      lastRefill := now
      tokens_le := min_le_right _ _ }
  else limiter

/-- `tokens_ -= bytes`. -/
def take (bytes : UInt64) : BandwidthLimiter :=
  { limiter with
    tokens := limiter.tokens - bytes.toNat
    tokens_le := (sub_le_self _ (Nat.cast_nonneg _)).trans limiter.tokens_le }

def calculateWaitTime (outOfRange : ℚ → Int64) (bytes : UInt64) : Int :=
  if ¬ limiter.enabled then 0
  else
    let needed := bytes.toNat - limiter.tokens
    if needed ≤ 0 then 0
    else
      let rate : ℚ := limiter.bytesPerSecond.toNat
      if rate ≤ 0 then 0 else toInt64 outOfRange (needed / rate * 1000000)

/-- A pass of the loop of `acquire` up to its wait: the bytes are taken, or it is to wait. -/
def attempt (outOfRange : ℚ → Int64) (bytes : UInt64) (now : ℚ) :
    Option Int × BandwidthLimiter :=
  let limiter := limiter.refillTokens now
  if bytes.toNat ≤ limiter.tokens then (none, limiter.take bytes)
  else
    let waitTime := limiter.calculateWaitTime outOfRange bytes
    if waitTime ≤ 0 then (none, limiter.take bytes) else (some waitTime, limiter)

/-- The predicate of the wait. -/
def mayProceed (bytes : UInt64) (now : ℚ) : Bool × BandwidthLimiter :=
  let limiter := limiter.refillTokens now
  (bytes.toNat ≤ limiter.tokens || !limiter.enabled, limiter)

def tryAcquire (bytes : UInt64) (now : ℚ) : Bool × BandwidthLimiter :=
  if bytes = 0 then (true, limiter)
  else if ¬ limiter.enabled then (true, limiter)
  else
    let limiter := limiter.refillTokens now
    if bytes.toNat ≤ limiter.tokens then (true, limiter.take bytes) else (false, limiter)

def setLimit (bytesPerSecond : UInt64) (now : ℚ) : BandwidthLimiter :=
  if 0 < bytesPerSecond then
    let newCapacity : ℚ := bytesPerSecond.toNat
    let newTokens :=
      if 0 < limiter.bytesPerSecond ∧ 0 < limiter.capacity then
        min (limiter.tokens * (newCapacity / limiter.capacity)) newCapacity
      else newCapacity
    { bytesPerSecond := bytesPerSecond
      enabled := true
      tokens := newTokens
      capacity := newCapacity
      lastRefill := now
      tokens_le := by
        dsimp only [newTokens]
        split
        · exact min_le_right _ _
        · exact le_rfl
      capacity_eq _ := rfl }
  else
    { limiter with
      bytesPerSecond := 0
      enabled := false
      capacity_eq limit := absurd rfl limit }

def disable : BandwidthLimiter :=
  { limiter with enabled := false }

def enable (now : ℚ) : BandwidthLimiter :=
  if 0 < limiter.bytesPerSecond then { limiter with enabled := true, lastRefill := now }
  else limiter

def reset (now : ℚ) : BandwidthLimiter :=
  { limiter with tokens := limiter.capacity, lastRefill := now, tokens_le := le_rfl }

/-! ## The bucket -/

def bucket : Bucket ℚ :=
  ⟨limiter.tokens, limiter.lastRefill⟩

@[simp]
theorem bytesPerSecond_refillTokens (now : ℚ) :
    (limiter.refillTokens now).bytesPerSecond = limiter.bytesPerSecond := by
  unfold refillTokens
  split <;> rfl

@[simp]
theorem enabled_refillTokens (now : ℚ) :
    (limiter.refillTokens now).enabled = limiter.enabled := by
  unfold refillTokens
  split <;> rfl

theorem bucket_refillTokens (now : ℚ) : (limiter.refillTokens now).bucket =
    limiter.bucket.fill (limiter.bytesPerSecond.toNat : ℚ) limiter.capacity now := by
  unfold refillTokens Bucket.fill bucket
  dsimp only
  split <;> rfl

theorem bucket_take (bytes : UInt64) :
    (limiter.take bytes).bucket = limiter.bucket.draw (bytes.toNat : ℚ) :=
  rfl

variable {limiter} in
theorem lastRefill_refillTokens {now : ℚ} (past : limiter.lastRefill ≤ now) :
    (limiter.refillTokens now).lastRefill = now := by
  have filled := congrArg Bucket.time (limiter.bucket_refillTokens now)
  have counted : limiter.bucket.time ≤ now := past
  exact filled.trans (Bucket.time_fill counted)

/-- What a refill leaves as it is. -/
structure Refilled (before : BandwidthLimiter) (now : ℚ) (filled : BandwidthLimiter) : Prop where
  refill : before.refillTokens now = filled
  enabled : filled.enabled = before.enabled
  bytesPerSecond : filled.bytesPerSecond = before.bytesPerSecond
  counted : filled.lastRefill = now

theorem refilled_refillTokens {now : ℚ} (past : limiter.lastRefill ≤ now) :
    Refilled limiter now (limiter.refillTokens now) :=
  ⟨rfl, limiter.enabled_refillTokens now, limiter.bytesPerSecond_refillTokens now,
    lastRefill_refillTokens past⟩

/-! ## Waits -/

variable {limiter} {outOfRange : ℚ → Int64} {bytes : UInt64} {now : ℚ}

/-- How long it takes until the missing tokens have flowed in. -/
def shortfall (limiter : BandwidthLimiter) (bytes : UInt64) : ℚ :=
  (bytes.toNat - limiter.tokens) / limiter.bytesPerSecond.toNat

/-- The wait can be given in microseconds. -/
def WaitInRange (limiter : BandwidthLimiter) (bytes : UInt64) : Prop :=
  limiter.shortfall bytes * 1000000 < 2 ^ 63

instance (limiter : BandwidthLimiter) (bytes : UInt64) :
    Decidable (limiter.WaitInRange bytes) :=
  inferInstanceAs (Decidable (_ < _))

theorem rate_pos (limit : limiter.bytesPerSecond ≠ 0) :
    (0 : ℚ) < limiter.bytesPerSecond.toNat := by
  have positive : 0 < limiter.bytesPerSecond.toNat :=
    Nat.pos_of_ne_zero fun zero => limit (UInt64.toNat_inj.mp zero)
  exact_mod_cast positive

theorem shortfall_pos (limit : limiter.bytesPerSecond ≠ 0)
    (short : limiter.tokens < bytes.toNat) : 0 < limiter.shortfall bytes :=
  div_pos (sub_pos.mpr short) (rate_pos limit)

theorem shortfall_nonpos (limit : limiter.bytesPerSecond ≠ 0)
    (enough : bytes.toNat ≤ limiter.tokens) : limiter.shortfall bytes ≤ 0 :=
  div_nonpos_of_nonpos_of_nonneg (sub_nonpos.mpr enough) (rate_pos limit).le

theorem calculateWaitTime_of_short (limit : limiter.bytesPerSecond ≠ 0)
    (enabled : limiter.enabled = true) (short : limiter.tokens < bytes.toNat) :
    limiter.calculateWaitTime outOfRange bytes =
      if limiter.WaitInRange bytes then ⌊limiter.shortfall bytes * 1000000⌋
      else (outOfRange (limiter.shortfall bytes * 1000000)).toInt := by
  have positive := shortfall_pos limit short
  have missing : ¬ (bytes.toNat - limiter.tokens : ℚ) ≤ 0 := not_le.mpr (sub_pos.mpr short)
  have rate := not_le.mpr (rate_pos limit)
  have nonneg : 0 ≤ limiter.shortfall bytes * 1000000 := by positivity
  have lower : -2 ^ 63 ≤ ⌊limiter.shortfall bytes * 1000000⌋ := by
    have := Int.floor_nonneg.mpr nonneg
    omega
  have range : ⌊limiter.shortfall bytes * 1000000⌋ < 2 ^ 63 ↔ limiter.WaitInRange bytes := by
    rw [WaitInRange, Int.floor_lt]
    norm_num
  simp only [calculateWaitTime, enabled, not_true_eq_false, if_false, missing, rate]
  rw [← shortfall, toInt64]
  simp only [nonneg, if_true, lower, true_and, range]

end BandwidthLimiter

end FileTrans.Core
