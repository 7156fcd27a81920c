import FileTrans.Core.BandwidthWaits
import FileTrans.Transition.Run

/-!
# Bandwidth in every interval

Any number of threads take bytes from one limiter.  A thread in `acquire` holds the
mutex from pass to pass and gives it up only while it waits; it may be woken up at any
time.  No step sets the limit or fills the bucket by hand.

What is granted in an interval is at most one burst, what flows in during the interval,
and what flows in within a microsecond, as long as every wait can be given in 64 bits.
-/

namespace FileTrans.Core

open FileTrans.Transition

/-- Where a thread is in `acquire` while it holds the mutex: at the head of the loop, or at the
predicate of the wait. -/
inductive AcquirePoint
  | head (bytes : UInt64)
  | predicate (bytes : UInt64) (timedOut : Bool)

/-- A limiter with the thread that holds its mutex and the threads that wait. -/
structure LimiterThreads (Thread : Type) where
  limiter : BandwidthLimiter
  holder : Option (Thread × AcquirePoint)
  asleep : Thread → Option UInt64

/-- A thread calls `acquire` or `try_acquire`, the holder of the mutex goes on, or a thread that
waits is woken up, possibly because its time is over. -/
inductive LimiterAction (Thread : Type)
  | acquire (thread : Thread) (bytes : UInt64)
  | tryAcquire (bytes : UInt64)
  | advance
  | wake (thread : Thread) (timedOut : Bool)

/-- An action and the time that it reads from the clock. -/
structure LimiterInput (Thread : Type) where
  action : LimiterAction Thread
  now : ℚ

namespace LimiterThreads

variable {Thread : Type} [DecidableEq Thread] (outOfRange : ℚ → Int64)

/-- The holder of the mutex goes on. -/
def advance (threads : LimiterThreads Thread) (thread : Thread) (now : ℚ) :
    AcquirePoint → Option (Take ℚ) × LimiterThreads Thread
  | .head bytes =>
      if ¬ threads.limiter.enabled then
        (some ⟨bytes.toNat, now⟩, { threads with holder := none })
      else
        match threads.limiter.attempt outOfRange bytes now with
        | (none, limiter) => (some ⟨bytes.toNat, now⟩, { threads with limiter, holder := none })
        | (some _, limiter) =>
            (none, { threads with limiter, holder := some (thread, .predicate bytes false) })
  | .predicate bytes timedOut =>
      let (ready, limiter) := threads.limiter.mayProceed bytes now
      if ready ∨ timedOut then
        if ¬ limiter.enabled then
          (some ⟨bytes.toNat, now⟩, { threads with limiter, holder := none })
        else (none, { threads with limiter, holder := some (thread, .head bytes) })
      else
        (none, { threads with
          limiter
          holder := none
          asleep := Function.update threads.asleep thread (some bytes) })

/-- One step, and the bytes that it grants.  A thread that needs the mutex while another holds it
does nothing, nor does one that waits make another call. -/
def step : Step (LimiterThreads Thread) (LimiterInput Thread) (Option (Take ℚ)) :=
  fun threads input =>
    match input.action with
    | .acquire thread bytes =>
        if bytes = 0 ∨ (threads.asleep thread).isSome then (none, threads)
        else if ¬ threads.limiter.enabled then (some ⟨bytes.toNat, input.now⟩, threads)
        else if threads.holder.isSome then (none, threads)
        else (none, { threads with holder := some (thread, .head bytes) })
    | .tryAcquire bytes =>
        if bytes = 0 then (none, threads)
        else if ¬ threads.limiter.enabled then (some ⟨bytes.toNat, input.now⟩, threads)
        else if threads.holder.isSome then (none, threads)
        else
          let (granted, limiter) := threads.limiter.tryAcquire bytes input.now
          (if granted then some ⟨bytes.toNat, input.now⟩ else none, { threads with limiter })
    | .advance =>
        match threads.holder with
        | none => (none, threads)
        | some (thread, point) => threads.advance outOfRange thread input.now point
    | .wake thread timedOut =>
        match threads.holder, threads.asleep thread with
        | none, some bytes =>
            (none, { threads with
              holder := some (thread, .predicate bytes timedOut)
              asleep := Function.update threads.asleep thread none })
        | _, _ => (none, threads)

/-- What the steps of a run grant. -/
def grants (start : LimiterThreads Thread) (inputs : List (LimiterInput Thread)) :
    List (Take ℚ) :=
  (outputs (step outOfRange) start inputs).filterMap id

/-- The wait that the step computes, if it computes one, can be given in microseconds. -/
def InRange (threads : LimiterThreads Thread) (input : LimiterInput Thread) : Prop :=
  ∀ thread bytes, input.action = .advance → threads.holder = some (thread, .head bytes) →
    (threads.limiter.refillTokens input.now).WaitInRange bytes

/-! ## Steps -/

/-- The same limit is in force. -/
structure SameLimit (before after : BandwidthLimiter) : Prop where
  bytesPerSecond : after.bytesPerSecond = before.bytesPerSecond
  enabled : after.enabled = before.enabled

/-- What has been granted is covered by the bucket of the limiter. -/
abbrev GrantsCovered (first last : ℚ) (takes : List (Take ℚ)) (limiter : BandwidthLimiter) :
    Prop :=
  Covered (limiter.bytesPerSecond.toNat : ℚ) limiter.bytesPerSecond.toNat
    (limiter.bytesPerSecond.toNat / 1000000) first last takes limiter.bucket

section

variable {limiter : BandwidthLimiter} {outOfRange : ℚ → Int64} {bytes : UInt64}
  {first last now : ℚ} {takes : List (Take ℚ)}

theorem covered_refillTokens (limit : limiter.bytesPerSecond ≠ 0)
    (covered : GrantsCovered first last takes limiter) :
    GrantsCovered first last takes (limiter.refillTokens now) := by
  have rate := limiter.rate_pos limit
  rw [GrantsCovered, BandwidthLimiter.bytesPerSecond_refillTokens,
    BandwidthLimiter.bucket_refillTokens, limiter.capacity_eq limit]
  exact Covered.fill rate.le covered now

theorem covered_take (limit : limiter.bytesPerSecond ≠ 0) (counted : limiter.lastRefill = now)
    (close : limiter.shortfall bytes * 1000000 < 1)
    (covered : GrantsCovered first last takes limiter) :
    GrantsCovered first last (takes ++ [⟨bytes.toNat, now⟩]) (limiter.take bytes) := by
  have rate := limiter.rate_pos limit
  rw [BandwidthLimiter.shortfall, div_mul_eq_mul_div, div_lt_one rate] at close
  have time : now = limiter.bucket.time := counted.symm
  rw [GrantsCovered, BandwidthLimiter.bucket_take, time]
  apply Covered.draw rate.le covered (Nat.cast_nonneg _)
  change -(limiter.bytesPerSecond.toNat / 1000000 : ℚ) ≤ limiter.tokens - bytes.toNat
  linarith

theorem attempt_cases (limit : limiter.bytesPerSecond ≠ 0) (enabled : limiter.enabled = true)
    (range : (limiter.refillTokens now).WaitInRange bytes) :
    (limiter.attempt outOfRange bytes now = (none, (limiter.refillTokens now).take bytes) ∧
      (limiter.refillTokens now).shortfall bytes * 1000000 < 1) ∨
    ∃ waitTime, limiter.attempt outOfRange bytes now =
      (some waitTime, limiter.refillTokens now) := by
  have filledLimit : (limiter.refillTokens now).bytesPerSecond ≠ 0 := by
    rwa [BandwidthLimiter.bytesPerSecond_refillTokens]
  have filledOn : (limiter.refillTokens now).enabled = true := by
    rwa [BandwidthLimiter.enabled_refillTokens]
  unfold BandwidthLimiter.attempt
  dsimp only
  split
  · rename_i enough
    have none := BandwidthLimiter.shortfall_nonpos filledLimit enough
    exact .inl ⟨rfl, by linarith⟩
  · rename_i short
    rw [BandwidthLimiter.calculateWaitTime_of_short filledLimit filledOn (not_le.mp short),
      if_pos range]
    split
    · rename_i rounded
      refine .inl ⟨rfl, ?_⟩
      have below := Int.floor_lt.mp (Int.lt_add_one_iff.mpr rounded)
      simpa using below
    · exact .inr ⟨_, rfl⟩

end

/-- What a step does to a limiter: nothing, a refill, or a refill and a take that is granted. -/
inductive Does (limiter : BandwidthLimiter) (now : ℚ) : Option (Take ℚ) → BandwidthLimiter → Prop
  | nothing : Does limiter now none limiter
  | refill : Does limiter now none (limiter.refillTokens now)
  | take (bytes : UInt64) (close : (limiter.refillTokens now).shortfall bytes * 1000000 < 1) :
      Does limiter now (some ⟨bytes.toNat, now⟩) ((limiter.refillTokens now).take bytes)

section

variable {outOfRange : ℚ → Int64} {threads : LimiterThreads Thread} {input : LimiterInput Thread}

theorem does_tryAcquire {limiter : BandwidthLimiter} {bytes : UInt64} {now : ℚ}
    (limit : limiter.bytesPerSecond ≠ 0) (enabled : limiter.enabled = true) (asked : bytes ≠ 0) :
    Does limiter now
      (if (limiter.tryAcquire bytes now).1 then some ⟨bytes.toNat, now⟩ else none)
      (limiter.tryAcquire bytes now).2 := by
  have filledLimit : (limiter.refillTokens now).bytesPerSecond ≠ 0 := by
    rwa [BandwidthLimiter.bytesPerSecond_refillTokens]
  unfold BandwidthLimiter.tryAcquire
  simp only [asked, enabled, if_false, not_true_eq_false]
  split
  · rename_i enough
    have none := BandwidthLimiter.shortfall_nonpos filledLimit enough
    exact .take bytes (by linarith)
  · exact .refill

theorem does_step (limit : threads.limiter.bytesPerSecond ≠ 0)
    (enabled : threads.limiter.enabled = true) (range : threads.InRange input) :
    Does threads.limiter input.now (step outOfRange threads input).1
      (step outOfRange threads input).2.limiter := by
  rcases input with ⟨action, now⟩
  cases action with
  | acquire thread bytes =>
      simp only [step, enabled, not_true_eq_false, if_false]
      split
      · exact .nothing
      · split <;> exact .nothing
  | tryAcquire bytes =>
      simp only [step, enabled, not_true_eq_false, if_false]
      split
      · exact .nothing
      · rename_i asked
        split
        · exact .nothing
        · exact does_tryAcquire limit enabled asked
  | wake thread timedOut =>
      simp only [step]
      split <;> exact .nothing
  | advance =>
      simp only [step]
      split
      · exact .nothing
      · rename_i thread point held
        cases point with
        | head bytes =>
            simp only [advance, enabled, not_true_eq_false, if_false]
            rcases attempt_cases limit enabled (range thread bytes rfl held) with
              ⟨taken, close⟩ | ⟨waitTime, waits⟩
            · rw [taken]
              exact .take bytes close
            · rw [waits]
              exact .refill
        | predicate bytes timedOut =>
            simp only [advance, BandwidthLimiter.mayProceed,
              BandwidthLimiter.enabled_refillTokens, enabled, not_true_eq_false, if_false]
            split <;> exact .refill

end

/-! ## Runs -/

section

variable {outOfRange : ℚ → Int64} {start : LimiterThreads Thread}
  {inputs : List (LimiterInput Thread)} {limiter after : BandwidthLimiter} {first last now : ℚ}
  {takes : List (Take ℚ)} {granted : Option (Take ℚ)}

omit [DecidableEq Thread] in
theorem Does.sameLimit (does : Does limiter now granted after) : SameLimit limiter after := by
  cases does with
  | nothing => exact ⟨rfl, rfl⟩
  | refill => exact ⟨limiter.bytesPerSecond_refillTokens now, limiter.enabled_refillTokens now⟩
  | take bytes close =>
      exact ⟨limiter.bytesPerSecond_refillTokens now, limiter.enabled_refillTokens now⟩

theorem Does.lastRefill_le (does : Does limiter now granted after)
    (past : limiter.lastRefill ≤ now) : after.lastRefill ≤ now := by
  have counted := BandwidthLimiter.lastRefill_refillTokens past
  cases does with
  | nothing => exact past
  | refill => exact counted.le
  | take bytes close => exact counted.le

theorem Does.covered (does : Does limiter now granted after)
    (limit : limiter.bytesPerSecond ≠ 0) (past : limiter.lastRefill ≤ now)
    (covered : GrantsCovered first last takes limiter) :
    GrantsCovered first last (takes ++ granted.toList) after := by
  have filled := @covered_refillTokens limiter first last now takes limit covered
  cases does with
  | nothing => simpa using covered
  | refill => simpa using filled
  | take bytes close =>
      apply covered_take _ (BandwidthLimiter.lastRefill_refillTokens past) close filled
      rwa [BandwidthLimiter.bytesPerSecond_refillTokens]

theorem grants_cons (input : LimiterInput Thread) (rest : List (LimiterInput Thread)) :
    grants outOfRange start (input :: rest) = (step outOfRange start input).1.toList ++
      grants outOfRange (step outOfRange start input).2 rest := by
  rw [grants, outputs_cons]
  cases granted : (step outOfRange start input).1 with
  | none => simp [grants]
  | some take => simp [grants]

theorem covered_run (limit : start.limiter.bytesPerSecond ≠ 0)
    (enabled : start.limiter.enabled = true)
    (clock : (start.limiter.lastRefill :: inputs.map LimiterInput.now).Pairwise (· ≤ ·))
    (range : Guarded (step outOfRange) InRange start inputs)
    (covered : GrantsCovered first last takes start.limiter) :
    (final (step outOfRange) start inputs).limiter.bytesPerSecond =
        start.limiter.bytesPerSecond ∧
      GrantsCovered first last (takes ++ grants outOfRange start inputs)
        (final (step outOfRange) start inputs).limiter := by
  induction inputs generalizing start takes with
  | nil => exact ⟨rfl, by simpa [grants] using covered⟩
  | cons input rest ih =>
      rcases range with ⟨here, later⟩
      rcases List.pairwise_cons.mp clock with ⟨past, forward⟩
      have does := @does_step Thread _ outOfRange start input limit enabled here
      have same := does.sameLimit
      have kept := does.lastRefill_le (past _ List.mem_cons_self)
      rw [final_cons, grants_cons, ← List.append_assoc, ← same.bytesPerSecond]
      apply ih _ _ _ later (does.covered limit (past _ List.mem_cons_self) covered)
      · rwa [same.bytesPerSecond]
      · rwa [same.enabled]
      · apply List.pairwise_cons.mpr
        rcases List.pairwise_cons.mp forward with ⟨ordered, tail⟩
        exact ⟨fun now mem => kept.trans (ordered now mem), tail⟩

/-- In every interval of a run whose waits can be given in microseconds at most one burst, what
flows in during the interval, and what flows in within a microsecond is granted. -/
theorem taken_grants_le (limit : start.limiter.bytesPerSecond ≠ 0)
    (enabled : start.limiter.enabled = true)
    (clock : (start.limiter.lastRefill :: inputs.map LimiterInput.now).Pairwise (· ≤ ·))
    (range : Guarded (step outOfRange) InRange start inputs) {length : ℚ} (nonneg : 0 ≤ length)
    (first : ℚ) :
    taken first (first + length) (grants outOfRange start inputs) ≤
      start.limiter.bytesPerSecond.toNat + start.limiter.bytesPerSecond.toNat * length +
        start.limiter.bytesPerSecond.toNat / 1000000 := by
  have rate := BandwidthLimiter.rate_pos limit
  have level : start.limiter.bucket.level ≤ start.limiter.bytesPerSecond.toNat := by
    rw [← start.limiter.capacity_eq limit]
    exact start.limiter.tokens_le
  have debt : (0 : ℚ) ≤ start.limiter.bytesPerSecond.toNat / 1000000 := by positivity
  have initial : GrantsCovered first (first + length) [] start.limiter :=
    Covered.start rate.le rate.le debt (le_add_of_nonneg_right nonneg) level
  rcases covered_run limit enabled clock range initial with ⟨same, covered⟩
  have bounded := covered.bounded
  rwa [same, List.nil_append, add_sub_cancel_left] at bounded

end

/-! ## Two calls -/

/-- A limiter that was just created. -/
def ready (bytesPerSecond : UInt64) : LimiterThreads Unit :=
  ⟨.create bytesPerSecond 0, none, fun _ => none⟩

/-- A thread calls `acquire`, and goes on at once. -/
def acquired (bytes : UInt64) : List (LimiterInput Unit) :=
  [⟨.acquire () bytes, 0⟩, ⟨.advance, 0⟩]

/-- The conversion that is out of range gives the least integer. -/
def shortest (_ : ℚ) : Int64 :=
  Int64.minValue

theorem taken_grants_thousand :
    taken 0 (0 + 1) (grants shortest (ready 1000) (acquired 1000)) ≤
      ((1000 : UInt64).toNat : ℚ) + (1000 : UInt64).toNat * 1 +
      (1000 : UInt64).toNat / 1000000 := by
  have limit : (ready 1000).limiter.bytesPerSecond ≠ 0 := by decide
  have clock : ((ready 1000).limiter.lastRefill ::
      (acquired 1000).map LimiterInput.now).Pairwise (· ≤ ·) := by
    simp [ready, acquired, BandwidthLimiter.create]
  apply @taken_grants_le Unit _ shortest (ready 1000)
    (acquired 1000) limit rfl clock _ 1 zero_le_one
  refine ⟨?_, ?_, trivial⟩
  · rintro _ _ ⟨⟩
  · intro thread bytes _ held
    cases Option.some.inj held
    have counted : (ready 1000).limiter.lastRefill = 0 := rfl
    have none : BandwidthLimiter.shortfall (ready 1000).limiter 1000 = 0 := by
      rw [BandwidthLimiter.shortfall, ready, BandwidthLimiter.tokens_thousand,
        BandwidthLimiter.toNat_thousand]
      norm_num
    change ((ready 1000).limiter.refillTokens 0).WaitInRange 1000
    rw [BandwidthLimiter.refillTokens_eq_self counted, BandwidthLimiter.WaitInRange, none]
    norm_num

/-- At one byte per second all 2 ^ 64 - 1 bytes are granted at once. -/
theorem taken_grants_overflow :
    ¬ taken 0 (0 + 0) (grants shortest (ready 1) (acquired 18446744073709551615)) ≤
      ((1 : UInt64).toNat : ℚ) + (1 : UInt64).toNat * 0 + (1 : UInt64).toNat / 1000000 := by
  have counted : (ready 1).limiter.lastRefill = 0 := rfl
  have one : (1 : UInt64).toNat = 1 := rfl
  have all : (18446744073709551615 : UInt64).toNat = 18446744073709551615 := rfl
  have level : (ready 1).limiter.tokens = 1 := by
    simp [ready, BandwidthLimiter.create]
  have rate : (ready 1).limiter.bytesPerSecond = 1 := rfl
  have limit : (ready 1).limiter.bytesPerSecond ≠ 0 := by decide
  have short : (ready 1).limiter.tokens < (18446744073709551615 : UInt64).toNat := by
    rw [level, all]
    norm_num
  have long : ¬ (ready 1).limiter.WaitInRange 18446744073709551615 := by
    rw [BandwidthLimiter.WaitInRange, BandwidthLimiter.shortfall, level, rate, all, one]
    norm_num
  have computed : (ready 1).limiter.calculateWaitTime shortest 18446744073709551615 =
      -9223372036854775808 := by
    rw [BandwidthLimiter.calculateWaitTime_of_short limit rfl short, if_neg long]
    rfl
  have attempt : (ready 1).limiter.attempt shortest 18446744073709551615 0 =
      (none, (ready 1).limiter.take 18446744073709551615) := by
    unfold BandwidthLimiter.attempt
    rw [BandwidthLimiter.refillTokens_eq_self counted]
    simp [computed]
  have granted : grants shortest (ready 1) (acquired 18446744073709551615) =
      [⟨18446744073709551615, 0⟩] := by
    have holds : step shortest (ready 1) ⟨.acquire () 18446744073709551615, 0⟩ =
        (none, { ready 1 with holder := some ((), .head 18446744073709551615) }) := rfl
    have takes : (step shortest { ready 1 with holder := some ((), .head 18446744073709551615) }
        ⟨.advance, 0⟩).1 = some ⟨(18446744073709551615 : UInt64).toNat, 0⟩ := by
      have on : (ready 1).limiter.enabled = true := rfl
      simp only [step, advance, on, not_true_eq_false, if_false, attempt]
    rw [acquired, grants_cons, grants_cons, holds, takes, all]
    rfl
  rw [granted, one]
  norm_num [taken]

end LimiterThreads

end FileTrans.Core
