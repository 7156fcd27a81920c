import FileTrans.Core.BandwidthLimiter
import FileTrans.Transition.Loop
import Mathlib.Tactic.Positivity

/-!
# Waits for bandwidth

`acquire` by one thread, while no other takes tokens.  The code itself takes no time,
and a timed wait ends exactly at its timeout.

The bucket never holds more than its capacity, so a request that is larger by what
flows in within a microsecond waits forever.
-/

namespace FileTrans.Core

open FileTrans.Transition

namespace BandwidthLimiter

/-! ## One thread -/

/-- A thread in `acquire`: the time, and how long it has waited. -/
structure AcquireState where
  limiter : BandwidthLimiter
  now : ℚ
  waited : ℚ

/-- The end of a pass: return if the limiter was disabled during the wait. -/
def recheck (state : AcquireState) : AcquireState ⊕ AcquireState :=
  if ¬ state.limiter.enabled then .inl state else .inr state

/-- A pass of the loop of `acquire`.  The predicate is looked at before the wait and after it. -/
def acquirePass (outOfRange : ℚ → Int64) (bytes : UInt64) : Body AcquireState AcquireState :=
  fun state =>
    if ¬ state.limiter.enabled then .inl state
    else
      match state.limiter.attempt outOfRange bytes state.now with
      | (none, limiter) => .inl { state with limiter }
      | (some waitTime, limiter) =>
          let (ready, limiter) := limiter.mayProceed bytes state.now
          if ready then recheck { state with limiter }
          else
            let later := state.now + waitTime / 1000000
            recheck ⟨(limiter.mayProceed bytes later).2, later, state.waited + waitTime / 1000000⟩

/-- `acquire`, if it returns within so many passes. -/
def acquire (outOfRange : ℚ → Int64) (passes : Nat) (limiter : BandwidthLimiter) (bytes : UInt64)
    (now : ℚ) : Option AcquireState :=
  if bytes = 0 ∨ ¬ limiter.enabled then some ⟨limiter, now, 0⟩
  else loop (acquirePass outOfRange bytes) passes ⟨limiter, now, 0⟩

/-- `acquire` returns, and waits no longer than the bytes take to flow in and a microsecond. -/
def ReturnsInTime (outOfRange : ℚ → Int64) (limiter : BandwidthLimiter) (bytes : UInt64)
    (now : ℚ) : Prop :=
  ∃ passes last, limiter.acquire outOfRange passes bytes now = some last ∧
    last.waited ≤ bytes.toNat / limiter.bytesPerSecond.toNat + 1 / 1000000

/-- The bytes fit into the burst, up to what flows in within a microsecond. -/
def FitsBurst (limiter : BandwidthLimiter) (bytes : UInt64) : Prop :=
  (bytes.toNat * 1000000 : ℚ) < limiter.bytesPerSecond.toNat * 1000001

/-- The bucket is not deeper in debt than a microsecond can be rounded to: the tokens that are
missing flow in together with the bytes. -/
def OwesLittle (limiter : BandwidthLimiter) (bytes : UInt64) : Prop :=
  limiter.shortfall bytes * 1000000 <
    ⌊(bytes.toNat / limiter.bytesPerSecond.toNat * 1000000 : ℚ)⌋ + 2

/-! ## Passes -/

section

variable {limiter : BandwidthLimiter} {outOfRange : ℚ → Int64} {bytes : UInt64} {now waited : ℚ}
  {state : AcquireState}

theorem acquirePass_of_enough (enabled : state.limiter.enabled = true)
    (enough : bytes.toNat ≤ (state.limiter.refillTokens state.now).tokens) :
    acquirePass outOfRange bytes state =
      .inl { state with limiter := (state.limiter.refillTokens state.now).take bytes } := by
  simp [acquirePass, enabled, attempt, enough]

theorem acquirePass_of_close (enabled : state.limiter.enabled = true)
    (close : (state.limiter.refillTokens state.now).calculateWaitTime outOfRange bytes ≤ 0) :
    acquirePass outOfRange bytes state =
      .inl { state with limiter := (state.limiter.refillTokens state.now).take bytes } := by
  simp [acquirePass, enabled, attempt, close]

theorem refillTokens_eq_self (counted : limiter.lastRefill = now) :
    limiter.refillTokens now = limiter := by
  rw [refillTokens, if_neg (not_lt.mpr counted.ge)]

theorem acquirePass_of_short (enabled : state.limiter.enabled = true)
    (past : state.limiter.lastRefill ≤ state.now) {filled : BandwidthLimiter}
    (refilled : state.limiter.refillTokens state.now = filled)
    (short : filled.tokens < bytes.toNat) {waitTime : Int}
    (computed : filled.calculateWaitTime outOfRange bytes = waitTime) (waits : 0 < waitTime) :
    acquirePass outOfRange bytes state =
      .inr ⟨filled.refillTokens (state.now + waitTime / 1000000), state.now + waitTime / 1000000,
        state.waited + waitTime / 1000000⟩ := by
  have counted : filled.refillTokens state.now = filled := by
    apply refillTokens_eq_self
    rw [← refilled]
    exact lastRefill_refillTokens past
  have still : filled.enabled = true := by
    rw [← refilled, enabled_refillTokens, enabled]
  simp [acquirePass, enabled, attempt, refilled, not_le.mpr short, computed, not_le.mpr waits,
    mayProceed, counted, still, recheck]

theorem shortfall_after_wait (limit : limiter.bytesPerSecond ≠ 0)
    (fits : limiter.FitsBurst bytes) {waitTime : Int} (waits : 0 < waitTime) {rest : ℚ}
    (some : 1 ≤ rest) (rounded : limiter.shortfall bytes * 1000000 < waitTime + rest) :
    (limiter.refillTokens (limiter.lastRefill + waitTime / 1000000)).shortfall bytes * 1000000 <
      rest := by
  have rate := rate_pos limit
  have least := le_mul_of_one_le_left rate.le some
  have positive : (0 : ℚ) < waitTime := by exact_mod_cast waits
  have later : limiter.lastRefill < limiter.lastRefill + waitTime / 1000000 := by
    have step : (0 : ℚ) < waitTime / 1000000 := by positivity
    linarith
  rw [FitsBurst] at fits
  rw [shortfall, div_mul_eq_mul_div, div_lt_iff₀ rate] at rounded
  rw [shortfall, bytesPerSecond_refillTokens, refillTokens, if_pos later, div_mul_eq_mul_div,
    div_lt_iff₀ rate]
  dsimp only
  rw [limiter.capacity_eq limit]
  rcases min_choice (limiter.tokens + (limiter.lastRefill + waitTime / 1000000 -
    limiter.lastRefill) * limiter.bytesPerSecond.toNat) (limiter.bytesPerSecond.toNat : ℚ) with
    flowed | full
  · rw [flowed]
    linarith
  · rw [full]
    linarith

theorem waitInRange_of_owesLittle (limit : limiter.bytesPerSecond ≠ 0)
    (fits : limiter.FitsBurst bytes) (owes : limiter.OwesLittle bytes) :
    limiter.WaitInRange bytes := by
  have whole : (bytes.toNat / limiter.bytesPerSecond.toNat * 1000000 : ℚ) < 1000001 := by
    rw [div_mul_eq_mul_div, div_lt_iff₀ (rate_pos limit), mul_comm 1000001]
    exact fits
  have floor := Int.floor_le (bytes.toNat / limiter.bytesPerSecond.toNat * 1000000 : ℚ)
  rw [OwesLittle] at owes
  rw [WaitInRange]
  linarith

end

/-! ## Bytes that fit -/

section

variable {limiter : BandwidthLimiter} {outOfRange : ℚ → Int64} {bytes : UInt64} {now : ℚ}

theorem le_add_one_of_lt_floor {whole : Int} {share : ℚ} (below : (whole : ℚ) < ⌊share⌋ + 2) :
    (whole : ℚ) ≤ share + 1 := by
  have less : whole < ⌊share⌋ + 2 := by exact_mod_cast below
  have floor := Int.floor_le share
  have bound : (whole : ℚ) ≤ ⌊share⌋ + 1 := by
    have atMost : whole ≤ ⌊share⌋ + 1 := by omega
    exact_mod_cast atMost
  linarith

theorem exists_exit_of_close {state : AcquireState} (enabled : state.limiter.enabled = true)
    (limit : state.limiter.bytesPerSecond ≠ 0) (counted : state.limiter.lastRefill = state.now)
    (close : state.limiter.shortfall bytes * 1000000 < 1) :
    ∃ last, acquirePass outOfRange bytes state = .inl last ∧ last.waited = state.waited := by
  have same := refillTokens_eq_self counted
  by_cases enough : bytes.toNat ≤ state.limiter.tokens
  · exact ⟨_, acquirePass_of_enough enabled (by rwa [same]), rfl⟩
  · refine ⟨_, acquirePass_of_close enabled ?_, rfl⟩
    have range : state.limiter.WaitInRange bytes := close.trans (by norm_num)
    rw [same, calculateWaitTime_of_short limit enabled (not_le.mp enough), if_pos range]
    exact Int.lt_add_one_iff.mp (Int.floor_lt.mpr (by exact_mod_cast close))

theorem returnsInTime_of_fitsBurst (limit : limiter.bytesPerSecond ≠ 0)
    (past : limiter.lastRefill ≤ now) (fits : limiter.FitsBurst bytes)
    (owes : (limiter.refillTokens now).OwesLittle bytes) :
    ReturnsInTime outOfRange limiter bytes now := by
  have rate := rate_pos limit
  have share : (0 : ℚ) ≤ bytes.toNat / limiter.bytesPerSecond.toNat + 1 / 1000000 := by positivity
  by_cases skips : bytes = 0 ∨ ¬ limiter.enabled
  · exact ⟨0, _, by rw [acquire, if_pos skips], share⟩
  have enabled : limiter.enabled = true := not_not.mp fun off => skips (.inr off)
  have exits {last : AcquireState}
      (pass : acquirePass outOfRange bytes ⟨limiter, now, 0⟩ = .inl last)
      (none : last.waited = 0) : ReturnsInTime outOfRange limiter bytes now := by
    refine ⟨1, last, ?_, none.trans_le share⟩
    rw [acquire, if_neg skips, loop_of_exit pass]
  by_cases enough : bytes.toNat ≤ (limiter.refillTokens now).tokens
  · exact exits (acquirePass_of_enough enabled enough) rfl
  have refilled := limiter.refilled_refillTokens past
  generalize limiter.refillTokens now = filled at refilled owes enough
  have sameRate := refilled.bytesPerSecond
  have stillEnabled := refilled.enabled.trans enabled
  have stillLimit : filled.bytesPerSecond ≠ 0 := sameRate ▸ limit
  have stillFits : filled.FitsBurst bytes := by
    rwa [FitsBurst, sameRate]
  have computed : filled.calculateWaitTime outOfRange bytes =
      ⌊filled.shortfall bytes * 1000000⌋ := by
    rw [calculateWaitTime_of_short stillLimit stillEnabled (not_le.mp enough),
      if_pos (waitInRange_of_owesLittle stillLimit stillFits owes)]
  generalize whole : ⌊filled.shortfall bytes * 1000000⌋ = waitTime at computed
  have bounds := Int.floor_eq_iff.mp whole
  by_cases waits : 0 < waitTime
  · have pass := @acquirePass_of_short outOfRange bytes ⟨limiter, now, 0⟩ enabled past filled
      refilled.refill (not_le.mp enough) waitTime computed waits
    have rest := shortfall_after_wait stillLimit stillFits waits le_rfl bounds.2
    rw [refilled.counted] at rest
    have later : filled.lastRefill ≤ now + waitTime / 1000000 := by
      have positive : (0 : ℚ) < waitTime := by exact_mod_cast waits
      have step : (0 : ℚ) < waitTime / 1000000 := by positivity
      rw [refilled.counted]
      linarith
    rcases @exists_exit_of_close outOfRange bytes
      ⟨filled.refillTokens (now + waitTime / 1000000), now + waitTime / 1000000,
        0 + waitTime / 1000000⟩ (by rw [enabled_refillTokens, stillEnabled])
      (by rw [bytesPerSecond_refillTokens]; exact stillLimit) (lastRefill_refillTokens later) rest
      with ⟨last, exit, total⟩
    refine ⟨2, last, ?_, ?_⟩
    · rw [acquire, if_neg skips, loop_of_next pass, loop_of_exit exit]
    · rw [total, zero_add]
      rw [OwesLittle, sameRate] at owes
      have bound := le_add_one_of_lt_floor (bounds.1.trans_lt owes)
      rw [div_le_iff₀ (by norm_num)]
      linarith
  · apply exits (acquirePass_of_close enabled _) rfl
    rw [refilled.refill, computed]
    exact not_lt.mp waits

theorem exists_exit_of_fits {state : AcquireState} (enabled : state.limiter.enabled = true)
    (limit : state.limiter.bytesPerSecond ≠ 0) (counted : state.limiter.lastRefill = state.now)
    (fits : state.limiter.FitsBurst bytes) {rest : Nat}
    (missing : state.limiter.shortfall bytes * 1000000 < rest + 1) :
    ∃ passes last, loop (acquirePass outOfRange bytes) passes state = some last := by
  induction rest generalizing state with
  | zero =>
      rw [Nat.cast_zero, zero_add] at missing
      rcases exists_exit_of_close enabled limit counted missing with ⟨last, exit, -⟩
      exact ⟨1, last, loop_of_exit exit⟩
  | succ rest ih =>
      have same := refillTokens_eq_self counted
      by_cases enough : bytes.toNat ≤ state.limiter.tokens
      · exact ⟨1, _, loop_of_exit (acquirePass_of_enough enabled (by rwa [same]))⟩
      generalize computed : state.limiter.calculateWaitTime outOfRange bytes = waitTime
      by_cases waits : 0 < waitTime
      · have pass := acquirePass_of_short enabled counted.le same (not_le.mp enough) computed waits
        have whole : (1 : ℚ) ≤ waitTime := by exact_mod_cast waits
        have room : (1 : ℚ) ≤ rest + 1 := le_add_of_nonneg_left rest.cast_nonneg
        have fewer := shortfall_after_wait limit fits waits room (by push_cast at missing; linarith)
        rw [counted] at fewer
        have later : state.limiter.lastRefill ≤ state.now + waitTime / 1000000 := by linarith
        have ends := @ih ⟨state.limiter.refillTokens (state.now + waitTime / 1000000),
          state.now + waitTime / 1000000, state.waited + waitTime / 1000000⟩
        rcases ends (by rw [enabled_refillTokens, enabled]) (by rwa [bytesPerSecond_refillTokens])
          (lastRefill_refillTokens later) (by rwa [FitsBurst, bytesPerSecond_refillTokens])
          fewer with ⟨passes, last, exits⟩
        exact ⟨passes + 1, last, (loop_of_next pass).trans exits⟩
      · refine ⟨1, _, loop_of_exit (acquirePass_of_close enabled ?_)⟩
        rw [same, computed]
        exact not_lt.mp waits

end

/-! ## Bytes that do not fit -/

section

variable {limiter : BandwidthLimiter} {outOfRange : ℚ → Int64} {bytes : UInt64} {now : ℚ}

theorem waitTime_pos {waitTime : Int} {after : BandwidthLimiter}
    (waits : limiter.attempt outOfRange bytes now = (some waitTime, after)) : 0 < waitTime := by
  unfold attempt at waits
  dsimp only at waits
  split at waits
  · cases waits
  · split at waits
    · cases waits
    · rename_i positive
      cases waits
      exact not_le.mp positive

theorem waited_acquirePass (state : AcquireState) :
    state.waited ≤ ((acquirePass outOfRange bytes state).elim id id).waited := by
  unfold acquirePass
  split
  · exact le_rfl
  · split
    · exact le_rfl
    · rename_i waitTime after waits
      have positive : (0 : ℚ) < waitTime := by exact_mod_cast waitTime_pos waits
      have step : (0 : ℚ) < waitTime / 1000000 := by positivity
      dsimp only
      unfold recheck
      split
      · split <;> exact le_rfl
      · split <;> exact (lt_add_of_pos_right _ step).le

theorem waited_loop {count : Nat} {state last : AcquireState}
    (exits : loop (acquirePass outOfRange bytes) count state = some last) :
    state.waited ≤ last.waited := by
  have keeps (current next : AcquireState) (waited : state.waited ≤ current.waited)
      (goes : acquirePass outOfRange bytes current = .inr next) : state.waited ≤ next.waited := by
    have passed := @waited_acquirePass outOfRange bytes current
    rw [goes] at passed
    exact waited.trans passed
  obtain ⟨current, waited, exit⟩ := exists_exit_of_invariant _ keeps le_rfl exits
  have passed := @waited_acquirePass outOfRange bytes current
  rw [exit] at passed
  exact waited.trans passed

/-- The undefined conversion may give the greatest integer. -/
def longest (_ : ℚ) : Int64 :=
  Int64.maxValue

theorem calculateWaitTime_longest (limit : limiter.bytesPerSecond ≠ 0)
    (enabled : limiter.enabled = true) (short : limiter.tokens < bytes.toNat) :
    limiter.calculateWaitTime longest bytes =
      min ⌊limiter.shortfall bytes * 1000000⌋ (2 ^ 63 - 1) := by
  rw [calculateWaitTime_of_short limit enabled short]
  split
  · rename_i range
    have below : ⌊limiter.shortfall bytes * 1000000⌋ < 2 ^ 63 := by
      rw [Int.floor_lt]
      exact_mod_cast range
    exact (min_eq_left (Int.le_sub_one_of_lt below)).symm
  · rename_i long
    have above : 2 ^ 63 ≤ ⌊limiter.shortfall bytes * 1000000⌋ := by
      rw [Int.le_floor]
      exact_mod_cast not_lt.mp long
    rw [min_eq_right (by omega)]
    rfl

theorem one_le_shortfall (limit : limiter.bytesPerSecond ≠ 0)
    (large : ¬ limiter.FitsBurst bytes) : 1 ≤ limiter.shortfall bytes * 1000000 := by
  have most := limiter.tokens_le
  rw [limiter.capacity_eq limit] at most
  rw [FitsBurst, not_lt] at large
  rw [shortfall, div_mul_eq_mul_div, le_div_iff₀ (rate_pos limit)]
  linarith

theorem tokens_lt_of_large (limit : limiter.bytesPerSecond ≠ 0)
    (large : ¬ limiter.FitsBurst bytes) : limiter.tokens < bytes.toNat := by
  have missing := one_le_shortfall limit large
  by_contra enough
  have none := shortfall_nonpos limit (not_lt.mp enough)
  linarith

theorem loop_eq_none_of_large (limit : limiter.bytesPerSecond ≠ 0)
    (enabled : limiter.enabled = true) (past : limiter.lastRefill ≤ now)
    (large : ¬ limiter.FitsBurst bytes) (count : Nat) :
    loop (acquirePass longest bytes) count ⟨limiter, now, 0⟩ = none := by
  apply loop_eq_none_of_invariant fun state : AcquireState =>
    state.limiter.enabled = true ∧ state.limiter.bytesPerSecond = limiter.bytesPerSecond ∧
      state.limiter.lastRefill ≤ state.now
  · rintro state ⟨on, same, counted⟩
    have refilled := state.limiter.refilled_refillTokens counted
    generalize state.limiter.refillTokens state.now = filled at refilled
    have filledOn := refilled.enabled.trans on
    have filledSame := refilled.bytesPerSecond.trans same
    have filledLimit : filled.bytesPerSecond ≠ 0 := filledSame ▸ limit
    have filledLarge : ¬ filled.FitsBurst bytes := by
      rwa [FitsBurst, filledSame]
    have short := tokens_lt_of_large filledLimit filledLarge
    have computed := calculateWaitTime_longest filledLimit filledOn short
    have whole : 1 ≤ ⌊filled.shortfall bytes * 1000000⌋ := by
      rw [Int.le_floor]
      exact_mod_cast one_le_shortfall filledLimit filledLarge
    have waits : 0 < min ⌊filled.shortfall bytes * 1000000⌋ (2 ^ 63 - 1 : Int) := by omega
    refine ⟨_, acquirePass_of_short on counted refilled.refill short computed waits, ?_, ?_, ?_⟩
    · rw [enabled_refillTokens, filledOn]
    · rw [bytesPerSecond_refillTokens, filledSame]
    · apply (lastRefill_refillTokens _).le
      have positive : (0 : ℚ) < (min ⌊filled.shortfall bytes * 1000000⌋ (2 ^ 63 - 1) : Int) := by
        exact_mod_cast waits
      have step : (0 : ℚ) <
          (min ⌊filled.shortfall bytes * 1000000⌋ (2 ^ 63 - 1) : Int) / 1000000 := by
        positivity
      rw [refilled.counted]
      linarith
  · exact ⟨enabled, rfl, past⟩

theorem owesLittle_of_returnsInTime (limit : limiter.bytesPerSecond ≠ 0)
    (past : limiter.lastRefill ≤ now) (enabled : limiter.enabled = true) (some : bytes ≠ 0)
    (fits : limiter.FitsBurst bytes) (returns : ReturnsInTime longest limiter bytes now) :
    (limiter.refillTokens now).OwesLittle bytes := by
  rcases returns with ⟨count, last, exits, prompt⟩
  by_contra owes
  have refilled := limiter.refilled_refillTokens past
  generalize limiter.refillTokens now = filled at refilled owes
  have sameRate := refilled.bytesPerSecond
  have filledOn := refilled.enabled.trans enabled
  have filledLimit : filled.bytesPerSecond ≠ 0 := sameRate ▸ limit
  have rate := rate_pos limit
  rw [OwesLittle, not_lt, sameRate] at owes
  generalize shared : (bytes.toNat / limiter.bytesPerSecond.toNat : ℚ) = share at owes prompt
  have nonneg : 0 ≤ share := by
    rw [← shared]
    positivity
  have least : 0 ≤ ⌊share * 1000000⌋ := Int.floor_nonneg.mpr (by positivity)
  have most : ⌊share * 1000000⌋ < 1000001 := by
    rw [FitsBurst] at fits
    rw [Int.floor_lt, ← shared, div_mul_eq_mul_div, div_lt_iff₀ rate]
    push_cast
    linarith
  have whole : ⌊share * 1000000⌋ + 2 ≤ ⌊filled.shortfall bytes * 1000000⌋ := by
    rw [Int.le_floor]
    exact_mod_cast owes
  have short : filled.tokens < bytes.toNat := by
    by_contra enough
    have none := shortfall_nonpos filledLimit (not_lt.mp enough)
    have below : ⌊filled.shortfall bytes * 1000000⌋ ≤ 0 := by
      rw [← Int.lt_add_one_iff, Int.floor_lt]
      push_cast
      linarith
    omega
  have computed := calculateWaitTime_longest filledLimit filledOn short
  generalize waited : min ⌊filled.shortfall bytes * 1000000⌋ (2 ^ 63 - 1 : Int) = waitTime
    at computed
  have long : ⌊share * 1000000⌋ + 2 ≤ waitTime := by omega
  have pass :=
    @acquirePass_of_short longest bytes ⟨limiter, now, 0⟩ enabled past filled refilled.refill
    short waitTime computed (by omega)
  rw [acquire, if_neg (by simp [some, enabled])] at exits
  cases count with
  | zero => contradiction
  | succ count =>
      rw [loop_of_next pass] at exits
      have kept := waited_loop exits
      have above := Int.lt_floor_add_one (share * 1000000)
      have large : ((⌊share * 1000000⌋ : Int) + 2 : ℚ) ≤ waitTime := by exact_mod_cast long
      dsimp only at kept
      linarith

/-- `acquire` always returns in time exactly if the limiter is disabled, nothing is asked for, or
the bytes fit into the burst and the bucket owes little. -/
theorem returnsInTime_iff (limit : limiter.bytesPerSecond ≠ 0) (past : limiter.lastRefill ≤ now) :
    (∀ outOfRange, ReturnsInTime outOfRange limiter bytes now) ↔
      limiter.enabled = false ∨ bytes = 0 ∨
        limiter.FitsBurst bytes ∧ (limiter.refillTokens now).OwesLittle bytes := by
  constructor
  · intro every
    by_cases enabled : limiter.enabled = true
    · by_cases nothing : bytes = 0
      · exact .inr (.inl nothing)
      · have fits : limiter.FitsBurst bytes := by
          by_contra large
          rcases every longest with ⟨count, last, exits, -⟩
          rw [acquire, if_neg (by simp [nothing, enabled]),
            loop_eq_none_of_large limit enabled past large] at exits
          contradiction
        exact .inr (.inr ⟨fits,
          owesLittle_of_returnsInTime limit past enabled nothing fits (every longest)⟩)
    · exact .inl (Bool.not_eq_true _ ▸ enabled)
  · have share : (0 : ℚ) ≤ bytes.toNat / limiter.bytesPerSecond.toNat + 1 / 1000000 := by
      positivity
    rintro (disabled | rfl | ⟨fits, owes⟩) outOfRange
    · exact ⟨0, ⟨limiter, now, 0⟩, by simp [acquire, disabled], share⟩
    · exact ⟨0, ⟨limiter, now, 0⟩, by simp [acquire], share⟩
    · exact returnsInTime_of_fitsBurst limit past fits owes

end

/-- `acquire` returns, whatever the clock and a conversion out of range make of its waits. -/
def LetsThrough (limiter : BandwidthLimiter) (bytes : UInt64) (now : ℚ) : Prop :=
  ∀ outOfRange, ∃ passes last, limiter.acquire outOfRange passes bytes now = some last

variable {limiter : BandwidthLimiter}

/-- `acquire` returns exactly if the limiter is disabled, nothing is asked for, or the bytes fit
into the burst. -/
theorem letsThrough_iff {bytes : UInt64} {now : ℚ}
    (limit : limiter.enabled = true → limiter.bytesPerSecond ≠ 0)
    (past : limiter.lastRefill ≤ now) :
    limiter.LetsThrough bytes now ↔
      limiter.enabled = false ∨ bytes = 0 ∨ limiter.FitsBurst bytes := by
  by_cases skips : bytes = 0 ∨ ¬ limiter.enabled
  · refine iff_of_true (fun outOfRange => ⟨0, _, by rw [acquire, if_pos skips]⟩) ?_
    exact skips.elim (fun none => .inr (.inl none)) fun off => .inl (Bool.eq_false_iff.mpr off)
  have enabled : limiter.enabled = true := not_not.mp fun off => skips (.inr off)
  constructor
  · intro returns
    by_contra excluded
    rcases returns longest with ⟨passes, last, exits⟩
    rw [acquire, if_neg skips, loop_eq_none_of_large (limit enabled) enabled past
      fun fits => excluded (.inr (.inr fits))] at exits
    contradiction
  · rintro (off | nothing | fits) outOfRange
    · exact absurd (.inr (Bool.eq_false_iff.mp off)) skips
    · exact absurd (.inl nothing) skips
    · -- The first pass refills, so the loop may start from the refilled limiter.
      have refilled := limiter.refilled_refillTokens past
      have same : acquirePass outOfRange bytes ⟨limiter, now, 0⟩ =
          acquirePass outOfRange bytes ⟨limiter.refillTokens now, now, 0⟩ := by
        simp only [acquirePass, attempt, enabled_refillTokens, enabled, not_true_eq_false, if_false,
          refillTokens_eq_self refilled.counted]
      rcases @exists_exit_of_fits outOfRange bytes ⟨limiter.refillTokens now, now, 0⟩
        (refilled.enabled.trans enabled) (refilled.bytesPerSecond ▸ limit enabled) refilled.counted
        (by rwa [FitsBurst, refilled.bytesPerSecond])
        ⌈(limiter.refillTokens now).shortfall bytes * 1000000⌉₊
        ((Nat.le_ceil _).trans_lt (lt_add_one _)) with ⟨passes, last, exits⟩
      refine ⟨passes, last, ?_⟩
      rw [acquire, if_neg skips, ← exits]
      cases passes with
      | zero => rfl
      | succ passes => rw [loop, loop, same]

theorem owesLittle_of_debt (bytes : UInt64) (limit : limiter.bytesPerSecond ≠ 0)
    (debt : -(limiter.bytesPerSecond.toNat : ℚ) < limiter.tokens * 1000000) :
    limiter.OwesLittle bytes := by
  have rate := rate_pos limit
  have above := Int.lt_floor_add_one
    (bytes.toNat / limiter.bytesPerSecond.toNat * 1000000 : ℚ)
  have missing : limiter.shortfall bytes * 1000000 <
      bytes.toNat / limiter.bytesPerSecond.toNat * 1000000 + 1 := by
    rw [shortfall, div_mul_eq_mul_div, div_mul_eq_mul_div, div_add_one rate.ne',
      div_lt_div_iff_of_pos_right rate]
    linarith
  rw [OwesLittle]
  linarith

/-! ## A limit of 1000 bytes per second -/

theorem full_refillTokens (now : ℚ) (full : limiter.tokens = limiter.capacity) :
    (limiter.refillTokens now).tokens = (limiter.refillTokens now).capacity := by
  unfold refillTokens
  split
  · rename_i later
    have flow : (0 : ℚ) ≤ (now - limiter.lastRefill) * limiter.bytesPerSecond.toNat :=
      mul_nonneg (sub_nonneg.mpr later.le) (Nat.cast_nonneg _)
    dsimp only
    rw [full, min_eq_right (le_add_of_nonneg_right flow)]
  · exact full

theorem toNat_thousand : (1000 : UInt64).toNat = 1000 :=
  rfl

theorem tokens_thousand : (create 1000 0).tokens = 1000 := by
  simp [create, toNat_thousand]

/-- The whole burst is there at once. -/
theorem returnsInTime_thousand : ReturnsInTime longest (create 1000 0) 1000 0 := by
  have limit : (create 1000 0).bytesPerSecond ≠ 0 := by decide
  have counted : (create 1000 0).lastRefill = 0 := rfl
  have rate : (create 1000 0).bytesPerSecond = 1000 := rfl
  apply (returnsInTime_iff limit counted.le).mpr
  right
  right
  constructor
  · rw [FitsBurst, rate, toNat_thousand]
    norm_num
  · rw [refillTokens_eq_self counted]
    apply owesLittle_of_debt 1000 limit
    rw [tokens_thousand, rate, toNat_thousand]
    norm_num

theorem acquire_two_thousand (outOfRange : ℚ → Int64) (passes : Nat) :
    acquire outOfRange passes (create 1000 0) 2000 0 = none := by
  rw [acquire, if_neg (by decide)]
  apply loop_eq_none_of_invariant fun state : AcquireState =>
    state.limiter.enabled = true ∧ state.limiter.bytesPerSecond = 1000 ∧
      state.limiter.tokens = state.limiter.capacity ∧ state.limiter.lastRefill ≤ state.now
  · rintro ⟨limiter, now, waited⟩ ⟨enabled, rate, tokens, past⟩
    have refilled := limiter.refilled_refillTokens past
    have full := full_refillTokens now tokens
    generalize limiter.refillTokens now = filled at refilled full
    have on := refilled.enabled.trans enabled
    have same := refilled.bytesPerSecond.trans rate
    have limit : filled.bytesPerSecond ≠ 0 := by
      rw [same]
      decide
    have level : filled.tokens = 1000 := by
      rw [full, filled.capacity_eq limit, same, toNat_thousand]
      rfl
    have large : (2000 : UInt64).toNat = 2000 := rfl
    have short : filled.tokens < (2000 : UInt64).toNat := by
      rw [level, large]
      norm_num
    have second : filled.shortfall 2000 = 1 := by
      rw [shortfall, level, large, same, toNat_thousand]
      norm_num
    have range : filled.WaitInRange 2000 := by
      rw [WaitInRange, second]
      norm_num
    have computed : filled.calculateWaitTime outOfRange 2000 = 1000000 := by
      rw [calculateWaitTime_of_short limit on short, if_pos range, second]
      norm_num
    refine ⟨_, acquirePass_of_short enabled past refilled.refill short computed (by decide), ?_, ?_,
      ?_, ?_⟩
    · rw [enabled_refillTokens, on]
    · rw [bytesPerSecond_refillTokens, same]
    · exact full_refillTokens _ full
    · apply (lastRefill_refillTokens _).le
      rw [refilled.counted]
      norm_num
  · exact ⟨rfl, rfl, rfl, le_rfl⟩

/-- Not every request returns in time. -/
theorem not_returnsInTime_large : ¬ ∀ (outOfRange : ℚ → Int64) (limiter : BandwidthLimiter)
    (bytes : UInt64) (now : ℚ), limiter.bytesPerSecond ≠ 0 → limiter.lastRefill ≤ now →
      ReturnsInTime outOfRange limiter bytes now := by
  intro every
  rcases every longest (create 1000 0) 2000 0 (by decide) le_rfl with ⟨passes, last, exits, -⟩
  rw [acquire_two_thousand] at exits
  contradiction

end BandwidthLimiter

end FileTrans.Core
