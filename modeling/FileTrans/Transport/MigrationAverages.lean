import FileTrans.Transition.Run
import FileTrans.Transition.RunningMean
import FileTrans.Transport.ConnectionMigration

/-!
# The average duration of a migration

The statistics keep the average in whole milliseconds, and a further migration
multiplies it out and divides again.  What the divisions drop adds up, so that
the average falls behind the mean of the durations, by up to half a millisecond
for every migration.
-/

namespace FileTrans.Transport

open FileTrans.Transition

/-- What `update_stats` reads of a `migration_result`: whether it is a success, and its duration
in milliseconds. -/
structure TimedResult where
  success : Bool
  duration : Int64
  nonneg : 0 ≤ duration

/-- `migration_statistics`, with its times in milliseconds. -/
structure TimedStatistics where
  stats : MigrationStatistics
  totalDowntime : Int64
  avgMigrationTime : Int64
  deriving DecidableEq

namespace TimedStatistics

/-- The statistics of a new manager. -/
def fresh : TimedStatistics :=
  ⟨⟨0, 0, 0, 0⟩, 0, 0⟩

/-- The average after a migration, if the division does not trap: a count of type `uint64_t`
makes the whole computation unsigned. -/
def average (before duration : Int64) (successful : UInt64) : Option Int64 :=
  let totalTime := before.toUInt64 * (successful - 1) + duration.toUInt64
  if successful = 0 then none else some (totalTime / successful).toInt64

def updateStats (timed : TimedStatistics) (result : TimedResult) : Option TimedStatistics :=
  let stats := { timed.stats with totalMigrations := timed.stats.totalMigrations + 1 }
  if result.success then
    let stats := { stats with successfulMigrations := stats.successfulMigrations + 1 }
    (average timed.avgMigrationTime result.duration stats.successfulMigrations).map
      fun avgMigrationTime => { timed with stats, avgMigrationTime }
  else
    some { timed with
      stats := { stats with failedMigrations := stats.failedMigrations + 1 }
      totalDowntime := timed.totalDowntime + result.duration }

theorem stats_updateStats {timed after : TimedStatistics} {timedResult : TimedResult}
    {manager : MigrationManager} {result : MigrationResult} (same : manager.stats = timed.stats)
    (outcome : result.success = timedResult.success)
    (updated : timed.updateStats timedResult = some after) :
    (manager.updateStats result).stats = after.stats := by
  rw [updateStats] at updated
  rw [MigrationManager.updateStats, same, outcome]
  dsimp only at updated ⊢
  split at updated
  · rename_i success
    obtain ⟨_, -, rfl⟩ := Option.map_eq_some_iff.mp updated
    rw [if_pos success]
  · rename_i failure
    cases updated
    rw [if_neg failure]

end TimedStatistics

/-! ## Runs -/

/-- The statistics, with the durations of the successful migrations that they stand for. -/
structure MigrationLog where
  timed : TimedStatistics
  durations : List Nat
  deriving DecidableEq

namespace MigrationLog

/-- Before any migration. -/
def fresh : MigrationLog :=
  ⟨.fresh, []⟩

/-- The durations after a migration. -/
def note (durations : List Nat) (result : TimedResult) : List Nat :=
  if result.success then durations ++ [result.duration.toUInt64.toNat] else durations

/-- An update of the statistics.  After a division that traps there are none. -/
def step : Step (Option MigrationLog) TimedResult Unit := fun log result =>
  ((), log.bind fun log => (log.timed.updateStats result).map fun timed =>
    ⟨timed, note log.durations result⟩)

/-- The total is that of both kinds, and the average is less than a millisecond away from the
mean of the durations. -/
structure Exact (log : MigrationLog) : Prop where
  total : log.timed.stats.totalMigrations =
    log.timed.stats.successfulMigrations + log.timed.stats.failedMigrations
  average : log.durations ≠ [] →
    |(log.timed.avgMigrationTime.toInt : ℚ) - (log.durations.sum : ℚ) / log.durations.length| < 1

/-- There are statistics, and they are exact. -/
def Reports (log : Option MigrationLog) : Prop :=
  ∃ reported, log = some reported ∧ reported.Exact

/-- What the divisions so far have dropped and what the next one drops is less than the count,
and neither the count nor the total exceeds 64 bits. -/
def Affords (log : Option MigrationLog) (result : TimedResult) : Prop :=
  ∃ before, log = some before ∧ (result.success = true →
    let count := before.durations.length
    let total := before.timed.avgMigrationTime.toUInt64.toNat * count +
      result.duration.toUInt64.toNat
    count + 1 < 2 ^ 64 ∧ total < 2 ^ 64 ∧
      shortfall before.durations.sum before.timed.avgMigrationTime.toUInt64.toNat count +
        total % (count + 1) < count + 1)

/-- The statistics count what the log holds, and the average has not gone above the mean. -/
structure Tracks (log : MigrationLog) : Prop where
  total : log.timed.stats.totalMigrations =
    log.timed.stats.successfulMigrations + log.timed.stats.failedMigrations
  count : log.timed.stats.successfulMigrations.toNat = log.durations.length
  nonneg : log.timed.avgMigrationTime.toUInt64.toNat < 2 ^ 63
  below : log.timed.avgMigrationTime.toUInt64.toNat * log.durations.length ≤ log.durations.sum

theorem tracks_fresh : Tracks fresh :=
  ⟨rfl, rfl, by decide, by decide⟩

end MigrationLog

/-! ## One update -/

theorem toInt_of_lt {time : Int64} (small : time.toUInt64.toNat < 2 ^ 63) :
    time.toInt = (time.toUInt64.toNat : Int) :=
  BitVec.toInt_eq_toNat_of_lt (by
    have same : time.toBitVec.toNat = time.toUInt64.toNat := rfl
    omega)

theorem TimedResult.duration_lt (result : TimedResult) :
    result.duration.toUInt64.toNat < 2 ^ 63 := by
  rw [Int64.toNat_toUInt64_of_le result.nonneg]
  exact Int64.toNatClampNeg_lt _

namespace TimedStatistics

theorem average_cases (before duration : Int64) (successful : UInt64) :
    (average before duration (successful + 1) = none ∧ successful.toNat + 1 = 2 ^ 64) ∨
      (successful.toNat + 1 < 2 ^ 64 ∧ ∃ average : Int64,
        TimedStatistics.average before duration (successful + 1) = some average ∧
        average.toUInt64.toNat =
          (before.toUInt64.toNat * successful.toNat + duration.toUInt64.toNat) % 2 ^ 64 /
            (successful.toNat + 1)) := by
  have bounded := successful.toNat_lt
  have next : (successful + 1).toNat = (successful.toNat + 1) % 2 ^ 64 := UInt64.toNat_add _ _
  by_cases last : successful.toNat + 1 = 2 ^ 64
  · left
    have zero : successful + 1 = 0 := by
      apply UInt64.toNat.inj
      rw [next, last]
      rfl
    exact ⟨if_pos zero, last⟩
  · right
    have small : successful.toNat + 1 < 2 ^ 64 := by omega
    rw [Nat.mod_eq_of_lt small] at next
    have nonzero : successful + 1 ≠ 0 := by
      intro zero
      rw [zero] at next
      contradiction
    refine ⟨small, _, if_neg nonzero, ?_⟩
    rw [UInt64.toUInt64_toInt64, UInt64.toNat_div, next, UInt64.add_sub_cancel,
      UInt64.toNat_add, UInt64.toNat_mul, Nat.mod_add_mod]

end TimedStatistics

namespace MigrationLog

variable {log : MigrationLog} {result : TimedResult}

theorem step_of_failure (log : MigrationLog) (failure : ¬ result.success = true) :
    ∃ timed, (step (some log) result).2 = some ⟨timed, log.durations⟩ ∧
      timed.avgMigrationTime = log.timed.avgMigrationTime ∧
      timed.stats = { log.timed.stats with
        totalMigrations := log.timed.stats.totalMigrations + 1
        failedMigrations := log.timed.stats.failedMigrations + 1 } := by
  rw [step, Option.bind_some, TimedStatistics.updateStats, if_neg failure, Option.map_some, note,
    if_neg failure]
  exact ⟨_, rfl, rfl, rfl⟩

theorem step_of_success (tracks : log.Tracks) (success : result.success = true) :
    ((step (some log) result).2 = none ∧ log.durations.length + 1 = 2 ^ 64) ∨
      (log.durations.length + 1 < 2 ^ 64 ∧ ∃ timed,
        (step (some log) result).2 =
          some ⟨timed, log.durations ++ [result.duration.toUInt64.toNat]⟩ ∧
        timed.stats = { log.timed.stats with
          totalMigrations := log.timed.stats.totalMigrations + 1
          successfulMigrations := log.timed.stats.successfulMigrations + 1 } ∧
        timed.avgMigrationTime.toUInt64.toNat =
          (log.timed.avgMigrationTime.toUInt64.toNat * log.durations.length +
            result.duration.toUInt64.toNat) % 2 ^ 64 / (log.durations.length + 1)) := by
  have cases := TimedStatistics.average_cases log.timed.avgMigrationTime result.duration
    log.timed.stats.successfulMigrations
  rw [tracks.count] at cases
  rw [step, Option.bind_some, TimedStatistics.updateStats, if_pos success, note, if_pos success]
  dsimp only
  rcases cases with ⟨trap, last⟩ | ⟨small, average, made, value⟩
  · left
    exact ⟨by rw [trap]; rfl, last⟩
  · right
    refine ⟨small, _, by rw [made]; rfl, rfl, value⟩

theorem div_succ_lt {total count : Nat} (bounded : total < 2 ^ 64)
    (first : count = 0 → total < 2 ^ 63) : total / (count + 1) < 2 ^ 63 := by
  rcases Nat.eq_zero_or_pos count with zero | positive
  · rw [zero, Nat.zero_add, Nat.div_one]
    exact first zero
  · rw [Nat.div_lt_iff_lt_mul (Nat.succ_pos count)]
    omega

theorem Tracks.step (tracks : log.Tracks) {after : MigrationLog}
    (updated : (step (some log) result).2 = some after) : after.Tracks := by
  by_cases success : result.success = true
  · rcases step_of_success tracks success with ⟨trap, -⟩ | ⟨small, timed, stepped, stats, value⟩
    · rw [trap] at updated
      contradiction
    · rw [stepped] at updated
      cases updated
      have total : log.timed.avgMigrationTime.toUInt64.toNat * log.durations.length +
          result.duration.toUInt64.toNat ≤ log.durations.sum + result.duration.toUInt64.toNat :=
        Nat.add_le_add_right tracks.below _
      constructor
      · rw [stats, tracks.total]
        rw [UInt64.add_assoc, UInt64.add_comm _ 1, ← UInt64.add_assoc]
      · have counted := tracks.count
        rw [stats, List.length_append, List.length_singleton, UInt64.toNat_add, counted]
        exact Nat.mod_eq_of_lt small
      · rw [value]
        apply div_succ_lt (Nat.mod_lt _ (by decide))
        intro none_before
        have bounded := result.duration_lt
        rw [none_before, Nat.mul_zero, Nat.zero_add]
        omega
      · rw [value, List.length_append, List.length_singleton, List.sum_append, List.sum_singleton]
        exact (Nat.div_mul_le_self _ _).trans ((Nat.mod_le _ _).trans total)
  · obtain ⟨timed, stepped, average, stats⟩ := step_of_failure log success
    rw [stepped] at updated
    cases updated
    constructor
    · rw [stats, tracks.total]
      exact UInt64.add_assoc _ _ _
    · rw [stats]
      exact tracks.count
    · rw [average]
      exact tracks.nonneg
    · rw [average]
      exact tracks.below

theorem Tracks.exact_iff (tracks : log.Tracks) :
    log.Exact ↔ (log.durations ≠ [] →
      shortfall log.durations.sum log.timed.avgMigrationTime.toUInt64.toNat
        log.durations.length < log.durations.length) := by
  have within (some_durations : log.durations ≠ []) :
      |(log.timed.avgMigrationTime.toInt : ℚ) -
          (log.durations.sum : ℚ) / log.durations.length| < 1 ↔
        shortfall log.durations.sum log.timed.avgMigrationTime.toUInt64.toNat
          log.durations.length < log.durations.length := by
    rw [toInt_of_lt tracks.nonneg]
    exact abs_sub_mean_lt_one_iff (List.length_pos_iff.mpr some_durations) tracks.below
  constructor
  · intro exact some_durations
    exact (within some_durations).mp (exact.average some_durations)
  · intro less
    exact ⟨tracks.total, fun some_durations => (within some_durations).mpr (less some_durations)⟩

theorem shortfall_of_cut {total sum count : Nat} (cut : 2 ^ 64 ≤ total) (le : total ≤ sum)
    (small : count < 2 ^ 64) :
    ¬ shortfall sum (total % 2 ^ 64 / count) count < count := by
  have kept : total % 2 ^ 64 / count * count ≤ total % 2 ^ 64 := Nat.div_mul_le_self _ _
  have lost : total % 2 ^ 64 + 2 ^ 64 ≤ total := by omega
  rw [shortfall]
  omega

theorem reports_some_iff : Reports (some log) ↔ log.Exact := by
  constructor
  · rintro ⟨reported, same, exact⟩
    cases same
    exact exact
  · exact fun exact => ⟨log, rfl, exact⟩

theorem Tracks.reports_iff_of_success (tracks : log.Tracks) (success : result.success = true) :
    Reports (MigrationLog.step (some log) result).2 ↔ Affords (some log) result := by
  rcases step_of_success tracks success with ⟨trap, last⟩ | ⟨small, timed, stepped, -, value⟩
  · rw [trap]
    apply iff_of_false
    · rintro ⟨reported, missing, -⟩
      contradiction
    · rintro ⟨before, same, affords⟩
      cases same
      have small := (affords success).1
      omega
  · have exact := (tracks.step stepped).exact_iff
    rw [value] at exact
    simp only [ne_eq, List.append_eq_nil_iff, List.cons_ne_nil, and_false, not_false_eq_true,
      true_implies, List.length_append, List.length_singleton, List.sum_append,
      List.sum_singleton] at exact
    rw [stepped, reports_some_iff, exact]
    constructor
    · intro less
      refine ⟨log, rfl, fun _ => ⟨small, ?_, ?_⟩⟩
      · by_contra cut
        exact shortfall_of_cut (Nat.not_lt.mp cut) (Nat.add_le_add_right tracks.below _) small less
      · by_cases fits : log.timed.avgMigrationTime.toUInt64.toNat * log.durations.length +
            result.duration.toUInt64.toNat < 2 ^ 64
        · rw [Nat.mod_eq_of_lt fits, ← nextMean, shortfall_nextMean tracks.below] at less
          exact less
        · exact absurd less (shortfall_of_cut (Nat.not_lt.mp fits)
            (Nat.add_le_add_right tracks.below _) small)
    · rintro ⟨before, same, affords⟩
      cases same
      obtain ⟨-, fits, less⟩ := affords success
      rw [Nat.mod_eq_of_lt fits, ← nextMean, shortfall_nextMean tracks.below]
      exact less

theorem Tracks.reports_of_failure (tracks : log.Tracks) (exact : log.Exact)
    (failure : ¬ result.success = true) : Reports (MigrationLog.step (some log) result).2 := by
  obtain ⟨timed, stepped, average, -⟩ := step_of_failure log failure
  refine ⟨_, stepped, (tracks.step stepped).exact_iff.mpr ?_⟩
  rw [average]
  exact tracks.exact_iff.mp exact

theorem Tracks.reports_iff (tracks : log.Tracks) (exact : log.Exact) :
    Reports (MigrationLog.step (some log) result).2 ↔ Affords (some log) result := by
  by_cases success : result.success = true
  · exact tracks.reports_iff_of_success success
  · apply iff_of_true
    · exact tracks.reports_of_failure exact success
    · exact ⟨log, rfl, fun succeeds => absurd succeeds success⟩

/-- Statistics that there are count what the log holds. -/
def Tracked (state : Option MigrationLog) : Prop :=
  ∀ log, state = some log → log.Tracks

theorem tracked_fresh : Tracked (some fresh) := by
  intro log same
  cases same
  exact tracks_fresh

theorem Tracked.step {state : Option MigrationLog} (tracked : Tracked state)
    (result : TimedResult) : Tracked (MigrationLog.step state result).2 := by
  intro after updated
  cases state with
  | none => contradiction
  | some log => exact (tracked log rfl).step updated

theorem tracked_final (results : List TimedResult) :
    Tracked (final MigrationLog.step (some fresh) results) :=
  final_invariant Tracked (fun _ result tracked => tracked.step result) tracked_fresh results

/-- In every state of a run the total is that of both kinds and the average is less than a
millisecond away from the mean, exactly if every step can afford its migration. -/
theorem averages_exact_iff (results : List TimedResult) :
    (∀ first rest, results = first ++ rest →
        Reports (final MigrationLog.step (some fresh) first)) ↔
      Guarded MigrationLog.step Affords (some fresh) results := by
  have start : Reports (some fresh) := by
    rw [reports_some_iff, tracks_fresh.exact_iff]
    exact fun some_durations => absurd rfl some_durations
  have kept (state : Option MigrationLog) (result : TimedResult)
      (holds : Reports state ∧ Tracked state) :
      Reports (MigrationLog.step state result).2 ∧ Tracked (MigrationLog.step state result).2 ↔
        Affords state result := by
    obtain ⟨⟨log, rfl, exact⟩, tracks⟩ := holds
    rw [← (tracks log rfl).reports_iff exact]
    exact and_iff_left (tracks.step result)
  rw [← forall_prefix_iff_guarded kept ⟨start, tracked_fresh⟩]
  constructor
  · intro reports first rest split
    exact ⟨reports first rest split, tracked_final first⟩
  · intro reports first rest split
    exact (reports first rest split).1

/-! ## How far the average falls behind -/

/-- Neither the count nor the total of the migration exceeds 64 bits. -/
def Fits (log : Option MigrationLog) (result : TimedResult) : Prop :=
  ∀ before, log = some before → result.success = true →
    before.durations.length + 1 < 2 ^ 64 ∧
      before.timed.avgMigrationTime.toUInt64.toNat * before.durations.length +
        result.duration.toUInt64.toNat < 2 ^ 64

/-- The average is not above the mean of the durations, and behind it by at most half the number
of further migrations. -/
def Trails (log : MigrationLog) : Prop :=
  log.durations ≠ [] →
    (log.timed.avgMigrationTime.toInt : ℚ) ≤ log.durations.sum / log.durations.length ∧
      (log.durations.sum : ℚ) / log.durations.length - log.timed.avgMigrationTime.toInt ≤
        (log.durations.length - 1) / 2

/-- What the average lacks of the total is bounded by the remainders of the divisions. -/
def Lags (log : MigrationLog) : Prop :=
  2 * shortfall log.durations.sum log.timed.avgMigrationTime.toUInt64.toNat
    log.durations.length ≤ log.durations.length * (log.durations.length - 1)

theorem Lags.trails (lags : log.Lags) (tracks : log.Tracks) : log.Trails := by
  intro some_durations
  rw [toInt_of_lt tracks.nonneg]
  exact sub_mean_le_half (List.length_pos_iff.mpr some_durations) tracks.below lags

theorem Lags.step (lags : log.Lags) (tracks : log.Tracks) (fits : Fits (some log) result)
    {after : MigrationLog} (updated : (step (some log) result).2 = some after) :
    after.Lags := by
  by_cases success : result.success = true
  · rcases step_of_success tracks success with ⟨trap, -⟩ | ⟨-, timed, stepped, -, value⟩
    · rw [trap] at updated
      contradiction
    · rw [stepped] at updated
      cases updated
      rw [Nat.mod_eq_of_lt (fits log rfl success).2, ← nextMean] at value
      rw [Lags, value]
      simp only [List.length_append, List.length_singleton, List.sum_append, List.sum_singleton]
      exact two_mul_shortfall_le tracks.below lags
  · obtain ⟨timed, stepped, average, -⟩ := step_of_failure log success
    rw [stepped] at updated
    cases updated
    rw [Lags, average]
    exact lags

/-- In a run without overflow the average never falls further behind. -/
theorem trails_final (results : List TimedResult)
    (fits : Guarded MigrationLog.step Fits (some fresh) results) (log : MigrationLog)
    (reached : final MigrationLog.step (some fresh) results = some log) : log.Trails := by
  have kept (state : Option MigrationLog) (result : TimedResult)
      (holds : Tracked state ∧ ∀ log, state = some log → log.Lags) (fits : Fits state result) :
      Tracked (MigrationLog.step state result).2 ∧
        ∀ log, (MigrationLog.step state result).2 = some log → log.Lags := by
    refine ⟨holds.1.step result, fun after updated => ?_⟩
    cases state with
    | none => contradiction
    | some log => exact (holds.2 log rfl).step (holds.1 log rfl) fits updated
  have start (log : MigrationLog) (same : some fresh = some log) : log.Lags := by
    cases same
    exact Nat.le_refl 0
  obtain ⟨tracks, lags⟩ := fits.invariant _ kept ⟨tracked_fresh, start⟩
  exact (lags log reached).trails (tracks log reached)

/-! ## Three migrations -/

namespace AverageSample

/-- A successful migration of so many milliseconds. -/
def took (duration : Int64) (nonneg : 0 ≤ duration) : TimedResult :=
  ⟨true, duration, nonneg⟩

def results : List TimedResult :=
  [took 0 (by decide), took 1 (by decide), took 2 (by decide)]

end AverageSample

open AverageSample in
/-- The average of 0, 1 and 2 milliseconds is 0, which is as far behind as it can be. -/
theorem trails_three :
    ∃ log, final MigrationLog.step (some fresh) results = some log ∧ log.Trails := by
  refine ⟨_, rfl, trails_final results ⟨?_, ?_, ?_, trivial⟩ _ rfl⟩
  all_goals
    rintro before ⟨⟩ _
    decide

open AverageSample in
/-- Migrations of 0, 1 and 2 milliseconds took one on average; the statistics report 0. -/
theorem average_falls_behind :
    (final MigrationLog.step (some fresh) results).map (fun log =>
      (log.durations, log.timed.stats.successfulMigrations, log.timed.avgMigrationTime)) =
        some ([0, 1, 2], 3, 0) ∧
    ¬ ∀ (results first rest : List TimedResult), results = first ++ rest →
      Reports (final MigrationLog.step (some fresh) first) := by
  constructor
  · decide +kernel
  · intro every
    obtain ⟨log, reached, exact⟩ := every results results [] rfl
    have state : final MigrationLog.step (some fresh) results =
        some ⟨⟨⟨3, 3, 0, 0⟩, 0, 0⟩, [0, 1, 2]⟩ := by decide +kernel
    rw [state] at reached
    cases reached
    have within := exact.average (by decide)
    have reported : (0 : Int64).toInt = 0 := rfl
    rw [reported] at within
    norm_num at within

end MigrationLog

end FileTrans.Transport
