import FileTrans.Server.QuotaLedger
import Mathlib.Data.Int.Log
import Mathlib.Data.List.Enum
import Mathlib.Data.List.Sort
import Mathlib.Data.Rat.Floor

/-!
# Warnings of the quota manager

After a change of the usage `check_thresholds` calls the warning callback for
every threshold that is reached and not triggered yet.  If the quota is
exceeded it calls the other callback and returns before it looks at the
thresholds.

The percentage that it compares is a double, so rounding can leave it below a
threshold that the usage has reached.

`reported` is no field of the source: it holds the positions of the thresholds
that caused a warning since the triggers were last reset.
-/

namespace FileTrans.Server

open FileTrans.Core
open FileTrans.Transition

/-! ## Percentages in doubles -/

/-- The nearest whole number, of two the even one. -/
def roundToEven (value : Rat) : Int :=
  let low := ⌊value⌋
  if value - low < 1 / 2 then low
  else if value - low = 1 / 2 ∧ low % 2 = 0 then low
  else low + 1

/-- The double next to a number that is not negative and in the normal range: 53 binary digits. -/
def toDouble (value : Rat) : Rat :=
  if value ≤ 0 then 0
  else
    let unit : Rat := 2 ^ (Int.log 2 value - 52)
    roundToEven (value / unit) * unit

/-- The percentage as the code computes it, rounded at every step. -/
def computedPercent (usedBytes totalQuota : UInt64) : Rat :=
  toDouble (toDouble (toDouble usedBytes.toNat / toDouble totalQuota.toNat) * 100)

example : computedPercent 58 100 < 58 ∧ percentOf 58 100 = 58 := by decide +kernel

/-- What the field `usage_percent` holds. -/
def QuotaUsage.heldPercent (usage : QuotaUsage) : Rat :=
  if 0 < usage.totalQuota then computedPercent usage.usedBytes usage.totalQuota
  else usage.usagePercent

/-! ## The thresholds -/

structure WarningThreshold where
  percentage : Rat
  triggered : Bool
  deriving DecidableEq

/-- A call of one of the two callbacks; a warning with the position of its threshold. -/
inductive QuotaNotice
  | warning (position : Nat) (usage : QuotaUsage)
  | exceeded (usage : QuotaUsage)
  deriving DecidableEq

/-- A quota manager with its thresholds, a warning callback and perhaps the other one. -/
structure WatchedQuota where
  manager : QuotaManager
  warningThresholds : List WarningThreshold
  exceededCallback : Bool
  reported : List Nat
  deriving DecidableEq

/-- A call of the quota manager. -/
inductive WarningInput
  | usage (input : QuotaInput)
  | setWarningThresholds (percentages : List Rat)
  | resetThresholdTriggers
  | onQuotaExceeded

/-- What a call makes of the manager itself. -/
def QuotaManager.apply (manager : QuotaManager) : QuotaInput → QuotaManager
  | .setTotalQuota bytes storage => manager.setTotalQuota bytes storage
  | .refreshUsage storage => manager.refreshUsage storage
  | .recordBytesAdded bytes => manager.recordBytesAdded bytes
  | .recordBytesRemoved bytes => manager.recordBytesRemoved bytes
  | .recordFileAdded => manager.recordFileAdded
  | .recordFileRemoved => manager.recordFileRemoved
  | .setCleanupPolicy policy => manager.setCleanupPolicy policy
  | .executeCleanup now entries => (manager.executeCleanup now entries).2

theorem QuotaLedger.manager_step (ledger : QuotaLedger) (input : QuotaInput) :
    (QuotaLedger.step ledger input).2.manager = ledger.manager.apply input := by
  cases input <;> rfl

/-- The thresholds of `set_warning_thresholds`. -/
def thresholdsOf (percentages : List Rat) : List WarningThreshold :=
  ((percentages.filter fun percentage => 0 < percentage ∧ percentage ≤ 100).map
    fun percentage => ⟨percentage, false⟩).mergeSort
      fun first second => decide (first.percentage ≤ second.percentage)

/-- The loop of `check_thresholds`: the positions of the thresholds that it warns of, from the
given position on, and the thresholds after it. -/
def checkLoop (usage : QuotaUsage) : Nat → List WarningThreshold → List Nat × List WarningThreshold
  | _, [] => ([], [])
  | position, threshold :: rest =>
      let later := checkLoop usage (position + 1) rest
      if ¬ threshold.triggered ∧ usage.heldPercent ≥ threshold.percentage then
        (position :: later.1, { threshold with triggered := true } :: later.2)
      else (later.1, threshold :: later.2)

namespace WatchedQuota

def checkThresholds (watched : WatchedQuota) : List QuotaNotice × WatchedQuota :=
  let usage := watched.manager.currentUsage
  if usage.isExceeded then
    (if watched.exceededCallback then [.exceeded usage] else [], watched)
  else
    let checked := checkLoop usage 0 watched.warningThresholds
    (checked.1.map (.warning · usage),
      { watched with
        warningThresholds := checked.2
        reported := watched.reported ++ checked.1 })

/-- `quota_manager::create` and `on_quota_warning`, with the thresholds of the constructor. -/
def create (totalQuota : UInt64) (storage : StorageView) : WatchedQuota where
  manager := .create totalQuota storage
  warningThresholds := [⟨80, false⟩, ⟨90, false⟩, ⟨95, false⟩]
  exceededCallback := false
  reported := []

/-- One call, and the calls of the callbacks in it.  `set_total_quota` checks in
`refresh_usage` and once more. -/
def step : Step WatchedQuota WarningInput (List QuotaNotice) := fun watched input =>
  match input with
  | .usage input =>
      let changed := { watched with manager := watched.manager.apply input }
      match input with
      | .setTotalQuota _ _ =>
          let first := changed.checkThresholds
          let second := first.2.checkThresholds
          (first.1 ++ second.1, second.2)
      | .refreshUsage _ => changed.checkThresholds
      | .recordBytesAdded _ => changed.checkThresholds
      | _ => ([], changed)
  | .setWarningThresholds percentages =>
      ([], { watched with warningThresholds := thresholdsOf percentages, reported := [] })
  | .resetThresholdTriggers =>
      ([], { watched with
        warningThresholds :=
          watched.warningThresholds.map fun threshold => { threshold with triggered := false }
        reported := [] })
  | .onQuotaExceeded => ([], { watched with exceededCallback := true })

/-- The percentages of the thresholds. -/
def percentages (watched : WatchedQuota) : List Rat :=
  watched.warningThresholds.map WarningThreshold.percentage

/-- Every threshold at or below the usage was reported. -/
def Complete (watched : WatchedQuota) : Prop :=
  ∀ (position : Nat) (percentage : Rat), watched.percentages[position]? = some percentage →
    percentage ≤ watched.manager.currentUsage.usagePercent → position ∈ watched.reported

/-- The call may change the usage and is to report it. -/
def Reports : WarningInput → Prop
  | .usage (.setTotalQuota _ _) => True
  | .usage (.refreshUsage _) => True
  | .usage (.recordBytesAdded _) => True
  | _ => False

/-- What a call promises: it warns of thresholds only that `usage_percent` has reached, of none a
second time since the triggers were reset, and if it is to report the usage, of all at or below
it. -/
structure WarnsSoundly (watched : WatchedQuota) (input : WarningInput) : Prop where
  reached : ∀ position usage, QuotaNotice.warning position usage ∈ (step watched input).1 →
    ∃ percentage, (step watched input).2.percentages[position]? = some percentage ∧
      percentage ≤ usage.heldPercent
  once : (step watched input).2.reported.Nodup
  complete : Reports input → (step watched input).2.Complete

/-- The used bytes of a scan. -/
def scannedBytes (storage : StorageView) : UInt64 :=
  (scanEntries 0 0 (storage.entries.getD [])).1

/-- Rounding leaves no threshold behind: the computed percentage reaches every threshold that is
not triggered and that the exact percentage reaches. -/
def RoundsSoundly (watched : WatchedQuota) (quota used : UInt64) : Prop :=
  ∀ threshold ∈ watched.warningThresholds, threshold.triggered = false →
    threshold.percentage ≤ percentOf used quota → threshold.percentage ≤ computedPercent used quota

/-- With so many bytes used there is no quota, or it is not exceeded and rounding leaves no
threshold behind, or all thresholds are triggered. -/
def Settled (watched : WatchedQuota) (quota used : UInt64) : Prop :=
  quota = 0 ∨ (used < quota ∧ watched.RoundsSoundly quota used) ∨
    ∀ threshold ∈ watched.warningThresholds, threshold.triggered = true

/-- A call that is to report the usage leaves no threshold that is not triggered, by an exceeded
quota or by rounding. -/
def Uncrossed (watched : WatchedQuota) : WarningInput → Prop
  | .usage (.setTotalQuota bytes storage) => watched.Settled bytes (scannedBytes storage)
  | .usage (.refreshUsage storage) =>
      watched.Settled watched.manager.totalQuota (scannedBytes storage)
  | .usage (.recordBytesAdded bytes) =>
      watched.Settled watched.manager.totalQuota (watched.manager.currentUsage.usedBytes + bytes)
  | _ => True

/-! ## One pass over the thresholds -/

section

variable {usage : QuotaUsage} {position : Nat} {thresholds : List WarningThreshold}

/-- The threshold is reached and not triggered. -/
def isDue (usage : QuotaUsage) (threshold : WarningThreshold) : Bool :=
  !threshold.triggered && decide (threshold.percentage ≤ usage.heldPercent)

/-- The usage reaches the threshold, and the double for it does not. -/
def Missed (usage : QuotaUsage) (threshold : WarningThreshold) : Prop :=
  threshold.triggered = false ∧ threshold.percentage ≤ usage.usagePercent ∧
    usage.heldPercent < threshold.percentage

theorem checkLoop_eq (usage : QuotaUsage) (position : Nat) (thresholds : List WarningThreshold) :
    checkLoop usage position thresholds =
      (((thresholds.zipIdx position).filter fun entry => isDue usage entry.1).map Prod.snd,
        thresholds.map fun threshold =>
          { threshold with triggered := threshold.triggered || isDue usage threshold }) := by
  induction thresholds generalizing position with
  | nil => rfl
  | cons threshold rest ih =>
      rw [checkLoop, ih]
      by_cases due : ¬ threshold.triggered ∧ usage.heldPercent ≥ threshold.percentage
      · have isDue_eq : isDue usage threshold = true := by
          simpa [isDue] using due
        rw [if_pos due]
        simp [isDue_eq]
      · have isDue_eq : isDue usage threshold = false := by
          simpa [isDue] using due
        rw [if_neg due]
        simp [isDue_eq]

theorem mem_checkLoop {warned : Nat} :
    warned ∈ (checkLoop usage 0 thresholds).1 ↔
      ∃ threshold, thresholds[warned]? = some threshold ∧ isDue usage threshold = true := by
  rw [checkLoop_eq]
  simp only [List.mem_map, List.mem_filter, Prod.exists, exists_eq_right,
    List.mem_zipIdx_iff_getElem?]

theorem nodup_checkLoop : (checkLoop usage position thresholds).1.Nodup := by
  rw [checkLoop_eq]
  have among := (List.filter_sublist (p := fun entry => isDue usage entry.1)
    (l := thresholds.zipIdx position)).map Prod.snd
  rw [List.zipIdx_map_snd] at among
  exact List.Nodup.sublist among List.nodup_range'

theorem getElem?_checkLoop (index : Nat) :
    (checkLoop usage position thresholds).2[index]? = thresholds[index]?.map fun threshold =>
      { threshold with triggered := threshold.triggered || isDue usage threshold } := by
  rw [checkLoop_eq]
  exact List.getElem?_map

end

/-! ## What the triggers say -/

/-- The usage names the quota, and the triggers say which thresholds were reported, each
once. -/
structure Tracked (watched : WatchedQuota) : Prop where
  quota : watched.manager.currentUsage.totalQuota = watched.manager.totalQuota
  bounded : ∀ threshold ∈ watched.warningThresholds, threshold.percentage ≤ 100
  triggered_iff : ∀ (position : Nat) threshold,
    watched.warningThresholds[position]? = some threshold →
      (threshold.triggered = true ↔ position ∈ watched.reported)
  inside : ∀ position ∈ watched.reported, position < watched.warningThresholds.length
  once : watched.reported.Nodup

section

variable {watched : WatchedQuota}

theorem manager_checkThresholds (watched : WatchedQuota) :
    watched.checkThresholds.2.manager = watched.manager := by
  rw [checkThresholds]
  dsimp only
  split <;> rfl

theorem percentages_checkThresholds (watched : WatchedQuota) :
    watched.checkThresholds.2.percentages = watched.percentages := by
  rw [checkThresholds]
  dsimp only
  split
  · rfl
  · rw [percentages, percentages]
    dsimp only
    rw [checkLoop_eq, List.map_map]
    rfl

theorem Tracked.check (tracked : watched.Tracked) : watched.checkThresholds.2.Tracked := by
  rw [checkThresholds]
  dsimp only
  split
  · exact tracked
  · constructor
    · exact tracked.quota
    · intro threshold mem
      dsimp only at mem
      rw [checkLoop_eq] at mem
      obtain ⟨before, present, rfl⟩ := List.mem_map.mp mem
      exact tracked.bounded before present
    · intro position threshold present
      dsimp only at present ⊢
      rw [getElem?_checkLoop, Option.map_eq_some_iff] at present
      obtain ⟨before, held, rfl⟩ := present
      rw [List.mem_append, mem_checkLoop, ← tracked.triggered_iff position before held, held]
      simp
    · intro position mem
      dsimp only at mem ⊢
      rw [checkLoop_eq, List.length_map]
      rcases List.mem_append.mp mem with old | new
      · exact tracked.inside position old
      · obtain ⟨threshold, held, -⟩ := mem_checkLoop.mp new
        exact (List.getElem?_eq_some_iff.mp held).1
    · apply tracked.once.append nodup_checkLoop
      intro position old new
      obtain ⟨threshold, held, due⟩ := mem_checkLoop.mp new
      have triggered := (tracked.triggered_iff position threshold held).mpr old
      rw [isDue, triggered] at due
      contradiction

theorem reached_of_warning {position : Nat} {usage : QuotaUsage}
    (warned : QuotaNotice.warning position usage ∈ watched.checkThresholds.1) :
    ∃ percentage, watched.percentages[position]? = some percentage ∧
      percentage ≤ usage.heldPercent := by
  rw [checkThresholds] at warned
  dsimp only at warned
  split at warned
  · split at warned <;> simp at warned
  · simp only [List.mem_map, QuotaNotice.warning.injEq] at warned
    obtain ⟨_, mem, rfl, rfl⟩ := warned
    obtain ⟨threshold, held, due⟩ := mem_checkLoop.mp mem
    rw [isDue, Bool.and_eq_true, decide_eq_true_iff] at due
    refine ⟨threshold.percentage, ?_, due.2⟩
    rw [percentages, List.getElem?_map, held, Option.map_some]

theorem complete_check_iff (tracked : watched.Tracked)
    (above : watched.manager.currentUsage.isExceeded = true →
      100 ≤ watched.manager.currentUsage.usagePercent) :
    watched.checkThresholds.2.Complete ↔
      (watched.manager.currentUsage.isExceeded = false ∧
        ∀ threshold ∈ watched.warningThresholds,
          ¬ Missed watched.manager.currentUsage threshold) ∨
      ∀ threshold ∈ watched.warningThresholds, threshold.triggered = true := by
  rw [checkThresholds]
  dsimp only
  cases exceeded : watched.manager.currentUsage.isExceeded with
  | true =>
      rw [if_pos rfl]
      simp only [Bool.true_eq_false, false_and, false_or]
      constructor
      · intro complete threshold mem
        obtain ⟨position, held⟩ := List.mem_iff_getElem?.mp mem
        refine (tracked.triggered_iff position threshold held).mpr (complete position
          threshold.percentage ?_ ((tracked.bounded threshold mem).trans (above exceeded)))
        rw [percentages, List.getElem?_map, held, Option.map_some]
      · intro all position percentage held reached
        rw [percentages, List.getElem?_map, Option.map_eq_some_iff] at held
        obtain ⟨threshold, present, -⟩ := held
        exact (tracked.triggered_iff position threshold present).mp
          (all threshold (List.mem_of_getElem? present))
  | false =>
      rw [if_neg Bool.false_ne_true]
      constructor
      · intro complete
        refine .inl ⟨rfl, ?_⟩
        rintro threshold mem ⟨off, reached, below⟩
        obtain ⟨position, held⟩ := List.mem_iff_getElem?.mp mem
        have reported : position ∈ watched.reported ++
            (checkLoop watched.manager.currentUsage 0 watched.warningThresholds).1 := by
          refine complete position threshold.percentage ?_ reached
          rw [percentages, List.getElem?_map, getElem?_checkLoop, held, Option.map_some,
            Option.map_some]
        rcases List.mem_append.mp reported with old | new
        · rw [(tracked.triggered_iff position threshold held).mpr old] at off
          contradiction
        · obtain ⟨other, present, due⟩ := mem_checkLoop.mp new
          obtain rfl := Option.some.inj (held.symm.trans present)
          rw [isDue, Bool.and_eq_true, decide_eq_true_iff] at due
          exact absurd due.2 (not_le.mpr below)
      · intro settled position percentage held reached
        rw [percentages, List.getElem?_map, Option.map_eq_some_iff] at held
        obtain ⟨threshold, present, rfl⟩ := held
        dsimp only at present reached ⊢
        rw [getElem?_checkLoop, Option.map_eq_some_iff] at present
        obtain ⟨before, present, rfl⟩ := present
        have mem := List.mem_of_getElem? present
        rw [List.mem_append, mem_checkLoop]
        cases triggered : before.triggered with
        | true => exact .inl ((tracked.triggered_iff position before present).mp triggered)
        | false =>
            refine .inr ⟨before, present, ?_⟩
            rcases settled with ⟨-, found⟩ | all
            · have high : before.percentage ≤ watched.manager.currentUsage.heldPercent :=
                not_lt.mp fun below => found before mem ⟨triggered, reached, below⟩
              rw [isDue, triggered, decide_eq_true high]
              rfl
            · rw [all before mem] at triggered
              contradiction

theorem checkThresholds_checkThresholds (watched : WatchedQuota) :
    watched.checkThresholds.2.checkThresholds.2 = watched.checkThresholds.2 := by
  rw [checkThresholds]
  rw [manager_checkThresholds]
  dsimp only
  cases exceeded : watched.manager.currentUsage.isExceeded with
  | true => rw [if_pos rfl]
  | false =>
      have settled (threshold : WarningThreshold) :
          isDue watched.manager.currentUsage { threshold with
            triggered := threshold.triggered || isDue watched.manager.currentUsage threshold } =
            false := by
        cases triggered : threshold.triggered <;> simp [isDue, triggered]
      have nothing : ∀ entry ∈ (watched.warningThresholds.map fun threshold =>
          { threshold with
            triggered := threshold.triggered ||
              isDue watched.manager.currentUsage threshold }).zipIdx,
          ¬ isDue watched.manager.currentUsage entry.1 = true := by
        intro entry mem
        obtain ⟨threshold, -, same⟩ := List.mem_map.mp (List.fst_mem_of_mem_zipIdx mem)
        rw [← same, settled]
        exact Bool.false_ne_true
      rw [if_neg Bool.false_ne_true, checkThresholds]
      dsimp only
      rw [exceeded, if_neg Bool.false_ne_true, checkLoop_eq, checkLoop_eq,
        List.filter_eq_nil_iff.mpr nothing]
      simp [settled]

end

/-! ## What a call leaves -/

/-- The usage was brought up to date with this quota and these used bytes. -/
structure UpToDate (quota used : UInt64) (usage : QuotaUsage) : Prop where
  totalQuota : usage.totalQuota = quota
  usedBytes : usage.usedBytes = used
  usagePercent : 0 < quota → usage.usagePercent = percentOf used quota

section

variable {quota used : UInt64} {usage : QuotaUsage}

theorem UpToDate.exceeded_iff (current : UpToDate quota used usage) :
    usage.isExceeded = true ↔ 0 < quota ∧ quota ≤ used := by
  rw [QuotaUsage.isExceeded, current.totalQuota, current.usedBytes, Bool.and_eq_true,
    decide_eq_true_iff, decide_eq_true_iff]

theorem UpToDate.percent_ge (current : UpToDate quota used usage)
    (exceeded : usage.isExceeded = true) : 100 ≤ usage.usagePercent := by
  obtain ⟨positive, above⟩ := current.exceeded_iff.mp exceeded
  have some : (0 : Rat) < quota.toNat := by
    exact_mod_cast UInt64.lt_iff_toNat_lt.mp positive
  have more : (quota.toNat : Rat) ≤ used.toNat := by
    exact_mod_cast UInt64.le_iff_toNat_le.mp above
  have ratio : 1 ≤ (used.toNat : Rat) / quota.toNat := (one_le_div some).mpr more
  rw [current.usagePercent positive, percentOf]
  linarith

theorem UpToDate.settled_iff (current : UpToDate quota used usage) (watched : WatchedQuota) :
    ((usage.isExceeded = false ∧
          ∀ threshold ∈ watched.warningThresholds, ¬ Missed usage threshold) ∨
        ∀ threshold ∈ watched.warningThresholds, threshold.triggered = true) ↔
      watched.Settled quota used := by
  have free : usage.isExceeded = false ↔ quota = 0 ∨ used < quota := by
    rw [← Bool.not_eq_true, current.exceeded_iff, not_and_or, UInt64.not_le,
      UInt64.pos_iff_ne_zero, not_not]
  rw [free, Settled, ← or_assoc]
  refine or_congr_left ?_
  by_cases none : quota = 0
  · -- Without a quota nothing is rounded.
    have held : usage.heldPercent = usage.usagePercent := by
      rw [QuotaUsage.heldPercent, current.totalQuota, none, if_neg (by decide)]
    refine iff_of_true ⟨.inl none, ?_⟩ (.inl none)
    rintro threshold - ⟨-, reached, below⟩
    rw [held] at below
    exact absurd reached (not_le.mpr below)
  · have some := UInt64.pos_iff_ne_zero.mpr none
    have held : usage.heldPercent = computedPercent used quota := by
      rw [QuotaUsage.heldPercent, current.totalQuota, current.usedBytes, if_pos some]
    simp only [none, false_or, Missed, held, current.usagePercent some, RoundsSoundly, not_and,
      not_lt]

theorem upToDate_calculateUsage (totalQuota : UInt64) (storage : StorageView) :
    UpToDate totalQuota (scannedBytes storage) (calculateUsage totalQuota storage) := by
  rw [calculateUsage]
  split
  · exact ⟨rfl, rfl, fun _ => rfl⟩
  · rename_i none
    exact ⟨rfl, rfl, fun some => absurd some none⟩

theorem upToDate_recordBytesAdded {manager : QuotaManager}
    (named : manager.currentUsage.totalQuota = manager.totalQuota) (bytes : UInt64) :
    UpToDate manager.totalQuota (manager.currentUsage.usedBytes + bytes)
      (manager.recordBytesAdded bytes).currentUsage := by
  rw [QuotaManager.recordBytesAdded]
  split
  · exact ⟨named, rfl, fun _ => rfl⟩
  · rename_i none
    exact ⟨named, rfl, fun some => absurd some none⟩

end

section

variable {watched : WatchedQuota}

theorem Tracked.apply (tracked : watched.Tracked) (input : QuotaInput) :
    Tracked { watched with manager := watched.manager.apply input } where
  quota := by
    have named := QuotaLedger.named_step ⟨watched.manager, 0⟩ input tracked.quota
    rwa [QuotaLedger.manager_step] at named
  bounded := tracked.bounded
  triggered_iff := tracked.triggered_iff
  inside := tracked.inside
  once := tracked.once

theorem mem_thresholdsOf {percentages : List Rat} {threshold : WarningThreshold}
    (mem : threshold ∈ thresholdsOf percentages) :
    threshold.percentage ≤ 100 ∧ threshold.triggered = false := by
  rw [thresholdsOf, List.mem_mergeSort, List.mem_map] at mem
  obtain ⟨percentage, listed, rfl⟩ := mem
  have allowed := of_decide_eq_true (List.mem_filter.mp listed).2
  exact ⟨allowed.2, rfl⟩

theorem tracked_of_reset {manager : QuotaManager} {thresholds : List WarningThreshold}
    {exceededCallback : Bool} (named : manager.currentUsage.totalQuota = manager.totalQuota)
    (fresh : ∀ threshold ∈ thresholds,
      threshold.percentage ≤ 100 ∧ threshold.triggered = false) :
    Tracked ⟨manager, thresholds, exceededCallback, []⟩ where
  quota := named
  bounded threshold mem := (fresh threshold mem).1
  triggered_iff position threshold held := by
    have off := (fresh threshold (List.mem_of_getElem? held)).2
    exact iff_of_false (by rw [off]; exact Bool.false_ne_true) List.not_mem_nil
  inside := nofun
  once := List.nodup_nil

theorem Tracked.step (tracked : watched.Tracked) (input : WarningInput) :
    (WatchedQuota.step watched input).2.Tracked := by
  cases input with
  | usage input =>
      have applied := tracked.apply input
      cases input with
      | setTotalQuota bytes storage => exact applied.check.check
      | refreshUsage storage => exact applied.check
      | recordBytesAdded bytes => exact applied.check
      | recordBytesRemoved bytes => exact applied
      | recordFileAdded => exact applied
      | recordFileRemoved => exact applied
      | setCleanupPolicy policy => exact applied
      | executeCleanup now entries => exact applied
  | setWarningThresholds percentages =>
      exact tracked_of_reset tracked.quota fun threshold mem => mem_thresholdsOf mem
  | resetThresholdTriggers =>
      apply tracked_of_reset tracked.quota
      intro threshold mem
      obtain ⟨before, present, rfl⟩ := List.mem_map.mp mem
      exact ⟨tracked.bounded before present, rfl⟩
  | onQuotaExceeded =>
      exact ⟨tracked.quota, tracked.bounded, tracked.triggered_iff, tracked.inside, tracked.once⟩

theorem percentages_step (watched : WatchedQuota) (input : QuotaInput) :
    (WatchedQuota.step watched (.usage input)).2.percentages = watched.percentages := by
  cases input with
  | setTotalQuota bytes storage =>
      exact (percentages_checkThresholds _).trans (percentages_checkThresholds _)
  | refreshUsage storage => exact percentages_checkThresholds _
  | recordBytesAdded bytes => exact percentages_checkThresholds _
  | recordBytesRemoved bytes => rfl
  | recordFileAdded => rfl
  | recordFileRemoved => rfl
  | setCleanupPolicy policy => rfl
  | executeCleanup now entries => rfl

/-- After a check of a usage that is up to date everything is reported, exactly if it is settled
before. -/
theorem complete_check_iff_settled (tracked : watched.Tracked) {quota used : UInt64}
    (current : UpToDate quota used watched.manager.currentUsage) :
    watched.checkThresholds.2.Complete ↔ watched.Settled quota used := by
  rw [complete_check_iff tracked current.percent_ge, current.settled_iff]

theorem complete_check_check_iff (tracked : watched.Tracked) {quota used : UInt64}
    (current : UpToDate quota used watched.manager.currentUsage) :
    watched.checkThresholds.2.checkThresholds.2.Complete ↔ watched.Settled quota used := by
  rw [checkThresholds_checkThresholds, complete_check_iff_settled tracked current]

theorem warnsSoundly_iff_of_reports {input : QuotaInput} {settled : Prop}
    (reports : Reports (.usage input)) (once : (step watched (.usage input)).2.reported.Nodup)
    (reached : ∀ position usage,
      QuotaNotice.warning position usage ∈ (step watched (.usage input)).1 →
        ∃ percentage, watched.percentages[position]? = some percentage ∧
          percentage ≤ usage.heldPercent)
    (complete : (step watched (.usage input)).2.Complete ↔ settled) :
    watched.WarnsSoundly (.usage input) ↔ settled := by
  constructor
  · intro sound
    exact complete.mp (sound.complete reports)
  · intro holds
    constructor
    · rw [percentages_step]
      exact reached
    · exact once
    · exact fun _ => complete.mpr holds

/-- A call keeps its promises, exactly if neither an exceeded quota nor rounding leaves a
threshold that is not triggered. -/
theorem warnsSoundly_iff (tracked : watched.Tracked) (input : WarningInput) :
    watched.WarnsSoundly input ↔ watched.Uncrossed input := by
  have once := (tracked.step input).once
  cases input with
  | usage input =>
      have applied := tracked.apply input
      cases input with
      | setTotalQuota bytes storage =>
          have complete := complete_check_check_iff applied
            (upToDate_calculateUsage bytes storage)
          refine warnsSoundly_iff_of_reports trivial once ?_ complete
          intro position usage warned
          rcases List.mem_append.mp warned with first | second
          · have reached := reached_of_warning first
            exact reached
          · have reached := reached_of_warning second
            rw [percentages_checkThresholds] at reached
            exact reached
      | refreshUsage storage =>
          have complete := complete_check_iff_settled applied
            (upToDate_calculateUsage watched.manager.totalQuota storage)
          refine warnsSoundly_iff_of_reports trivial once ?_ complete
          intro position usage warned
          have reached := reached_of_warning warned
          exact reached
      | recordBytesAdded bytes =>
          have complete := complete_check_iff_settled applied
            (upToDate_recordBytesAdded tracked.quota bytes)
          refine warnsSoundly_iff_of_reports trivial once ?_ complete
          intro position usage warned
          have reached := reached_of_warning warned
          exact reached
      | recordBytesRemoved bytes => exact iff_of_true ⟨nofun, once, nofun⟩ trivial
      | recordFileAdded => exact iff_of_true ⟨nofun, once, nofun⟩ trivial
      | recordFileRemoved => exact iff_of_true ⟨nofun, once, nofun⟩ trivial
      | setCleanupPolicy policy => exact iff_of_true ⟨nofun, once, nofun⟩ trivial
      | executeCleanup now entries => exact iff_of_true ⟨nofun, once, nofun⟩ trivial
  | setWarningThresholds percentages => exact iff_of_true ⟨nofun, once, nofun⟩ trivial
  | resetThresholdTriggers => exact iff_of_true ⟨nofun, once, nofun⟩ trivial
  | onQuotaExceeded => exact iff_of_true ⟨nofun, once, nofun⟩ trivial

end

theorem tracked_create (totalQuota : UInt64) (storage : StorageView) :
    (create totalQuota storage).Tracked := by
  apply tracked_of_reset (QuotaLedger.calculateUsage_totalQuota totalQuota storage)
  decide

end WatchedQuota

end FileTrans.Server
