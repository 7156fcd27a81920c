import FileTrans.Server.QuotaManager
import FileTrans.Transition.Run

/-!
# The accounts of the quota manager

A ledger counts, in unbounded numbers, what was measured last and what was
recorded since.  The usage agrees with the ledger and with the quota as long as
no addition wraps around and no removal leaves more than the quota: a removal
subtracts the usage from the quota without the guard of the other mutators.
-/

namespace FileTrans.Server

open FileTrans.Core
open FileTrans.Transition

/-- The calls that change the usage. -/
inductive QuotaInput
  | setTotalQuota (bytes : UInt64) (storage : StorageView)
  | refreshUsage (storage : StorageView)
  | recordBytesAdded (bytes : UInt64)
  | recordBytesRemoved (bytes : UInt64)
  | recordFileAdded
  | recordFileRemoved
  | setCleanupPolicy (policy : CleanupPolicy)
  | executeCleanup (now : Int) (entries : List DirectoryEntry)

/-- A manager with the running total of what was measured, added and removed. -/
structure QuotaLedger where
  manager : QuotaManager
  total : Nat

namespace QuotaLedger

/-- A manager whose usage was just measured. -/
def measured (manager : QuotaManager) : QuotaLedger :=
  ⟨manager, manager.currentUsage.usedBytes.toNat⟩

/-- The sum of the sizes of deleted files. -/
def freed (deleted : List UInt64) : Nat :=
  (deleted.map UInt64.toNat).sum

/-- One call; `execute_cleanup` returns the bytes it freed. -/
def step : Step QuotaLedger QuotaInput (Option UInt64) := fun ledger input =>
  match input with
  | .setTotalQuota bytes storage => (none, measured (ledger.manager.setTotalQuota bytes storage))
  | .refreshUsage storage => (none, measured (ledger.manager.refreshUsage storage))
  | .recordBytesAdded bytes =>
      (none, ⟨ledger.manager.recordBytesAdded bytes, ledger.total + bytes.toNat⟩)
  | .recordBytesRemoved bytes =>
      (none, ⟨ledger.manager.recordBytesRemoved bytes, ledger.total - bytes.toNat⟩)
  | .recordFileAdded => (none, ⟨ledger.manager.recordFileAdded, ledger.total⟩)
  | .recordFileRemoved => (none, ⟨ledger.manager.recordFileRemoved, ledger.total⟩)
  | .setCleanupPolicy policy => (none, ⟨ledger.manager.setCleanupPolicy policy, ledger.total⟩)
  | .executeCleanup now entries =>
      let result := ledger.manager.executeCleanup now entries
      (some result.1,
        ⟨result.2, ledger.total - freed (ledger.manager.cleanup now entries).1⟩)

/-- The usage agrees with the quota and with the ledger. -/
structure Accounts (ledger : QuotaLedger) : Prop where
  available : ledger.manager.currentUsage.availableBytes =
    availableOf ledger.manager.currentUsage.usedBytes ledger.manager.totalQuota
  exceeded_iff : ledger.manager.currentUsage.isExceeded = true ↔
    ledger.manager.totalQuota ≤ ledger.manager.currentUsage.usedBytes
  used : ledger.manager.currentUsage.usedBytes.toNat = ledger.total

/-- The usage names the quota, and with a quota the accounts are right. -/
structure Sound (ledger : QuotaLedger) : Prop where
  quota : ledger.manager.currentUsage.totalQuota = ledger.manager.totalQuota
  accounts : 0 < ledger.manager.totalQuota → ledger.Accounts

/-- With a quota, the call adds nothing beyond 64 bits and removes nothing that leaves more
than the quota. -/
def Safe (ledger : QuotaLedger) : QuotaInput → Prop
  | .recordBytesAdded bytes => 0 < ledger.manager.totalQuota →
      ledger.manager.currentUsage.usedBytes.toNat + bytes.toNat < 2 ^ 64
  | .recordBytesRemoved bytes => 0 < ledger.manager.totalQuota →
      ledger.manager.currentUsage.usedBytes.toNat - bytes.toNat ≤ ledger.manager.totalQuota.toNat
  | .executeCleanup now entries => 0 < ledger.manager.totalQuota →
      (ledger.manager.cleanup now entries).1 ≠ [] →
        ledger.manager.currentUsage.usedBytes.toNat -
          freed (ledger.manager.cleanup now entries).1 ≤ ledger.manager.totalQuota.toNat
  | _ => True

theorem sub_eq_availableOf_iff (used quota : UInt64) :
    quota - used = availableOf used quota ↔ used.toNat ≤ quota.toNat := by
  rw [← UInt64.le_iff_toNat_le, availableOf]
  by_cases below : used < quota
  · rw [if_pos below]
    exact iff_of_true rfl (UInt64.le_of_lt below)
  · rw [if_neg below]
    constructor
    · intro zero
      have same : quota = used := by grind
      rw [same]
      exact UInt64.le_refl _
    · intro le
      rw [UInt64.le_antisymm le (UInt64.not_lt.mp below), UInt64.sub_self]

/-! ## What the mutators do -/

/-- The quota of the manager, in its usage too, is the same. -/
structure SameQuota (before after : QuotaManager) : Prop where
  totalQuota : after.totalQuota = before.totalQuota
  usageQuota : after.currentUsage.totalQuota = before.currentUsage.totalQuota

theorem SameQuota.trans {first second third : QuotaManager} (left : SameQuota first second)
    (right : SameQuota second third) : SameQuota first third :=
  ⟨right.totalQuota.trans left.totalQuota, right.usageQuota.trans left.usageQuota⟩

section

variable (manager : QuotaManager) (bytes : UInt64)

theorem sameQuota_recordBytesAdded : SameQuota manager (manager.recordBytesAdded bytes) := by
  unfold QuotaManager.recordBytesAdded
  dsimp only
  split <;> exact ⟨rfl, rfl⟩

theorem usedBytes_recordBytesAdded :
    (manager.recordBytesAdded bytes).currentUsage.usedBytes =
      manager.currentUsage.usedBytes + bytes := by
  unfold QuotaManager.recordBytesAdded
  dsimp only
  split <;> rfl

variable {manager} in
theorem availableBytes_recordBytesAdded (positive : 0 < manager.totalQuota) :
    (manager.recordBytesAdded bytes).currentUsage.availableBytes =
      availableOf (manager.currentUsage.usedBytes + bytes) manager.totalQuota := by
  unfold QuotaManager.recordBytesAdded
  dsimp only
  rw [if_pos positive]

theorem sameQuota_recordBytesRemoved : SameQuota manager (manager.recordBytesRemoved bytes) := by
  unfold QuotaManager.recordBytesRemoved
  dsimp only
  split <;> exact ⟨rfl, rfl⟩

theorem usedBytes_recordBytesRemoved :
    (manager.recordBytesRemoved bytes).currentUsage.usedBytes.toNat =
      manager.currentUsage.usedBytes.toNat - bytes.toNat := by
  have floored : (if manager.currentUsage.usedBytes < bytes then 0
      else manager.currentUsage.usedBytes - bytes).toNat =
        manager.currentUsage.usedBytes.toNat - bytes.toNat := by
    by_cases more : manager.currentUsage.usedBytes < bytes
    · rw [if_pos more, UInt64.toNat_zero]
      have less := UInt64.lt_iff_toNat_lt.mp more
      omega
    · rw [if_neg more]
      exact UInt64.toNat_sub_of_le _ _ (UInt64.not_lt.mp more)
  unfold QuotaManager.recordBytesRemoved
  dsimp only
  split <;> exact floored

variable {manager} in
theorem availableBytes_recordBytesRemoved (positive : 0 < manager.totalQuota) :
    (manager.recordBytesRemoved bytes).currentUsage.availableBytes =
      manager.totalQuota - (manager.recordBytesRemoved bytes).currentUsage.usedBytes := by
  unfold QuotaManager.recordBytesRemoved
  dsimp only
  rw [if_pos positive]

theorem recordFileRemoved_cases :
    ∃ fileCount, manager.recordFileRemoved =
      { manager with currentUsage := { manager.currentUsage with fileCount := fileCount } } := by
  unfold QuotaManager.recordFileRemoved
  split
  · exact ⟨_, rfl⟩
  · exact ⟨manager.currentUsage.fileCount, rfl⟩

end

/-- What the deletions of a cleanup leave of a manager. -/
structure Cleaned (before : QuotaManager) (result : List UInt64 × QuotaManager) : Prop where
  quota : SameQuota before result.2
  used : result.2.currentUsage.usedBytes.toNat =
    before.currentUsage.usedBytes.toNat - freed result.1
  kept : result.1 = [] → result.2 = before
  available : 0 < before.totalQuota → result.1 ≠ [] →
    result.2.currentUsage.availableBytes =
      before.totalQuota - result.2.currentUsage.usedBytes

theorem cleaned_nil (manager : QuotaManager) : Cleaned manager ([], manager) :=
  ⟨⟨rfl, rfl⟩, rfl, fun _ => rfl, fun _ none => absurd rfl none⟩

theorem Cleaned.after_removal {manager : QuotaManager} {size : UInt64}
    {later : List UInt64 × QuotaManager}
    (cleaned : Cleaned (manager.recordBytesRemoved size).recordFileRemoved later) :
    Cleaned manager (size :: later.1, later.2) := by
  obtain ⟨fileCount, removed⟩ := recordFileRemoved_cases (manager.recordBytesRemoved size)
  have quota : SameQuota manager (manager.recordBytesRemoved size).recordFileRemoved := by
    have same := sameQuota_recordBytesRemoved manager size
    rw [removed]
    exact ⟨same.totalQuota, same.usageQuota⟩
  have used : (manager.recordBytesRemoved size).recordFileRemoved.currentUsage.usedBytes.toNat =
      manager.currentUsage.usedBytes.toNat - size.toNat := by
    rw [removed]
    exact usedBytes_recordBytesRemoved manager size
  constructor
  · exact quota.trans cleaned.quota
  · rw [cleaned.used, used, freed, freed, List.map_cons, List.sum_cons]
    exact Nat.sub_sub _ _ _
  · exact fun none => absurd none (List.cons_ne_nil _ _)
  · intro positive _
    by_cases none : later.1 = []
    · rw [cleaned.kept none, removed]
      exact availableBytes_recordBytesRemoved size positive
    · have available := cleaned.available (by rwa [quota.totalQuota]) none
      rwa [quota.totalQuota] at available

theorem cleaned_cleanupLoop (policy : CleanupPolicy) (now : Int) (files : List DirectoryEntry)
    (manager : QuotaManager) :
    Cleaned manager (QuotaManager.cleanupLoop policy now files manager) := by
  fun_induction QuotaManager.cleanupLoop policy now files manager with
  | case1 manager => exact cleaned_nil manager
  | case2 file rest manager reached => exact cleaned_nil manager
  | case3 file rest manager above excluded ih => exact ih
  | case4 file rest manager above included young ih => exact ih
  | case5 file rest manager above included old size found removes later ih =>
      exact ih.after_removal
  | case6 file rest manager above included old kept ih => exact ih

theorem cleaned_cleanup (manager : QuotaManager) (now : Int) (entries : List DirectoryEntry) :
    Cleaned manager (manager.cleanup now entries) := by
  unfold QuotaManager.cleanup
  dsimp only
  split
  · exact cleaned_nil manager
  split
  · exact cleaned_nil manager
  · exact cleaned_cleanupLoop _ now _ manager

/-! ## One call -/

theorem calculateUsage_totalQuota (totalQuota : UInt64) (storage : StorageView) :
    (calculateUsage totalQuota storage).totalQuota = totalQuota := by
  unfold calculateUsage
  dsimp only
  split <;> rfl

theorem calculateUsage_availableBytes {totalQuota : UInt64} (positive : 0 < totalQuota)
    (storage : StorageView) :
    (calculateUsage totalQuota storage).availableBytes =
      availableOf (calculateUsage totalQuota storage).usedBytes totalQuota := by
  unfold calculateUsage
  dsimp only
  rw [if_pos positive]

theorem isExceeded_iff {usage : QuotaUsage} {quota : UInt64} (named : usage.totalQuota = quota)
    (positive : 0 < quota) : usage.isExceeded = true ↔ quota ≤ usage.usedBytes := by
  rw [QuotaUsage.isExceeded, named, Bool.and_eq_true, decide_eq_true_eq, decide_eq_true_eq]
  exact and_iff_right positive

theorem sound_measured {manager : QuotaManager} {storage : StorageView}
    (scanned : manager.currentUsage = calculateUsage manager.totalQuota storage) :
    (measured manager).Sound where
  quota := by
    change manager.currentUsage.totalQuota = manager.totalQuota
    rw [scanned, calculateUsage_totalQuota]
  accounts positive := by
    have named : manager.currentUsage.totalQuota = manager.totalQuota := by
      rw [scanned, calculateUsage_totalQuota]
    have positive : 0 < manager.totalQuota := positive
    refine ⟨?_, isExceeded_iff named positive, rfl⟩
    change manager.currentUsage.availableBytes =
      availableOf manager.currentUsage.usedBytes manager.totalQuota
    rw [scanned]
    exact calculateUsage_availableBytes positive storage

section

variable {ledger : QuotaLedger}

theorem sound_after_iff (sound : ledger.Sound) {after : QuotaManager}
    (quota : SameQuota ledger.manager after) (total : Nat) :
    Sound ⟨after, total⟩ ↔ (0 < ledger.manager.totalQuota →
      after.currentUsage.availableBytes =
        availableOf after.currentUsage.usedBytes ledger.manager.totalQuota ∧
      after.currentUsage.usedBytes.toNat = total) := by
  have named : after.currentUsage.totalQuota = after.totalQuota := by
    rw [quota.usageQuota, quota.totalQuota, sound.quota]
  rw [← quota.totalQuota]
  constructor
  · intro kept positive
    exact ⟨(kept.accounts positive).available, (kept.accounts positive).used⟩
  · intro right
    exact ⟨named, fun positive =>
      ⟨(right positive).1, isExceeded_iff named positive, (right positive).2⟩⟩

theorem sound_after (sound : ledger.Sound) {after : QuotaManager}
    (quota : SameQuota ledger.manager after)
    (used : after.currentUsage.usedBytes = ledger.manager.currentUsage.usedBytes)
    (available : after.currentUsage.availableBytes = ledger.manager.currentUsage.availableBytes) :
    Sound ⟨after, ledger.total⟩ := by
  rw [sound_after_iff sound quota]
  intro positive
  rw [used, available]
  exact ⟨(sound.accounts positive).available, (sound.accounts positive).used⟩

theorem sound_recordBytesAdded_iff (sound : ledger.Sound) (bytes : UInt64) :
    (step ledger (.recordBytesAdded bytes)).2.Sound ↔ Safe ledger (.recordBytesAdded bytes) := by
  apply (sound_after_iff sound (sameQuota_recordBytesAdded ledger.manager bytes) _).trans
  apply forall_congr'
  intro positive
  have total := (sound.accounts positive).used
  have bounded := ledger.manager.currentUsage.usedBytes.toNat_lt
  rw [availableBytes_recordBytesAdded bytes positive, usedBytes_recordBytesAdded,
    UInt64.toNat_add]
  constructor
  · rintro ⟨-, same⟩
    omega
  · intro fits
    exact ⟨rfl, by rw [Nat.mod_eq_of_lt fits, total]⟩

theorem sound_recordBytesRemoved_iff (sound : ledger.Sound) (bytes : UInt64) :
    (step ledger (.recordBytesRemoved bytes)).2.Sound ↔
      Safe ledger (.recordBytesRemoved bytes) := by
  apply (sound_after_iff sound (sameQuota_recordBytesRemoved ledger.manager bytes) _).trans
  apply forall_congr'
  intro positive
  rw [availableBytes_recordBytesRemoved bytes positive, sub_eq_availableOf_iff,
    usedBytes_recordBytesRemoved, (sound.accounts positive).used]
  exact and_iff_left rfl

theorem sound_executeCleanup_iff (sound : ledger.Sound) (now : Int)
    (entries : List DirectoryEntry) :
    (step ledger (.executeCleanup now entries)).2.Sound ↔
      Safe ledger (.executeCleanup now entries) := by
  have cleaned := cleaned_cleanup ledger.manager now entries
  apply (sound_after_iff sound cleaned.quota _).trans
  apply forall_congr'
  intro positive
  have total := (sound.accounts positive).used
  by_cases none : (ledger.manager.cleanup now entries).1 = []
  · rw [cleaned.kept none, none, freed, List.map_nil, List.sum_nil, Nat.sub_zero]
    exact iff_of_true ⟨(sound.accounts positive).available, total⟩
      fun deleted => absurd rfl deleted
  · rw [cleaned.available positive none, sub_eq_availableOf_iff, cleaned.used, total]
    constructor
    · exact fun right _ => right.1
    · exact fun safe => ⟨safe none, rfl⟩

theorem sound_step_iff (sound : ledger.Sound) (input : QuotaInput) :
    (step ledger input).2.Sound ↔ Safe ledger input := by
  cases input with
  | setTotalQuota bytes storage => exact iff_of_true (sound_measured rfl) trivial
  | refreshUsage storage => exact iff_of_true (sound_measured rfl) trivial
  | recordBytesAdded bytes => exact sound_recordBytesAdded_iff sound bytes
  | recordBytesRemoved bytes => exact sound_recordBytesRemoved_iff sound bytes
  | recordFileAdded => exact iff_of_true (sound_after sound ⟨rfl, rfl⟩ rfl rfl) trivial
  | recordFileRemoved =>
      obtain ⟨fileCount, removed⟩ := recordFileRemoved_cases ledger.manager
      have kept : Sound ⟨ledger.manager.recordFileRemoved, ledger.total⟩ := by
        rw [removed]
        exact sound_after sound ⟨rfl, rfl⟩ rfl rfl
      exact iff_of_true kept trivial
  | setCleanupPolicy policy => exact iff_of_true (sound_after sound ⟨rfl, rfl⟩ rfl rfl) trivial
  | executeCleanup now entries => exact sound_executeCleanup_iff sound now entries

end

theorem named_step (ledger : QuotaLedger) (input : QuotaInput)
    (named : ledger.manager.currentUsage.totalQuota = ledger.manager.totalQuota) :
    (step ledger input).2.manager.currentUsage.totalQuota =
      (step ledger input).2.manager.totalQuota := by
  have kept : ∀ {after : QuotaManager}, SameQuota ledger.manager after →
      after.currentUsage.totalQuota = after.totalQuota := by
    intro after quota
    rw [quota.usageQuota, quota.totalQuota, named]
  cases input with
  | setTotalQuota bytes storage => exact calculateUsage_totalQuota _ _
  | refreshUsage storage => exact calculateUsage_totalQuota _ _
  | recordBytesAdded bytes => exact kept (sameQuota_recordBytesAdded ledger.manager bytes)
  | recordBytesRemoved bytes => exact kept (sameQuota_recordBytesRemoved ledger.manager bytes)
  | recordFileAdded => exact named
  | recordFileRemoved =>
      obtain ⟨fileCount, removed⟩ := recordFileRemoved_cases ledger.manager
      have quota : SameQuota ledger.manager ledger.manager.recordFileRemoved := by
        rw [removed]
        exact ⟨rfl, rfl⟩
      exact kept quota
  | setCleanupPolicy policy => exact named
  | executeCleanup now entries => exact kept (cleaned_cleanup ledger.manager now entries).quota

/-- A created manager with the ledger of its first measurement. -/
def created (totalQuota : UInt64) (storage : StorageView) : QuotaLedger :=
  measured (.create totalQuota storage)

end QuotaLedger

end FileTrans.Server
