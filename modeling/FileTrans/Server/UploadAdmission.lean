import FileTrans.Server.QuotaManager

/-!
# Whether an upload is allowed

`check_upload_allowed` asks the quota manager.  Where that could not be created
it compares with the configuration and the storage statistics itself.  Both
ways add the size of the upload to the used bytes in 64 bits, and only the
quota manager knows that a quota of zero means no quota.
-/

namespace FileTrans.Server

open FileTrans.Core

/-! ## The server -/

/-- `server_config`, as far as admission depends on it. -/
structure ServerConfig where
  maxFileSize : UInt64
  storageQuota : UInt64
  deriving DecidableEq

structure StorageStats where
  totalCapacity : UInt64
  usedSize : UInt64
  availableSize : UInt64
  fileCount : UInt64
  deriving DecidableEq

/-- A quota manager with the limit of `set_max_file_size`. -/
structure LimitedQuotaManager where
  manager : QuotaManager
  maxFileSize : UInt64
  deriving DecidableEq

/-- `file_transfer_server::impl`, as far as admission depends on it. -/
structure FileTransferServer where
  config : ServerConfig
  storageStatistics : StorageStats
  quotaManager : Option LimitedQuotaManager
  deriving DecidableEq

/-- What is found at the path of the storage directory when a quota manager is to be
created for it. -/
inductive StoragePath
  | directory (storage : StorageView)
  /-- Something that is no directory. -/
  | occupied
  /-- Nothing, and a directory cannot be created. -/
  | missing

/-- The size is more than the limit, if there is one. -/
def exceedsLimit (maxFileSize fileSize : UInt64) : Bool :=
  0 < maxFileSize && maxFileSize < fileSize

def LimitedQuotaManager.checkFileSize (quota : LimitedQuotaManager) (fileSize : UInt64) :
    Result Unit :=
  if exceedsLimit quota.maxFileSize fileSize then
    unexpected .fileTooLarge "File size exceeds maximum allowed"
  else .ok ()

namespace FileTransferServer

/-- The constructor of `file_transfer_server::impl`.  Without a directory there is nothing to
count; `unset` are the statistics that the constructor leaves alone if there is no path
either. -/
def create (config : ServerConfig) (unset : StorageStats) : StoragePath → FileTransferServer
  | .directory storage =>
      let manager := QuotaManager.create config.storageQuota storage
      let usage := manager.currentUsage
      { config
        storageStatistics :=
          ⟨usage.totalQuota, usage.usedBytes, usage.availableBytes, usage.fileCount⟩
        quotaManager := some ⟨manager, config.maxFileSize⟩ }
  | .occupied =>
      { config
        storageStatistics := ⟨config.storageQuota, 0, config.storageQuota - 0, 0⟩
        quotaManager := none }
  | .missing =>
      { config
        storageStatistics := unset
        quotaManager := none }

def checkUploadAllowed (server : FileTransferServer) (fileSize : UInt64) : Result Unit :=
  match server.quotaManager with
  | some quota =>
      match quota.checkFileSize fileSize with
      | .error failure => .error failure
      | .ok () => quota.manager.checkQuota fileSize
  | none =>
      if exceedsLimit server.config.maxFileSize fileSize then
        unexpected .fileTooLarge "File size exceeds maximum allowed"
      else if server.storageStatistics.totalCapacity <
          server.storageStatistics.usedSize + fileSize then
        unexpected .quotaExceeded "Storage quota would be exceeded"
      else .ok ()

end FileTransferServer

/-! ## What the limits say -/

/-- The numbers that admission is about; zero is no limit. -/
structure UploadLimits where
  maxFileSize : UInt64
  usedBytes : UInt64
  quota : UInt64
  deriving DecidableEq

namespace UploadLimits

/-- The limits that a server goes by. -/
def ofServer (server : FileTransferServer) : UploadLimits :=
  match server.quotaManager with
  | some quota => ⟨quota.maxFileSize, quota.manager.currentUsage.usedBytes,
      quota.manager.currentUsage.totalQuota⟩
  | none => ⟨server.config.maxFileSize, server.storageStatistics.usedSize,
      server.storageStatistics.totalCapacity⟩

variable (limits : UploadLimits) (fileSize : UInt64)

/-- The upload stays within the limits, in unbounded numbers. -/
def Allow : Prop :=
  (limits.maxFileSize = 0 ∨ fileSize ≤ limits.maxFileSize) ∧
    (limits.quota = 0 ∨ limits.usedBytes.toNat + fileSize.toNat ≤ limits.quota.toNat)

instance : Decidable (limits.Allow fileSize) :=
  inferInstanceAs (Decidable (_ ∧ _))

/-- Every server with these limits allows the upload exactly if they do, and all of them give
the same answer. -/
structure AdmitsSoundly : Prop where
  allowed_iff : ∀ server, ofServer server = limits →
    (server.checkUploadAllowed fileSize = .ok () ↔ limits.Allow fileSize)
  agree : ∀ first second, ofServer first = limits → ofServer second = limits →
    first.checkUploadAllowed fileSize = second.checkUploadAllowed fileSize

/-- The upload is too large anyway, or without a quota the sum is a multiple of `2 ^ 64`, or
with a quota the sum does not wrap around into it. -/
def SumFits : Prop :=
  exceedsLimit limits.maxFileSize fileSize = true ∨
    (limits.quota = 0 ∧ (limits.usedBytes.toNat + fileSize.toNat) % 2 ^ 64 = 0) ∨
    (limits.quota ≠ 0 ∧ (limits.usedBytes.toNat + fileSize.toNat < 2 ^ 64 ∨
      limits.quota.toNat + 2 ^ 64 < limits.usedBytes.toNat + fileSize.toNat))

instance : Decidable (limits.SumFits fileSize) :=
  inferInstanceAs (Decidable (_ ∨ _))

/-! ## The two ways -/

/-- A server that goes by these limits through a quota manager. -/
def managed : FileTransferServer where
  config := ⟨limits.maxFileSize, limits.quota⟩
  storageStatistics := ⟨limits.quota, limits.usedBytes, 0, 0⟩
  quotaManager := some ⟨⟨limits.quota, ⟨limits.quota, limits.usedBytes, 0, 0, 0⟩, .default⟩,
    limits.maxFileSize⟩

/-- A server that goes by these limits without one. -/
def unmanaged : FileTransferServer where
  config := ⟨limits.maxFileSize, limits.quota⟩
  storageStatistics := ⟨limits.quota, limits.usedBytes, 0, 0⟩
  quotaManager := none

/-- The answer by way of a quota manager. -/
def checkWithManager : Result Unit :=
  if exceedsLimit limits.maxFileSize fileSize then
    unexpected .fileTooLarge "File size exceeds maximum allowed"
  else if limits.quota = 0 then .ok ()
  else if limits.quota < limits.usedBytes + fileSize then
    unexpected .quotaExceeded "Storage quota would be exceeded"
  else .ok ()

/-- The answer without one. -/
def checkWithoutManager : Result Unit :=
  if exceedsLimit limits.maxFileSize fileSize then
    unexpected .fileTooLarge "File size exceeds maximum allowed"
  else if limits.quota < limits.usedBytes + fileSize then
    unexpected .quotaExceeded "Storage quota would be exceeded"
  else .ok ()

variable {limits fileSize}

theorem checkUploadAllowed_cases {server : FileTransferServer}
    (limited : ofServer server = limits) :
    server.checkUploadAllowed fileSize = limits.checkWithManager fileSize ∨
      server.checkUploadAllowed fileSize = limits.checkWithoutManager fileSize := by
  rw [ofServer] at limited
  rw [FileTransferServer.checkUploadAllowed]
  cases managed : server.quotaManager with
  | some quota =>
      rw [managed] at limited
      rw [← limited]
      left
      dsimp only
      rw [LimitedQuotaManager.checkFileSize, checkWithManager]
      split
      · rename_i failure refused
        split at refused
        · rename_i large
          rw [if_pos large, ← refused]
        · contradiction
      · rename_i accepted
        split at accepted
        · contradiction
        · rename_i small
          rw [if_neg small, QuotaManager.checkQuota]
  | none =>
      rw [managed] at limited
      rw [← limited]
      right
      rfl

variable (limits fileSize) in
theorem checkUploadAllowed_managed :
    ofServer limits.managed = limits ∧
      limits.managed.checkUploadAllowed fileSize = limits.checkWithManager fileSize := by
  refine ⟨rfl, ?_⟩
  rw [FileTransferServer.checkUploadAllowed, managed, checkWithManager]
  dsimp only
  rw [LimitedQuotaManager.checkFileSize, QuotaManager.checkQuota]
  by_cases large : exceedsLimit limits.maxFileSize fileSize = true
  · rw [if_pos large, if_pos large]
    rfl
  · rw [if_neg large, if_neg large]

variable (limits fileSize) in
theorem checkUploadAllowed_unmanaged :
    ofServer limits.unmanaged = limits ∧
      limits.unmanaged.checkUploadAllowed fileSize = limits.checkWithoutManager fileSize :=
  ⟨rfl, rfl⟩

theorem exceedsLimit_iff {maxFileSize : UInt64} :
    exceedsLimit maxFileSize fileSize = true ↔ ¬ (maxFileSize = 0 ∨ fileSize ≤ maxFileSize) := by
  rw [exceedsLimit, Bool.and_eq_true, decide_eq_true_iff, decide_eq_true_iff, not_or,
    UInt64.not_le]
  exact and_congr_left fun _ => UInt64.pos_iff_ne_zero

theorem sum_le_iff (left right bound : UInt64) :
    ¬ bound < left + right ↔ left.toNat + right.toNat ≤ bound.toNat ∨
      2 ^ 64 ≤ left.toNat + right.toNat ∧ left.toNat + right.toNat ≤ bound.toNat + 2 ^ 64 := by
  have first := left.toNat_lt
  have second := right.toNat_lt
  have limit := bound.toNat_lt
  rw [UInt64.lt_iff_toNat_lt, UInt64.toNat_add]
  omega

theorem checkWithManager_iff :
    (limits.checkWithManager fileSize = .ok () ↔ limits.Allow fileSize) ↔
      exceedsLimit limits.maxFileSize fileSize = true ∨ limits.quota = 0 ∨
        limits.usedBytes.toNat + fileSize.toNat < 2 ^ 64 ∨
        limits.quota.toNat + 2 ^ 64 < limits.usedBytes.toNat + fileSize.toNat := by
  by_cases large : exceedsLimit limits.maxFileSize fileSize = true
  · rw [checkWithManager, if_pos large]
    exact iff_of_true
      (iff_of_false nofun fun allowed => exceedsLimit_iff.mp large allowed.1) (.inl large)
  · have small := not_not.mp (mt exceedsLimit_iff.mpr large)
    rw [checkWithManager, if_neg large]
    by_cases unlimited : limits.quota = 0
    · rw [if_pos unlimited]
      exact iff_of_true (iff_of_true rfl ⟨small, .inl unlimited⟩) (.inr (.inl unlimited))
    · have admitted : ((if limits.quota < limits.usedBytes + fileSize then
          unexpected .quotaExceeded "Storage quota would be exceeded" else .ok () : Result Unit) =
            .ok ()) ↔ ¬ limits.quota < limits.usedBytes + fileSize := by
        split
        · exact iff_of_false nofun (not_not.mpr ‹_›)
        · exact iff_of_true rfl ‹_›
      rw [if_neg unlimited, admitted, sum_le_iff, Allow]
      simp only [small, large, unlimited, true_and, false_or, Bool.false_eq_true]
      have limit := limits.quota.toNat_lt
      omega

theorem checkWithManager_eq_iff :
    limits.checkWithManager fileSize = limits.checkWithoutManager fileSize ↔
      exceedsLimit limits.maxFileSize fileSize = true ∨ limits.quota ≠ 0 ∨
        (limits.usedBytes.toNat + fileSize.toNat) % 2 ^ 64 = 0 := by
  rw [checkWithManager, checkWithoutManager]
  by_cases large : exceedsLimit limits.maxFileSize fileSize = true
  · rw [if_pos large, if_pos large]
    exact iff_of_true rfl (.inl large)
  · rw [if_neg large, if_neg large]
    by_cases unlimited : limits.quota = 0
    · have zero : (limits.quota < limits.usedBytes + fileSize) ↔
          (limits.usedBytes.toNat + fileSize.toNat) % 2 ^ 64 ≠ 0 := by
        rw [unlimited, UInt64.lt_iff_toNat_lt, UInt64.toNat_add]
        exact Nat.pos_iff_ne_zero
      rw [if_pos unlimited]
      by_cases wrapped : (limits.usedBytes.toNat + fileSize.toNat) % 2 ^ 64 = 0
      · rw [if_neg (mt zero.mp (not_not.mpr wrapped))]
        exact iff_of_true rfl (.inr (.inr wrapped))
      · rw [if_pos (zero.mpr wrapped)]
        refine iff_of_false nofun ?_
        rintro (too | positive | none)
        · exact large too
        · exact positive unlimited
        · exact wrapped none
    · rw [if_neg unlimited]
      exact iff_of_true rfl (.inr (.inl unlimited))

/-- The answers are right and the same, exactly if the upload is too large anyway or the sum
does no harm. -/
theorem admitsSoundly_iff (limits : UploadLimits) (fileSize : UInt64) :
    limits.AdmitsSoundly fileSize ↔ limits.SumFits fileSize := by
  obtain ⟨manages, withManager⟩ := checkUploadAllowed_managed limits fileSize
  obtain ⟨falls, withoutManager⟩ := checkUploadAllowed_unmanaged limits fileSize
  have both : limits.AdmitsSoundly fileSize ↔
      (limits.checkWithManager fileSize = .ok () ↔ limits.Allow fileSize) ∧
        limits.checkWithManager fileSize = limits.checkWithoutManager fileSize := by
    constructor
    · intro sound
      rw [← withManager, ← withoutManager]
      exact ⟨sound.allowed_iff _ manages, sound.agree _ _ manages falls⟩
    · rintro ⟨right, same⟩
      have answer (server : FileTransferServer) (limited : ofServer server = limits) :
          server.checkUploadAllowed fileSize = limits.checkWithManager fileSize := by
        rcases checkUploadAllowed_cases limited with answered | answered
        · exact answered
        · rw [answered, same]
      constructor
      · intro server limited
        rw [answer server limited]
        exact right
      · intro first second firstLimited secondLimited
        rw [answer first firstLimited, answer second secondLimited]
  rw [both, checkWithManager_iff, checkWithManager_eq_iff, SumFits]
  by_cases large : exceedsLimit limits.maxFileSize fileSize = true
  · simp only [large, true_or, and_self]
  · by_cases unlimited : limits.quota = 0
    · simp [large, unlimited]
    · simp [large, unlimited]

/-- A server with a quota of 100 bytes, 60 of them used, and no limit for single files. -/
def filledServer : FileTransferServer :=
  .create ⟨0, 100⟩ ⟨0, 0, 0, 0⟩
    (.directory ⟨some [⟨[0x61], some true, some 60, some 0, true⟩], none⟩)

/-- A server without limits whose storage path is no directory. -/
def fallbackServer : FileTransferServer :=
  .create ⟨0, 0⟩ ⟨0, 0, 0, 0⟩ .occupied

/-- The first server allows an upload of nearly `2 ^ 64` bytes, and the second does not allow
one byte. -/
theorem admission_unsound :
    (filledServer.checkUploadAllowed (0 - 10) = .ok () ∧
      ¬ (ofServer filledServer).AdmitsSoundly (0 - 10)) ∧
    fallbackServer.checkUploadAllowed 1 =
        unexpected .quotaExceeded "Storage quota would be exceeded" ∧
      ¬ (ofServer fallbackServer).AdmitsSoundly 1 := by
  refine ⟨⟨by decide, fun sound => ?_⟩, by decide, fun sound => ?_⟩
  · exact absurd ((sound.allowed_iff filledServer rfl).mp (by decide)) (by decide)
  · exact absurd ((sound.allowed_iff fallbackServer rfl).mpr (by decide)) (by decide)

end UploadLimits

end FileTrans.Server
