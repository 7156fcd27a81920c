import FileTrans.Core.Types
import FileTrans.Storage.FileSystem
import FileTrans.Text.Search

/-!
# The quota manager

The manager keeps a quota and the usage of a storage directory.  The usage is
measured by a scan of the directory, and between scans it follows the
additions and removals that are recorded.  Percentages are exact fractions.
-/

namespace FileTrans.Server

open FileTrans.Core
open FileTrans.Storage

structure QuotaUsage where
  totalQuota : UInt64
  usedBytes : UInt64
  availableBytes : UInt64
  usagePercent : Rat
  fileCount : UInt64
  deriving DecidableEq

def QuotaUsage.isExceeded (usage : QuotaUsage) : Bool :=
  0 < usage.totalQuota && usage.totalQuota ≤ usage.usedBytes

/-- `cleanup_policy`; the age is in hours. -/
structure CleanupPolicy where
  enabled : Bool
  triggerThreshold : Rat
  targetThreshold : Rat
  deleteOldestFirst : Bool
  minFileAge : Int
  exclusions : List Bytes
  deriving DecidableEq

/-- An entry of the storage directory and how the file system answers for it; `none` is an
error.  Times are in nanoseconds. -/
structure DirectoryEntry where
  filename : Bytes
  isRegularFile : Option Bool
  fileSize : Option UInt64
  lastWriteTime : Option Int
  removes : Bool
  deriving DecidableEq

/-- The storage directory, if it exists, and the free space of its file system. -/
structure StorageView where
  entries : Option (List DirectoryEntry)
  space : Option UInt64
  deriving DecidableEq

/-- `quota_manager`, as far as the usage depends on it. -/
structure QuotaManager where
  totalQuota : UInt64
  currentUsage : QuotaUsage
  currentPolicy : CleanupPolicy
  deriving DecidableEq

/-- The percentage of the quota. -/
def percentOf (usedBytes totalQuota : UInt64) : Rat :=
  (usedBytes.toNat : Rat) / (totalQuota.toNat : Rat) * 100

/-- `available_bytes` with the guard against a subtraction below zero. -/
def availableOf (usedBytes totalQuota : UInt64) : UInt64 :=
  if usedBytes < totalQuota then totalQuota - usedBytes else 0

/-- The loop of `calculate_usage`.  It stops at the entry after an error. -/
def scanEntries (usedBytes fileCount : UInt64) : List DirectoryEntry → UInt64 × UInt64
  | [] => (usedBytes, fileCount)
  | entry :: rest =>
      match entry.isRegularFile, entry.fileSize with
      | none, _ => (usedBytes, fileCount)
      | some false, _ => scanEntries usedBytes fileCount rest
      | some true, none => (usedBytes, fileCount)
      | some true, some size => scanEntries (usedBytes + size) (fileCount + 1) rest

def calculateUsage (totalQuota : UInt64) (storage : StorageView) : QuotaUsage :=
  let scanned := scanEntries 0 0 (storage.entries.getD [])
  if 0 < totalQuota then
    { totalQuota
      usedBytes := scanned.1
      availableBytes := availableOf scanned.1 totalQuota
      usagePercent := percentOf scanned.1 totalQuota
      fileCount := scanned.2 }
  else
    { totalQuota
      usedBytes := scanned.1
      availableBytes := storage.space.getD 0xFFFFFFFFFFFFFFFF
      usagePercent := 0
      fileCount := scanned.2 }

/-- The default of `cleanup_policy`. -/
def CleanupPolicy.default : CleanupPolicy where
  enabled := false
  triggerThreshold := 90
  targetThreshold := 80
  deleteOldestFirst := true
  minFileAge := 0
  exclusions := []

namespace QuotaManager

/-- `quota_manager::create` on an existing directory. -/
def create (totalQuota : UInt64) (storage : StorageView) : QuotaManager :=
  ⟨totalQuota, calculateUsage totalQuota storage, .default⟩

def refreshUsage (manager : QuotaManager) (storage : StorageView) : QuotaManager :=
  { manager with currentUsage := calculateUsage manager.totalQuota storage }

def setTotalQuota (manager : QuotaManager) (bytes : UInt64) (storage : StorageView) :
    QuotaManager :=
  { manager with totalQuota := bytes }.refreshUsage storage

def checkQuota (manager : QuotaManager) (requiredBytes : UInt64) : Result Unit :=
  let usage := manager.currentUsage
  if usage.totalQuota = 0 then .ok ()
  else if usage.totalQuota < usage.usedBytes + requiredBytes then
    unexpected .quotaExceeded "Storage quota would be exceeded"
  else .ok ()

def recordBytesAdded (manager : QuotaManager) (bytes : UInt64) : QuotaManager :=
  let usage := { manager.currentUsage with usedBytes := manager.currentUsage.usedBytes + bytes }
  let total := manager.totalQuota
  if 0 < total then
    { manager with currentUsage := { usage with
        availableBytes := availableOf usage.usedBytes total
        usagePercent := percentOf usage.usedBytes total } }
  else { manager with currentUsage := usage }

/-- `record_bytes_removed`; here the subtraction from the quota has no guard. -/
def recordBytesRemoved (manager : QuotaManager) (bytes : UInt64) : QuotaManager :=
  let usage := { manager.currentUsage with
    usedBytes :=
      if manager.currentUsage.usedBytes < bytes then 0
      else manager.currentUsage.usedBytes - bytes }
  let total := manager.totalQuota
  if 0 < total then
    { manager with currentUsage := { usage with
        availableBytes := total - usage.usedBytes
        usagePercent := percentOf usage.usedBytes total } }
  else { manager with currentUsage := usage }

def recordFileAdded (manager : QuotaManager) : QuotaManager :=
  { manager with currentUsage := { manager.currentUsage with
      fileCount := manager.currentUsage.fileCount + 1 } }

def recordFileRemoved (manager : QuotaManager) : QuotaManager :=
  if 0 < manager.currentUsage.fileCount then
    { manager with currentUsage := { manager.currentUsage with
        fileCount := manager.currentUsage.fileCount - 1 } }
  else manager

def setCleanupPolicy (manager : QuotaManager) (policy : CleanupPolicy) : QuotaManager :=
  { manager with currentPolicy := policy }

end QuotaManager

/-! ## Cleanup -/

def CleanupPolicy.isExcluded (policy : CleanupPolicy) (filename : Bytes) : Bool :=
  policy.exclusions.any fun pattern => (Text.find pattern filename).isSome

/-- `std::chrono::hours{1}` in the unit of the times. -/
def hour : Int := 3600 * 10 ^ 9

/-- `impl::is_file_old_enough`, with the age in whole hours. -/
def CleanupPolicy.isFileOldEnough (policy : CleanupPolicy) (now : Int)
    (entry : DirectoryEntry) : Bool :=
  policy.minFileAge == 0 ||
    match entry.lastWriteTime with
    | none => false
    | some lastWrite => decide (policy.minFileAge ≤ (now - lastWrite).tdiv hour)

/-- The regular files of the loop in `get_files_sorted_by_time`, with their times. -/
def timedFiles : List DirectoryEntry → List (DirectoryEntry × Int)
  | [] => []
  | entry :: rest =>
      match entry.isRegularFile, entry.lastWriteTime with
      | none, _ => []
      | some false, _ => timedFiles rest
      | some true, none => []
      | some true, some lastWrite => (entry, lastWrite) :: timedFiles rest

/-- `get_files_sorted_by_time`.  Files of one time stay in the order of the directory, which
is arbitrary. -/
def getFilesSortedByTime (entries : List DirectoryEntry) : List DirectoryEntry :=
  ((timedFiles entries).mergeSort fun first second => decide (first.2 ≤ second.2)).map Prod.fst

namespace QuotaManager

/-- The loop of `execute_cleanup`: the sizes of the files that it deletes, and the manager
after the last of them. -/
def cleanupLoop (policy : CleanupPolicy) (now : Int) :
    List DirectoryEntry → QuotaManager → List UInt64 × QuotaManager
  | [], manager => ([], manager)
  | file :: rest, manager =>
      if manager.currentUsage.usagePercent ≤ policy.targetThreshold then ([], manager)
      else if policy.isExcluded file.filename then cleanupLoop policy now rest manager
      else if ¬ policy.isFileOldEnough now file then cleanupLoop policy now rest manager
      else
        match file.fileSize, file.removes with
        | some size, true =>
            let later := cleanupLoop policy now rest
              (manager.recordBytesRemoved size).recordFileRemoved
            (size :: later.1, later.2)
        | _, _ => cleanupLoop policy now rest manager

/-- The deletions of `execute_cleanup`. -/
def cleanup (manager : QuotaManager) (now : Int) (entries : List DirectoryEntry) :
    List UInt64 × QuotaManager :=
  let policy := manager.currentPolicy
  if ¬ policy.enabled then ([], manager)
  else if manager.currentUsage.usagePercent < policy.triggerThreshold then ([], manager)
  else
    let files := getFilesSortedByTime entries
    cleanupLoop policy now (if policy.deleteOldestFirst then files else files.reverse) manager

/-- `execute_cleanup`: the freed bytes. -/
def executeCleanup (manager : QuotaManager) (now : Int) (entries : List DirectoryEntry) :
    UInt64 × QuotaManager :=
  let result := manager.cleanup now entries
  (result.1.foldl (· + ·) 0, result.2)

end QuotaManager

end FileTrans.Server
