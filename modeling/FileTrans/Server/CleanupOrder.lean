import FileTrans.Server.QuotaLedger
import Mathlib.Algebra.BigOperators.Group.List.Basic
import Mathlib.Data.List.Infix

/-!
# The order of a cleanup

The loop of `execute_cleanup` with the files that it tries to delete and those
that it deletes.  A file may be deleted if it is a regular one, as
`is_regular_file` answers, if no exclusion is part of its name, and if it is
old enough.  The loop goes through these files by their times and stops as
soon as the usage is at the target.
-/

namespace FileTrans.Server

open FileTrans.Core
open QuotaLedger (freed recordFileRemoved_cases sameQuota_recordBytesRemoved cleaned_cleanup)

/-- What one cleanup does: the files that it tries to delete and those that it deletes, in
their order, and the manager after it. -/
structure CleanupRun where
  tried : List DirectoryEntry
  deleted : List DirectoryEntry
  manager : QuotaManager
  deriving DecidableEq

/-- The size that the file system answers. -/
def DirectoryEntry.size (file : DirectoryEntry) : UInt64 :=
  file.fileSize.getD 0

/-- The time that the file system answers. -/
def DirectoryEntry.time (file : DirectoryEntry) : Int :=
  file.lastWriteTime.getD 0

/-- The size can be asked for and the file can be removed. -/
def DirectoryEntry.removable (file : DirectoryEntry) : Bool :=
  file.fileSize.isSome && file.removes

/-- The file system answers for the entry, as far as the directory is read. -/
def DirectoryEntry.answers (entry : DirectoryEntry) : Bool :=
  entry.isRegularFile == some false ||
    (entry.isRegularFile == some true && entry.lastWriteTime.isSome)

/-- No exclusion stops the file and it is old enough. -/
def CleanupPolicy.allows (policy : CleanupPolicy) (now : Int) (file : DirectoryEntry) : Bool :=
  !policy.isExcluded file.filename && policy.isFileOldEnough now file

/-- The file may be deleted. -/
structure CleanupPolicy.Eligible (policy : CleanupPolicy) (now : Int) (file : DirectoryEntry) :
    Prop where
  regular : file.isRegularFile = some true
  named : ∀ pattern ∈ policy.exclusions, ¬ pattern <:+: file.filename
  old : policy.minFileAge = 0 ∨
    ∃ time, file.lastWriteTime = some time ∧ policy.minFileAge ≤ (now - time).tdiv hour

/-- The first file is not deleted after the second. -/
def CleanupPolicy.Before (policy : CleanupPolicy) (first second : DirectoryEntry) : Prop :=
  if policy.deleteOldestFirst then first.time ≤ second.time else second.time ≤ first.time

namespace QuotaManager

/-- The loop of `execute_cleanup`. -/
def cleanupPass (policy : CleanupPolicy) (now : Int) :
    List DirectoryEntry → QuotaManager → CleanupRun
  | [], manager => ⟨[], [], manager⟩
  | file :: rest, manager =>
      if manager.currentUsage.usagePercent ≤ policy.targetThreshold then ⟨[], [], manager⟩
      else if ¬ policy.allows now file then cleanupPass policy now rest manager
      else if file.removable then
        let later := cleanupPass policy now rest
          (manager.recordBytesRemoved file.size).recordFileRemoved
        ⟨file :: later.tried, file :: later.deleted, later.manager⟩
      else
        let later := cleanupPass policy now rest manager
        ⟨file :: later.tried, later.deleted, later.manager⟩

/-- The policy is enabled and the usage is at the trigger. -/
def Triggered (manager : QuotaManager) : Prop :=
  manager.currentPolicy.enabled = true ∧
    manager.currentPolicy.triggerThreshold ≤ manager.currentUsage.usagePercent

instance (manager : QuotaManager) : Decidable manager.Triggered :=
  inferInstanceAs (Decidable (_ ∧ _))

/-- The files of the loop, in their order. -/
def cleanupFiles (policy : CleanupPolicy) (entries : List DirectoryEntry) : List DirectoryEntry :=
  if policy.deleteOldestFirst then getFilesSortedByTime entries
  else (getFilesSortedByTime entries).reverse

/-- What `execute_cleanup` does. -/
def cleanupRun (manager : QuotaManager) (now : Int) (entries : List DirectoryEntry) : CleanupRun :=
  if manager.Triggered then
    cleanupPass manager.currentPolicy now (cleanupFiles manager.currentPolicy entries) manager
  else ⟨[], [], manager⟩

/-- The manager after these files were deleted. -/
def removeFiles (manager : QuotaManager) (files : List DirectoryEntry) : QuotaManager :=
  files.foldl (fun manager file => (manager.recordBytesRemoved file.size).recordFileRemoved) manager

/-! ## The run is the cleanup -/

theorem fileSize_of_removable {file : DirectoryEntry} (removable : file.removable = true) :
    file.fileSize = some file.size ∧ file.removes = true := by
  rw [DirectoryEntry.removable, Bool.and_eq_true, Option.isSome_iff_exists] at removable
  obtain ⟨⟨size, answered⟩, removes⟩ := removable
  refine ⟨?_, removes⟩
  rw [DirectoryEntry.size, answered, Option.getD_some]

theorem cleanupLoop_eq (policy : CleanupPolicy) (now : Int) (files : List DirectoryEntry)
    (manager : QuotaManager) :
    cleanupLoop policy now files manager =
      ((cleanupPass policy now files manager).deleted.map DirectoryEntry.size,
        (cleanupPass policy now files manager).manager) := by
  induction files generalizing manager with
  | nil => rfl
  | cons file rest ih =>
      rw [cleanupLoop, cleanupPass]
      by_cases reached : manager.currentUsage.usagePercent ≤ policy.targetThreshold
      · rw [if_pos reached, if_pos reached]
        rfl
      rw [if_neg reached, if_neg reached, CleanupPolicy.allows]
      cases policy.isExcluded file.filename with
      | true => exact ih manager
      | false =>
          cases policy.isFileOldEnough now file with
          | false => exact ih manager
          | true =>
              cases removable : file.removable with
              | true =>
                  obtain ⟨sized, removes⟩ := fileSize_of_removable removable
                  simp [sized, removes, ih]
              | false =>
                  rw [DirectoryEntry.removable] at removable
                  cases sized : file.fileSize <;> cases removes : file.removes <;>
                    simp_all

theorem cleanup_eq (manager : QuotaManager) (now : Int) (entries : List DirectoryEntry) :
    manager.cleanup now entries =
      ((manager.cleanupRun now entries).deleted.map DirectoryEntry.size,
        (manager.cleanupRun now entries).manager) := by
  rw [cleanup, cleanupRun]
  dsimp only
  by_cases enabled : manager.currentPolicy.enabled = true
  · rw [if_neg (not_not.mpr enabled)]
    by_cases below : manager.currentUsage.usagePercent < manager.currentPolicy.triggerThreshold
    · rw [if_pos below, if_neg fun triggered => absurd below (not_lt.mpr triggered.2)]
      rfl
    · have triggered : manager.Triggered := ⟨enabled, not_lt.mp below⟩
      rw [if_neg below, if_pos triggered]
      exact cleanupLoop_eq _ now (cleanupFiles manager.currentPolicy entries) manager
  · rw [if_pos enabled, if_neg fun triggered => enabled triggered.1]
    rfl

/-! ## The loop -/

section

variable {policy : CleanupPolicy} {now : Int} {files : List DirectoryEntry}
  {manager : QuotaManager}

theorem tried_prefix : (cleanupPass policy now files manager).tried <+:
    files.filter (policy.allows now) := by
  fun_induction cleanupPass policy now files manager with
  | case1 manager => exact List.nil_prefix
  | case2 => exact List.nil_prefix
  | case3 file rest manager above stopped ih =>
      rw [List.filter_cons_of_neg stopped]
      exact ih
  | case4 file rest manager above allowed removable later ih =>
      rw [List.filter_cons_of_pos (not_not.mp allowed)]
      exact (List.prefix_cons_inj file).mpr ih
  | case5 file rest manager above allowed stuck later ih =>
      rw [List.filter_cons_of_pos (not_not.mp allowed)]
      exact (List.prefix_cons_inj file).mpr ih

theorem deleted_eq : (cleanupPass policy now files manager).deleted =
    (cleanupPass policy now files manager).tried.filter DirectoryEntry.removable := by
  fun_induction cleanupPass policy now files manager with
  | case1 manager => rfl
  | case2 => rfl
  | case3 file rest manager above stopped ih => exact ih
  | case4 file rest manager above allowed removable later ih =>
      rw [List.filter_cons_of_pos removable]
      exact congrArg _ ih
  | case5 file rest manager above allowed stuck later ih =>
      rw [List.filter_cons_of_neg stuck]
      exact ih

theorem manager_eq : (cleanupPass policy now files manager).manager =
    manager.removeFiles (cleanupPass policy now files manager).deleted := by
  fun_induction cleanupPass policy now files manager with
  | case1 manager => rfl
  | case2 => rfl
  | case3 file rest manager above stopped ih => exact ih
  | case4 file rest manager above allowed removable later ih => exact ih
  | case5 file rest manager above allowed stuck later ih => exact ih

theorem above_of_tried (before : List DirectoryEntry) (file : DirectoryEntry)
    (after : List DirectoryEntry) :
    (cleanupPass policy now files manager).tried = before ++ file :: after →
      policy.targetThreshold < (manager.removeFiles
        (before.filter DirectoryEntry.removable)).currentUsage.usagePercent := by
  revert before
  fun_induction cleanupPass policy now files manager with
  | case1 manager => simp
  | case2 => simp
  | case3 first rest manager above stopped ih => exact ih
  | case4 first rest manager above allowed removable later ih =>
      intro before split
      cases before with
      | nil => exact not_le.mp above
      | cons head before =>
          obtain ⟨rfl, tail⟩ := List.cons.inj split
          rw [List.filter_cons_of_pos removable]
          exact ih before tail
  | case5 first rest manager above allowed stuck later ih =>
      intro before split
      cases before with
      | nil => exact not_le.mp above
      | cons head before =>
          obtain ⟨rfl, tail⟩ := List.cons.inj split
          rw [List.filter_cons_of_neg stuck]
          exact ih before tail

theorem tried_eq_of_above
    (above : policy.targetThreshold <
      (cleanupPass policy now files manager).manager.currentUsage.usagePercent) :
    (cleanupPass policy now files manager).tried = files.filter (policy.allows now) := by
  fun_induction cleanupPass policy now files manager with
  | case1 manager => rfl
  | case2 file rest manager reached => exact absurd reached (not_le.mpr above)
  | case3 file rest manager _ stopped ih =>
      rw [List.filter_cons_of_neg stopped]
      exact ih above
  | case4 file rest manager _ allowed removable later ih =>
      rw [List.filter_cons_of_pos (not_not.mp allowed)]
      exact congrArg _ (ih above)
  | case5 file rest manager _ allowed stuck later ih =>
      rw [List.filter_cons_of_pos (not_not.mp allowed)]
      exact congrArg _ (ih above)

end

end QuotaManager

/-! ## The files of the directory -/

section

variable {policy : CleanupPolicy} {now : Int} {entries : List DirectoryEntry}

theorem CleanupPolicy.eligible_iff {file : DirectoryEntry} :
    policy.Eligible now file ↔ file.isRegularFile = some true ∧ policy.allows now file = true := by
  have named : policy.isExcluded file.filename = false ↔
      ∀ pattern ∈ policy.exclusions, ¬ pattern <:+: file.filename := by
    rw [isExcluded, List.any_eq_false]
    simp only [Text.isSome_find_iff]
  have old : policy.isFileOldEnough now file = true ↔ policy.minFileAge = 0 ∨
      ∃ time, file.lastWriteTime = some time ∧ policy.minFileAge ≤ (now - time).tdiv hour := by
    rw [isFileOldEnough, Bool.or_eq_true, beq_iff_eq]
    cases file.lastWriteTime with
    | none => simp
    | some time => simp
  rw [allows, Bool.and_eq_true, Bool.not_eq_true', named, old]
  exact ⟨fun eligible => ⟨eligible.regular, eligible.named, eligible.old⟩,
    fun ⟨regular, named, old⟩ => ⟨regular, named, old⟩⟩

theorem le_tdiv_hour_iff {age hours : Int} (positive : 0 < hours) :
    hours ≤ age.tdiv hour ↔ hours * hour ≤ age := by
  have unit : (0 : Int) < hour := by decide
  rcases le_or_gt 0 age with past | future
  · rw [Int.tdiv_eq_ediv_of_nonneg past, Int.le_ediv_iff_mul_le unit]
  · have none : 0 ≤ (-age).tdiv hour := Int.tdiv_nonneg (by omega) unit.le
    rw [Int.neg_tdiv] at none
    have some : 0 < hours * hour := Int.mul_pos positive unit
    omega

theorem timedFiles_sublist : List.Sublist ((timedFiles entries).map Prod.fst)
    (entries.filter fun entry => entry.isRegularFile == some true) := by
  induction entries with
  | nil => exact .slnil
  | cons entry rest ih =>
      rw [timedFiles]
      rcases regular : entry.isRegularFile with _ | _ | _
      · exact List.nil_sublist _
      · rw [List.filter_cons_of_neg (by simp [regular])]
        exact ih
      · rw [List.filter_cons_of_pos (by simp [regular])]
        cases entry.lastWriteTime with
        | none => exact List.nil_sublist _
        | some time => exact ih.cons_cons entry

theorem time_of_mem_timedFiles {timed : DirectoryEntry × Int} (mem : timed ∈ timedFiles entries) :
    timed.2 = timed.1.time := by
  induction entries with
  | nil => contradiction
  | cons entry rest ih =>
      rw [timedFiles] at mem
      split at mem
      · contradiction
      · exact ih mem
      · contradiction
      · rename_i time regular answered
        rcases List.mem_cons.mp mem with rfl | later
        · rw [DirectoryEntry.time, answered, Option.getD_some]
        · exact ih later

theorem timedFiles_of_answers (answered : ∀ entry ∈ entries, entry.answers = true) :
    (timedFiles entries).map Prod.fst =
      entries.filter fun entry => entry.isRegularFile == some true := by
  induction entries with
  | nil => rfl
  | cons entry rest ih =>
      have first := answered entry List.mem_cons_self
      have others := ih fun other mem => answered other (List.mem_cons_of_mem entry mem)
      rw [DirectoryEntry.answers] at first
      rw [timedFiles]
      rcases regular : entry.isRegularFile with _ | _ | _
      · rw [regular] at first
        contradiction
      · rw [List.filter_cons_of_neg (by simp [regular])]
        exact others
      · rw [List.filter_cons_of_pos (by simp [regular])]
        cases timed : entry.lastWriteTime with
        | none =>
            rw [regular, timed] at first
            contradiction
        | some time => exact congrArg _ others

theorem getFilesSortedByTime_perm (entries : List DirectoryEntry) :
    (getFilesSortedByTime entries).Perm ((timedFiles entries).map Prod.fst) :=
  (List.mergeSort_perm _ _).map Prod.fst

theorem getFilesSortedByTime_pairwise (entries : List DirectoryEntry) :
    (getFilesSortedByTime entries).Pairwise fun first second => first.time ≤ second.time := by
  rw [getFilesSortedByTime, List.pairwise_map]
  have sorted : ((timedFiles entries).mergeSort
      fun first second => decide (first.2 ≤ second.2)).Pairwise
        fun first second => decide (first.2 ≤ second.2) = true := by
    apply List.pairwise_mergeSort
    · intro first second third
      simp only [decide_eq_true_iff]
      exact Int.le_trans
    · intro first second
      simp only [Bool.or_eq_true, decide_eq_true_iff]
      exact Int.le_total _ _
  refine sorted.imp_of_mem ?_
  intro first second firstMem secondMem le
  rw [← time_of_mem_timedFiles (List.mem_mergeSort.mp firstMem),
    ← time_of_mem_timedFiles (List.mem_mergeSort.mp secondMem)]
  exact of_decide_eq_true le

theorem cleanupFiles_perm (policy : CleanupPolicy) (entries : List DirectoryEntry) :
    (QuotaManager.cleanupFiles policy entries).Perm ((timedFiles entries).map Prod.fst) := by
  rw [QuotaManager.cleanupFiles]
  split
  · exact getFilesSortedByTime_perm entries
  · exact (List.reverse_perm _).trans (getFilesSortedByTime_perm entries)

theorem cleanupFiles_pairwise (policy : CleanupPolicy) (entries : List DirectoryEntry) :
    (QuotaManager.cleanupFiles policy entries).Pairwise policy.Before := by
  have sorted := getFilesSortedByTime_pairwise entries
  rw [QuotaManager.cleanupFiles]
  split
  · rename_i oldest
    refine sorted.imp ?_
    intro first second le
    rwa [CleanupPolicy.Before, if_pos oldest]
  · rename_i newest
    refine List.pairwise_reverse.mpr (sorted.imp ?_)
    intro first second le
    rwa [CleanupPolicy.Before, if_neg newest]

end

/-! ## The accounts -/

section

variable (manager : QuotaManager) (bytes : UInt64)

theorem fileCount_recordFileRemoved :
    manager.recordFileRemoved.currentUsage.fileCount.toNat =
      manager.currentUsage.fileCount.toNat - 1 := by
  rw [QuotaManager.recordFileRemoved]
  split
  · rename_i some
    have one : 1 ≤ manager.currentUsage.fileCount :=
      UInt64.le_iff_toNat_le.mpr (UInt64.lt_iff_toNat_lt.mp some)
    exact UInt64.toNat_sub_of_le _ _ one
  · rename_i none
    rw [UInt64.lt_iff_toNat_lt, UInt64.toNat_zero] at none
    omega

theorem fileCount_recordBytesRemoved :
    (manager.recordBytesRemoved bytes).currentUsage.fileCount =
      manager.currentUsage.fileCount := by
  rw [QuotaManager.recordBytesRemoved]
  dsimp only
  split <;> rfl

theorem fileCount_removeFiles (files : List DirectoryEntry) :
    (manager.removeFiles files).currentUsage.fileCount.toNat =
      manager.currentUsage.fileCount.toNat - files.length := by
  induction files generalizing manager with
  | nil => rfl
  | cons file rest ih =>
      rw [QuotaManager.removeFiles, List.foldl_cons, ← QuotaManager.removeFiles, ih,
        fileCount_recordFileRemoved, fileCount_recordBytesRemoved, List.length_cons]
      omega

theorem totalQuota_removal (file : DirectoryEntry) :
    (manager.recordBytesRemoved file.size).recordFileRemoved.totalQuota = manager.totalQuota := by
  obtain ⟨fileCount, removed⟩ := recordFileRemoved_cases (manager.recordBytesRemoved file.size)
  rw [removed]
  exact (sameQuota_recordBytesRemoved manager file.size).totalQuota

variable {manager} in
theorem usagePercent_removal (positive : 0 < manager.totalQuota) (file : DirectoryEntry) :
    (manager.recordBytesRemoved file.size).recordFileRemoved.currentUsage.usagePercent =
      percentOf (manager.recordBytesRemoved file.size).recordFileRemoved.currentUsage.usedBytes
        (manager.recordBytesRemoved file.size).recordFileRemoved.totalQuota := by
  obtain ⟨fileCount, removed⟩ := recordFileRemoved_cases (manager.recordBytesRemoved file.size)
  rw [removed, QuotaManager.recordBytesRemoved]
  dsimp only
  rw [if_pos positive]

variable {manager} in
theorem usagePercent_removeFiles (positive : 0 < manager.totalQuota)
    {files : List DirectoryEntry} (some : files ≠ []) :
    (manager.removeFiles files).currentUsage.usagePercent =
      percentOf (manager.removeFiles files).currentUsage.usedBytes manager.totalQuota := by
  induction files generalizing manager with
  | nil => exact absurd rfl some
  | cons file rest ih =>
      have same := totalQuota_removal manager file
      rw [QuotaManager.removeFiles, List.foldl_cons, ← QuotaManager.removeFiles]
      by_cases last : rest = []
      · rw [last, ← same]
        exact usagePercent_removal positive file
      · rw [← same]
        exact ih (by rwa [same]) last

theorem foldl_add_eq (sizes : List UInt64) :
    sizes.foldl (· + ·) 0 = UInt64.ofNat (freed sizes) := by
  have from_start (start : UInt64) :
      sizes.foldl (· + ·) start = start + UInt64.ofNat (freed sizes) := by
    induction sizes generalizing start with
    | nil => simp [freed]
    | cons size rest ih =>
        have total : freed (size :: rest) = size.toNat + freed rest := by
          rw [freed, List.map_cons, List.sum_cons, ← freed]
        rw [List.foldl_cons, ih, total, UInt64.ofNat_add, UInt64.ofNat_toNat, UInt64.add_assoc]
  rw [from_start, UInt64.zero_add]

end

namespace QuotaManager

/-- What a cleanup promises.  A policy that is not triggered deletes nothing.  The files that
are tried are the first of the files that may be deleted, in the order of the policy, and each
of them is tried while the usage is above the target. -/
structure CleansUp (manager : QuotaManager) (now : Int) (entries : List DirectoryEntry)
    (run : CleanupRun) : Prop where
  idle : ¬ manager.Triggered → run = ⟨[], [], manager⟩
  eligible : ∀ file ∈ run.deleted, file ∈ entries ∧ manager.currentPolicy.Eligible now file
  aged : 0 < manager.currentPolicy.minFileAge → ∀ file ∈ run.deleted,
    manager.currentPolicy.minFileAge * hour ≤ now - file.time
  inOrder : ∃ ordered : List DirectoryEntry, ordered.Subperm entries ∧
    (∀ file ∈ ordered, manager.currentPolicy.Eligible now file) ∧
    ((∀ entry ∈ entries, entry.answers = true) →
      ∀ file ∈ entries, manager.currentPolicy.Eligible now file → file ∈ ordered) ∧
    ordered.Pairwise manager.currentPolicy.Before ∧ run.tried <+: ordered
  deleted : run.deleted = run.tried.filter DirectoryEntry.removable
  stops : ∀ before file after, run.tried = before ++ file :: after →
    manager.currentPolicy.targetThreshold < (manager.removeFiles
      (before.filter DirectoryEntry.removable)).currentUsage.usagePercent
  returned : manager.executeCleanup now entries =
    (UInt64.ofNat (freed (run.deleted.map DirectoryEntry.size)), run.manager)
  removed : run.manager = manager.removeFiles run.deleted
  usedBytes : run.manager.currentUsage.usedBytes.toNat =
    manager.currentUsage.usedBytes.toNat - freed (run.deleted.map DirectoryEntry.size)
  usagePercent : 0 < manager.totalQuota → run.deleted ≠ [] →
    run.manager.currentUsage.usagePercent =
      percentOf run.manager.currentUsage.usedBytes manager.totalQuota
  fileCount : run.manager.currentUsage.fileCount.toNat =
    manager.currentUsage.fileCount.toNat - run.deleted.length
  complete : manager.Triggered → (∀ entry ∈ entries, entry.answers = true) →
    manager.currentPolicy.targetThreshold < run.manager.currentUsage.usagePercent →
    ∀ file ∈ entries, manager.currentPolicy.Eligible now file → file ∈ run.tried

section

variable {policy : CleanupPolicy} {now : Int} {entries : List DirectoryEntry}
  {manager : QuotaManager}

theorem allowed_files (policy : CleanupPolicy) (now : Int) (entries : List DirectoryEntry) :
    ((cleanupFiles policy entries).filter (policy.allows now)).Subperm entries ∧
    (∀ file ∈ (cleanupFiles policy entries).filter (policy.allows now),
      policy.Eligible now file) ∧
    ((cleanupFiles policy entries).filter (policy.allows now)).Pairwise policy.Before := by
  have files := cleanupFiles_perm policy entries
  have regular := @timedFiles_sublist entries
  refine ⟨?_, ?_, (cleanupFiles_pairwise policy entries).sublist List.filter_sublist⟩
  · exact (List.filter_sublist.subperm.trans files.subperm).trans
      (regular.trans List.filter_sublist).subperm
  · intro file mem
    obtain ⟨listed, allowed⟩ := List.mem_filter.mp mem
    have timed := List.mem_filter.mp (regular.subset (files.mem_iff.mp listed))
    exact CleanupPolicy.eligible_iff.mpr ⟨beq_iff_eq.mp timed.2, allowed⟩

theorem mem_allowed_files (answered : ∀ entry ∈ entries, entry.answers = true)
    {file : DirectoryEntry} (mem : file ∈ entries) (eligible : policy.Eligible now file) :
    file ∈ (cleanupFiles policy entries).filter (policy.allows now) := by
  obtain ⟨regular, allowed⟩ := CleanupPolicy.eligible_iff.mp eligible
  refine List.mem_filter.mpr ⟨(cleanupFiles_perm policy entries).mem_iff.mpr ?_, allowed⟩
  rw [timedFiles_of_answers answered]
  exact List.mem_filter.mpr ⟨mem, beq_iff_eq.mpr regular⟩

theorem tried_cleanupRun_prefix : (manager.cleanupRun now entries).tried <+:
    (cleanupFiles manager.currentPolicy entries).filter (manager.currentPolicy.allows now) := by
  rw [cleanupRun]
  split
  · exact tried_prefix
  · exact List.nil_prefix

theorem deleted_cleanupRun : (manager.cleanupRun now entries).deleted =
    (manager.cleanupRun now entries).tried.filter DirectoryEntry.removable := by
  rw [cleanupRun]
  split
  · exact deleted_eq
  · rfl

theorem manager_cleanupRun : (manager.cleanupRun now entries).manager =
    manager.removeFiles (manager.cleanupRun now entries).deleted := by
  rw [cleanupRun]
  split
  · exact manager_eq
  · rfl

end

/-- `execute_cleanup` keeps the promises of a cleanup. -/
theorem cleanupRun_cleansUp (manager : QuotaManager) (now : Int) (entries : List DirectoryEntry) :
    manager.CleansUp now entries (manager.cleanupRun now entries) := by
  obtain ⟨among, eligible, sorted⟩ := allowed_files manager.currentPolicy now entries
  have cleaned := cleaned_cleanup manager now entries
  rw [cleanup_eq] at cleaned
  have deleted : ∀ file ∈ (manager.cleanupRun now entries).deleted,
      file ∈ entries ∧ manager.currentPolicy.Eligible now file := by
    intro file mem
    rw [deleted_cleanupRun] at mem
    have allowed := tried_cleanupRun_prefix.subset (List.mem_filter.mp mem).1
    exact ⟨among.subset allowed, eligible file allowed⟩
  constructor
  · intro idle
    exact if_neg idle
  · exact deleted
  · intro positive file mem
    obtain ⟨time, answered, old⟩ := (deleted file mem).2.old.resolve_left positive.ne'
    rw [DirectoryEntry.time, answered, Option.getD_some]
    exact (le_tdiv_hour_iff positive).mp old
  · exact ⟨_, among, eligible, fun answered file mem may => mem_allowed_files answered mem may,
      sorted, tried_cleanupRun_prefix⟩
  · exact deleted_cleanupRun
  · intro before file after split
    rw [cleanupRun] at split
    split at split
    · exact above_of_tried before file after split
    · simp at split
  · rw [executeCleanup, cleanup_eq, foldl_add_eq]
  · exact manager_cleanupRun
  · exact cleaned.used
  · intro positive some
    rw [manager_cleanupRun]
    exact usagePercent_removeFiles positive some
  · rw [manager_cleanupRun]
    exact fileCount_removeFiles manager _
  · intro triggered answered above file mem may
    have allowed := mem_allowed_files answered mem may
    rw [cleanupRun, if_pos triggered] at above ⊢
    rwa [tried_eq_of_above above]

/-! ## Cleanups of small directories -/

/-- A regular file of a directory. -/
def sampleFile (letter : UInt8) (size : UInt64) (time : Int) : DirectoryEntry :=
  ⟨[letter], some true, some size, some time, true⟩

/-- A manager with a quota of 100 bytes, and a file of 90 bytes from the epoch. -/
def sampleManager (enabled : Bool) (trigger target : Rat) : QuotaManager :=
  (create 100 ⟨some [sampleFile 0x61 90 0], none⟩).setCleanupPolicy
    ⟨enabled, trigger, target, true, 0, []⟩

/-- Three sparse files of the largest size. -/
def sparseFiles : List DirectoryEntry :=
  [sampleFile 0x61 0x7FFFFFFFFFFFFFFF 0, sampleFile 0x62 0x7FFFFFFFFFFFFFFF 0,
    sampleFile 0x63 0x7FFFFFFFFFFFFFFF 0]

/-- A manager whose cleanup is to delete everything. -/
def emptyingManager : QuotaManager :=
  (create 100 ⟨some sparseFiles, none⟩).setCleanupPolicy ⟨true, 90, -1, true, 0, []⟩

theorem cleanupFiles_sparseFiles :
    cleanupFiles emptyingManager.currentPolicy sparseFiles = sparseFiles := by
  have oldest : emptyingManager.currentPolicy.deleteOldestFirst = true := rfl
  rw [cleanupFiles, if_pos oldest, getFilesSortedByTime, List.mergeSort_of_pairwise (by decide)]
  rfl

/-- What remains above the target was tried. -/
def TriesAll (manager : QuotaManager) (now : Int) (entries : List DirectoryEntry) : Prop :=
  manager.currentPolicy.targetThreshold <
      (manager.cleanupRun now entries).manager.currentUsage.usagePercent →
    ∀ file ∈ entries, manager.currentPolicy.Eligible now file →
      file ∈ (manager.cleanupRun now entries).tried

/-- A policy that is disabled or not triggered leaves a file untried although the usage is above
the target, a file from the future is deleted, and the sum of large sizes is not returned. -/
theorem cleanup_exceptions :
    ¬ (sampleManager false 90 80).TriesAll 0 [sampleFile 0x61 90 0] ∧
    ¬ (sampleManager true 95 80).TriesAll 0 [sampleFile 0x61 90 0] ∧
    (¬ ∀ file ∈ ((sampleManager true 90 80).cleanupRun (-1) [sampleFile 0x61 90 0]).deleted,
      (sampleManager true 90 80).currentPolicy.minFileAge * hour ≤ -1 - file.time) ∧
    (emptyingManager.cleanupRun 0 sparseFiles).deleted = sparseFiles ∧
    (emptyingManager.executeCleanup 0 sparseFiles).1.toNat ≠
      freed (sparseFiles.map DirectoryEntry.size) := by
  refine ⟨?_, ?_, by decide +kernel, ?_, ?_⟩
  · intro all
    exact absurd (all (by decide +kernel) _ List.mem_cons_self ⟨rfl, nofun, .inl rfl⟩)
      (by decide +kernel)
  · intro all
    exact absurd (all (by decide +kernel) _ List.mem_cons_self ⟨rfl, nofun, .inl rfl⟩)
      (by decide +kernel)
  · rw [cleanupRun, cleanupFiles_sparseFiles]
    decide +kernel
  · have large : 2 ^ 64 ≤ freed (sparseFiles.map DirectoryEntry.size) := by decide
    have bounded := (emptyingManager.executeCleanup 0 sparseFiles).1.toNat_lt
    omega

end QuotaManager

end FileTrans.Server
