import FileTrans.Server.FailedStores

/-!
# The gauges of the local storage

`local_file_count` and `local_bytes` are to say what is stored locally.  They
only ever grow: every successful store counts as a new file, also one over an
object and the one of `change_tier`, and `record_delete` takes nothing off.
What a failing store leaves is not counted at all.

The objects of a backend are the files below its base path.
-/

namespace FileTrans.Server

open FileTrans.Core
open FileTrans.Storage
open FileTrans.Transition

namespace LocalBackend

/-- The place of the base path. -/
def basePlace (backend : LocalBackend) : List Bytes :=
  backend.basePath.names.foldl Path.enter (backend.disk.start backend.basePath)

/-- A place is below the base path. -/
def holds (backend : LocalBackend) (place : List Bytes) : Bool :=
  backend.basePlace.isPrefixOf place && place != backend.basePlace

/-- The number of objects. -/
def objectCount (backend : LocalBackend) : Nat :=
  backend.disk.tree.fileTotal backend.holds fun _ => 1

/-- The sum of their sizes. -/
def objectBytes (backend : LocalBackend) : Nat :=
  backend.disk.tree.fileTotal backend.holds List.length

/-- Where a store writes, if it comes to that. -/
def storePlace (backend : LocalBackend) (answers : DiskAnswers) (key : Bytes)
    (options : StoreOptions) : Option (List Bytes) :=
  let made := backend.parentsMade answers key
  if backend.MayWrite key options ∧ made.complete then
    made.disk.openOutput answers (backend.fullPathFor key)
  else none

/-- What `store_file` copies and to where, if it comes to that. -/
def copyPlace (backend : LocalBackend) (answers : DiskAnswers) (key : Bytes) (filePath : Path)
    (options : StoreOptions) : Option (Bytes × List Bytes) :=
  let made := backend.parentsMade answers key
  if answers.sizes ∧ backend.MayWrite key options then
    match backend.disk.file? filePath, made.disk.openOutput answers (backend.fullPathFor key) with
    | some content, some place =>
        if made.disk.place? filePath = some place then none else some (content, place)
    | _, _ => none
  else none

end LocalBackend

namespace LocalManager

/-- The gauges are right. -/
def Exact (manager : LocalManager) : Prop :=
  manager.stats.localFileCount.toNat = manager.primaryBackend.objectCount ∧
    manager.stats.localBytes.toNat = manager.primaryBackend.objectBytes

instance (manager : LocalManager) : Decidable manager.Exact :=
  inferInstanceAs (Decidable (_ ∧ _))

/-- A file that is counted is a new object, has the size that is recorded, and fits into the
gauges. -/
def Recorded (manager : LocalManager) (place : List Bytes) (content : Bytes) (bytes : UInt64) :
    Prop :=
  manager.primaryBackend.holds place = true ∧
    manager.primaryBackend.disk.tree.file? place = none ∧
    UInt64.ofNat content.length = bytes ∧
    manager.primaryBackend.objectCount + 1 < 2 ^ 64 ∧
    manager.primaryBackend.objectBytes + content.length < 2 ^ 64

/-- A file that is not counted is no object, or one in place of an object of its size. -/
def Unrecorded (manager : LocalManager) (place : List Bytes) (content : Bytes) : Prop :=
  manager.primaryBackend.holds place = true →
    ∃ old ∈ manager.primaryBackend.disk.tree.file? place, old.length = content.length

/-- A mutation keeps the gauges right.  A store that succeeds makes a new object; what a failing
one leaves is as large as what it replaces; no object is removed; and no change of a tier comes to
its end. -/
def Accounted (manager : LocalManager) (input : LocalInput) : Prop :=
  manager.initialized = true →
    match input with
    | .store key data options answers =>
        ∀ place ∈ manager.primaryBackend.storePlace answers.primary key options,
          if LocalBackend.Interrupted answers.primary.failingWrite data.length then
            manager.Unrecorded place (answers.primary.onDisk data)
          else
            manager.Recorded place (answers.primary.onDisk data) (UInt64.ofNat data.length)
    | .storeFile key filePath options answers =>
        ∀ copied ∈ manager.primaryBackend.copyPlace answers.primary key filePath options,
          if answers.primary.copies then
            manager.Recorded copied.2 copied.1 (UInt64.ofNat copied.1.length)
          else manager.Unrecorded copied.2 (answers.primary.onDisk copied.1)
    | .remove key answers =>
        answers.primary.deletes = true →
          ∀ place ∈ manager.primaryBackend.disk.place? (manager.primaryBackend.fullPathFor key),
            manager.primaryBackend.holds place = true →
              manager.primaryBackend.disk.tree.file? place = none
    | .changeTier key targetTier reads writes =>
        ∀ data, (manager.retrieve key reads).1 = .ok data →
          ∀ place ∈ manager.primaryBackend.storePlace writes.primary key
              (StorageManager.tierOptions targetTier),
            LocalBackend.Interrupted writes.primary.failingWrite data.length ∧
              manager.Unrecorded place (writes.primary.onDisk data)

/-! ## Files and gauges -/

/-- The gauges would be right with these statistics and this disk. -/
def ExactWith (manager : LocalManager) (disk : Disk) (stats : StorageManagerStatistics) : Prop :=
  stats.localFileCount.toNat = disk.tree.fileTotal manager.primaryBackend.holds (fun _ => 1) ∧
    stats.localBytes.toNat = disk.tree.fileTotal manager.primaryBackend.holds List.length

/-- A disk with the same files, and perhaps more directories. -/
structure SameFiles (first second : Disk) : Prop where
  workingDirectory : second.workingDirectory = first.workingDirectory
  file_eq : ∀ place, second.tree.file? place = first.tree.file? place
  total_eq : ∀ counts measure,
    second.tree.fileTotal counts measure = first.tree.fileTotal counts measure

theorem sameFiles_makeParents (disk : Disk) (answers : DiskAnswers) (path : Path) :
    SameFiles disk (disk.makeParents answers path).disk where
  workingDirectory := Disk.workingDirectory_makeParents
  file_eq := Disk.grows_makeParents.file_eq
  total_eq counts measure := by
    rw [Disk.makeParents, Disk.createDirectories]
    split
    · split
      · exact DirectoryTree.fileTotal_makeWay _ _ _ _ _
      · rfl
    · rfl

section

variable {manager after : LocalManager} {disk : Disk} {place : List Bytes} {content : Bytes}

theorem exact_iff (path : after.primaryBackend.basePath = manager.primaryBackend.basePath)
    (directory : after.primaryBackend.disk.workingDirectory =
      manager.primaryBackend.disk.workingDirectory) :
    after.Exact ↔ manager.ExactWith after.primaryBackend.disk after.stats := by
  have same : after.primaryBackend.holds = manager.primaryBackend.holds := by
    funext place
    rw [LocalBackend.holds, LocalBackend.holds, LocalBackend.basePlace, LocalBackend.basePlace,
      Disk.start, Disk.start, path, directory]
  rw [Exact, ExactWith, LocalBackend.objectCount, LocalBackend.objectBytes, same]

variable {stats : StorageManagerStatistics}

theorem exactWith_of_sameFiles (exact : manager.Exact)
    (same : SameFiles manager.primaryBackend.disk disk)
    (count : stats.localFileCount = manager.stats.localFileCount)
    (bytes : stats.localBytes = manager.stats.localBytes) : manager.ExactWith disk stats := by
  rw [ExactWith, count, bytes, same.total_eq, same.total_eq]
  exact exact

theorem totals_putFile (same : SameFiles manager.primaryBackend.disk disk) (below : place ≠ [])
    (content : Bytes) :
    (disk.putFile place content).tree.fileTotal manager.primaryBackend.holds (fun _ => 1) +
        (if manager.primaryBackend.holds place then
          ((manager.primaryBackend.disk.tree.file? place).map fun _ => 1).getD 0 else 0) =
      manager.primaryBackend.objectCount + (if manager.primaryBackend.holds place then 1 else 0) ∧
    (disk.putFile place content).tree.fileTotal manager.primaryBackend.holds List.length +
        (if manager.primaryBackend.holds place then
          ((manager.primaryBackend.disk.tree.file? place).map List.length).getD 0 else 0) =
      manager.primaryBackend.objectBytes +
        (if manager.primaryBackend.holds place then content.length else 0) := by
  rw [← same.file_eq, LocalBackend.objectCount, LocalBackend.objectBytes, ← same.total_eq,
    ← same.total_eq]
  exact ⟨DirectoryTree.fileTotal_put_file below content,
    DirectoryTree.fileTotal_put_file below content⟩

theorem exactWith_recordStore_iff (exact : manager.Exact)
    (same : SameFiles manager.primaryBackend.disk disk) (below : place ≠ []) (bytes : UInt64) :
    manager.ExactWith (disk.putFile place content)
        (manager.stats.recordStore bytes .localStorage) ↔
      manager.Recorded place content bytes := by
  obtain ⟨count_eq, bytes_eq⟩ := exact
  obtain ⟨count, sum⟩ := totals_putFile same below content
  have count_lt := manager.stats.localFileCount.toNat_lt
  have bytes_lt := manager.stats.localBytes.toNat_lt
  have added_lt := bytes.toNat_lt
  have size_iff : UInt64.ofNat content.length = bytes ↔
      content.length % 2 ^ 64 = bytes.toNat := by
    rw [← UInt64.toNat_inj, UInt64.toNat_ofNat']
  have gauges : (manager.stats.recordStore bytes .localStorage).localFileCount.toNat =
        (manager.primaryBackend.objectCount + 1) % 2 ^ 64 ∧
      (manager.stats.recordStore bytes .localStorage).localBytes.toNat =
        (manager.primaryBackend.objectBytes + bytes.toNat) % 2 ^ 64 := by
    rw [← count_eq, ← bytes_eq]
    exact ⟨UInt64.toNat_add _ _, UInt64.toNat_add _ _⟩
  rw [ExactWith, Recorded, gauges.1, gauges.2, size_iff]
  cases inside : manager.primaryBackend.holds place with
  | false =>
      rw [inside] at count
      simp only [Bool.false_eq_true, if_false, Nat.add_zero] at count
      constructor
      · rintro ⟨counted, -⟩
        omega
      · rintro ⟨impossible, -⟩
        cases impossible
  | true =>
      rw [inside] at count sum
      simp only [if_true] at count sum
      cases found : manager.primaryBackend.disk.tree.file? place with
      | none =>
          rw [found] at count sum
          simp only [Option.map_none, Option.getD_none, Nat.add_zero] at count sum
          simp only [true_and]
          omega
      | some old =>
          rw [found] at count
          simp only [Option.map_some, Option.getD_some] at count
          constructor
          · rintro ⟨counted, -⟩
            omega
          · rintro ⟨-, impossible, -⟩
            cases impossible

theorem exactWith_putFile_iff (exact : manager.Exact)
    (same : SameFiles manager.primaryBackend.disk disk) (below : place ≠ [])
    (count : stats.localFileCount = manager.stats.localFileCount)
    (bytes : stats.localBytes = manager.stats.localBytes) :
    manager.ExactWith (disk.putFile place content) stats ↔ manager.Unrecorded place content := by
  obtain ⟨count_eq, bytes_eq⟩ := exact
  obtain ⟨number, sum⟩ := totals_putFile same below content
  rw [ExactWith, Unrecorded, count, bytes, count_eq, bytes_eq]
  cases inside : manager.primaryBackend.holds place with
  | false =>
      rw [inside] at number sum
      simp only [Bool.false_eq_true, if_false, Nat.add_zero] at number sum
      rw [number, sum]
      exact ⟨fun _ impossible => absurd impossible Bool.false_ne_true, fun _ => ⟨rfl, rfl⟩⟩
  | true =>
      rw [inside] at number sum
      simp only [if_true] at number sum
      cases found : manager.primaryBackend.disk.tree.file? place with
      | none =>
          rw [found] at number
          simp only [Option.map_none, Option.getD_none, Nat.add_zero] at number
          constructor
          · rintro ⟨counted, -⟩
            omega
          · intro replaced
            obtain ⟨old, impossible, -⟩ := replaced rfl
            cases impossible
      | some old =>
          rw [found] at number sum
          simp only [Option.map_some, Option.getD_some] at number sum
          constructor
          · rintro ⟨-, summed⟩ -
            exact ⟨old, rfl, by omega⟩
          · intro replaced
            obtain ⟨other, same, length⟩ := replaced rfl
            obtain rfl := Option.some.inj same
            omega

theorem exactWith_erase_iff (exact : manager.Exact) (below : place ≠ [])
    (count : stats.localFileCount = manager.stats.localFileCount)
    (bytes : stats.localBytes = manager.stats.localBytes) :
    manager.ExactWith { manager.primaryBackend.disk with
        tree := manager.primaryBackend.disk.tree.erase place } stats ↔
      (manager.primaryBackend.holds place = true →
        manager.primaryBackend.disk.tree.file? place = none) := by
  obtain ⟨count_eq, bytes_eq⟩ := exact
  have number : DirectoryTree.fileTotal manager.primaryBackend.holds (fun _ => 1)
        (manager.primaryBackend.disk.tree.erase place) +
      (if manager.primaryBackend.holds place then
        ((manager.primaryBackend.disk.tree.file? place).map fun _ => 1).getD 0 else 0) =
      manager.primaryBackend.objectCount := DirectoryTree.fileTotal_erase below
  have sum : DirectoryTree.fileTotal manager.primaryBackend.holds List.length
        (manager.primaryBackend.disk.tree.erase place) +
      (if manager.primaryBackend.holds place then
        ((manager.primaryBackend.disk.tree.file? place).map List.length).getD 0 else 0) =
      manager.primaryBackend.objectBytes := DirectoryTree.fileTotal_erase below
  rw [ExactWith, count, bytes, count_eq, bytes_eq]
  dsimp only
  cases inside : manager.primaryBackend.holds place with
  | false =>
      rw [inside] at number sum
      simp only [Bool.false_eq_true, if_false, Nat.add_zero] at number sum
      rw [number, sum]
      exact ⟨fun _ impossible => absurd impossible Bool.false_ne_true, fun _ => ⟨rfl, rfl⟩⟩
  | true =>
      rw [inside] at number sum
      simp only [if_true] at number sum
      cases found : manager.primaryBackend.disk.tree.file? place with
      | none =>
          rw [found] at number sum
          simp only [Option.map_none, Option.getD_none, Nat.add_zero] at number sum
          rw [number, sum]
          exact ⟨fun _ _ => rfl, fun _ => ⟨rfl, rfl⟩⟩
      | some old =>
          rw [found] at number
          simp only [Option.map_some, Option.getD_some] at number
          constructor
          · rintro ⟨counted, -⟩
            omega
          · intro impossible
            cases impossible rfl

/-! ## Steps -/

theorem exact_storeWith_iff (started : manager.initialized = true)
    (write : LocalBackend → LocalOutcome StoreResult)
    (replicate : StorageBackend → Result StoreResult × StorageBackend)
    (directory : (write manager.primaryBackend).disk.workingDirectory =
      manager.primaryBackend.disk.workingDirectory) :
    (manager.storeWith write replicate).2.Exact ↔
      manager.ExactWith (write manager.primaryBackend).disk
        (match (write manager.primaryBackend).result with
        | .error _ => manager.stats.recordError
        | .ok result => manager.stats.recordStore result.bytesStored result.backend) := by
  rw [storeWith, if_neg (not_not.mpr started)]
  dsimp only
  cases (write manager.primaryBackend).result with
  | error failure => exact exact_iff rfl directory
  | ok result =>
      dsimp only
      split <;> exact exact_iff rfl directory

theorem workingDirectory_store (backend : LocalBackend) (answers : DiskAnswers)
    (key data : Bytes) (options : StoreOptions) :
    (backend.store answers key data options).disk.workingDirectory =
      backend.disk.workingDirectory := by
  have same := sameFiles_makeParents backend.disk answers (backend.fullPathFor key)
  have ends := LocalBackend.storeEnds_store backend answers key data options
  generalize backend.store answers key data options = outcome at ends ⊢
  cases ends with
  | refused kept => rfl
  | noDirectories may incomplete => exact same.workingDirectory
  | notOpened may complete closed => exact same.workingDirectory
  | interrupted place may complete opened fails => exact same.workingDirectory
  | written place may complete opened passes => exact same.workingDirectory

theorem ne_nil_of_opened {answers : DiskAnswers} {path : Path}
    (opened : disk.openOutput answers path = some place) : place ≠ [] :=
  Disk.ne_nil_of_not_isDirectory (Disk.openOutput_eq_some opened).2

theorem exact_store_iff (exact : manager.Exact) (key data : Bytes) (options : StoreOptions)
    (answers : LocalAnswers) :
    (manager.store key data options answers).2.Exact ↔
      manager.Accounted (.store key data options answers) := by
  cases started : manager.initialized with
  | false =>
      rw [store, storeWith, if_pos (by simp [started]), Accounted, started]
      exact ⟨fun _ impossible => absurd impossible Bool.false_ne_true, fun _ => exact⟩
  | true =>
      have same := sameFiles_makeParents manager.primaryBackend.disk answers.primary
        (manager.primaryBackend.fullPathFor key)
      have ends := LocalBackend.storeEnds_store manager.primaryBackend answers.primary key data
        options
      rw [store, exact_storeWith_iff started _ _ (workingDirectory_store _ _ _ _ _), Accounted,
        started]
      simp only [forall_const, LocalBackend.storePlace]
      generalize manager.primaryBackend.store answers.primary key data options = outcome at ends ⊢
      cases ends with
      | refused kept =>
          rw [if_neg fun both => kept both.1]
          refine ⟨fun _ place mem => absurd mem (Option.not_mem_none place), fun _ => ?_⟩
          exact exactWith_of_sameFiles exact ⟨rfl, fun _ => rfl, fun _ _ => rfl⟩ rfl rfl
      | noDirectories may incomplete =>
          rw [if_neg fun both => Bool.false_ne_true (incomplete.symm.trans both.2)]
          refine ⟨fun _ place mem => absurd mem (Option.not_mem_none place), fun _ => ?_⟩
          exact exactWith_of_sameFiles exact same rfl rfl
      | notOpened may complete closed =>
          rw [if_pos ⟨may, complete⟩, closed]
          refine ⟨fun _ place mem => absurd mem (Option.not_mem_none place), fun _ => ?_⟩
          exact exactWith_of_sameFiles exact same rfl rfl
      | interrupted place may complete opened fails =>
          rw [if_pos ⟨may, complete⟩, opened]
          simp only [Option.mem_some_iff, forall_eq', if_pos fails]
          exact exactWith_putFile_iff exact same (ne_nil_of_opened opened) rfl rfl
      | written place may complete opened passes =>
          rw [if_pos ⟨may, complete⟩, opened]
          simp only [Option.mem_some_iff, forall_eq', if_neg passes]
          exact exactWith_recordStore_iff exact same (ne_nil_of_opened opened) _

/-- The ways in which a copy into the backend ends. -/
inductive CopyEnds (backend : LocalBackend) (answers : DiskAnswers) (key : Bytes) (filePath : Path)
    (options : StoreOptions) : LocalOutcome StoreResult → Prop
  | nothing (failure : Error) (disk : Disk) (touched : List Path)
      (none : backend.copyPlace answers key filePath options = none)
      (same : SameFiles backend.disk disk) :
      CopyEnds backend answers key filePath options ⟨.error failure, disk, touched⟩
  | torn (failure : Error) (disk : Disk) (touched : List Path) (content : Bytes)
      (place : List Bytes)
      (started : backend.copyPlace answers key filePath options = some (content, place))
      (same : SameFiles backend.disk disk) (below : place ≠ []) (fails : answers.copies = false) :
      CopyEnds backend answers key filePath options
        ⟨.error failure, disk.putFile place (answers.onDisk content), touched⟩
  | copied (disk : Disk) (touched : List Path) (content : Bytes) (place : List Bytes)
      (started : backend.copyPlace answers key filePath options = some (content, place))
      (same : SameFiles backend.disk disk) (below : place ≠ []) (passes : answers.copies = true) :
      CopyEnds backend answers key filePath options
        ⟨.ok ⟨key, UInt64.ofNat content.length, .localStorage, options.tier⟩,
          disk.putFile place content, touched⟩

theorem copyEnds_storeFile (backend : LocalBackend) (answers : DiskAnswers) (key : Bytes)
    (filePath : Path) (options : StoreOptions) :
    CopyEnds backend answers key filePath options
      (backend.storeFile answers key filePath options) := by
  have unchanged : SameFiles backend.disk backend.disk := ⟨rfl, fun _ => rfl, fun _ _ => rfl⟩
  have same := sameFiles_makeParents backend.disk answers (backend.fullPathFor key)
  rw [LocalBackend.storeFile]
  split
  · rename_i missing
    refine .nothing _ _ _ ?_ unchanged
    rw [LocalBackend.copyPlace, file?_of_absent (Bool.eq_false_of_not_eq_true missing)]
    split <;> rfl
  cases content_eq : backend.disk.file? filePath with
  | none =>
      have unsized : backend.disk.fileSize answers filePath = none := by
        rw [Disk.fileSize, content_eq]
        split <;> rfl
      rw [unsized]
      refine .nothing _ _ _ ?_ unchanged
      rw [LocalBackend.copyPlace, content_eq]
      split <;> rfl
  | some content =>
      cases sizes : answers.sizes with
      | false =>
          have unsized : backend.disk.fileSize answers filePath = none := by
            rw [Disk.fileSize, sizes]
            rfl
          rw [unsized]
          refine .nothing _ _ _ ?_ unchanged
          rw [LocalBackend.copyPlace, if_neg (by simp [sizes])]
      | true =>
          have sized : backend.disk.fileSize answers filePath = some content.length := by
            rw [Disk.fileSize, if_pos sizes, content_eq]
            rfl
          have source : (backend.parentsMade answers key).disk.file? filePath = some content :=
            LocalBackend.file?_eq_some_iff.mpr
              (Disk.node?_makeParents (LocalBackend.file?_eq_some_iff.mp content_eq))
          rw [sized]
          dsimp only
          split
          · rename_i refused
            refine .nothing _ _ _ ?_ unchanged
            rw [LocalBackend.copyPlace, if_neg]
            exact fun both => LocalBackend.mayWrite_iff.mp both.2 refused
          rename_i notRefused
          have goes : answers.sizes = true ∧ backend.MayWrite key options :=
            ⟨sizes, LocalBackend.mayWrite_iff.mpr notRefused⟩
          rw [Disk.copyFile, source]
          cases opened : (backend.parentsMade answers key).disk.openOutput answers
              (backend.fullPathFor key) with
          | none =>
              refine .nothing _ _ _ ?_ same
              rw [LocalBackend.copyPlace, if_pos goes, content_eq, opened]
          | some place =>
              have below := ne_nil_of_opened opened
              dsimp only
              split
              · rename_i itself
                refine .nothing _ _ _ ?_ same
                rw [LocalBackend.copyPlace, if_pos goes, content_eq, opened]
                exact if_pos itself
              · rename_i other
                have started : backend.copyPlace answers key filePath options =
                    some (content, place) := by
                  rw [LocalBackend.copyPlace, if_pos goes, content_eq, opened]
                  exact if_neg other
                cases copies : answers.copies with
                | false => exact .torn _ _ _ content place started same below copies
                | true => exact .copied _ _ content place started same below copies

theorem workingDirectory_storeFile (backend : LocalBackend) (answers : DiskAnswers) (key : Bytes)
    (filePath : Path) (options : StoreOptions) :
    (backend.storeFile answers key filePath options).disk.workingDirectory =
      backend.disk.workingDirectory := by
  have ends := copyEnds_storeFile backend answers key filePath options
  generalize backend.storeFile answers key filePath options = outcome at ends ⊢
  cases ends with
  | nothing failure disk touched none same => exact same.workingDirectory
  | torn failure disk touched content place started same below fails =>
      exact same.workingDirectory
  | copied disk touched content place started same below passes => exact same.workingDirectory

theorem exact_storeFile_iff (exact : manager.Exact) (key : Bytes) (filePath : Path)
    (options : StoreOptions) (answers : LocalAnswers) :
    (manager.storeFile key filePath options answers).2.Exact ↔
      manager.Accounted (.storeFile key filePath options answers) := by
  cases started : manager.initialized with
  | false =>
      rw [storeFile, storeWith, if_pos (by simp [started]), Accounted, started]
      exact ⟨fun _ impossible => absurd impossible Bool.false_ne_true, fun _ => exact⟩
  | true =>
      have ends := copyEnds_storeFile manager.primaryBackend answers.primary key filePath options
      rw [storeFile, exact_storeWith_iff started _ _ (workingDirectory_storeFile _ _ _ _ _),
        Accounted, started]
      simp only [forall_const]
      generalize manager.primaryBackend.storeFile answers.primary key filePath options = outcome
        at ends ⊢
      cases ends with
      | nothing failure disk touched none same =>
          rw [none]
          refine ⟨fun _ copied mem => absurd mem (Option.not_mem_none copied), fun _ => ?_⟩
          exact exactWith_of_sameFiles exact same rfl rfl
      | torn failure disk touched content place goes same below fails =>
          rw [goes]
          simp only [Option.mem_some_iff, forall_eq', fails, Bool.false_eq_true, if_false]
          exact exactWith_putFile_iff exact same below rfl rfl
      | copied disk touched content place goes same below passes =>
          rw [goes]
          simp only [Option.mem_some_iff, forall_eq', passes, if_true]
          exact exactWith_recordStore_iff exact same below _

/-- A removal takes away what is at the path of the key, or there is no file that it could take
away. -/
theorem remove_disk (backend : LocalBackend) (answers : DiskAnswers) (key : Bytes) :
    (∃ place, backend.disk.place? (backend.fullPathFor key) = some place ∧ place ≠ [] ∧
      answers.deletes = true ∧
      (backend.remove answers key).disk =
        { backend.disk with tree := backend.disk.tree.erase place }) ∨
    (backend.remove answers key).disk = backend.disk ∧
      (answers.deletes = true →
        ∀ place ∈ backend.disk.place? (backend.fullPathFor key),
          backend.disk.tree.file? place = none) := by
  have deleted : (backend.remove answers key).disk = backend.disk ∧
        backend.disk.node? (backend.fullPathFor key) = none ∨
      (backend.remove answers key).disk =
        (backend.disk.delete answers (backend.fullPathFor key)).2 := by
    rw [LocalBackend.remove]
    dsimp only
    split
    · rename_i missing
      exact .inl ⟨rfl, LocalBackend.exist_eq_false_iff.mp (Bool.eq_false_of_not_eq_true missing)⟩
    · split <;> exact .inr rfl
  rcases deleted with ⟨kept, absent⟩ | deleted
  · refine .inr ⟨kept, fun _ place found => ?_⟩
    rw [Disk.node?, Option.mem_def.mp found, Option.bind_some] at absent
    rw [DirectoryTree.file?, absent, Option.bind_none]
  · rw [deleted, Disk.delete]
    cases found : backend.disk.place? (backend.fullPathFor key) with
    | none => exact .inr ⟨rfl, fun _ place mem => absurd mem (Option.not_mem_none place)⟩
    | some place =>
        dsimp only
        split
        · rename_i absent
          refine .inr ⟨rfl, fun _ other same => ?_⟩
          rw [← Option.mem_some_iff.mp same, DirectoryTree.file?, absent, Option.bind_none]
        · rename_i node there
          split
          · rename_i able
            exact .inl ⟨place, rfl, able.2.1, able.1, rfl⟩
          · rename_i unable
            refine .inr ⟨rfl, fun deletes other same => ?_⟩
            rw [← Option.mem_some_iff.mp same, DirectoryTree.file?, there, Option.bind_some]
            -- A file could have been removed.
            by_contra content
            have file := Option.isSome_iff_ne_none.mpr content
            refine unable ⟨deletes, ?_, .inl file⟩
            rintro rfl
            rw [DirectoryTree.node_nil] at there
            obtain rfl := Option.some.inj there
            cases file

theorem exact_remove_iff (exact : manager.Exact) (key : Bytes) (answers : LocalAnswers) :
    (manager.remove key answers).2.Exact ↔ manager.Accounted (.remove key answers) := by
  cases started : manager.initialized with
  | false =>
      rw [remove, if_pos (by simp [started]), Accounted, started]
      exact ⟨fun _ impossible => absurd impossible Bool.false_ne_true, fun _ => exact⟩
  | true =>
      have cases_disk := remove_disk manager.primaryBackend answers.primary key
      -- Neither of the two counters that a removal moves is a gauge.
      have after_iff : (manager.remove key answers).2.Exact ↔
          manager.ExactWith (manager.primaryBackend.remove answers.primary key).disk
            manager.stats := by
        have directory : (manager.primaryBackend.remove answers.primary key).disk.workingDirectory =
            manager.primaryBackend.disk.workingDirectory := by
          rcases cases_disk with ⟨place, -, -, -, erased⟩ | ⟨kept, -⟩
          · rw [erased]
          · rw [kept]
        rw [remove, if_neg (not_not.mpr started)]
        dsimp only
        split
        · exact exact_iff rfl directory
        · exact exact_iff rfl directory
      rw [after_iff, Accounted, started]
      simp only [forall_const]
      rcases cases_disk with ⟨place, found, below, deletes, erased⟩ | ⟨kept, none⟩
      · rw [erased, exactWith_erase_iff exact below rfl rfl, found]
        simp only [deletes, forall_const, Option.mem_some_iff, forall_eq']
      · rw [kept]
        exact ⟨fun _ deletes place found _ => none deletes place found, fun _ => exact⟩

theorem file?_of_storePlace {backend : LocalBackend} {key data : Bytes} {answers : DiskAnswers}
    {options : StoreOptions} (there : backend.disk.file? (backend.fullPathFor key) = some data)
    (opened : place ∈ backend.storePlace answers key options) :
    backend.disk.tree.file? place = some data := by
  rw [LocalBackend.storePlace] at opened
  split at opened
  · have named : (backend.parentsMade answers key).disk.node? (backend.fullPathFor key) =
        some (.file data) := Disk.node?_makeParents (LocalBackend.file?_eq_some_iff.mp there)
    rw [Disk.node?, (Disk.openOutput_eq_some opened).1, Option.bind_some] at named
    have grows := @Disk.grows_makeParents backend.disk answers (backend.fullPathFor key)
    rw [← grows.file_eq, DirectoryTree.file?, named]
    rfl
  · cases opened

theorem exact_changeTier_iff (exact : manager.Exact) (alone : manager.secondaryBackend = none)
    (key : Bytes) (targetTier : StorageTier) (reads writes : LocalAnswers) :
    (manager.changeTier key targetTier reads writes).2.Exact ↔
      manager.Accounted (.changeTier key targetTier reads writes) := by
  cases started : manager.initialized with
  | false =>
      rw [changeTier, if_pos (by simp [started]), Accounted, started]
      exact ⟨fun _ impossible => absurd impossible Bool.false_ne_true, fun _ => exact⟩
  | true =>
      obtain ⟨stats, read_eq, count, bytes⟩ := retrieve_state manager key reads
      have read_exact : ({ manager with stats } : LocalManager).Exact := by
        rw [Exact, count, bytes]
        exact exact
      rw [changeTier, if_neg (not_not.mpr started), Accounted, started]
      simp only [forall_const]
      cases ended : (manager.retrieve key reads).1 with
      | error failure =>
          have both : manager.retrieve key reads = (.error failure, { manager with stats }) :=
            Prod.ext ended read_eq
          rw [both]
          refine ⟨fun _ data success => ?_, fun _ => read_exact⟩
          cases success
      | ok data =>
          have both : manager.retrieve key reads = (.ok data, { manager with stats }) :=
            Prod.ext ended read_eq
          have there : manager.primaryBackend.disk.file? (manager.primaryBackend.fullPathFor key) =
              some data := by
            refine (retrieve_ok ended).2.resolve_right ?_
            rw [fallbackObject, fallback, alone]
            split <;> exact (Option.some_ne_none data).symm
          have stored := exact_store_iff read_exact key data
            (StorageManager.tierOptions targetTier) writes
          -- The store is one over an object, so that it is never accounted for as a new one.
          have accounted_iff : Accounted { manager with stats } (.store key data
                (StorageManager.tierOptions targetTier) writes) ↔
              ∀ other, Except.ok (ε := Error) data = .ok other →
                ∀ place ∈ manager.primaryBackend.storePlace writes.primary key
                    (StorageManager.tierOptions targetTier),
                  LocalBackend.Interrupted writes.primary.failingWrite other.length ∧
                    manager.Unrecorded place (writes.primary.onDisk other) := by
            constructor
            · rintro accounts other same place opened
              obtain rfl := Except.ok.inj same
              have account := accounts started place opened
              split at account
              · rename_i fails
                exact ⟨fails, account⟩
              · have absent : manager.primaryBackend.disk.tree.file? place = none := account.2.1
                rw [file?_of_storePlace there opened] at absent
                cases absent
            · intro unrecorded _ place opened
              obtain ⟨fails, account⟩ := unrecorded data rfl place opened
              rw [if_pos fails]
              exact account
          rw [both, ← accounted_iff, ← stored]
          dsimp only
          generalize store { manager with stats } key data (StorageManager.tierOptions targetTier)
            writes = outcome
          obtain ⟨_ | _, after⟩ := outcome <;> exact Iff.rfl

theorem alone_storeWith (alone : manager.secondaryBackend = none)
    (write : LocalBackend → LocalOutcome StoreResult)
    (replicate : StorageBackend → Result StoreResult × StorageBackend) :
    (manager.storeWith write replicate).2.secondaryBackend = none := by
  rw [storeWith]
  split
  · exact alone
  dsimp only
  split
  · exact alone
  · split
    · exact Option.map_eq_none_iff.mpr alone
    · exact alone

theorem alone_step (alone : manager.secondaryBackend = none) (input : LocalInput) :
    (manager.step input).2.secondaryBackend = none := by
  cases input with
  | store key data options answers =>
      change (manager.store key data options answers).2.secondaryBackend = none
      exact alone_storeWith alone _ _
  | storeFile key filePath options answers =>
      change (manager.storeFile key filePath options answers).2.secondaryBackend = none
      exact alone_storeWith alone _ _
  | remove key answers =>
      change (manager.remove key answers).2.secondaryBackend = none
      rw [remove]
      split
      · exact alone
      dsimp only
      split <;> exact Option.map_eq_none_iff.mpr alone
  | changeTier key targetTier reads writes =>
      change (manager.changeTier key targetTier reads writes).2.secondaryBackend = none
      obtain ⟨stats, read_eq, -⟩ := retrieve_state manager key reads
      rw [changeTier]
      split
      · exact alone
      split
      · rename_i read retrieved
        rw [retrieved] at read_eq
        exact read_eq ▸ alone
      · rename_i data read retrieved
        rw [retrieved] at read_eq
        obtain rfl : read = { manager with stats } := read_eq
        have stored : (store { manager with stats } key data (StorageManager.tierOptions targetTier)
            writes).2.secondaryBackend = none := by
          refine alone_storeWith ?_ _ _
          exact alone
        generalize store { manager with stats } key data (StorageManager.tierOptions targetTier)
          writes = outcome at stored ⊢
        obtain ⟨_ | _, after⟩ := outcome <;> exact stored

theorem exact_step_iff (exact : manager.Exact) (alone : manager.secondaryBackend = none)
    (input : LocalInput) : (manager.step input).2.Exact ↔ manager.Accounted input := by
  cases input with
  | store key data options answers => exact exact_store_iff exact key data options answers
  | storeFile key filePath options answers =>
      exact exact_storeFile_iff exact key filePath options answers
  | remove key answers => exact exact_remove_iff exact key answers
  | changeTier key targetTier reads writes =>
      exact exact_changeTier_iff exact alone key targetTier reads writes

end

/-- There is no file below the base path. -/
def Vacant (manager : LocalManager) : Prop :=
  ∀ entry ∈ manager.primaryBackend.disk.tree.entries,
    manager.primaryBackend.holds entry.place = true → entry.node = .directory

instance (manager : LocalManager) : Decidable manager.Vacant :=
  inferInstanceAs (Decidable (∀ _ ∈ _, _))

theorem exact_of_vacant {manager : LocalManager} (vacant : manager.Vacant)
    (fresh : manager.stats = .fresh) : manager.Exact := by
  have none : ∀ measure, manager.primaryBackend.disk.tree.fileTotal manager.primaryBackend.holds
      measure = 0 := by
    intro measure
    refine List.sum_eq_zero fun weight mem => ?_
    obtain ⟨entry, there, rfl⟩ := List.mem_map.mp mem
    rw [DirectoryTree.weigh]
    split
    · rename_i inside
      rw [vacant entry there inside]
      rfl
    · rfl
  rw [Exact, fresh, LocalBackend.objectCount, LocalBackend.objectBytes, none, none]
  exact ⟨rfl, rfl⟩

/-- From fresh statistics over an empty backend, the gauges are right all along a run exactly if
each mutation is accounted for. -/
theorem gauges_exact_iff (manager : LocalManager) (alone : manager.secondaryBackend = none)
    (vacant : manager.Vacant) (fresh : manager.stats = .fresh) (inputs : List LocalInput) :
    (∀ first rest, inputs = first ++ rest → (final step manager first).Exact) ↔
      Guarded step Accounted manager inputs := by
  have kept_iff : ∀ (manager : LocalManager) (input : LocalInput),
      manager.Exact ∧ manager.secondaryBackend = none →
      ((manager.step input).2.Exact ∧ (manager.step input).2.secondaryBackend = none ↔
        manager.Accounted input) := by
    rintro manager input ⟨exact, alone⟩
    rw [and_iff_left (alone_step alone input)]
    exact exact_step_iff exact alone input
  rw [← forall_prefix_iff_guarded kept_iff ⟨exact_of_vacant vacant fresh, alone⟩]
  refine forall₃_congr fun first rest split => ?_
  have still : (final step manager first).secondaryBackend = none :=
    final_invariant (fun manager : LocalManager => manager.secondaryBackend = none)
      (fun _ input alone => alone_step alone input) alone first
  exact (and_iff_left still).symm

end LocalManager

namespace GaugeSample

/-- An empty backend in `/s`. -/
def manager : LocalManager where
  config := ⟨false, false, false⟩
  primaryBackend :=
    { basePath := Text.ascii "/s"
      disk := ⟨[], Collections.Table.empty.insert ⟨[Text.ascii "s"], .directory⟩⟩ }
  secondaryBackend := none
  initialized := true
  stats := .fresh

/-- A store of an object, over what is there. -/
def storeAt (key : String) (data : Bytes) : LocalInput :=
  .store (Text.ascii key) data { StoreOptions.default with overwrite := true } ⟨.success, none⟩

/-- The manager after the first of two stores. -/
def storedA : LocalManager :=
  (manager.step (storeAt "a" [1, 2, 3])).2

theorem accounted_store {manager : LocalManager} {key : String} {data : Bytes} {place : List Bytes}
    (at_place : manager.primaryBackend.storePlace .success (Text.ascii key)
      { StoreOptions.default with overwrite := true } = some place)
    (recorded : manager.Recorded place data (UInt64.ofNat data.length)) :
    manager.Accounted (storeAt key data) := by
  intro _ found mem
  rw [← Option.some.inj (at_place.symm.trans mem)]
  split
  · rename_i fails
    obtain ⟨turn, missing, -⟩ := fails
    cases missing
  · exact recorded

end GaugeSample

open GaugeSample LocalManager in
/-- Two objects are counted. -/
theorem two_stores_are_exact :
    (final step manager [storeAt "a" [1, 2, 3], storeAt "b" [4]]).Exact := by
  have first : manager.Accounted (storeAt "a" [1, 2, 3]) :=
    @accounted_store _ _ _ [Text.ascii "s", Text.ascii "a"] (by decide +kernel)
      ⟨by decide +kernel, by decide +kernel, by decide, by decide +kernel, by decide +kernel⟩
  have second : storedA.Accounted (storeAt "b" [4]) :=
    @accounted_store _ _ _ [Text.ascii "s", Text.ascii "b"] (by decide +kernel)
      ⟨by decide +kernel, by decide +kernel, by decide, by decide +kernel, by decide +kernel⟩
  exact (gauges_exact_iff manager rfl (by decide +kernel) rfl
    [storeAt "a" [1, 2, 3], storeAt "b" [4]]).mpr ⟨first, second, trivial⟩ _ [] rfl

open GaugeSample LocalManager in
/-- A store over an object counts twice, as does a change of its tier, and a removed object counts
still. -/
theorem gauges_only_grow :
    ¬ (final step manager [storeAt "a" [1], storeAt "a" [1, 2]]).Exact ∧
    ¬ (final step manager [storeAt "a" [1],
        .changeTier (Text.ascii "a") .cold ⟨.success, none⟩ ⟨.success, none⟩]).Exact ∧
    ¬ (final step manager [storeAt "a" [1], .remove (Text.ascii "a") ⟨.success, none⟩]).Exact := by
  decide +kernel

end FileTrans.Server
