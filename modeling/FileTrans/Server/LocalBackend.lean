import FileTrans.Server.StorageListing
import FileTrans.Storage.Disk

/-!
# The local storage backend

`local_storage_backend` on a disk: the file of a key is at the base path
followed by the key, whatever the key is.  `store` writes into the file itself,
in pieces of a mebibyte; `store_file` and `retrieve_file` copy.

An operation says at which paths it works for its key: it looks for the object
there, opens or removes it, or tries to make a directory.  That it looks
whether the parent path exists is left out, and so are the progress callback
and the durations.

The manager has a local primary backend and, if one is configured, any
secondary one, whose calls may fail and then have no effect.  The error
callback and the durations are left out.
-/

namespace FileTrans.Server

open FileTrans.Core
open FileTrans.Storage
open FileTrans.Transition

/-- `local_storage_backend`. -/
structure LocalBackend where
  basePath : Path
  disk : Disk

/-- What an operation returns, the disk after it, and the paths it works at. -/
structure LocalOutcome (α : Type) where
  result : Result α
  disk : Disk
  touched : List Path

structure RetrieveResult where
  key : Bytes
  bytesRetrieved : UInt64
  backend : StorageBackendType
  metadata : StoredObjectMetadata
  deriving DecidableEq

/-- An error whose message ends in a key or a path. -/
def failureAt {α : Type} (code : ErrorCode) (literal : String) (subject : Bytes) : Result α :=
  .error ⟨code, Text.ascii literal ++ subject⟩

namespace LocalBackend

/-- `chunk_size` in `store`. -/
def storeChunkSize : Nat :=
  1024 * 1024

/-- The loop of `store`: whether all its writes go through, from one on. -/
def writeLoop (failingWrite : Option Nat) (size turn written : Nat) : Bool :=
  if written < size then
    if failingWrite = some turn then false
    else writeLoop failingWrite size (turn + 1) (written + min storeChunkSize (size - written))
  else true
termination_by size - written
decreasing_by
  rw [storeChunkSize]
  omega

variable (backend : LocalBackend) (answers : DiskAnswers) (key : Bytes)

def fullPathFor : Path :=
  backend.basePath.append key

def store (data : Bytes) (options : StoreOptions) : LocalOutcome StoreResult :=
  let targetPath := backend.fullPathFor key
  if backend.disk.exist targetPath ∧ ¬ options.overwrite then
    ⟨failureAt .fileAlreadyExists "File already exists: " key, backend.disk, [targetPath]⟩
  else
    let made := backend.disk.makeParents answers targetPath
    if ¬ made.complete then
      ⟨failureAt .invalidConfiguration "Failed to create directory: " targetPath.parent,
        made.disk, targetPath :: made.tried⟩
    else
      match made.disk.openOutput answers targetPath with
      | none =>
          ⟨failureAt .fileAccessDenied "Failed to open file for writing: " targetPath,
            made.disk, targetPath :: made.tried⟩
      | some place =>
          -- Opening truncates the file; the errors of `close` are not looked at.
          let written := made.disk.putFile place (answers.onDisk data)
          if writeLoop answers.failingWrite data.length 0 0 then
            ⟨.ok ⟨key, UInt64.ofNat data.length, .localStorage, options.tier⟩,
              written, targetPath :: made.tried⟩
          else
            ⟨failureAt .fileWriteError "Failed to write data to file: " targetPath,
              written, targetPath :: made.tried⟩

def storeFile (filePath : Path) (options : StoreOptions) : LocalOutcome StoreResult :=
  if ¬ backend.disk.exist filePath then
    ⟨failureAt .fileNotFound "Source file not found: " filePath, backend.disk, []⟩
  else
    match backend.disk.fileSize answers filePath with
    | none =>
        ⟨failureAt .fileReadError "Failed to get file size: " filePath, backend.disk, []⟩
    | some fileSize =>
        let targetPath := backend.fullPathFor key
        if backend.disk.exist targetPath ∧ ¬ options.overwrite then
          ⟨failureAt .fileAlreadyExists "File already exists: " key, backend.disk, [targetPath]⟩
        else
          -- Whether the directories could be made is not looked at.
          let made := backend.disk.makeParents answers targetPath
          let copied := made.disk.copyFile answers filePath targetPath
          if copied.1 then
            ⟨.ok ⟨key, UInt64.ofNat fileSize, .localStorage, options.tier⟩,
              copied.2, targetPath :: made.tried⟩
          else
            ⟨failureAt .fileWriteError "Failed to copy file: " answers.message,
              copied.2, targetPath :: made.tried⟩

def retrieve : LocalOutcome Bytes :=
  let targetPath := backend.fullPathFor key
  if ¬ backend.disk.exist targetPath then
    ⟨failureAt .fileNotFound "File not found: " key, backend.disk, [targetPath]⟩
  else
    match backend.disk.fileSize answers targetPath, backend.disk.file? targetPath with
    | some _, some content =>
        if ¬ answers.opens then
          ⟨failureAt .fileAccessDenied "Failed to open file for reading: " key, backend.disk,
            [targetPath]⟩
        else if ¬ answers.reads then
          ⟨failureAt .fileReadError "Failed to read file: " key, backend.disk, [targetPath]⟩
        else ⟨.ok content, backend.disk, [targetPath]⟩
    | _, _ =>
        ⟨failureAt .fileReadError "Failed to get file size: " key, backend.disk, [targetPath]⟩

/-- The metadata of an object, of which the disk knows the size and the time. -/
def metadataOf (size : Nat) : StoredObjectMetadata where
  key
  size := UInt64.ofNat size
  lastModified := answers.modified.getD 0
  contentHash := none
  backend := .localStorage
  tier := .hot
  etag := none
  contentType := none
  customMetadata := []
  accessCount := 0
  lastAccessed := none

/-- `retrieve_file`.  The directories and the file that it makes at `filePath` are not for the
key. -/
def retrieveFile (filePath : Path) : LocalOutcome RetrieveResult :=
  let sourcePath := backend.fullPathFor key
  if ¬ backend.disk.exist sourcePath then
    ⟨failureAt .fileNotFound "File not found: " key, backend.disk, [sourcePath]⟩
  else
    match backend.disk.fileSize answers sourcePath with
    | none =>
        ⟨failureAt .fileReadError "Failed to get file size: " key, backend.disk, [sourcePath]⟩
    | some fileSize =>
        let made := backend.disk.makeParents answers filePath
        let copied := made.disk.copyFile answers sourcePath filePath
        if copied.1 then
          ⟨.ok ⟨key, UInt64.ofNat fileSize, .localStorage, metadataOf answers key fileSize⟩,
            copied.2, [sourcePath]⟩
        else
          ⟨failureAt .fileWriteError "Failed to copy file: " answers.message, copied.2,
            [sourcePath]⟩

def remove : LocalOutcome Unit :=
  let targetPath := backend.fullPathFor key
  if ¬ backend.disk.exist targetPath then
    ⟨failureAt .fileNotFound "File not found: " key, backend.disk, [targetPath]⟩
  else
    let deleted := backend.disk.delete answers targetPath
    if deleted.1 then ⟨.ok (), deleted.2, [targetPath]⟩
    else ⟨failureAt .fileAccessDenied "Failed to delete file: " key, deleted.2, [targetPath]⟩

/-- `exists`. -/
def objectExists : LocalOutcome Bool :=
  ⟨.ok (backend.disk.exist (backend.fullPathFor key)), backend.disk, [backend.fullPathFor key]⟩

def getMetadata : LocalOutcome StoredObjectMetadata :=
  let targetPath := backend.fullPathFor key
  if ¬ backend.disk.exist targetPath then
    ⟨failureAt .fileNotFound "File not found: " key, backend.disk, [targetPath]⟩
  else
    match backend.disk.fileSize answers targetPath with
    | none =>
        ⟨failureAt .fileReadError "Failed to get file size: " key, backend.disk, [targetPath]⟩
    | some fileSize =>
        ⟨.ok (metadataOf answers key fileSize), backend.disk, [targetPath]⟩

/-! ## The loop and the cases of a store -/

variable {backend answers key}

/-- One of the writes of `store` fails. -/
def Interrupted (failingWrite : Option Nat) (size : Nat) : Prop :=
  ∃ turn ∈ failingWrite, turn * storeChunkSize < size

instance (failingWrite : Option Nat) (size : Nat) : Decidable (Interrupted failingWrite size) :=
  inferInstanceAs (Decidable (∃ _ ∈ failingWrite, _))

theorem writeLoop_eq_false_iff_of_le {failingWrite : Option Nat} {size turn written : Nat}
    (reached : written = min size (turn * storeChunkSize)) :
    writeLoop failingWrite size turn written = false ↔
      ∃ later ∈ failingWrite, turn ≤ later ∧ later * storeChunkSize < size := by
  fun_induction writeLoop failingWrite size turn written with
  | case1 turn written more failing =>
      have before : turn * storeChunkSize < size := by omega
      exact ⟨fun _ => ⟨turn, failing, le_rfl, before⟩, fun _ => rfl⟩
  | case2 turn written more passes ih =>
      have next : written + min storeChunkSize (size - written) =
          min size ((turn + 1) * storeChunkSize) := by
        rw [Nat.add_mul, Nat.one_mul]
        omega
      rw [ih next]
      constructor
      · rintro ⟨later, failing, after, before⟩
        exact ⟨later, failing, Nat.le_of_succ_le after, before⟩
      · rintro ⟨later, failing, after, before⟩
        have differ : later ≠ turn := fun same => passes (same ▸ failing)
        exact ⟨later, failing, by omega, before⟩
  | case3 turn written enough =>
      constructor
      · intro impossible
        cases impossible
      · rintro ⟨later, failing, after, before⟩
        have least := Nat.mul_le_mul_right storeChunkSize after
        omega

theorem writeLoop_eq_false_iff {failingWrite : Option Nat} {size : Nat} :
    writeLoop failingWrite size 0 0 = false ↔ Interrupted failingWrite size := by
  rw [writeLoop_eq_false_iff_of_le (by simp), Interrupted]
  simp

/-- An object that exists may be written over, or there is none. -/
def MayWrite (backend : LocalBackend) (key : Bytes) (options : StoreOptions) : Prop :=
  backend.disk.exist (backend.fullPathFor key) = true → options.overwrite = true

instance (backend : LocalBackend) (key : Bytes) (options : StoreOptions) :
    Decidable (backend.MayWrite key options) :=
  inferInstanceAs (Decidable (_ → _))

/-- The directories for the file of a key. -/
abbrev parentsMade (backend : LocalBackend) (answers : DiskAnswers) (key : Bytes) :
    DirectoriesMade :=
  backend.disk.makeParents answers (backend.fullPathFor key)

/-- The ways in which a store ends. -/
inductive StoreEnds (backend : LocalBackend) (answers : DiskAnswers) (key data : Bytes)
    (options : StoreOptions) : LocalOutcome StoreResult → Prop
  | refused (kept : ¬ backend.MayWrite key options) :
      StoreEnds backend answers key data options
        ⟨failureAt .fileAlreadyExists "File already exists: " key, backend.disk,
          [backend.fullPathFor key]⟩
  | noDirectories (may : backend.MayWrite key options)
      (incomplete : (backend.parentsMade answers key).complete = false) :
      StoreEnds backend answers key data options
        ⟨failureAt .invalidConfiguration "Failed to create directory: "
            (backend.fullPathFor key).parent, (backend.parentsMade answers key).disk,
          backend.fullPathFor key :: (backend.parentsMade answers key).tried⟩
  | notOpened (may : backend.MayWrite key options)
      (complete : (backend.parentsMade answers key).complete = true)
      (closed : (backend.parentsMade answers key).disk.openOutput answers
        (backend.fullPathFor key) = none) :
      StoreEnds backend answers key data options
        ⟨failureAt .fileAccessDenied "Failed to open file for writing: "
            (backend.fullPathFor key), (backend.parentsMade answers key).disk,
          backend.fullPathFor key :: (backend.parentsMade answers key).tried⟩
  | interrupted (place : List Bytes) (may : backend.MayWrite key options)
      (complete : (backend.parentsMade answers key).complete = true)
      (opened : (backend.parentsMade answers key).disk.openOutput answers
        (backend.fullPathFor key) = some place)
      (fails : Interrupted answers.failingWrite data.length) :
      StoreEnds backend answers key data options
        ⟨failureAt .fileWriteError "Failed to write data to file: " (backend.fullPathFor key),
          (backend.parentsMade answers key).disk.putFile place (answers.onDisk data),
          backend.fullPathFor key :: (backend.parentsMade answers key).tried⟩
  | written (place : List Bytes) (may : backend.MayWrite key options)
      (complete : (backend.parentsMade answers key).complete = true)
      (opened : (backend.parentsMade answers key).disk.openOutput answers
        (backend.fullPathFor key) = some place)
      (passes : ¬ Interrupted answers.failingWrite data.length) :
      StoreEnds backend answers key data options
        ⟨.ok ⟨key, UInt64.ofNat data.length, .localStorage, options.tier⟩,
          (backend.parentsMade answers key).disk.putFile place (answers.onDisk data),
          backend.fullPathFor key :: (backend.parentsMade answers key).tried⟩

theorem mayWrite_iff {options : StoreOptions} : backend.MayWrite key options ↔
    ¬ (backend.disk.exist (backend.fullPathFor key) ∧ ¬ options.overwrite) :=
  not_and_not_right.symm

theorem storeEnds_store (backend : LocalBackend) (answers : DiskAnswers) (key data : Bytes)
    (options : StoreOptions) :
    StoreEnds backend answers key data options (backend.store answers key data options) := by
  rw [store]
  dsimp only
  split
  · rename_i refused
    exact .refused fun may => mayWrite_iff.mp may refused
  rename_i notRefused
  have may := mayWrite_iff.mpr notRefused
  split
  · rename_i incomplete
    exact .noDirectories may (Bool.eq_false_of_not_eq_true incomplete)
  rename_i finished
  have complete := not_not.mp finished
  split
  · rename_i closed
    exact .notOpened may complete closed
  rename_i place opened
  split
  · rename_i through
    refine .written place may complete opened ?_
    rw [← writeLoop_eq_false_iff, through]
    exact Bool.false_ne_true.symm
  · rename_i stopped
    exact .interrupted place may complete opened
      (writeLoop_eq_false_iff.mp (Bool.eq_false_of_not_eq_true stopped))

end LocalBackend

/-! ## The storage manager over a local backend -/

namespace StorageManagerStatistics

/-- Nothing was counted yet. -/
def fresh : StorageManagerStatistics :=
  ⟨0, 0, 0, 0, 0, 0, 0, 0, 0, 0, 0⟩

def recordStore (stats : StorageManagerStatistics) (bytes : UInt64) (backend : StorageBackendType) :
    StorageManagerStatistics :=
  let counted := { stats with
    bytesStored := stats.bytesStored + bytes
    storeCount := stats.storeCount + 1 }
  if backend = .localStorage then
    { counted with
      localBytes := stats.localBytes + bytes
      localFileCount := stats.localFileCount + 1 }
  else
    { counted with
      cloudBytes := stats.cloudBytes + bytes
      cloudFileCount := stats.cloudFileCount + 1 }

def recordRetrieve (stats : StorageManagerStatistics) (bytes : UInt64) :
    StorageManagerStatistics :=
  { stats with
    bytesRetrieved := stats.bytesRetrieved + bytes
    retrieveCount := stats.retrieveCount + 1 }

def recordDelete (stats : StorageManagerStatistics) : StorageManagerStatistics :=
  { stats with deleteCount := stats.deleteCount + 1 }

def recordError (stats : StorageManagerStatistics) : StorageManagerStatistics :=
  { stats with errorCount := stats.errorCount + 1 }

end StorageManagerStatistics

/-- `storage_manager`, with a local primary backend. -/
structure LocalManager where
  config : StorageManagerConfig
  primaryBackend : LocalBackend
  secondaryBackend : Option StorageBackend
  initialized : Bool
  stats : StorageManagerStatistics

/-- What the disk and the secondary backend answer to a call. -/
structure LocalAnswers where
  primary : DiskAnswers
  secondary : Fate

namespace LocalManager

/-- The manager after a call to the primary backend. -/
def setDisk (manager : LocalManager) (disk : Disk) : LocalManager :=
  { manager with primaryBackend := { manager.primaryBackend with disk } }

/-- The body of `store` and of `store_file`: `write` and `replicate` are the calls to the
backends. -/
def storeWith (manager : LocalManager) (write : LocalBackend → LocalOutcome StoreResult)
    (replicate : StorageBackend → Result StoreResult × StorageBackend) :
    Result StoreResult × LocalManager :=
  if ¬ manager.initialized then (StorageManager.notInitialized, manager)
  else
    let outcome := write manager.primaryBackend
    let after := manager.setDisk outcome.disk
    match outcome.result with
    | .error failure =>
        (.error failure, { after with stats := manager.stats.recordError })
    | .ok result =>
        let stored := { after with
          stats := manager.stats.recordStore result.bytesStored result.backend }
        if manager.config.replicateWrites then
          (.ok result, { stored with
            secondaryBackend := manager.secondaryBackend.map fun secondary =>
              (replicate secondary).2 })
        else (.ok result, stored)

def store (manager : LocalManager) (key data : Bytes) (options : StoreOptions)
    (answers : LocalAnswers) : Result StoreResult × LocalManager :=
  manager.storeWith (fun backend => backend.store answers.primary key data options)
    fun secondary => secondary.store answers.secondary key data options

/-- `store_file`.  The secondary backend reads the source file too. -/
def storeFile (manager : LocalManager) (key : Bytes) (filePath : Path) (options : StoreOptions)
    (answers : LocalAnswers) : Result StoreResult × LocalManager :=
  manager.storeWith (fun backend => backend.storeFile answers.primary key filePath options)
    fun secondary => secondary.storeFile answers.secondary key
      ((manager.primaryBackend.disk.file? filePath).getD []) options

/-- The secondary backend as a fallback for reads. -/
def fallback (manager : LocalManager) : Option StorageBackend :=
  if manager.config.fallbackReads then manager.secondaryBackend else none

def retrieve (manager : LocalManager) (key : Bytes) (answers : LocalAnswers) :
    Result Bytes × LocalManager :=
  if ¬ manager.initialized then (StorageManager.notInitialized, manager)
  else
    match (manager.primaryBackend.retrieve answers.primary key).result with
    | .ok data =>
        (.ok data, { manager with
          stats := manager.stats.recordRetrieve (UInt64.ofNat data.length) })
    | .error failure =>
        match manager.fallback.map (StorageBackend.retrieve · answers.secondary key) with
        | some (.ok data) =>
            (.ok data, { manager with
              stats := manager.stats.recordRetrieve (UInt64.ofNat data.length) })
        | _ => (.error failure, { manager with stats := manager.stats.recordError })

def remove (manager : LocalManager) (key : Bytes) (answers : LocalAnswers) :
    Result Unit × LocalManager :=
  if ¬ manager.initialized then (StorageManager.notInitialized, manager)
  else
    let outcome := manager.primaryBackend.remove answers.primary key
    let after := { manager.setDisk outcome.disk with
      secondaryBackend := manager.secondaryBackend.map fun secondary : StorageBackend =>
        (secondary.remove answers.secondary key).2 }
    match outcome.result with
    | .ok () => (.ok (), { after with stats := manager.stats.recordDelete })
    | .error failure => (.error failure, { after with stats := manager.stats.recordError })

/-- `change_tier`: a retrieval and a store. -/
def changeTier (manager : LocalManager) (key : Bytes) (targetTier : StorageTier)
    (reads writes : LocalAnswers) : Result Unit × LocalManager :=
  if ¬ manager.initialized then (StorageManager.notInitialized, manager)
  else
    match manager.retrieve key reads with
    | (.error failure, read) => (.error failure, read)
    | (.ok data, read) =>
        match read.store key data (StorageManager.tierOptions targetTier) writes with
        | (.error failure, stored) => (.error failure, stored)
        | (.ok _, stored) =>
            (.ok (), { stored with stats := { stored.stats with
              tierChangeCount := stored.stats.tierChangeCount + 1 } })

end LocalManager

/-- A mutation of the objects, with what the backends answer. -/
inductive LocalInput
  | store (key data : Bytes) (options : StoreOptions) (answers : LocalAnswers)
  | storeFile (key : Bytes) (filePath : Path) (options : StoreOptions) (answers : LocalAnswers)
  | remove (key : Bytes) (answers : LocalAnswers)
  | changeTier (key : Bytes) (targetTier : StorageTier) (reads writes : LocalAnswers)

/-- One call; true if it succeeds. -/
def LocalManager.step : Step LocalManager LocalInput Bool := fun manager input =>
  match input with
  | .store key data options answers =>
      (manager.store key data options answers).map Except.isOk id
  | .storeFile key filePath options answers =>
      (manager.storeFile key filePath options answers).map Except.isOk id
  | .remove key answers => (manager.remove key answers).map Except.isOk id
  | .changeTier key targetTier reads writes =>
      (manager.changeTier key targetTier reads writes).map Except.isOk id

end FileTrans.Server
