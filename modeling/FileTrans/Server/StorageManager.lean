import FileTrans.Core.Types
import FileTrans.Transition.Run

/-!
# The storage manager

The manager keeps objects in a primary backend and, if one is configured, in a
secondary one.  A backend is a map from keys to contents, and each of its calls
may fail and then has no effect.  The manager's error callback and the
durations are left out.
-/

namespace FileTrans.Server

open FileTrans.Core
open FileTrans.Transition

/-! ## Backends -/

inductive StorageBackendType
  | localStorage
  | cloudS3
  | cloudAzure
  | cloudGcs
  deriving DecidableEq

inductive StorageTier
  | hot
  | warm
  | cold
  | archive
  deriving DecidableEq

structure StoreOptions where
  tier : StorageTier
  contentType : Option Bytes
  customMetadata : List (Bytes × Bytes)
  contentHash : Option Bytes
  overwrite : Bool
  storageClass : Option Bytes

/-- The default of `store_options`. -/
def StoreOptions.default : StoreOptions where
  tier := .hot
  contentType := none
  customMetadata := []
  contentHash := none
  overwrite := false
  storageClass := none

structure StoreResult where
  key : Bytes
  bytesStored : UInt64
  backend : StorageBackendType
  tier : StorageTier
  deriving DecidableEq

/-- What happens to a backend call: it goes through, or it fails with an error. -/
abbrev Fate := Option Error

/-- `storage_backend`: its type and the contents of its objects. -/
structure StorageBackend where
  type : StorageBackendType
  objects : Bytes → Option Bytes

namespace StorageBackend

/-- A call that fails has no effect. -/
def call {α : Type} (backend : StorageBackend) (fate : Fate)
    (through : Result α × StorageBackend) : Result α × StorageBackend :=
  match fate with
  | some failure => (.error failure, backend)
  | none => through

/-- `store`.  Only the local backend looks at `overwrite`. -/
def store (backend : StorageBackend) (fate : Fate) (key data : Bytes) (options : StoreOptions) :
    Result StoreResult × StorageBackend :=
  backend.call fate <|
    if backend.type = .localStorage ∧ (backend.objects key).isSome ∧ ¬ options.overwrite then
      (.error ⟨.fileAlreadyExists, Text.ascii "File already exists: " ++ key⟩, backend)
    else
      (.ok ⟨key, UInt64.ofNat data.length, backend.type, options.tier⟩,
        { backend with objects := Function.update backend.objects key (some data) })

/-- `store_file`, with the contents of the source file; where it cannot be read the call
fails. -/
def storeFile (backend : StorageBackend) (fate : Fate) (key file : Bytes)
    (options : StoreOptions) : Result StoreResult × StorageBackend :=
  backend.store fate key file options

def retrieve (backend : StorageBackend) (fate : Fate) (key : Bytes) : Result Bytes :=
  match fate, backend.objects key with
  | some failure, _ => .error failure
  | none, none => .error ⟨.fileNotFound, Text.ascii "File not found: " ++ key⟩
  | none, some data => .ok data

/-- `remove`.  Only the local backend misses an object that is not there. -/
def remove (backend : StorageBackend) (fate : Fate) (key : Bytes) : Result Unit × StorageBackend :=
  backend.call fate <|
    if backend.type = .localStorage ∧ (backend.objects key).isNone then
      (.error ⟨.fileNotFound, Text.ascii "File not found: " ++ key⟩, backend)
    else (.ok (), { backend with objects := Function.update backend.objects key none })

/-- `exists`. -/
def objectExists (backend : StorageBackend) (fate : Fate) (key : Bytes) : Result Bool :=
  match fate with
  | some failure => .error failure
  | none => .ok (backend.objects key).isSome

end StorageBackend

/-! ## The manager -/

/-- `storage_manager_config`, without the backends. -/
structure StorageManagerConfig where
  hybridStorage : Bool
  fallbackReads : Bool
  replicateWrites : Bool

structure StorageManagerStatistics where
  bytesStored : UInt64
  bytesRetrieved : UInt64
  storeCount : UInt64
  retrieveCount : UInt64
  deleteCount : UInt64
  errorCount : UInt64
  localFileCount : UInt64
  localBytes : UInt64
  cloudFileCount : UInt64
  cloudBytes : UInt64
  tierChangeCount : UInt64

structure StorageManager where
  config : StorageManagerConfig
  primaryBackend : StorageBackend
  secondaryBackend : Option StorageBackend
  initialized : Bool
  stats : StorageManagerStatistics

/-- The fates of a call to the primary and of one to the secondary backend. -/
structure Fates where
  primary : Fate
  secondary : Fate

namespace StorageManager

def recordStore (manager : StorageManager) (bytes : UInt64) (backend : StorageBackendType) :
    StorageManager :=
  let stats := { manager.stats with
    bytesStored := manager.stats.bytesStored + bytes
    storeCount := manager.stats.storeCount + 1 }
  if backend = .localStorage then
    { manager with stats := { stats with
        localBytes := stats.localBytes + bytes
        localFileCount := stats.localFileCount + 1 } }
  else
    { manager with stats := { stats with
        cloudBytes := stats.cloudBytes + bytes
        cloudFileCount := stats.cloudFileCount + 1 } }

def recordRetrieve (manager : StorageManager) (bytes : UInt64) : StorageManager :=
  { manager with stats := { manager.stats with
      bytesRetrieved := manager.stats.bytesRetrieved + bytes
      retrieveCount := manager.stats.retrieveCount + 1 } }

def recordDelete (manager : StorageManager) : StorageManager :=
  { manager with stats := { manager.stats with deleteCount := manager.stats.deleteCount + 1 } }

def recordError (manager : StorageManager) : StorageManager :=
  { manager with stats := { manager.stats with errorCount := manager.stats.errorCount + 1 } }

/-- The error of every call before `initialize`. -/
def notInitialized {α : Type} : Result α :=
  unexpected .invalidConfiguration "Storage manager not initialized"

/-- `initialize`, with the fates of the two connections. -/
def initializeBackends (manager : StorageManager) (fates : Fates) : Result Unit × StorageManager :=
  if manager.initialized then (.ok (), manager)
  else
    match fates.primary with
    | some failure =>
        (.error ⟨.invalidConfiguration,
          Text.ascii "Failed to connect primary backend: " ++ failure.message⟩, manager)
    | none => (.ok (), { manager with initialized := true })

def shutdown (manager : StorageManager) : Result Unit × StorageManager :=
  (.ok (), { manager with initialized := false })

/-- The body of `store` and of `store_file`: `write` is the call to a backend.  An error of the
secondary backend is only reported. -/
def storeWith (manager : StorageManager)
    (write : StorageBackend → Fate → Result StoreResult × StorageBackend) (fates : Fates) :
    Result StoreResult × StorageManager :=
  if ¬ manager.initialized then (notInitialized, manager)
  else
    match write manager.primaryBackend fates.primary with
    | (.error failure, primary) =>
        (.error failure, { manager with primaryBackend := primary }.recordError)
    | (.ok result, primary) =>
        let stored := { manager with primaryBackend := primary }.recordStore
          result.bytesStored result.backend
        if manager.config.replicateWrites then
          (.ok result, { stored with
            secondaryBackend := manager.secondaryBackend.map fun secondary =>
              (write secondary fates.secondary).2 })
        else (.ok result, stored)

def store (manager : StorageManager) (key data : Bytes) (options : StoreOptions) (fates : Fates) :
    Result StoreResult × StorageManager :=
  manager.storeWith (fun backend fate => backend.store fate key data options) fates

def storeFile (manager : StorageManager) (key file : Bytes) (options : StoreOptions)
    (fates : Fates) : Result StoreResult × StorageManager :=
  manager.storeWith (fun backend fate => backend.storeFile fate key file options) fates

/-- The secondary backend as a fallback for reads. -/
def fallback (manager : StorageManager) : Option StorageBackend :=
  if manager.config.fallbackReads then manager.secondaryBackend else none

def retrieve (manager : StorageManager) (key : Bytes) (fates : Fates) :
    Result Bytes × StorageManager :=
  if ¬ manager.initialized then (notInitialized, manager)
  else
    match manager.primaryBackend.retrieve fates.primary key with
    | .ok data => (.ok data, manager.recordRetrieve (UInt64.ofNat data.length))
    | .error failure =>
        match manager.fallback.map (StorageBackend.retrieve · fates.secondary key) with
        | some (.ok data) => (.ok data, manager.recordRetrieve (UInt64.ofNat data.length))
        | _ => (.error failure, manager.recordError)

/-- `remove`.  The secondary backend is asked whether or not the primary one removed the
object, and what it answers is dropped. -/
def remove (manager : StorageManager) (key : Bytes) (fates : Fates) :
    Result Unit × StorageManager :=
  if ¬ manager.initialized then (notInitialized, manager)
  else
    let removed := manager.primaryBackend.remove fates.primary key
    let after := { manager with
      primaryBackend := removed.2
      secondaryBackend := manager.secondaryBackend.map fun secondary : StorageBackend =>
        (secondary.remove fates.secondary key).2 }
    match removed.1 with
    | .ok () => (.ok (), after.recordDelete)
    | .error failure => (.error failure, after.recordError)

/-- `exists`. -/
def objectExists (manager : StorageManager) (key : Bytes) (fates : Fates) : Result Bool :=
  if ¬ manager.initialized then notInitialized
  else
    match manager.primaryBackend.objectExists fates.primary key with
    | .ok true => .ok true
    | _ =>
        match manager.fallback.map (StorageBackend.objectExists · fates.secondary key) with
        | some (.ok true) => .ok true
        | _ => .ok false

def storageClass : StorageTier → Bytes
  | .hot => Text.ascii "STANDARD"
  | .warm => Text.ascii "STANDARD_IA"
  | .cold => Text.ascii "GLACIER"
  | .archive => Text.ascii "DEEP_ARCHIVE"

/-- The options with which `change_tier` stores. -/
def tierOptions (targetTier : StorageTier) : StoreOptions :=
  { StoreOptions.default with
    tier := targetTier
    overwrite := true
    storageClass := some (storageClass targetTier) }

/-- `change_tier`: a retrieval and a store. -/
def changeTier (manager : StorageManager) (key : Bytes) (targetTier : StorageTier)
    (reads writes : Fates) : Result Unit × StorageManager :=
  if ¬ manager.initialized then (notInitialized, manager)
  else
    match manager.retrieve key reads with
    | (.error failure, read) => (.error failure, read)
    | (.ok data, read) =>
        match read.store key data (tierOptions targetTier) writes with
        | (.error failure, stored) => (.error failure, stored)
        | (.ok _, stored) =>
            (.ok (), { stored with stats := { stored.stats with
              tierChangeCount := stored.stats.tierChangeCount + 1 } })

/-- The two backends of a manager. -/
inductive BackendRole
  | primary
  | secondary

/-- The backend of a type; the primary one goes first. -/
def backendOf (manager : StorageManager) (type : StorageBackendType) :
    Option (BackendRole × StorageBackend) :=
  if manager.primaryBackend.type = type then some (.primary, manager.primaryBackend)
  else
    match manager.secondaryBackend with
    | some secondary => if secondary.type = type then some (.secondary, secondary) else none
    | none => none

/-- The manager after a call to one of its backends. -/
def setBackend (manager : StorageManager) (role : BackendRole) (backend : StorageBackend) :
    StorageManager :=
  match role with
  | .primary => { manager with primaryBackend := backend }
  | .secondary => { manager with secondaryBackend := some backend }

def copyBetweenBackends (manager : StorageManager) (key : Bytes)
    (source destination : StorageBackendType) (read write : Fate) :
    Result Unit × StorageManager :=
  if ¬ manager.initialized then (notInitialized, manager)
  else
    match manager.backendOf source, manager.backendOf destination with
    | some (_, src), some (role, dst) =>
        match src.retrieve read key with
        | .error failure => (.error failure, manager)
        | .ok data =>
            match dst.store write key data { StoreOptions.default with overwrite := true } with
            | (.error failure, after) => (.error failure, manager.setBackend role after)
            | (.ok _, after) => (.ok (), manager.setBackend role after)
    | _, _ => (unexpected .invalidConfiguration "Invalid source or destination backend", manager)

end StorageManager

/-! ## Runs -/

/-- A call to the manager, with the fates of the calls to the backends. -/
inductive StorageInput
  | initializeBackends (fates : Fates)
  | shutdown
  | store (key data : Bytes) (options : StoreOptions) (fates : Fates)
  | storeFile (key file : Bytes) (options : StoreOptions) (fates : Fates)
  | retrieve (key : Bytes) (fates : Fates)
  | remove (key : Bytes) (fates : Fates)
  | objectExists (key : Bytes) (fates : Fates)
  | changeTier (key : Bytes) (targetTier : StorageTier) (reads writes : Fates)
  | copyBetweenBackends (key : Bytes) (source destination : StorageBackendType)
      (read write : Fate)

/-- What a call returns. -/
inductive StorageOutput
  | done (result : Result Unit)
  | stored (result : Result StoreResult)
  | retrieved (result : Result Bytes)
  | found (result : Result Bool)
  deriving DecidableEq

/-- One call. -/
def StorageManager.step : Step StorageManager StorageInput StorageOutput := fun manager input =>
  match input with
  | .initializeBackends fates => (manager.initializeBackends fates).map .done id
  | .shutdown => manager.shutdown.map .done id
  | .store key data options fates => (manager.store key data options fates).map .stored id
  | .storeFile key file options fates =>
      (manager.storeFile key file options fates).map .stored id
  | .retrieve key fates => (manager.retrieve key fates).map .retrieved id
  | .remove key fates => (manager.remove key fates).map .done id
  | .objectExists key fates => (.found (manager.objectExists key fates), manager)
  | .changeTier key targetTier reads writes =>
      (manager.changeTier key targetTier reads writes).map .done id
  | .copyBetweenBackends key source destination read write =>
      (manager.copyBetweenBackends key source destination read write).map .done id

end FileTrans.Server
