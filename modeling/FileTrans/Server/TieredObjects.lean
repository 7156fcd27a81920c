import FileTrans.Server.CloudListing
import FileTrans.Server.PendingActions

/-!
# Objects with tiers

What the backends answer about their objects.  A local backend knows the size and
the time of a file; a cloud backend has what its storage keeps of an object, and
reads the tier off the storage class, but not in a listing.  A store writes the
object anew, and the storage decides what it keeps of it.

`execute_pending` and `evaluate_all` run against these answers.  No call to the
backend fails, and the manager has no secondary backend.
-/

namespace FileTrans.Server

open FileTrans.Cloud (CloudObjectMetadata)
open FileTrans.Core
open FileTrans.Text

/-! ## Metadata -/

/-- What a storage keeps of an object besides its contents. -/
structure ObjectDetails where
  lastModified : Int
  etag : Bytes
  contentType : Bytes
  storageClass : Option Bytes
  customMetadata : List (Bytes × Bytes)

/-- The tier that `cloud_storage_backend::get_metadata` reads off a storage class. -/
def storageTier : Option Bytes → StorageTier
  | none => .hot
  | some storageClass =>
      if storageClass = ascii "STANDARD" then .hot
      else if storageClass = ascii "STANDARD_IA" ∨ storageClass = ascii "ONEZONE_IA" then .warm
      else if storageClass = ascii "GLACIER" ∨ storageClass = ascii "GLACIER_IR" then .cold
      else if storageClass = ascii "DEEP_ARCHIVE" then .archive
      else .hot

/-- An object of a cloud storage. -/
def ObjectDetails.cloudObject (details : ObjectDetails) (key : Bytes) (size : UInt64) :
    CloudObjectMetadata where
  key := key
  size := size
  lastModified := details.lastModified
  etag := details.etag
  contentType := details.contentType
  storageClass := details.storageClass
  customMetadata := details.customMetadata

/-- A file.  Its time is converted with two clocks that are read one after the other; `drift` is
what passes in between. -/
def ObjectDetails.file (details : ObjectDetails) (drift : Int) (key : Bytes) (size : UInt64) :
    StoredObjectMetadata where
  key := key
  size := size
  lastModified := details.lastModified + drift
  contentHash := none
  backend := .localStorage
  tier := .hot
  etag := none
  contentType := none
  customMetadata := []
  accessCount := 0
  lastAccessed := none

def listedMetadata (type : StorageBackendType) (details : ObjectDetails) (drift : Int)
    (key : Bytes) (size : UInt64) : StoredObjectMetadata :=
  if type = .localStorage then details.file drift key size
  else CloudLister.storedMetadata type (details.cloudObject key size)

/-- The metadata that `get_metadata` of a backend gives. -/
def backendMetadata (type : StorageBackendType) (details : ObjectDetails) (drift : Int)
    (key : Bytes) (size : UInt64) : StoredObjectMetadata :=
  if type = .localStorage then details.file drift key size
  else
    { CloudLister.storedMetadata type (details.cloudObject key size) with
      tier := storageTier details.storageClass }

/-! ## Backends that answer -/

/-- The keys that a page of a cloud listing shows, and how it goes on. -/
structure ListedKeys where
  keys : List Bytes
  isTruncated : Bool
  continuationToken : Option Bytes

/-- What lies under the primary backend: the first page of a listing by the keys that there are,
and what the storage keeps of an object that is stored with these options. -/
structure ObjectStorage where
  page : List Bytes → ListedKeys
  stored : Bytes → StoreOptions → ObjectDetails

/-- The keys of a primary backend, in the order in which it goes through them, and the details
of the objects. -/
structure ObjectIndex where
  keys : List Bytes
  details : Bytes → ObjectDetails

/-- The default of `list_storage_options`. -/
def ListStorageOptions.default : ListStorageOptions :=
  ⟨none, 1000, none, none, none⟩

namespace ObjectIndex

variable (index : ObjectIndex) (storage : ObjectStorage) (manager : StorageManager)

def getMetadata (drift : Int) (key : Bytes) : Result StoredObjectMetadata :=
  if ¬ manager.initialized then StorageManager.notInitialized
  else
    match manager.primaryBackend.objects key with
    | some data =>
        .ok (backendMetadata manager.primaryBackend.type (index.details key) drift key
          (UInt64.ofNat data.length))
    | none =>
        if manager.primaryBackend.type = .localStorage then
          .error ⟨.fileNotFound, ascii "File not found: " ++ key⟩
        else
          .error ⟨.fileReadError,
            ascii "Cloud metadata failed: " ++ ascii "Object not found: " ++ key⟩

/-- The metadata of keys in a listing. -/
def listedObjects (drift : Bytes → Int) (keys : List Bytes) : List StoredObjectMetadata :=
  keys.filterMap fun key =>
    (manager.primaryBackend.objects key).map fun data =>
      listedMetadata manager.primaryBackend.type (index.details key) (drift key) key
        (UInt64.ofNat data.length)

/-- `storage_manager::list` with the default options. -/
def list (drift : Bytes → Int) : Result ListStorageResult :=
  if ¬ manager.initialized then StorageManager.notInitialized
  else if manager.primaryBackend.type = .localStorage then
    .ok (listEntries .default [] (index.listedObjects manager drift index.keys))
  else
    let page := storage.page index.keys
    .ok {
      objects := index.listedObjects manager drift page.keys
      isTruncated := page.isTruncated
      continuationToken := page.continuationToken
      totalCount := none }

/-- What an action that was carried out does to the objects: a change of the tier stores the
object. -/
def after : PolicyEvent → ObjectIndex
  | .performed ⟨key, targetTier, action⟩ =>
      match action with
      | .move | .copy | .archive =>
          let details := storage.stored key (StorageManager.tierOptions targetTier)
          { index with details := Function.update index.details key details }
      | .deleteObj => { index with keys := index.keys.filter (· ≠ key) }
  | _ => index

/-- The objects after these events. -/
def afterAll (events : List PolicyEvent) : ObjectIndex :=
  events.foldl (fun index event => index.after storage event) index

end ObjectIndex

/-- What an action on an object meets at a backend that does not fail. -/
def ObjectIndex.answers (index : ObjectIndex) (manager : Option StorageManager) (drift : Int)
    (key : Bytes) : ActionAnswers where
  metadata :=
    match manager with
    | some manager => index.getMetadata manager drift key
    | none => StorageManager.notInitialized
  reads := ⟨none, none⟩
  writes := ⟨none, none⟩

/-- What the queued actions meet, one after the other. -/
def answersAlong (storage : ObjectStorage) (drift : Bytes → Int) :
    StoragePolicy → ObjectIndex → List PolicyEvaluationResult → Nat → ActionAnswers
  | policy, index, [], _ => index.answers policy.manager 0 []
  | policy, index, result :: _, 0 => index.answers policy.manager (drift result.key) result.key
  | policy, index, result :: results, number + 1 =>
      if result.Live then
        let action := policy.executeAction result.key result.targetTier result.recommendedAction
          (index.answers policy.manager (drift result.key) result.key)
        answersAlong storage drift action.policy (index.afterAll storage action.events) results
          number
      else answersAlong storage drift policy index results number

end FileTrans.Server
