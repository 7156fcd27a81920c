import FileTrans.Resume.Json
import FileTrans.Storage.FileSystem

/-!
# The resume handler

The operations of `resume_handler`, one at a time: each runs from its first to its
last line without another thread in between.  The cache is a table of states, the
state files lie in the file system.

What the disk does in an operation is part of its input.  An exception that leaves
an operation is a missing result.
-/

namespace FileTrans.Resume

open Core Storage

/-- `resume_handler_config`.  `auto_cleanup` is not used by the implementation. -/
structure ResumeHandlerConfig where
  stateDirectory : Path
  checkpointInterval : UInt32
  /-- In seconds. -/
  stateTtl : Int64
  deriving DecidableEq

/-- `resume_handler::impl`, and the files. -/
structure ResumeHandler where
  config : ResumeHandlerConfig
  cache : TransferId → Option TransferState
  chunksSinceCheckpoint : UInt32
  files : FileSystem

/-- What happens to the state file in a call of `save_state`. -/
structure WriteOutcome where
  opens : Bool
  /-- How many bytes reach the file, if not all do. -/
  reaches : Option Nat
  /-- The stream is bad when it is looked at after the write. -/
  noticed : Bool
  deriving DecidableEq

/-- The write succeeds. -/
def WriteOutcome.success : WriteOutcome :=
  ⟨true, none, false⟩

/-- The part of a text that reaches the file. -/
def WriteOutcome.reached (disk : WriteOutcome) (text : Bytes) : Bytes :=
  match disk.reaches with
  | none => text
  | some count => text.take count

def getStateFilePath (directory : Path) (id : TransferId) : Path :=
  directory.append (id.toString ++ Text.ascii ".json")

namespace ResumeHandler

/-- The constructor: nothing is cached. -/
def create (config : ResumeHandlerConfig) (files : FileSystem) : ResumeHandler where
  config := config
  cache := fun _ => none
  chunksSinceCheckpoint := 0
  files := files

variable (handler : ResumeHandler)

def stateFile (id : TransferId) : Path :=
  getStateFilePath handler.config.stateDirectory id

/-- `cache_[id] = state`. -/
def insert (id : TransferId) (state : TransferState) : ResumeHandler :=
  { handler with cache := Function.update handler.cache id (some state) }

/-- `save_state`: the cache first, then the file. -/
def saveState (disk : WriteOutcome) (state : TransferState) : Result Unit × ResumeHandler :=
  let cached := handler.insert state.id state
  if disk.opens then
    let written := { cached with
      files := handler.files.put (handler.stateFile state.id)
        (disk.reached (serializeStateToJson state)) }
    if disk.noticed then (unexpected .fileWriteError "failed to write state file", written)
    else (.ok (), written)
  else (unexpected .fileWriteError "failed to open state file for writing", cached)

/-- The part of `load_state` after a miss in the cache: what the file holds. -/
def readStateFile (opens : Path → Bool) (id : TransferId) : Option (Result TransferState) :=
  match handler.files (handler.stateFile id) with
  | none => some (unexpected .fileNotFound "state file not found")
  | some content =>
      if opens (handler.stateFile id) then deserializeStateFromJson content
      else some (unexpected .fileReadError "failed to open state file")

def loadState (opens : Path → Bool) (id : TransferId) :
    Option (Result TransferState) × ResumeHandler :=
  match handler.cache id with
  | some state => (some (.ok state), handler)
  | none =>
      match handler.readStateFile opens id with
      | some (.ok state) => (some (.ok state), handler.insert id state)
      | other => (other, handler)

/-- `delete_state`; `removes` is whether an existing file can be removed, and
`message` the error message if not. -/
def deleteState (removes : Bool) (message : Bytes) (id : TransferId) :
    Result Unit × ResumeHandler :=
  let erased := { handler with cache := Function.update handler.cache id none }
  if handler.files.exist (handler.stateFile id) then
    if removes then
      (.ok (), { erased with files := handler.files.remove (handler.stateFile id) })
    else
      (.error ⟨.fileWriteError, Text.ascii "failed to delete state file: " ++ message⟩, erased)
  else (.ok (), erased)

def hasState (id : TransferId) : Bool :=
  (handler.cache id).isSome || handler.files.exist (handler.stateFile id)

end ResumeHandler

/-! ## Chunks -/

namespace TransferState

/-- `chunk_bitmap[index] = true`.  Behind the end of a bitmap that is too short the code writes
out of bounds, which is undefined; here that does nothing. -/
def setReceived (state : TransferState) (index : UInt32) : TransferState :=
  { state with chunkBitmap := state.chunkBitmap.set index.toNat true }

/-- Whether a chunk is recorded as received.  Behind the end of the bitmap, where the code reads out
of bounds, none is. -/
def received (state : TransferState) (index : Nat) : Bool :=
  state.chunkBitmap.getD index false

/-- The loop of `get_missing_chunks`. -/
def missingChunks (state : TransferState) : List Nat :=
  (List.range state.totalChunks.toNat).filter fun index => !state.received index

/-- The loop of `mark_chunks_received`: it stops at an index out of range, and keeps
what it has set by then. -/
def setAllReceived (state : TransferState) : List UInt32 → Bool × TransferState
  | [] => (true, state)
  | index :: rest =>
      if state.totalChunks ≤ index then (false, state)
      else (state.setReceived index).setAllReceived rest

end TransferState

/-- The error of a chunk index that is too large. -/
def outOfRange : Result Unit :=
  unexpected .invalidChunkIndex "chunk index out of range"

namespace ResumeHandler

variable (handler : ResumeHandler)

/-- Continue with the state of a transfer once it is in the cache. -/
def withState {α : Type} (opens : Path → Bool) (id : TransferId)
    (body : ResumeHandler → TransferState → Result α × ResumeHandler) :
    Option (Result α) × ResumeHandler :=
  match handler.loadState opens id with
  | (none, loaded) => (none, loaded)
  | (some (.error error), loaded) => (some (.error error), loaded)
  | (some (.ok state), loaded) =>
      let called := body loaded state
      (some called.1, called.2)

/-- `mark_chunk_received` from the lookup in the cache on. -/
def markCached (disk : WriteOutcome) (now : Int64) (id : TransferId) (state : TransferState)
    (chunkIndex : UInt32) : Result Unit × ResumeHandler :=
  if state.totalChunks ≤ chunkIndex then (outOfRange, handler)
  else
    let marked := { state.setReceived chunkIndex with lastActivity := now }
    let cached := handler.insert id marked
    let count := handler.chunksSinceCheckpoint + 1
    if handler.config.checkpointInterval ≤ count then
      saveState { cached with chunksSinceCheckpoint := 0 } disk marked
    else (.ok (), { cached with chunksSinceCheckpoint := count })

def markChunkReceived (opens : Path → Bool) (disk : WriteOutcome) (now : Int64)
    (id : TransferId) (chunkIndex : UInt32) : Option (Result Unit) × ResumeHandler :=
  handler.withState opens id fun loaded state => loaded.markCached disk now id state chunkIndex

/-- `mark_chunks_received` from the lookup in the cache on. -/
def markAllCached (disk : WriteOutcome) (now : Int64) (id : TransferId) (state : TransferState)
    (chunkIndices : List UInt32) : Result Unit × ResumeHandler :=
  let marked := state.setAllReceived chunkIndices
  if marked.1 then
    let touched := { marked.2 with lastActivity := now }
    (handler.insert id touched).saveState disk touched
  else (outOfRange, handler.insert id marked.2)

def markChunksReceived (opens : Path → Bool) (disk : WriteOutcome) (now : Int64)
    (id : TransferId) (chunkIndices : List UInt32) : Option (Result Unit) × ResumeHandler :=
  handler.withState opens id fun loaded state => loaded.markAllCached disk now id state chunkIndices

def getMissingChunks (opens : Path → Bool) (id : TransferId) :
    Option (Result (List Nat)) × ResumeHandler :=
  handler.withState opens id fun loaded state => (.ok state.missingChunks, loaded)

/-- `is_chunk_received`, which looks at the cache only. -/
def isChunkReceived (id : TransferId) (chunkIndex : UInt32) : Bool :=
  match handler.cache id with
  | none => false
  | some state => decide (chunkIndex < state.totalChunks) && state.received chunkIndex.toNat

/-- `update_transferred_bytes`, which does not save. -/
def updateTransferredBytes (opens : Path → Bool) (now : Int64) (id : TransferId)
    (bytes : UInt64) : Option (Result Unit) × ResumeHandler :=
  handler.withState opens id fun loaded state =>
    (.ok (), loaded.insert id { state with
      transferredBytes := state.transferredBytes + bytes
      lastActivity := now })

end ResumeHandler

/-! ## Directories -/

/-- `path::stem` and `path::extension` of a file name: the last dot divides the name,
unless it is the first byte. -/
def stemAndExtension (name : Bytes) : Bytes × Bytes :=
  let extension := (name.reverse.takeWhile (· != 0x2e)).reverse
  let stem := name.take (name.length - (extension.length + 1))
  if stem = [] ∨ name = Text.ascii ".." then (name, []) else (stem, 0x2e :: extension)

/-- The transfer that a directory entry belongs to, by its name. -/
def entryId (name : Bytes) : Option TransferId :=
  if (stemAndExtension name).2 = Text.ascii ".json" then
    TransferId.fromString (stemAndExtension name).1
  else none

namespace ResumeHandler

/-- The loop over the names in the state directory that `list_resumable_transfers`
and `cleanup_expired_states` share: the transfers that `load_state` returns. -/
def loadEntries (opens : Path → Bool) (handler : ResumeHandler) :
    List Bytes → Option (List (TransferId × TransferState)) × ResumeHandler
  | [] => (some [], handler)
  | name :: rest =>
      match entryId name with
      | none => loadEntries opens handler rest
      | some id =>
          match handler.loadState opens id with
          | (none, loaded) => (none, loaded)
          | (some (.error _), loaded) => loadEntries opens loaded rest
          | (some (.ok state), loaded) =>
              let later := loadEntries opens loaded rest
              (later.1.map ((id, state) :: ·), later.2)

/-- `list_resumable_transfers`, on the names that the directory iterator yields. -/
def listResumableTransfers (handler : ResumeHandler) (opens : Path → Bool)
    (entries : List Bytes) : Option (List TransferState) × ResumeHandler :=
  let found := loadEntries opens handler entries
  (found.1.map (·.map Prod.snd), found.2)

/-- Whether a state has outlived its time to live. -/
def expired (handler : ResumeHandler) (now : Int64) (state : TransferState) : Bool :=
  handler.config.stateTtl.toInt * 1000000000 < (now - state.lastActivity).toInt

/-- The second loop of `cleanup_expired_states`, which counts the deletions. -/
def deleteAll (removes : Path → Bool) (message : Bytes) (handler : ResumeHandler) :
    List TransferId → Nat × ResumeHandler
  | [] => (0, handler)
  | id :: rest =>
      let deleted := handler.deleteState (removes (handler.stateFile id)) message id
      let later := deleteAll removes message deleted.2 rest
      (later.1 + if deleted.1.isOk then 1 else 0, later.2)

def cleanupExpiredStates (handler : ResumeHandler) (opens removes : Path → Bool)
    (message : Bytes) (now : Int64) (entries : List Bytes) : Option Nat × ResumeHandler :=
  match loadEntries opens handler entries with
  | (none, loaded) => (none, loaded)
  | (some found, loaded) =>
      let toRemove := (found.filter fun entry => loaded.expired now entry.2).map Prod.fst
      let deleted := deleteAll removes message loaded toRemove
      (some deleted.1, deleted.2)

end ResumeHandler

end FileTrans.Resume
