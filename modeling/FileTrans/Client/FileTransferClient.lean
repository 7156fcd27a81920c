import FileTrans.Client.Context

/-!
# The file transfer client

Uploads and downloads by handle, and the calls that drive them.  The network is
not modelled: the client starts a transfer, and metadata and chunks arrive as
calls.

`process_download_chunk` calls `finalize_download` while it holds the mutex of
the context, and `finalize_download` locks it again.  The standard leaves this
undefined for a `std::mutex`; `Relock` says whether the call blocks for good or
goes on.
-/

namespace FileTrans.Client

open FileTrans.Core
open FileTrans.Storage
open InternalTransferState

/-- What happens when a thread locks a mutex that it holds. -/
inductive Relock
  | blocks
  | proceeds
  deriving DecidableEq

/-- How a call ends; what it does may be undefined. -/
inductive Completion (α : Type)
  | returned (result : Result α)
  | hangs
  | undefined
  deriving DecidableEq

/-- The parts of `client_statistics` that the transfer calls count. -/
structure ClientStatistics where
  totalBytesDownloaded : UInt64
  totalFilesUploaded : UInt64
  totalFilesDownloaded : UInt64
  deriving DecidableEq

/-- `file_transfer_client::impl`, with the files it works on. -/
structure FileTransferClient where
  chunkSize : Nat
  isConnected : Bool
  nextTransferId : UInt64
  statistics : ClientStatistics
  uploadContexts : UInt64 → Option UploadContext
  downloadContexts : UInt64 → Option DownloadContext
  files : FileSystem

/-- What the file system says about the parent directory of a download. -/
structure ParentDirectory where
  exist : Bool
  created : Bool
  deriving DecidableEq

namespace FileTransferClient

/-- A client without transfers. -/
def initial (chunkSize : Nat) (files : FileSystem) : FileTransferClient :=
  { chunkSize
    isConnected := true
    nextTransferId := 1
    statistics := ⟨0, 0, 0⟩
    uploadContexts := fun _ => none
    downloadContexts := fun _ => none
    files }

/-- `upload_contexts[handle] = ctx`. -/
def setUpload (client : FileTransferClient) (handle : UInt64) (ctx : UploadContext) :
    FileTransferClient :=
  { client with uploadContexts := Function.update client.uploadContexts handle (some ctx) }

/-- `download_contexts[handle] = ctx`. -/
def setDownload (client : FileTransferClient) (handle : UInt64) (ctx : DownloadContext) :
    FileTransferClient :=
  { client with downloadContexts := Function.update client.downloadContexts handle (some ctx) }

/-! ## Starting a transfer -/

/-- `upload_file`; `sizeError` is the message when the size cannot be read, and
`tid` the identifier that is generated. -/
def uploadFile (client : FileTransferClient) (sizeError : Option Bytes) (tid : TransferId)
    (localPath : Path) (remoteName : Bytes) (options : UploadOptions) :
    Result UInt64 × FileTransferClient :=
  if ¬ client.isConnected then
    (unexpected .notInitialized "Client is not connected", client)
  else
    match client.files localPath, sizeError with
    | none, _ =>
        (.error ⟨.fileNotFound, Text.ascii "Local file not found: " ++ localPath⟩, client)
    | some _, some message =>
        (.error ⟨.fileReadError, Text.ascii "Cannot get file size: " ++ message⟩, client)
    | some content, none =>
        let handleId := client.nextTransferId
        let fileSize := UInt64.ofNat content.length
        let chunkSize := UInt32.ofNat client.chunkSize
        let base := (TransferContextBase.initial tid).setState initializing
        let ctx : UploadContext :=
          { base with
            fileSize
            totalChunks := (fileSize + chunkSize.toUInt64 - 1) / chunkSize.toUInt64
            localPath
            remoteName
            options
            chunkSize
            fileHash := [] }
        -- The transfer itself is not implemented: it is marked as running.
        (.ok handleId,
          { client with
            nextTransferId := client.nextTransferId + 1
            statistics := { client.statistics with
              totalFilesUploaded := client.statistics.totalFilesUploaded + 1 }
          }.setUpload handleId (ctx.setState transferring))

/-- The context that `download_file` creates. -/
def newDownload (tid : TransferId) (remoteName : Bytes) (localPath : Path)
    (options : DownloadOptions) : DownloadContext :=
  { (TransferContextBase.initial tid).setState initializing with
    remoteName
    localPath
    tempPath := localPath ++ Text.ascii ".tmp"
    options
    chunkSize := 0
    expectedSha256 := []
    cancelled := false
    locked := false }

def downloadFile (client : FileTransferClient) (parent : ParentDirectory) (tid : TransferId)
    (remoteName : Bytes) (localPath : Path) (options : DownloadOptions) :
    Result UInt64 × FileTransferClient :=
  if ¬ client.isConnected then
    (unexpected .notInitialized "Client is not connected", client)
  else if remoteName = [] then
    (unexpected .invalidFilePath "Remote filename is empty", client)
  else if localPath = [] then
    (unexpected .invalidFilePath "Local path is empty", client)
  else if ¬ options.overwrite ∧ client.files.exist localPath then
    (.error ⟨.fileAlreadyExists, Text.ascii "File already exists: " ++ localPath⟩, client)
  else if localPath.parent ≠ [] ∧ ¬ parent.exist ∧ ¬ parent.created then
    (.error ⟨.fileAccessDenied, Text.ascii "Cannot create directory: " ++ localPath.parent⟩,
      client)
  else
    let handleId := client.nextTransferId
    (.ok handleId,
      { client with
        nextTransferId := client.nextTransferId + 1
        statistics := { client.statistics with
          totalFilesDownloaded := client.statistics.totalFilesDownloaded + 1 }
      }.setDownload handleId (newDownload tid remoteName localPath options))

/-! ## Calls on a download -/

/-- The error of a call on a download that does not exist. -/
def downloadNotFound : Result Unit :=
  unexpected .notInitialized "Download context not found"

def finalizeDownload (client : FileTransferClient) (disk : DiskOutcome) (handle : UInt64) :
    Completion Unit × FileTransferClient :=
  match client.downloadContexts handle with
  | none => (.returned downloadNotFound, client)
  | some ctx =>
      if ctx.locked then (.hangs, client)
      else
        let (result, ctx, files) := ctx.finalize disk client.files
        let statistics := match result with
          | .ok () => { client.statistics with
              totalBytesDownloaded :=
                client.statistics.totalBytesDownloaded + ctx.transferredBytes }
          | .error _ => client.statistics
        (.returned result, { client with files, statistics }.setDownload handle ctx)

/-- The end of `process_download_chunk`: a context that counted all its chunks
is finalized, while its mutex is still held. -/
def checkCompletion (client : FileTransferClient) (relock : Relock) (disk : DiskOutcome)
    (handle : UInt64) (ctx : DownloadContext) : Completion Unit × FileTransferClient :=
  if ctx.transferredChunks ≥ ctx.totalChunks then
    match relock with
    | .blocks => (.hangs, client.setDownload handle { ctx with locked := true })
    | .proceeds => client.finalizeDownload disk handle
  else (.returned (.ok ()), client)

def processDownloadChunk (client : FileTransferClient) (relock : Relock) (lz4 : Option Lz4)
    (disk : DiskOutcome) (handle : UInt64) (chunk : Chunk) :
    Completion Unit × FileTransferClient :=
  match client.downloadContexts handle with
  | none => (.returned downloadNotFound, client)
  | some ctx =>
      if ctx.locked then (.hangs, client)
      else
        match ctx.receiveChunk lz4 disk client.files chunk with
        | (.error failure, files) => (.returned (.error failure), { client with files })
        | (.ok ctx, files) =>
            ({ client with files }.setDownload handle ctx).checkCompletion relock disk handle ctx

/-- Whether `process_download_chunk` stores the chunk and counts it. -/
def accepts (client : FileTransferClient) (lz4 : Option Lz4) (disk : DiskOutcome)
    (handle : UInt64) (chunk : Chunk) : Bool :=
  match client.downloadContexts handle with
  | none => false
  | some ctx => !ctx.locked && ctx.stores lz4 disk chunk

def cancelDownload (client : FileTransferClient) (handle : UInt64) :
    Completion Unit × FileTransferClient :=
  match client.downloadContexts handle with
  | none => (.returned downloadNotFound, client)
  | some ctx =>
      if ctx.locked then (.hangs, client)
      else
        (.returned (.ok ()),
          { client with files := client.files.remove ctx.tempPath }.setDownload handle ctx.cancel)

def setDownloadMetadata (client : FileTransferClient) (disk : DiskOutcome) (handle : UInt64)
    (fileSize totalChunks : UInt64) (chunkSize : UInt32) (sha256Hash : Bytes) :
    Completion Unit × FileTransferClient :=
  match client.downloadContexts handle with
  | none => (.returned downloadNotFound, client)
  | some ctx =>
      if ctx.locked then (.hangs, client)
      else
        let (ctx, files) :=
          ctx.setMetadata disk client.files fileSize totalChunks chunkSize sha256Hash
        (.returned (.ok ()), { client with files }.setDownload handle ctx)

/-! ## Transfer control -/

/-- The error of a control call on a transfer that does not exist. -/
def transferNotFound (handle : UInt64) : Result Unit :=
  .error ⟨.transferNotFound, Text.ascii "Transfer not found: " ++ Text.decimal handle.toNat⟩

/-- The error of a control call in a state that does not permit it. -/
def cannot (code : ErrorCode) (verb : String) (state : InternalTransferState) : Result Unit :=
  .error ⟨code, Text.ascii "Cannot " ++ Text.ascii verb ++
    Text.ascii " transfer in current state: " ++ state.toTransferStatus.toText⟩

/-- What `pause_transfer` and `resume_transfer` share: the checked change of an
upload's or a download's state. -/
def changeState (client : FileTransferClient) (handle : UInt64)
    (target : InternalTransferState) (verb : String) : Completion Unit × FileTransferClient :=
  match client.uploadContexts handle, client.downloadContexts handle with
  | some ctx, _ =>
      if ¬ isValidTransition ctx.state target then
        (.returned (cannot .invalidStateTransition verb ctx.state), client)
      else (.returned (.ok ()), client.setUpload handle (ctx.setState target))
  | none, some ctx =>
      if ctx.locked then (.hangs, client)
      else if ¬ isValidTransition ctx.state target then
        (.returned (cannot .invalidStateTransition verb ctx.state), client)
      else (.returned (.ok ()), client.setDownload handle (ctx.setState target))
  | none, none => (.returned (transferNotFound handle), client)

def pauseTransfer (client : FileTransferClient) (handle : UInt64) :
    Completion Unit × FileTransferClient :=
  client.changeState handle paused "pause"

def resumeTransfer (client : FileTransferClient) (handle : UInt64) :
    Completion Unit × FileTransferClient :=
  client.changeState handle transferring "resume"

/-- `cancel_transfer`: checked for an upload, and `cancel_download` otherwise.  For that it
destroys the guard of `download_mutex` by hand, and the guard is destroyed again when it returns:
the mutex is unlocked twice, which is undefined. -/
def cancelTransfer (client : FileTransferClient) (handle : UInt64) :
    Completion Unit × FileTransferClient :=
  match client.uploadContexts handle, client.downloadContexts handle with
  | some ctx, _ =>
      if ¬ isValidTransition ctx.state cancelled then
        (.returned (cannot .transferAlreadyCompleted "cancel" ctx.state), client)
      else (.returned (.ok ()), client.setUpload handle (ctx.setState cancelled))
  | none, some _ =>
      match client.cancelDownload handle with
      | (.hangs, client) => (.hangs, client)
      | (_, client) => (.undefined, client)
  | none, none => (.returned (transferNotFound handle), client)

section Lemmas

variable (client : FileTransferClient) {handle other : UInt64}

@[simp]
theorem setDownload_self (ctx : DownloadContext) :
    (client.setDownload handle ctx).downloadContexts handle = some ctx := by
  simp [setDownload]

variable {ctx : DownloadContext}

theorem downloadFile_cases (parent : ParentDirectory) (tid : TransferId)
    (remoteName localPath : Bytes) (options : DownloadOptions) :
    (∃ failure, client.downloadFile parent tid remoteName localPath options =
      (.error failure, client)) ∨
    ∃ next, client.downloadFile parent tid remoteName localPath options =
        (.ok client.nextTransferId, next) ∧
      next.uploadContexts = client.uploadContexts ∧
      next.downloadContexts = Function.update client.downloadContexts client.nextTransferId
        (some (newDownload tid remoteName localPath options)) := by
  unfold downloadFile
  split
  · exact Or.inl ⟨_, rfl⟩
  split
  · exact Or.inl ⟨_, rfl⟩
  split
  · exact Or.inl ⟨_, rfl⟩
  split
  · exact Or.inl ⟨_, rfl⟩
  split
  · exact Or.inl ⟨_, rfl⟩
  · exact Or.inr ⟨_, rfl, rfl, rfl⟩

theorem downloadFile_eq_ok {client opened : FileTransferClient} {parent : ParentDirectory}
    {tid : TransferId} {remoteName localPath : Bytes} {options : DownloadOptions}
    (started : client.downloadFile parent tid remoteName localPath options =
      (.ok handle, opened)) :
    opened.downloadContexts handle = some (newDownload tid remoteName localPath options) := by
  rcases client.downloadFile_cases parent tid remoteName localPath options with
    ⟨failure, refused⟩ | ⟨next, begun, _, contexts⟩
  · rw [refused] at started
    simp at started
  · rw [begun] at started
    obtain ⟨same, rfl⟩ := Prod.mk.inj started
    rw [contexts, ← Except.ok.inj same, Function.update_self]

theorem uploadFile_cases (sizeError : Option Bytes) (tid : TransferId) (localPath : Path)
    (remoteName : Bytes) (options : UploadOptions) :
    (∃ failure, client.uploadFile sizeError tid localPath remoteName options =
      (.error failure, client)) ∨
    ∃ next ctx, client.uploadFile sizeError tid localPath remoteName options =
        (.ok client.nextTransferId, next) ∧
      next.downloadContexts = client.downloadContexts ∧
      next.uploadContexts =
        Function.update client.uploadContexts client.nextTransferId (some ctx) ∧
      ctx.states = [transferring, initializing, idle] := by
  unfold uploadFile
  split
  · exact Or.inl ⟨_, rfl⟩
  split
  · exact Or.inl ⟨_, rfl⟩
  · exact Or.inl ⟨_, rfl⟩
  · exact Or.inr ⟨_, _, rfl, rfl, rfl, rfl⟩

theorem finalizeDownload_contexts (present : client.downloadContexts handle = some ctx)
    (unlocked : ctx.locked = false) (disk : DiskOutcome) :
    (client.finalizeDownload disk handle).2.uploadContexts = client.uploadContexts ∧
      (client.finalizeDownload disk handle).2.downloadContexts =
        Function.update client.downloadContexts handle
          (some (ctx.finalize disk client.files).2.1) := by
  rw [finalizeDownload, present]
  dsimp only
  rw [unlocked, if_neg Bool.false_ne_true]
  exact ⟨rfl, rfl⟩

theorem checkCompletion_counters (present : client.downloadContexts handle = some ctx)
    (unlocked : ctx.locked = false) (relock : Relock) (disk : DiskOutcome) :
    ∃ ctx', (client.checkCompletion relock disk handle ctx).2.downloadContexts handle =
        some ctx' ∧
      ctx'.transferredChunks = ctx.transferredChunks ∧
      ctx'.transferredBytes = ctx.transferredBytes ∧
      ctx'.totalChunks = ctx.totalChunks ∧
      (ctx'.state = .completed →
        ctx.state = .completed ∨ ctx.totalChunks ≤ ctx.transferredChunks) := by
  unfold checkCompletion
  split
  · rename_i reached
    cases relock with
    | blocks => exact ⟨_, setDownload_self _ _, rfl, rfl, rfl, fun _ => Or.inr reached⟩
    | proceeds =>
        obtain ⟨chunks, bytes, total, _⟩ := ctx.finalize_frame disk client.files
        refine ⟨(ctx.finalize disk client.files).2.1, ?_, chunks, bytes, total,
          fun _ => Or.inr reached⟩
        dsimp only
        rw [(client.finalizeDownload_contexts present unlocked disk).2, Function.update_self]
  · exact ⟨ctx, present, rfl, rfl, rfl, Or.inl⟩

theorem processDownloadChunk_cases (relock : Relock) (lz4 : Option Lz4) (disk : DiskOutcome)
    (handle : UInt64) (chunk : Chunk) :
    (client.accepts lz4 disk handle chunk = false ∧
      (client.processDownloadChunk relock lz4 disk handle chunk).2.downloadContexts =
        client.downloadContexts ∧
      (client.processDownloadChunk relock lz4 disk handle chunk).2.uploadContexts =
        client.uploadContexts) ∨
    ∃ ctx received files, client.accepts lz4 disk handle chunk = true ∧
      client.downloadContexts handle = some ctx ∧ ctx.locked = false ∧
      ctx.receiveChunk lz4 disk client.files chunk = (.ok received, files) ∧
      client.processDownloadChunk relock lz4 disk handle chunk =
        ({ client with files }.setDownload handle received).checkCompletion relock disk handle
          received := by
  cases present : client.downloadContexts handle with
  | none => exact Or.inl (by simp [accepts, processDownloadChunk, present])
  | some ctx =>
      cases unlocked : ctx.locked with
      | true => exact Or.inl (by simp [accepts, processDownloadChunk, present, unlocked])
      | false =>
          have stores := ctx.receiveChunk_isOk lz4 disk client.files chunk
          rcases taken : ctx.receiveChunk lz4 disk client.files chunk with ⟨result, files⟩
          rw [taken] at stores
          cases result with
          | error failure =>
              have refused : ctx.stores lz4 disk chunk = false := stores.symm
              exact Or.inl (by
                simp [accepts, processDownloadChunk, present, unlocked, taken, refused])
          | ok received =>
              have stored : ctx.stores lz4 disk chunk = true := stores.symm
              refine Or.inr ⟨ctx, received, files, ?_, rfl, unlocked, taken, ?_⟩
              · simp [accepts, present, unlocked, stored]
              · simp [processDownloadChunk, present, unlocked, taken]

end Lemmas

end FileTransferClient

end FileTrans.Client
