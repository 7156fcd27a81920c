import FileTrans.Client.FileTransferClient

/-!
# Batches of transfers

`upload_files` and `download_files` start transfers until `max_concurrent` of them run, and
fill the list of transfer ids up with zeros for the rest.  No worker starts the rest later.

`attempts` is no field of the source: it records what the calls returned that started the
transfers, so that statements can tell the files of a batch apart.
-/

namespace FileTrans.Client

open Core Storage

/-- `batch_file_result`, without the time it took. -/
structure BatchFileResult where
  filename : Bytes
  success : Bool
  bytesTransferred : UInt64
  errorMessage : Option Bytes
  deriving DecidableEq

/-- A result that was only default-constructed. -/
def BatchFileResult.empty : BatchFileResult :=
  ⟨[], false, 0, none⟩

/-- `batch_options`; the compression override is only passed on. -/
structure BatchOptions where
  maxConcurrent : Nat
  continueOnError : Bool
  overwrite : Bool
  deriving DecidableEq

inductive BatchDirection
  | upload
  | download
  deriving DecidableEq

/-- `batch_context`, without its clock, its condition variable and the two flags that only
pausing, resuming and cancelling use. -/
structure BatchContext where
  direction : BatchDirection
  options : BatchOptions
  transferIds : List UInt64
  filenames : List Bytes
  completedCount : UInt64
  failedCount : UInt64
  inProgressCount : UInt64
  totalBytes : UInt64
  transferredBytes : UInt64
  fileResults : List BatchFileResult
  attempts : List (Option UInt64)
  deriving DecidableEq

/-- `batch_progress`, without the rate. -/
structure BatchProgress where
  totalFiles : UInt64
  completedFiles : UInt64
  failedFiles : UInt64
  inProgressFiles : UInt64
  totalBytes : UInt64
  transferredBytes : UInt64
  deriving DecidableEq

def BatchProgress.pendingFiles (progress : BatchProgress) : UInt64 :=
  progress.totalFiles - progress.completedFiles - progress.failedFiles - progress.inProgressFiles

theorem BatchProgress.pendingFiles_of_le {progress : BatchProgress}
    (fits : progress.completedFiles.toNat + progress.failedFiles.toNat +
      progress.inProgressFiles.toNat ≤ progress.totalFiles.toNat) :
    progress.pendingFiles.toNat = progress.totalFiles.toNat - progress.completedFiles.toNat -
      progress.failedFiles.toNat - progress.inProgressFiles.toNat := by
  have first := UInt64.toNat_sub_of_le progress.totalFiles progress.completedFiles
    (UInt64.le_iff_toNat_le.mpr (by omega))
  have second := UInt64.toNat_sub_of_le (progress.totalFiles - progress.completedFiles)
    progress.failedFiles (UInt64.le_iff_toNat_le.mpr (by omega))
  rw [pendingFiles, UInt64.toNat_sub_of_le _ _ (UInt64.le_iff_toNat_le.mpr (by omega)), second,
    first]

/-- `batch_result`, without the time it took. -/
structure BatchResult where
  totalFiles : Nat
  succeeded : UInt64
  failed : UInt64
  totalBytes : UInt64
  fileResults : List BatchFileResult
  deriving DecidableEq

namespace BatchContext

def getProgress (batch : BatchContext) : BatchProgress :=
  ⟨UInt64.ofNat batch.transferIds.length, batch.completedCount, batch.failedCount,
    batch.inProgressCount, batch.totalBytes, batch.transferredBytes⟩

def getResult (batch : BatchContext) : BatchResult :=
  ⟨batch.transferIds.length, batch.completedCount, batch.failedCount, batch.transferredBytes,
    batch.fileResults⟩

/-- A batch before its first transfer. -/
def initial (direction : BatchDirection) (options : BatchOptions) (filenames : List Bytes)
    (totalBytes : UInt64) : BatchContext :=
  { direction
    options
    transferIds := []
    filenames
    completedCount := 0
    failedCount := 0
    inProgressCount := 0
    totalBytes
    transferredBytes := 0
    fileResults := List.replicate filenames.length .empty
    attempts := [] }

/-- A transfer was started. -/
def recordStarted (batch : BatchContext) (handle : UInt64) : BatchContext :=
  { batch with
    transferIds := batch.transferIds ++ [handle]
    inProgressCount := batch.inProgressCount + 1
    attempts := batch.attempts ++ [some handle] }

/-- The transfer of the file with this index could not be started. -/
def recordFailed (batch : BatchContext) (index : Nat) (filename message : Bytes) : BatchContext :=
  { batch with
    transferIds := batch.transferIds ++ [0]
    failedCount := batch.failedCount + 1
    fileResults := batch.fileResults.set index ⟨filename, false, 0, some message⟩
    attempts := batch.attempts ++ [none] }

/-- The remaining files are queued: a zero for each index from `started` on. -/
def queueRemaining (batch : BatchContext) (count started : Nat) : BatchContext :=
  { batch with transferIds := batch.transferIds ++ List.replicate (count - started) 0 }

end BatchContext

/-! ## Starting a batch -/

/-- What the loop of `upload_files` and `download_files` knows of a file: its name in the
results, and the call that starts its transfer. -/
structure BatchEntry where
  filename : Bytes
  start : FileTransferClient → Result UInt64 × FileTransferClient

/-- The loop that starts transfers, from the file with the given index on.  It ends with the
number of transfers that were started, or with the first failure unless failures are
passed over. -/
def startTransfers (failure : String) (options : BatchOptions) :
    List BatchEntry → Nat → Nat → BatchContext → FileTransferClient →
      Result (Nat × BatchContext) × FileTransferClient
  | [], _, started, batch, client => (.ok (started, batch), client)
  | entry :: rest, index, started, batch, client =>
      if started < options.maxConcurrent then
        match entry.start client with
        | (.ok handle, client) =>
            startTransfers failure options rest (index + 1) (started + 1)
              (batch.recordStarted handle) client
        | (.error error, client) =>
            if ¬ options.continueOnError then
              (.error ⟨.internalError, Text.ascii failure ++ error.message⟩, client)
            else
              startTransfers failure options rest (index + 1) started
                (batch.recordFailed index entry.filename error.message) client
      else (.ok (started, batch), client)

/-- What `upload_files` and `download_files` share once the batch context is prepared. -/
def startBatch (failure : String) (options : BatchOptions) (entries : List BatchEntry)
    (batch : BatchContext) (client : FileTransferClient) :
    Result BatchContext × FileTransferClient :=
  match startTransfers failure options entries 0 0 batch client with
  | (.ok (started, batch), client) => (.ok (batch.queueRemaining entries.length started), client)
  | (.error error, client) => (.error error, client)

/-- `upload_entry`, with the answers that `upload_file` will need for it. -/
structure UploadEntry where
  localPath : Path
  remoteName : Bytes
  sizeError : Option Bytes
  tid : TransferId

/-- The remote name of an entry, by default the last name of the local path. -/
def UploadEntry.name (entry : UploadEntry) : Bytes :=
  if entry.remoteName = [] then (entry.localPath.reverse.takeWhile (· != 0x2f)).reverse
  else entry.remoteName

/-- `download_entry`, with the answers that `download_file` will need for it. -/
structure DownloadEntry where
  remoteName : Bytes
  localPath : Path
  parent : ParentDirectory
  tid : TransferId

namespace FileTransferClient

/-- `upload_files`; the batch is returned in place of its handle. -/
def uploadFiles (client : FileTransferClient) (files : List UploadEntry)
    (options : BatchOptions) : Result BatchContext × FileTransferClient :=
  if ¬ client.isConnected then
    (unexpected .notInitialized "Client is not connected", client)
  else if files = [] then
    (unexpected .invalidFilePath "No files specified for upload", client)
  else
    match files.find? fun entry => !client.files.exist entry.localPath with
    | some entry =>
        (.error ⟨.fileNotFound, Text.ascii "File not found: " ++ entry.localPath⟩, client)
    | none =>
        let sizes := files.map fun entry =>
          if entry.sizeError.isNone then ((client.files entry.localPath).getD []).length else 0
        let entries := files.map fun entry =>
          ⟨entry.name, fun client => client.uploadFile entry.sizeError entry.tid
            entry.localPath entry.name ⟨options.overwrite⟩⟩
        startBatch "Failed to start upload: " options entries
          (.initial .upload options (files.map UploadEntry.name) (UInt64.ofNat sizes.sum)) client

/-- `download_files`; the batch is returned in place of its handle. -/
def downloadFiles (client : FileTransferClient) (files : List DownloadEntry)
    (options : BatchOptions) : Result BatchContext × FileTransferClient :=
  if ¬ client.isConnected then
    (unexpected .notInitialized "Client is not connected", client)
  else if files = [] then
    (unexpected .invalidFilePath "No files specified for download", client)
  else
    let entries := files.map fun entry =>
      ⟨entry.remoteName, fun client => client.downloadFile entry.parent entry.tid
        entry.remoteName entry.localPath ⟨options.overwrite, true⟩⟩
    startBatch "Failed to start download: " options entries
      (.initial .download options (files.map DownloadEntry.remoteName) 0) client

end FileTransferClient

/-! ## What a started batch looks like -/

/-- The file was given a transfer. -/
def BatchContext.wasStarted (batch : BatchContext) (index : Nat) : Bool :=
  (batch.attempts.getD index none).isSome

/-- The transfer of the file could not be started. -/
def BatchContext.wasRefused (batch : BatchContext) (index : Nat) : Bool :=
  batch.attempts[index]? == some none

/-- The counters and the ids of a batch say what was attempted. -/
structure BatchContext.Attempted (batch : BatchContext) : Prop where
  ids_eq : batch.transferIds = batch.attempts.map (·.getD 0)
  completed_eq : batch.completedCount = 0
  failed_eq : batch.failedCount = UInt64.ofNat (batch.attempts.countP Option.isNone)
  inProgress_eq : batch.inProgressCount = UInt64.ofNat (batch.attempts.countP Option.isSome)

/-- A batch of `count` files that was just started. -/
structure BatchContext.Started (batch : BatchContext) (count : Nat) : Prop where
  attempts_le : batch.attempts.length ≤ count
  ids_eq : batch.transferIds = batch.attempts.map (·.getD 0) ++
    List.replicate (count - batch.attempts.countP Option.isSome) 0
  completed_eq : batch.completedCount = 0
  failed_eq : batch.failedCount = UInt64.ofNat (batch.attempts.countP Option.isNone)
  inProgress_eq : batch.inProgressCount = UInt64.ofNat (batch.attempts.countP Option.isSome)

namespace BatchContext.Attempted

variable {batch : BatchContext}

theorem initial (direction : BatchDirection) (options : BatchOptions) (filenames : List Bytes)
    (totalBytes : UInt64) :
    (BatchContext.initial direction options filenames totalBytes).Attempted :=
  ⟨rfl, rfl, rfl, rfl⟩

theorem recordStarted (attempted : batch.Attempted) (handle : UInt64) :
    (batch.recordStarted handle).Attempted where
  ids_eq := by
    simp [BatchContext.recordStarted, attempted.ids_eq]
  completed_eq := attempted.completed_eq
  failed_eq := by
    simp [BatchContext.recordStarted, attempted.failed_eq]
  inProgress_eq := by
    simp [BatchContext.recordStarted, attempted.inProgress_eq]

theorem recordFailed (attempted : batch.Attempted) (index : Nat) (filename message : Bytes) :
    (batch.recordFailed index filename message).Attempted where
  ids_eq := by
    simp [BatchContext.recordFailed, attempted.ids_eq]
  completed_eq := attempted.completed_eq
  failed_eq := by
    simp [BatchContext.recordFailed, attempted.failed_eq]
  inProgress_eq := by
    simp [BatchContext.recordFailed, attempted.inProgress_eq]

end BatchContext.Attempted

theorem startTransfers_eq_ok {failure : String} {options : BatchOptions}
    {entries : List BatchEntry} {index started final : Nat} {batch reached : BatchContext}
    {client client' : FileTransferClient} (attempted : batch.Attempted)
    (counted : batch.attempts.countP Option.isSome = started)
    (ran : startTransfers failure options entries index started batch client =
      (.ok (final, reached), client')) :
    reached.Attempted ∧ reached.attempts.countP Option.isSome = final ∧
      reached.attempts.length ≤ batch.attempts.length + entries.length := by
  induction entries generalizing index started batch client with
  | nil =>
      obtain ⟨same, -⟩ := Prod.mk.inj ran
      obtain ⟨rfl, rfl⟩ := Prod.mk.inj (Except.ok.inj same)
      exact ⟨attempted, counted, Nat.le_add_right _ _⟩
  | cons entry rest ih =>
      rw [startTransfers] at ran
      split at ran
      · split at ran
        · have later := ih (attempted.recordStarted _)
            (by simp [BatchContext.recordStarted, counted]) ran
          simp only [BatchContext.recordStarted, List.length_append, List.length_singleton] at later
          refine ⟨later.1, later.2.1, ?_⟩
          rw [List.length_cons]
          omega
        · split at ran
          · cases ran
          · have later := ih (attempted.recordFailed _ _ _)
              (by simp [BatchContext.recordFailed, counted]) ran
            simp only [BatchContext.recordFailed, List.length_append, List.length_singleton]
              at later
            refine ⟨later.1, later.2.1, ?_⟩
            rw [List.length_cons]
            omega
      · obtain ⟨same, -⟩ := Prod.mk.inj ran
        obtain ⟨rfl, rfl⟩ := Prod.mk.inj (Except.ok.inj same)
        exact ⟨attempted, counted, Nat.le_add_right _ _⟩

theorem startBatch_eq_ok {failure : String} {options : BatchOptions} {entries : List BatchEntry}
    {direction : BatchDirection} {filenames : List Bytes} {totalBytes : UInt64}
    {batch : BatchContext} {client client' : FileTransferClient}
    (ran : startBatch failure options entries (.initial direction options filenames totalBytes)
      client = (.ok batch, client')) :
    batch.Started entries.length := by
  rw [startBatch] at ran
  split at ran
  · rename_i started reached reachedClient loop
    obtain ⟨same, -⟩ := Prod.mk.inj ran
    obtain ⟨attempted, counted, bounded⟩ := startTransfers_eq_ok (.initial _ _ _ _) rfl loop
    rw [← Except.ok.inj same]
    constructor
    · exact bounded.trans_eq (Nat.zero_add _)
    · rw [BatchContext.queueRemaining, attempted.ids_eq, counted]
    · exact attempted.completed_eq
    · exact attempted.failed_eq
    · exact attempted.inProgress_eq
  · cases ran

/-- Either of the two ways to start a batch; a `std::span` has less than `2 ^ 63`
elements. -/
inductive StartsBatch (count : Nat) (batch : BatchContext) : Prop
  | upload (client client' : FileTransferClient) (files : List UploadEntry)
      (options : BatchOptions) (length_eq : files.length = count) (addressable : count < 2 ^ 63)
      (ran : client.uploadFiles files options = (.ok batch, client'))
  | download (client client' : FileTransferClient) (files : List DownloadEntry)
      (options : BatchOptions) (length_eq : files.length = count) (addressable : count < 2 ^ 63)
      (ran : client.downloadFiles files options = (.ok batch, client'))

theorem StartsBatch.started {count : Nat} {batch : BatchContext}
    (starts : StartsBatch count batch) : batch.Started count ∧ count < 2 ^ 63 := by
  cases starts with
  | upload client client' files options length_eq addressable ran =>
      refine ⟨?_, addressable⟩
      rw [FileTransferClient.uploadFiles] at ran
      split at ran
      · cases ran
      split at ran
      · cases ran
      split at ran
      · cases ran
      · have started := startBatch_eq_ok ran
        rwa [List.length_map, length_eq] at started
  | download client client' files options length_eq addressable ran =>
      refine ⟨?_, addressable⟩
      rw [FileTransferClient.downloadFiles] at ran
      split at ran
      · cases ran
      split at ran
      · cases ran
      · have started := startBatch_eq_ok ran
        rwa [List.length_map, length_eq] at started

end FileTrans.Client
