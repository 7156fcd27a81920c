import FileTrans.Core.Checksum
import FileTrans.Core.Compression
import FileTrans.Storage.FileSystem

/-!
# Transfer contexts

A context carries the state and the progress of one transfer.  `history` is no
field of the source: it records the states that `state` held before, the latest
first, so that statements can speak of every change of the state.

`locked` says that a call which never returned still holds the mutex of the
context.

There are nine internal states of a transfer, a table of transitions that the
client declares valid, and the status that a caller sees.
-/

namespace FileTrans.Client

open FileTrans.Core
open FileTrans.Core.Checksum
open FileTrans.Storage

/-! ## States of a transfer -/

/-- `internal_transfer_state`; `download_state` is an alias of it. -/
inductive InternalTransferState
  | idle
  | initializing
  | transferring
  | paused
  | verifying
  | completing
  | completed
  | failed
  | cancelled
  deriving DecidableEq

namespace InternalTransferState

def isValidTransition (source target : InternalTransferState) : Bool :=
  if source = completed ∨ source = failed ∨ source = cancelled then false
  else if target = cancelled then true
  else
    match source with
    | idle => target = initializing
    | initializing => target = transferring ∨ target = failed
    | transferring =>
        target = paused ∨ target = verifying ∨ target = completing ∨ target = failed
    | paused => target = transferring ∨ target = failed
    | verifying => target = completing ∨ target = failed
    | completing => target = completed ∨ target = failed
    | _ => false

/-- The states that the table calls terminal. -/
def isTerminal (state : InternalTransferState) : Prop :=
  state = completed ∨ state = failed ∨ state = cancelled

instance : DecidablePred isTerminal := fun _ => inferInstanceAs (Decidable (_ ∨ _))

variable {source : InternalTransferState}

theorem isValidTransition_of_isTerminal (terminal : source.isTerminal)
    (target : InternalTransferState) : isValidTransition source target = false := by
  rcases terminal with rfl | rfl | rfl <;> rfl

theorem isValidTransition_cancelled (running : ¬ source.isTerminal) :
    isValidTransition source cancelled = true := by
  cases source <;> first | rfl | exact absurd (by simp [isTerminal]) running

/-- A change of state that the table allows; assigning the same state again is
no change. -/
def Allowed (source target : InternalTransferState) : Prop :=
  source ≠ target → isValidTransition source target = true

instance (source target : InternalTransferState) : Decidable (Allowed source target) :=
  inferInstanceAs (Decidable (_ → _))

theorem allowed_cancelled (notCompleted : source ≠ completed) (notFailed : source ≠ failed) :
    source.Allowed cancelled := by
  intro change
  apply isValidTransition_cancelled
  rintro (done | done | done)
  · exact notCompleted done
  · exact notFailed done
  · exact change done

end InternalTransferState

inductive TransferStatus
  | pending
  | inProgress
  | paused
  | completing
  | completed
  | failed
  | cancelled
  deriving DecidableEq

namespace TransferStatus

/-- `to_string(transfer_status)`. -/
def toText : TransferStatus → Bytes
  | pending => Text.ascii "pending"
  | inProgress => Text.ascii "in_progress"
  | paused => Text.ascii "paused"
  | completing => Text.ascii "completing"
  | completed => Text.ascii "completed"
  | failed => Text.ascii "failed"
  | cancelled => Text.ascii "cancelled"

def isTerminalStatus (status : TransferStatus) : Bool :=
  status = completed ∨ status = failed ∨ status = cancelled

end TransferStatus

def InternalTransferState.toTransferStatus : InternalTransferState → TransferStatus
  | idle => .pending
  | initializing => .pending
  | transferring => .inProgress
  | paused => .paused
  | verifying => .completing
  | completing => .completing
  | completed => .completed
  | failed => .failed
  | cancelled => .cancelled

/-! ## Contexts -/

/-- `transfer_context_base`, without its clock and condition variable. -/
structure TransferContextBase where
  tid : TransferId
  state : InternalTransferState
  fileSize : UInt64
  totalChunks : UInt64
  transferredChunks : UInt64
  transferredBytes : UInt64
  errorMessage : Bytes
  history : List InternalTransferState
  deriving DecidableEq

namespace TransferContextBase

/-- A context as it is constructed: idle, with nothing transferred. -/
def initial (tid : TransferId) : TransferContextBase :=
  { tid
    state := .idle
    fileSize := 0
    totalChunks := 0
    transferredChunks := 0
    transferredBytes := 0
    errorMessage := []
    history := [] }

/-- `state = next`. -/
def setState (base : TransferContextBase) (next : InternalTransferState) :
    TransferContextBase :=
  { base with state := next, history := base.state :: base.history }

/-- The states of the context from the latest to the first. -/
def states (base : TransferContextBase) : List InternalTransferState :=
  base.state :: base.history

/-- Every change of the state so far was allowed by the table. -/
def ChangesAllowed (base : TransferContextBase) : Prop :=
  base.states.IsChain fun later earlier => earlier.Allowed later

end TransferContextBase

structure UploadOptions where
  overwrite : Bool
  deriving DecidableEq

structure UploadContext extends TransferContextBase where
  localPath : Path
  remoteName : Bytes
  options : UploadOptions
  chunkSize : UInt32
  fileHash : Bytes
  deriving DecidableEq

structure DownloadOptions where
  overwrite : Bool
  verifyHash : Bool
  deriving DecidableEq

/-- `download_context`; `received_chunks` and `bytes_received` are references to
`transferred_chunks` and `transferred_bytes`. -/
structure DownloadContext extends TransferContextBase where
  remoteName : Bytes
  localPath : Path
  tempPath : Path
  options : DownloadOptions
  chunkSize : UInt32
  expectedSha256 : Bytes
  cancelled : Bool
  locked : Bool
  deriving DecidableEq

/-- `ctx->state = next` on an upload. -/
def UploadContext.setState (ctx : UploadContext) (next : InternalTransferState) :
    UploadContext :=
  { ctx with toTransferContextBase := ctx.toTransferContextBase.setState next }

namespace DownloadContext

/-- `ctx->state = next` on a download. -/
def setState (ctx : DownloadContext) (next : InternalTransferState) : DownloadContext :=
  { ctx with toTransferContextBase := ctx.toTransferContextBase.setState next }

/-- The data of a chunk as it is to be written: decompressed if needed. -/
def writeData (lz4 : Option Lz4) (chunk : Chunk) : Result Bytes :=
  if chunk.isCompressed then
    match decompress lz4 chunk.data chunk.header.originalSize.toNat with
    | .ok data => .ok data
    | .error _ => unexpected .internalError "Decompression failed"
  else .ok chunk.data

/-- Open the temp file for update; it is created if it does not exist. -/
def openTempFile (disk : DiskOutcome) (files : FileSystem) (tempPath : Path) :
    OutputStream × FileSystem :=
  let (file, files) := OutputStream.openExisting disk files tempPath
  if file.good then (file, files) else OutputStream.openFile disk files tempPath

/-- The part of `process_download_chunk` that works on the context, up to the
test for completion. -/
def receiveChunk (ctx : DownloadContext) (lz4 : Option Lz4) (disk : DiskOutcome)
    (files : FileSystem) (chunk : Chunk) : Result DownloadContext × FileSystem :=
  if ctx.cancelled then
    (unexpected .internalError "Download was cancelled", files)
  else if ¬ verifyCrc32 chunk.data chunk.header.checksum then
    (unexpected .chunkChecksumError "Chunk CRC32 verification failed", files)
  else
    match writeData lz4 chunk with
    | .error failure => (.error failure, files)
    | .ok data =>
        let (file, files) := openTempFile disk files ctx.tempPath
        if ¬ file.good then
          (.error ⟨.fileWriteError, Text.ascii "Cannot open temp file: " ++ ctx.tempPath⟩, files)
        else
          let file := file.seekp disk chunk.header.chunkOffset.toNat
          if ¬ file.good then (unexpected .fileWriteError "Seek failed", files)
          else
            let (file, files) := file.write disk files data
            if ¬ file.good then (unexpected .fileWriteError "Write failed", files)
            else
              let counted : DownloadContext :=
                { ctx with
                  transferredChunks := ctx.transferredChunks + 1
                  transferredBytes := ctx.transferredBytes + UInt64.ofNat data.length }
              (.ok (counted.setState .transferring), files)

theorem openTempFile_success (files : FileSystem) (tempPath : Path) :
    openTempFile .success files tempPath =
      (⟨tempPath, 0, true, true⟩, files.put tempPath ((files tempPath).getD [])) := by
  cases stored : files tempPath with
  | none =>
      simp [openTempFile, OutputStream.openExisting, OutputStream.openFile, FileSystem.exist,
        stored, DiskOutcome.success]
  | some content =>
      simp [openTempFile, OutputStream.openExisting, FileSystem.exist, stored,
        DiskOutcome.success, FileSystem.put]

theorem receiveChunk_success {ctx : DownloadContext} (running : ctx.cancelled = false)
    {lz4 : Option Lz4} {files : FileSystem} {chunk : Chunk} {data : Bytes}
    (verified : verifyCrc32 chunk.data chunk.header.checksum = true)
    (unpacked : writeData lz4 chunk = .ok data)
    (seekable : chunk.header.chunkOffset.toNat < streamOffsetBound) :
    ctx.receiveChunk lz4 .success files chunk =
      (.ok ({ ctx with
          transferredChunks := ctx.transferredChunks + 1
          transferredBytes := ctx.transferredBytes + UInt64.ofNat data.length
        }.setState .transferring),
        files.put ctx.tempPath (writeAt 0 ((files ctx.tempPath).getD [])
          chunk.header.chunkOffset.toNat data)) := by
  rw [receiveChunk, running, if_neg Bool.false_ne_true, if_neg (not_not.mpr verified), unpacked]
  dsimp only
  rw [openTempFile_success]
  dsimp only
  rw [if_neg (by simp), OutputStream.seekp_success _ rfl rfl seekable]
  dsimp only
  rw [if_neg (by simp), OutputStream.write_success _ _ rfl rfl,
    FileSystem.write_of_eq_some _ (FileSystem.put_self _ _ _), FileSystem.put_put]
  dsimp only
  rw [if_neg (by simp)]

/-- The checks that decide whether a chunk is written and counted. -/
def stores (ctx : DownloadContext) (lz4 : Option Lz4) (disk : DiskOutcome) (chunk : Chunk) :
    Bool :=
  !ctx.cancelled && verifyCrc32 chunk.data chunk.header.checksum &&
    (writeData lz4 chunk).isOk && disk.opens &&
    (disk.seeks && decide (chunk.header.chunkOffset.toNat < streamOffsetBound)) && disk.writes

theorem openTempFile_good (disk : DiskOutcome) (files : FileSystem) (tempPath : Path) :
    (openTempFile disk files tempPath).1.good = disk.opens ∧
      (openTempFile disk files tempPath).1.isOpen = disk.opens := by
  cases opens : disk.opens <;> cases present : files.exist tempPath <;>
    simp [openTempFile, OutputStream.openExisting, OutputStream.openFile, opens, present]

theorem receiveChunk_isOk (ctx : DownloadContext) (lz4 : Option Lz4) (disk : DiskOutcome)
    (files : FileSystem) (chunk : Chunk) :
    (ctx.receiveChunk lz4 disk files chunk).1.isOk = ctx.stores lz4 disk chunk := by
  obtain ⟨good, isOpen⟩ := openTempFile_good disk files ctx.tempPath
  unfold receiveChunk stores
  cases running : ctx.cancelled
  case true => rfl
  cases verified : verifyCrc32 chunk.data chunk.header.checksum
  case false => rfl
  cases unpacked : writeData lz4 chunk with
  | error failure => rfl
  | ok data =>
      dsimp only
      cases opens : disk.opens with
      | false => simp [good, opens, Except.isOk, Except.toBool]
      | true =>
          rw [opens] at good isOpen
          by_cases sought : disk.seeks = true ∧
              chunk.header.chunkOffset.toNat < streamOffsetBound
          · cases writes : disk.writes <;>
              simp [OutputStream.seekp, OutputStream.write, good, isOpen, sought, writes,
                unexpected, Except.isOk, Except.toBool]
          · simp [OutputStream.seekp, good, isOpen, sought, unexpected, Except.isOk, Except.toBool]

theorem receiveChunk_eq_ok {ctx received : DownloadContext} {lz4 : Option Lz4}
    {disk : DiskOutcome} {files files' : FileSystem} {chunk : Chunk}
    (taken : ctx.receiveChunk lz4 disk files chunk = (.ok received, files')) :
    ctx.cancelled = false ∧ verifyCrc32 chunk.data chunk.header.checksum = true ∧
      ∃ data, writeData lz4 chunk = .ok data ∧
        received = { ctx with
            transferredChunks := ctx.transferredChunks + 1
            transferredBytes := ctx.transferredBytes + UInt64.ofNat data.length
          }.setState .transferring := by
  unfold receiveChunk at taken
  split at taken
  · simp [unexpected] at taken
  rename_i running
  split at taken
  · simp [unexpected] at taken
  rename_i verified
  split at taken
  · simp at taken
  rename_i data unpacked
  refine ⟨Bool.eq_false_iff.mpr running, not_not.mp verified, data, unpacked, ?_⟩
  dsimp only at taken
  split at taken
  · simp at taken
  split at taken
  · simp [unexpected] at taken
  split at taken
  · simp [unexpected] at taken
  · exact (Except.ok.inj (congrArg Prod.fst taken)).symm

/-- Whether the hash is to be verified and is not that of the temp file. -/
def hashMismatch (ctx : DownloadContext) (disk : DiskOutcome) (files : FileSystem) : Bool :=
  ctx.options.verifyHash && ctx.expectedSha256 != [] &&
    !verifySha256 (if disk.opens then files ctx.tempPath else none) ctx.expectedSha256

/-- The part of `finalize_download` that works on the context. -/
def finalize (ctx : DownloadContext) (disk : DiskOutcome) (files : FileSystem) :
    Result Unit × DownloadContext × FileSystem :=
  let verifying := ctx.setState .verifying
  if ctx.hashMismatch disk files then
    (unexpected .fileHashMismatch "SHA-256 verification failed",
      { verifying.setState .failed with errorMessage := Text.ascii "SHA-256 hash mismatch" },
      files.remove ctx.tempPath)
  else
    let completing := verifying.setState .completing
    let files := if ctx.options.overwrite ∧ files.exist ctx.localPath then
      files.remove ctx.localPath else files
    match files.rename disk ctx.tempPath ctx.localPath with
    | .error message =>
        (.error ⟨.fileWriteError, Text.ascii "Cannot move temp file: " ++ message⟩,
          { completing.setState .failed with
            errorMessage := Text.ascii "Cannot move file: " ++ message }, files)
    | .ok files => (.ok (), completing.setState .completed, files)

/-- The three ways in which `finalize` ends: the hash does not match, the file
cannot be moved, or the download is completed. -/
theorem finalize_cases (ctx : DownloadContext) (disk : DiskOutcome) (files : FileSystem) :
    (∃ failure message, (ctx.finalize disk files).1 = .error failure ∧
      (ctx.finalize disk files).2.1 =
        { (ctx.setState .verifying).setState .failed with errorMessage := message }) ∨
    (∃ failure message, (ctx.finalize disk files).1 = .error failure ∧
      (ctx.finalize disk files).2.1 =
        { ((ctx.setState .verifying).setState .completing).setState .failed with
          errorMessage := message }) ∨
    ((ctx.finalize disk files).1 = .ok () ∧
      (ctx.finalize disk files).2.1 =
        ((ctx.setState .verifying).setState .completing).setState .completed) := by
  unfold finalize
  dsimp only
  split
  · exact Or.inl ⟨_, _, rfl, rfl⟩
  split
  · exact Or.inr (Or.inl ⟨_, _, rfl, rfl⟩)
  · exact Or.inr (Or.inr ⟨rfl, rfl⟩)

theorem finalize_frame (ctx : DownloadContext) (disk : DiskOutcome) (files : FileSystem) :
    (ctx.finalize disk files).2.1.transferredChunks = ctx.transferredChunks ∧
      (ctx.finalize disk files).2.1.transferredBytes = ctx.transferredBytes ∧
      (ctx.finalize disk files).2.1.totalChunks = ctx.totalChunks ∧
      (ctx.finalize disk files).2.1.cancelled = ctx.cancelled ∧
      (ctx.finalize disk files).2.1.locked = ctx.locked := by
  rcases ctx.finalize_cases disk files with ⟨_, _, _, final⟩ | ⟨_, _, _, final⟩ | ⟨_, final⟩ <;>
    rw [final] <;> exact ⟨rfl, rfl, rfl, rfl, rfl⟩

/-- The part of `set_download_metadata` that works on the context. -/
def setMetadata (ctx : DownloadContext) (disk : DiskOutcome) (files : FileSystem)
    (fileSize totalChunks : UInt64) (chunkSize : UInt32) (sha256Hash : Bytes) :
    DownloadContext × FileSystem :=
  let described : DownloadContext :=
    { ctx with fileSize, totalChunks, chunkSize, expectedSha256 := sha256Hash }
  let (file, files) := OutputStream.openFile disk files ctx.tempPath
  let files := if file.good ∧ fileSize > 0 then
    ((file.seekp disk (fileSize - 1).toNat).write disk files [0]).2 else files
  (described.setState .transferring, files)

/-- The part of `cancel_download` that works on the context. -/
def cancel (ctx : DownloadContext) : DownloadContext :=
  { ctx with cancelled := true }.setState .cancelled

end DownloadContext

end FileTrans.Client
