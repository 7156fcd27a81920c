import FileTrans.Core.Checksum
import FileTrans.Encryption.AesGcm
import FileTrans.Storage.FileSystem

/-!
# The jobs of the server pipeline

Each stage of the pipeline is a job that takes a chunk, works on it and asks
the thread pool to take the job of the next stage.  An upload passes
decompress, decrypt, verify and write; a download passes read, encrypt,
compress and send.  `process` is what a job makes of its chunk, and `doWork`
adds the cancellation token, the running flag and the answer of the pool.
-/

namespace FileTrans.Server

open FileTrans.Core
open FileTrans.Core.Checksum
open FileTrans.Encryption
open FileTrans.Storage

structure PipelineChunk where
  id : TransferId
  chunkIndex : UInt64
  data : Bytes
  checksum : UInt32
  isCompressed : Bool
  originalSize : Nat
  isEncrypted : Bool
  encMetadata : Option EncryptionMetadata
  deriving DecidableEq

inductive PipelineStage
  | networkRecv
  | decompress
  | decrypt
  | chunkVerify
  | fileWrite
  | networkSend
  | fileRead
  | encrypt
  | compress
  deriving DecidableEq

/-- `pipeline_context`: the queues that exist, the compression engines, of
which there is at least one, and the encryption engines. -/
structure PipelineContext where
  encryptionEnabled : Bool
  decryptQueue : Bool
  verifyQueue : Bool
  writeQueue : Bool
  encryptQueue : Bool
  compressQueue : Bool
  sendQueue : Bool
  compressionEngines : List CompressionLevel
  engines_ne_nil : compressionEngines ≠ []
  encryptionEngines : List AesGcmEngine

/-- The compression engine that a worker uses. -/
def PipelineContext.engine (context : PipelineContext) (workerId : Nat) : CompressionLevel :=
  context.compressionEngines.get
    ⟨workerId % context.compressionEngines.length,
      Nat.mod_lt _ (List.length_pos_iff.mpr context.engines_ne_nil)⟩

/-- The encryption engine that a worker uses, if there is any. -/
def PipelineContext.encryptionEngine (context : PipelineContext) (workerId : Nat) :
    Option AesGcmEngine :=
  context.encryptionEngines[workerId % context.encryptionEngines.length]?

variable {context : PipelineContext}

theorem PipelineContext.mem_of_encryptionEngine {workerId : Nat} {engine : AesGcmEngine}
    (used : context.encryptionEngine workerId = some engine) : engine ∈ context.encryptionEngines :=
  List.mem_of_getElem? used

/-- The libraries that the program is built with. -/
structure Libraries where
  lz4 : Option Lz4
  aes : Option AesGcm

/-- What a job reads from the machine: the files, how the disk answers, and the
bytes that `RAND_bytes` fills in. -/
structure JobResources where
  files : FileSystem
  disk : DiskOutcome
  random : Option Bytes

/-- What surrounds one execution of a job: its cancellation token, the running
flag of the pipeline, and whether the thread pool takes a further job. -/
structure JobEnvironment where
  isCancelled : Bool
  isRunning : Bool
  accepts : Bool
  deriving DecidableEq

/-- The thread error codes that the jobs return. -/
inductive JobErrorCode
  | operationCanceled
  | jobExecutionFailed
  | queueFull
  deriving DecidableEq

structure ReadJob where
  id : TransferId
  chunkIndex : UInt64
  filePath : Path
  offset : UInt64
  size : Nat
  deriving DecidableEq

/-- The jobs, with the chunk and the worker that each holds. -/
inductive Job
  | decompress (chunk : PipelineChunk) (workerId : Nat)
  | decrypt (chunk : PipelineChunk) (workerId : Nat)
  | verify (chunk : PipelineChunk)
  | write (chunk : PipelineChunk)
  | read (request : ReadJob)
  | encrypt (chunk : PipelineChunk) (workerId : Nat)
  | compress (chunk : PipelineChunk) (workerId : Nat)
  | send (chunk : PipelineChunk)
  deriving DecidableEq

/-- How `do_work` ends. -/
inductive JobOutcome
  /-- An error is returned, and nothing is reported. -/
  | error (code : JobErrorCode) (message : Bytes)
  /-- `report_error(stage, report)`, and `job_execution_failed` is returned. -/
  | failed (stage : PipelineStage) (report message : Bytes)
  /-- An exception of `std::vector` leaves the job. -/
  | threw
  /-- Success without passing the chunk on. -/
  | finished
  | enqueued (job : Job)
  /-- `on_upload_complete_cb` was called for the chunk. -/
  | uploaded (chunk : PipelineChunk)
  /-- `on_download_ready_cb` was called with the chunk. -/
  | delivered (chunk : PipelineChunk)
  /-- The wait for bandwidth never ends. -/
  | blocked
  deriving DecidableEq

/-- `std::vector<std::byte>::max_size`; a longer vector is a `length_error`. -/
def maxVectorSize : Nat := 2 ^ 63 - 1

/-! ## The stages of an upload -/

/-- The hand-over at the end of `decompress_job::do_work`. -/
def PipelineContext.afterDecompress (context : PipelineContext) (chunk : PipelineChunk)
    (workerId : Nat) : JobOutcome :=
  if context.encryptionEnabled ∧ chunk.isEncrypted ∧ context.decryptQueue then
    .enqueued (.decrypt chunk workerId)
  else if context.verifyQueue then .enqueued (.verify chunk)
  else .finished

/-- `decompress` allocates its output before it calls LZ4. -/
def decompressThrows (lz4 : Option Lz4) (chunk : PipelineChunk) : Bool :=
  lz4.isSome && chunk.data != [] && decide (maxVectorSize < chunk.originalSize)

/-- `decompress_job::do_work`. -/
def decompressJob (lz4 : Option Lz4) (context : PipelineContext) (chunk : PipelineChunk)
    (workerId : Nat) : JobOutcome :=
  if chunk.isCompressed then
    if decompressThrows lz4 chunk then .threw
    else
      match Core.decompress lz4 chunk.data chunk.originalSize with
      | .ok data => context.afterDecompress { chunk with data, isCompressed := false } workerId
      | .error failure =>
          .failed .decompress failure.message
            (Text.ascii "Decompression failed for chunk " ++
              Text.decimal chunk.chunkIndex.toNat ++ Text.ascii ": " ++ failure.message)
  else context.afterDecompress chunk workerId

/-- What the decrypt stage makes of a chunk.  A chunk without metadata, or that
meets no engine with a key, stays as it is. -/
def decryptStage (aes : Option AesGcm) (context : PipelineContext) (chunk : PipelineChunk)
    (workerId : Nat) : Result PipelineChunk :=
  match aes with
  | none => .ok { chunk with isEncrypted := false }
  | some aes =>
      match context.encryptionEngine workerId, chunk.encMetadata with
      | some engine, some metadata =>
          if engine.hasKey then
            (engine.decryptChunk aes chunk.data metadata).map fun plaintext =>
              { chunk with data := plaintext, isEncrypted := false, encMetadata := none }
          else .ok chunk
      | _, _ => .ok chunk

/-- `decrypt_job::do_work`. -/
def decryptJob (aes : Option AesGcm) (context : PipelineContext) (chunk : PipelineChunk)
    (workerId : Nat) : JobOutcome :=
  match decryptStage aes context chunk workerId with
  | .ok chunk => if context.verifyQueue then .enqueued (.verify chunk) else .finished
  | .error failure =>
      .failed .decrypt failure.message
        (Text.ascii "Decryption failed for chunk " ++
          Text.decimal chunk.chunkIndex.toNat ++ Text.ascii ": " ++ failure.message)

/-- `verify_job::do_work`. -/
def verifyJob (context : PipelineContext) (chunk : PipelineChunk) : JobOutcome :=
  let calculated := crc32 chunk.data
  if calculated ≠ chunk.checksum then
    let errorMsg := Text.ascii "Checksum mismatch for chunk " ++
      Text.decimal chunk.chunkIndex.toNat ++ Text.ascii " (expected: " ++
      Text.decimal chunk.checksum.toNat ++ Text.ascii ", got: " ++
      Text.decimal calculated.toNat ++ Text.ascii ")"
    .failed .chunkVerify errorMsg errorMsg
  else if context.writeQueue then .enqueued (.write chunk)
  else .finished

/-- `write_job::do_work`. -/
def writeJob (chunk : PipelineChunk) : JobOutcome :=
  .uploaded chunk

/-! ## The stages of a download -/

/-- `read_job::do_work`. -/
def ReadJob.process (job : ReadJob) (context : PipelineContext) (files : FileSystem)
    (disk : DiskOutcome) : JobOutcome :=
  match files job.filePath, disk.opens with
  | some content, true =>
      let file := (InputStream.openFile content).seekg job.offset.toNat
      if ¬ file.good then
        let errorMsg := Text.ascii "Failed to seek in file: " ++ job.filePath
        .failed .fileRead errorMsg errorMsg
      else if maxVectorSize < job.size then .threw
      else
        let data := (file.read job.size).1
        let chunk : PipelineChunk :=
          { id := job.id
            chunkIndex := job.chunkIndex
            data
            checksum := crc32 data
            isCompressed := false
            originalSize := if data.length < job.size then data.length else job.size
            isEncrypted := false
            encMetadata := none }
        let workerId := job.chunkIndex.toNat
        if context.encryptionEnabled ∧ context.encryptQueue then
          .enqueued (.encrypt chunk workerId)
        else if context.compressQueue then .enqueued (.compress chunk workerId)
        else .finished
  | _, _ =>
      let errorMsg := Text.ascii "Failed to open file: " ++ job.filePath
      .failed .fileRead errorMsg errorMsg

/-- What the encrypt stage makes of a chunk.  A chunk that meets no engine with
a key stays as it is. -/
def encryptStage (aes : Option AesGcm) (context : PipelineContext) (random : Option Bytes)
    (chunk : PipelineChunk) (workerId : Nat) : Result PipelineChunk :=
  match aes with
  | none => .ok chunk
  | some aes =>
      match context.encryptionEngine workerId with
      | some engine =>
          if engine.hasKey then
            (engine.encryptChunk aes random chunk.data chunk.chunkIndex).map fun result =>
              { chunk with data := result.1, isEncrypted := true, encMetadata := some result.2 }
          else .ok chunk
      | none => .ok chunk

/-- `encrypt_job::do_work`. -/
def encryptJob (aes : Option AesGcm) (context : PipelineContext) (random : Option Bytes)
    (chunk : PipelineChunk) (workerId : Nat) : JobOutcome :=
  match encryptStage aes context random chunk workerId with
  | .ok chunk => if context.compressQueue then .enqueued (.compress chunk workerId) else .finished
  | .error failure =>
      .failed .encrypt failure.message
        (Text.ascii "Encryption failed for chunk " ++
          Text.decimal chunk.chunkIndex.toNat ++ Text.ascii ": " ++ failure.message)

/-- What the compress stage makes of a chunk. -/
def compressChunk (lz4 : Option Lz4) (level : CompressionLevel) (chunk : PipelineChunk) :
    PipelineChunk :=
  if isCompressible lz4 chunk.data then
    match Core.compress lz4 level chunk.data with
    | .ok block =>
        if block.length < chunk.data.length then
          { chunk with originalSize := chunk.data.length, data := block, isCompressed := true }
        else chunk
    | .error _ => chunk
  else chunk

/-- `compress_job::do_work`. -/
def compressJob (lz4 : Option Lz4) (context : PipelineContext) (chunk : PipelineChunk)
    (workerId : Nat) : JobOutcome :=
  let chunk := compressChunk lz4 (context.engine workerId) chunk
  if context.sendQueue then .enqueued (.send chunk) else .finished

/-- `send_job::do_work`, once the send limiter has let the chunk through. -/
def sendJob (chunk : PipelineChunk) : JobOutcome :=
  .delivered chunk

/-! ## Executing a job -/

namespace Job

/-- The message of a job whose token is cancelled. -/
def cancelledMessage : Job → String
  | decompress _ _ => "Decompress job cancelled"
  | decrypt _ _ => "Decrypt job cancelled"
  | verify _ => "Verify job cancelled"
  | write _ => "Write job cancelled"
  | read _ => "Read job cancelled"
  | encrypt _ _ => "Encrypt job cancelled"
  | compress _ _ => "Compress job cancelled"
  | send _ => "Send job cancelled"

/-- The message of a job that cannot enqueue this one.  Nothing enqueues a
decompress or a read job but the two submissions. -/
def refusedMessage : Job → String
  | decrypt _ _ => "Failed to enqueue decrypt job"
  | verify _ => "Failed to enqueue verify job"
  | write _ => "Failed to enqueue write job"
  | encrypt _ _ => "Failed to enqueue encrypt job"
  | compress _ _ => "Failed to enqueue compress job"
  | send _ => "Failed to enqueue send job"
  | decompress _ _ => "Queue full - backpressure applied"
  | read _ => "Queue full - backpressure applied"

/-- What the job makes of its chunk; `enqueued` is the job it asks the pool to take. -/
def process (libraries : Libraries) (context : PipelineContext) (resources : JobResources) :
    Job → JobOutcome
  | decompress chunk workerId => decompressJob libraries.lz4 context chunk workerId
  | decrypt chunk workerId => decryptJob libraries.aes context chunk workerId
  | verify chunk => verifyJob context chunk
  | write chunk => writeJob chunk
  | read request => request.process context resources.files resources.disk
  | encrypt chunk workerId => encryptJob libraries.aes context resources.random chunk workerId
  | compress chunk workerId => compressJob libraries.lz4 context chunk workerId
  | send chunk => sendJob chunk

/-- `do_work`: the two checks, the work, and the answer of the pool to the hand-over. -/
def doWork (libraries : Libraries) (context : PipelineContext) (env : JobEnvironment)
    (resources : JobResources) (job : Job) : JobOutcome :=
  if env.isCancelled then .error .operationCanceled (Text.ascii job.cancelledMessage)
  else if ¬ env.isRunning then .finished
  else
    match job.process libraries context resources with
    | .enqueued next =>
        if env.accepts then .enqueued next
        else .error .queueFull (Text.ascii next.refusedMessage)
    | outcome => outcome

section

variable {libraries : Libraries} {context : PipelineContext} {env : JobEnvironment}
variable {resources : JobResources} {job next : Job} {chunk : PipelineChunk}

theorem doWork_of_permitted :
    job.doWork libraries context ⟨false, true, true⟩ resources =
      job.process libraries context resources := by
  unfold doWork
  rw [if_neg Bool.false_ne_true, if_neg (fun stopped => stopped rfl)]
  split
  · rename_i next handed
    rw [if_pos rfl, handed]
  · rfl

theorem process_of_enqueued
    (queued : job.doWork libraries context env resources = .enqueued next) :
    job.process libraries context resources = .enqueued next := by
  unfold doWork at queued
  split at queued
  · contradiction
  split at queued
  · contradiction
  split at queued
  · rename_i handed processed
    split at queued
    · rw [processed, queued]
    · contradiction
  · exact queued

theorem process_of_delivered
    (delivered : job.doWork libraries context env resources = .delivered chunk) :
    job.process libraries context resources = .delivered chunk := by
  unfold doWork at delivered
  split at delivered
  · contradiction
  split at delivered
  · contradiction
  split at delivered
  · split at delivered <;> contradiction
  · exact delivered

end

end Job

theorem compressChunk_cases (lz4 : Option Lz4) (level : CompressionLevel)
    (chunk : PipelineChunk) :
    (compressChunk lz4 level chunk = chunk ∧
      (isCompressible lz4 chunk.data = true → ∀ block,
        Core.compress lz4 level chunk.data = .ok block →
          ¬ block.length < chunk.data.length)) ∨
    ∃ block, isCompressible lz4 chunk.data = true ∧
      Core.compress lz4 level chunk.data = .ok block ∧ block.length < chunk.data.length ∧
      compressChunk lz4 level chunk =
        { chunk with
          originalSize := chunk.data.length, data := block, isCompressed := true } := by
  unfold compressChunk
  by_cases compressible : isCompressible lz4 chunk.data = true
  · rw [if_pos compressible]
    cases compressed : Core.compress lz4 level chunk.data with
    | error failure =>
        exact Or.inl ⟨rfl, fun _ block same => absurd same (by simp)⟩
    | ok block =>
        by_cases shorter : block.length < chunk.data.length
        · exact Or.inr ⟨block, compressible, rfl, shorter, if_pos shorter⟩
        · refine Or.inl ⟨if_neg shorter, ?_⟩
          intro _ other same
          rwa [← Except.ok.inj same]
  · rw [if_neg compressible]
    exact Or.inl ⟨rfl, fun yes => absurd yes compressible⟩

/-! ## The chunk that a read job hands over -/

/-- The chunk that a read job makes of the bytes it read. -/
def ReadJob.chunk (job : ReadJob) (data : Bytes) : PipelineChunk where
  id := job.id
  chunkIndex := job.chunkIndex
  data := data
  checksum := crc32 data
  isCompressed := false
  originalSize := data.length
  isEncrypted := false
  encMetadata := none

section

variable {job : ReadJob} {context : PipelineContext} {files : FileSystem} {disk : DiskOutcome}

theorem ReadJob.process_eq_enqueued {next : Job}
    (queued : job.process context files disk = .enqueued next) :
    ∃ content, files job.filePath = some content ∧ job.offset.toNat < streamOffsetBound ∧
      next = if context.encryptionEnabled ∧ context.encryptQueue then
        .encrypt (job.chunk (readAt content job.offset.toNat job.size)) job.chunkIndex.toNat
      else .compress (job.chunk (readAt content job.offset.toNat job.size))
        job.chunkIndex.toNat := by
  unfold process at queued
  split at queued
  · rename_i content stored _
    refine ⟨content, stored, ?_⟩
    dsimp only at queued
    split at queued
    · contradiction
    rename_i sought
    have seekable : job.offset.toNat < streamOffsetBound := by
      by_contra beyond
      exact sought (by simp [InputStream.seekg, beyond])
    have read_eq : (((InputStream.openFile content).seekg job.offset.toNat).read job.size).1 =
        readAt content job.offset.toNat job.size := by
      simp [InputStream.openFile, InputStream.seekg, InputStream.read, seekable]
    have size_eq : (if (readAt content job.offset.toNat job.size).length < job.size then
        (readAt content job.offset.toNat job.size).length else job.size) =
          (readAt content job.offset.toNat job.size).length := by
      rw [length_readAt]
      split <;> omega
    refine ⟨seekable, ?_⟩
    rw [read_eq, size_eq] at queued
    split at queued
    · contradiction
    split at queued
    · rename_i encrypts
      rw [if_pos encrypts]
      exact (JobOutcome.enqueued.inj queued).symm
    · rename_i plain
      rw [if_neg plain]
      split at queued
      · exact (JobOutcome.enqueued.inj queued).symm
      · contradiction
  · contradiction

/-- The file of the request holds `content`, can be opened and sought, and a vector of the
requested size can be allocated. -/
structure ReadJob.Readable (request : ReadJob) (resources : JobResources) (content : Bytes) :
    Prop where
  stored : resources.files request.filePath = some content
  opens : resources.disk.opens = true
  seekable : request.offset.toNat < streamOffsetBound
  fits : request.size ≤ maxVectorSize

theorem ReadJob.process_of_readable {request : ReadJob} {resources : JobResources}
    {content : Bytes} (readable : request.Readable resources content)
    (compresses : context.compressQueue = true) :
    request.process context resources.files resources.disk =
      .enqueued (if context.encryptionEnabled ∧ context.encryptQueue then
        .encrypt (request.chunk (readAt content request.offset.toNat request.size))
          request.chunkIndex.toNat
      else .compress (request.chunk (readAt content request.offset.toNat request.size))
        request.chunkIndex.toNat) := by
  have seekable := readable.seekable
  have good : ((InputStream.openFile content).seekg request.offset.toNat).good = true := by
    simp [InputStream.openFile, InputStream.seekg, seekable]
  obtain ⟨next, handed⟩ : ∃ next,
      request.process context resources.files resources.disk = .enqueued next := by
    simp only [process, readable.stored, readable.opens, good, not_true_eq_false, if_false,
      Nat.not_lt.mpr readable.fits, compresses, if_true]
    split
    · exact ⟨_, rfl⟩
    · exact ⟨_, rfl⟩
  obtain ⟨other, stored, -, same⟩ := process_eq_enqueued handed
  obtain rfl : content = other := Option.some.inj (readable.stored.symm.trans stored)
  rw [handed, same]

end

theorem compressJob_eq_enqueued {lz4 : Option Lz4} {chunk : PipelineChunk} {workerId : Nat}
    {next : Job} (queued : compressJob lz4 context chunk workerId = .enqueued next) :
    next = .send (compressChunk lz4 (context.engine workerId) chunk) := by
  unfold compressJob at queued
  dsimp only at queued
  split at queued
  · exact (JobOutcome.enqueued.inj queued).symm
  · contradiction

/-! ## The chain of one unencrypted chunk -/

/-- The jobs of one chunk, each in some environment, deliver `chunk` without
passing the encrypt stage. -/
structure Emits (lz4 : Option Lz4) (context : PipelineContext) (files : FileSystem)
    (job : ReadJob) (chunk : PipelineChunk) : Prop where
  chain : ∃ aes readEnv compressEnv sendEnv disk random raw packed,
    (Job.read job).doWork ⟨lz4, aes⟩ context readEnv ⟨files, disk, random⟩ =
        .enqueued (.compress raw job.chunkIndex.toNat) ∧
      (Job.compress raw job.chunkIndex.toNat).doWork ⟨lz4, aes⟩ context compressEnv
        ⟨files, disk, random⟩ = .enqueued (.send packed) ∧
      (Job.send packed).doWork ⟨lz4, aes⟩ context sendEnv ⟨files, disk, random⟩ =
        .delivered chunk

theorem Emits.chunk_eq {lz4 : Option Lz4} {files : FileSystem} {job : ReadJob}
    {chunk : PipelineChunk} (emits : Emits lz4 context files job chunk) :
    ∃ content, files job.filePath = some content ∧
      job.offset.toNat < streamOffsetBound ∧
      chunk = compressChunk lz4 (context.engine job.chunkIndex.toNat)
        (job.chunk (readAt content job.offset.toNat job.size)) := by
  obtain ⟨aes, readEnv, compressEnv, sendEnv, disk, random, raw, packed, read, compressed, sent⟩ :=
    emits.chain
  obtain ⟨content, stored, seekable, handed⟩ :=
    ReadJob.process_eq_enqueued (Job.process_of_enqueued read)
  refine ⟨content, stored, seekable, ?_⟩
  have raw_eq : raw = job.chunk (readAt content job.offset.toNat job.size) := by
    split at handed
    · contradiction
    · exact (Job.compress.inj handed).1
  have packed_eq := compressJob_eq_enqueued (Job.process_of_enqueued compressed)
  have chunk_eq := Job.process_of_delivered sent
  rw [← JobOutcome.delivered.inj chunk_eq, Job.send.inj packed_eq, raw_eq]

end FileTrans.Server
