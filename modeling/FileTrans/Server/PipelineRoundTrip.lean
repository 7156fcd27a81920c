import FileTrans.Server.ServerPipeline

/-!
# From a download to an upload

A chunk that one pipeline delivers is submitted to another with the same
settings and the same key in all engines.  The upload undoes the stages of the
download in the opposite order, unless a stage of the download saw only a part
of the chunk: the cipher and LZ4 take the length as an `int`, so of 2 ^ 32
bytes or more they see those that the cast leaves.
-/

namespace FileTrans.Server

open FileTrans.Core
open FileTrans.Core.Checksum
open FileTrans.Encryption
open FileTrans.Storage
open FileTrans.Transition
open Relation

/-- `set_key` with the same key on every engine; `none` leaves them without a key. -/
def PipelineContext.withKey (context : PipelineContext) (key : Option Key) : PipelineContext :=
  { context with encryptionEngines := context.encryptionEngines.map fun _ => ⟨key⟩ }

/-- In some environment the job hands its chunk to the next one. -/
def Job.HandsTo (libraries : Libraries) (context : PipelineContext) (files : FileSystem)
    (job next : Job) : Prop :=
  ∃ env disk random, job.doWork libraries context env ⟨files, disk, random⟩ = .enqueued next

/-- The jobs of one download request, each in some environment, deliver `chunk`. -/
structure Delivers (libraries : Libraries) (context : PipelineContext) (files : FileSystem)
    (request : ReadJob) (chunk : PipelineChunk) : Prop where
  chain : ∃ last env disk random,
    ReflTransGen (Job.HandsTo libraries context files) (.read request) last ∧
      last.doWork libraries context env ⟨files, disk, random⟩ = .delivered chunk

/-- The job hands its chunk to the next one whenever it is not cancelled, the pipeline runs
and the pool takes the next job. -/
def Job.Passes (libraries : Libraries) (context : PipelineContext) (job next : Job) : Prop :=
  ∀ resources, job.doWork libraries context ⟨false, true, true⟩ resources = .enqueued next

/-- A submitted chunk passes the stages of an upload up to the write stage, which gets
`written`. -/
def ReachesWrite (libraries : Libraries) (context : PipelineContext) (submitted : PipelineChunk)
    (workerId : Nat) (written : PipelineChunk) : Prop :=
  ReflTransGen (Job.Passes libraries context) (.decompress submitted workerId) (.write written)

/-- Chunks are encrypted: encryption is enabled and built in, and there is an engine and a key. -/
def PipelineConfig.Seals (libraries : Libraries) (config : PipelineConfig) (key : Option Key) :
    Prop :=
  config.enableEncryption = true ∧ libraries.aes.isSome = true ∧ config.encryptionWorkers ≠ 0 ∧
    key.isSome = true

/-- The compress stage leaves the bytes as they are. -/
def KeptByCompress (lz4 : Option Lz4) (level : CompressionLevel) (data : Bytes) : Prop :=
  isCompressible lz4 data = true → ∀ block, Core.compress lz4 level data = .ok block →
    ¬ block.length < data.length

/-- No stage of the download sees only a part of the bytes: there are fewer than 2 ^ 32 of
them, or they are neither encrypted nor compressed. -/
def PipelineConfig.SeesAll (libraries : Libraries) (config : PipelineConfig) (key : Option Key)
    (data : Bytes) : Prop :=
  data.length < 2 ^ 32 ∨
    ¬ config.Seals libraries key ∧ KeptByCompress libraries.lz4 .fast data

/-! ## The stages under one key -/

section

variable {libraries : Libraries} {config : PipelineConfig} {valid : config.isValid = true}
variable {key : Option Key}

theorem engine_withKey (workerId : Nat) :
    ((config.context libraries valid).withKey key).engine workerId = .fast :=
  List.eq_of_mem_replicate (List.get_mem _ _)

theorem encryptionEngine_of_seals (seals : config.Seals libraries key) (workerId : Nat) :
    ((config.context libraries valid).withKey key).encryptionEngine workerId = some ⟨key⟩ := by
  have engines : ((config.context libraries valid).withKey key).encryptionEngines =
      List.replicate config.encryptionWorkers ⟨key⟩ := by
    simp only [PipelineContext.withKey, PipelineConfig.context]
    rw [if_pos ⟨seals.1, seals.2.1⟩, List.map_replicate]
  have positive := Nat.pos_of_ne_zero seals.2.2.1
  rw [PipelineContext.encryptionEngine, engines, List.length_replicate, List.getElem?_replicate,
    if_pos (Nat.mod_lt _ positive)]

theorem hasKey_of_not_seals (clear : ¬ config.Seals libraries key)
    (enabled : config.enableEncryption = true) (compiled : libraries.aes.isSome = true)
    {workerId : Nat} {engine : AesGcmEngine}
    (used : ((config.context libraries valid).withKey key).encryptionEngine workerId =
      some engine) : engine.hasKey = false := by
  have mem := PipelineContext.mem_of_encryptionEngine used
  simp only [PipelineContext.withKey, PipelineConfig.context] at mem
  rw [if_pos ⟨enabled, compiled⟩, List.map_replicate, List.mem_replicate] at mem
  rw [mem.2, AesGcmEngine.hasKey, Bool.eq_false_iff]
  exact fun present => clear ⟨enabled, compiled, mem.1, present⟩

end

/-! ## What a download delivers -/

def PipelineChunk.sealed (raw : PipelineChunk) (ciphertext : Bytes)
    (metadata : EncryptionMetadata) : PipelineChunk :=
  { raw with data := ciphertext, isEncrypted := true, encMetadata := some metadata }

/-- What reaches the compress stage for a chunk that was read: the chunk itself where chunks
are not encrypted, and otherwise its ciphertext. -/
inductive Prepared (libraries : Libraries) (config : PipelineConfig) (key : Option Key)
    (raw : PipelineChunk) : PipelineChunk → Prop
  | clear (unsealed : ¬ config.Seals libraries key) : Prepared libraries config key raw raw
  | sealed (seals : config.Seals libraries key) (aes : AesGcm) (built : libraries.aes = some aes)
      (random : Option Bytes) (ciphertext : Bytes) (metadata : EncryptionMetadata)
      (encrypted : AesGcmEngine.encryptChunk aes ⟨key⟩ random raw.data raw.chunkIndex =
        .ok (ciphertext, metadata)) :
      Prepared libraries config key raw (raw.sealed ciphertext metadata)

section

variable {libraries : Libraries} {config : PipelineConfig} {valid : config.isValid = true}
variable {key : Option Key} {files : FileSystem} {raw payload chunk : PipelineChunk}
variable {workerId : Nat}

theorem prepared_of_encryptStage {random : Option Bytes}
    (enabled : config.enableEncryption = true)
    (passed : encryptStage libraries.aes ((config.context libraries valid).withKey key) random raw
      workerId = .ok payload) : Prepared libraries config key raw payload := by
  cases built : libraries.aes with
  | none =>
      rw [built] at passed
      cases passed
      exact .clear fun seals => absurd seals.2.1 (by rw [built]; decide)
  | some aes =>
      rw [built] at passed
      by_cases seals : config.Seals libraries key
      · have present : AesGcmEngine.hasKey ⟨key⟩ = true := seals.2.2.2
        simp only [encryptStage, encryptionEngine_of_seals seals, present, if_true] at passed
        cases encrypted : AesGcmEngine.encryptChunk aes ⟨key⟩ random raw.data raw.chunkIndex with
        | error failure =>
            rw [encrypted] at passed
            contradiction
        | ok output =>
            rw [encrypted] at passed
            cases passed
            exact .sealed seals aes built random output.1 output.2 encrypted
      · have compiled : libraries.aes.isSome = true := by
          rw [built]
          rfl
        unfold encryptStage at passed
        dsimp only at passed
        split at passed
        · rename_i engine used
          rw [hasKey_of_not_seals seals enabled compiled used, if_neg Bool.false_ne_true] at passed
          cases passed
          exact .clear seals
        · cases passed
          exact .clear seals

variable {next : Job}

theorem handsTo_encrypt (enabled : config.enableEncryption = true)
    (handed : (Job.encrypt raw workerId).HandsTo libraries
      ((config.context libraries valid).withKey key) files next) :
    ∃ payload, Prepared libraries config key raw payload ∧ next = .compress payload workerId := by
  obtain ⟨env, disk, random, worked⟩ := handed
  have processed := Job.process_of_enqueued worked
  rw [Job.process, encryptJob] at processed
  split at processed
  · rename_i payload passed
    refine ⟨payload, prepared_of_encryptStage enabled passed, ?_⟩
    split at processed
    · exact (JobOutcome.enqueued.inj processed).symm
    · contradiction
  · contradiction

theorem handsTo_compress
    (handed : (Job.compress payload workerId).HandsTo libraries
      ((config.context libraries valid).withKey key) files next) :
    next = .send (compressChunk libraries.lz4 .fast payload) := by
  obtain ⟨env, disk, random, worked⟩ := handed
  have processed : compressJob libraries.lz4 ((config.context libraries valid).withKey key) payload
      workerId = .enqueued next := Job.process_of_enqueued worked
  have sent := compressJob_eq_enqueued processed
  rwa [engine_withKey] at sent

theorem not_handsTo_send {context : PipelineContext} :
    ¬ (Job.send chunk).HandsTo libraries context files next := by
  rintro ⟨env, disk, random, worked⟩
  exact absurd (Job.process_of_enqueued worked) (by rw [Job.process, sendJob]; simp)

theorem eq_compressChunk_of_path
    (path : ReflTransGen (Job.HandsTo libraries ((config.context libraries valid).withKey key)
      files) (.compress payload workerId) (.send chunk)) :
    chunk = compressChunk libraries.lz4 .fast payload := by
  obtain ⟨next, handed, rest⟩ := exists_step_of_reflTransGen path (by simp)
  rw [handsTo_compress handed,
    reflTransGen_iff_of_stuck fun _ => not_handsTo_send] at rest
  exact (Job.send.inj rest).symm

theorem Delivers.chunk_eq {request : ReadJob}
    (delivers : Delivers libraries ((config.context libraries valid).withKey key) files request
      chunk) :
    ∃ content, files request.filePath = some content ∧
      ∃ payload, Prepared libraries config key
          (request.chunk (readAt content request.offset.toNat request.size)) payload ∧
        chunk = compressChunk libraries.lz4 .fast payload := by
  obtain ⟨last, env, disk, random, path, worked⟩ := delivers.chain
  obtain rfl := Job.eq_send_of_process (Job.process_of_delivered worked)
  obtain ⟨next, ⟨readEnv, readDisk, readRandom, read⟩, rest⟩ :=
    exists_step_of_reflTransGen path (by simp)
  obtain ⟨content, stored, -, next_eq⟩ :=
    ReadJob.process_eq_enqueued (Job.process_of_enqueued read)
  refine ⟨content, stored, ?_⟩
  generalize request.chunk (readAt content request.offset.toNat request.size) = raw at next_eq ⊢
  split at next_eq
  · rename_i encrypts
    rw [next_eq] at rest
    obtain ⟨after, handed, rest⟩ := exists_step_of_reflTransGen rest (by simp)
    obtain ⟨payload, prepared, rfl⟩ := handsTo_encrypt encrypts.1 handed
    exact ⟨payload, prepared, eq_compressChunk_of_path rest⟩
  · rename_i plain
    rw [next_eq] at rest
    refine ⟨raw, .clear ?_, eq_compressChunk_of_path rest⟩
    exact fun seals => plain ⟨seals.1, seals.1⟩

end

/-! ## What an upload makes of it -/

section

variable {libraries : Libraries} {context : PipelineContext} {job next : Job}
variable {chunk raw payload : PipelineChunk} {workerId : Nat}

theorem Job.passes_iff :
    job.Passes libraries context next ↔
      ∀ resources, job.process libraries context resources = .enqueued next := by
  simp only [Passes, doWork_of_permitted]

theorem Job.deterministic_passes : Deterministic (Job.Passes libraries context) := by
  intro job first second passesFirst passesSecond
  have one := passesFirst ⟨fun _ => none, .success, none⟩
  rw [passesSecond] at one
  exact (JobOutcome.enqueued.inj one).symm

theorem Job.passes_of_process (processed : ∀ resources,
    job.process libraries context resources = .enqueued next) :
    job.Passes libraries context next :=
  passes_iff.mpr processed

theorem reachesWrite_self_iff {written : PipelineChunk} :
    ReflTransGen (Job.Passes libraries context) (.write chunk) (.write written) ↔
      chunk = written := by
  rw [reflTransGen_iff_of_stuck, Job.write.injEq]
  intro next passes
  have processed := Job.passes_iff.mp passes ⟨fun _ => none, .success, none⟩
  contradiction

theorem verify_reachesWrite_iff (writes : context.writeQueue = true) {written : PipelineChunk} :
    ReflTransGen (Job.Passes libraries context) (.verify chunk) (.write written) ↔
      crc32 chunk.data = chunk.checksum ∧ chunk = written := by
  by_cases same : crc32 chunk.data = chunk.checksum
  · have passes : (Job.verify chunk).Passes libraries context (.write chunk) := by
      apply Job.passes_of_process
      intro resources
      rw [Job.process, verifyJob, writes]
      dsimp only
      rw [if_neg (not_not.mpr same), if_pos rfl]
    rw [reflTransGen_iff_of_step Job.deterministic_passes passes (by simp),
      reachesWrite_self_iff]
    exact ⟨fun equal => ⟨same, equal⟩, fun found => found.2⟩
  · rw [reflTransGen_iff_of_stuck]
    · constructor
      · intro impossible
        contradiction
      · exact fun found => absurd found.1 same
    · intro next passes
      have processed := Job.passes_iff.mp passes ⟨fun _ => none, .success, none⟩
      rw [Job.process, verifyJob] at processed
      dsimp only at processed
      rw [if_pos same] at processed
      contradiction

variable {lz4 : Option Lz4}

theorem compressChunk_of_kept {level : CompressionLevel}
    (kept : KeptByCompress lz4 level payload.data) : compressChunk lz4 level payload = payload := by
  rcases compressChunk_cases lz4 level payload with
    ⟨same, -⟩ | ⟨block, compressible, compressed, shorter, -⟩
  · exact same
  · exact absurd shorter (kept compressible block compressed)

theorem decompressJob_compressChunk (level : CompressionLevel) (context : PipelineContext)
    (payload : PipelineChunk) (workerId : Nat)
    (roundTrips : ∀ library, lz4 = some library → library.RoundTrips)
    (plain : payload.isCompressed = false) (small : payload.data.length < 2 ^ 32) :
    ∃ size, (payload.originalSize = payload.data.length → size = payload.originalSize) ∧
      decompressJob lz4 context (compressChunk lz4 level payload) workerId =
        context.afterDecompress { payload with originalSize := size } workerId := by
  rcases compressChunk_cases lz4 level payload with
    ⟨kept, -⟩ | ⟨block, compressible, compressed, shorter, packed⟩
  · refine ⟨payload.originalSize, fun _ => rfl, ?_⟩
    rw [kept, decompressJob, if_neg (Bool.eq_false_iff.mp plain)]
  · refine ⟨payload.data.length, Eq.symm, ?_⟩
    have fits : decompressThrows lz4 (compressChunk lz4 level payload) = false := by
      have below : ¬ maxVectorSize < payload.data.length := by
        unfold maxVectorSize
        omega
      rw [packed]
      simp only [decompressThrows, below, decide_false, Bool.and_false]
    rw [packed] at fits ⊢
    rw [decompressJob, if_pos rfl, fits, if_neg Bool.false_ne_true]
    dsimp only
    rw [decompress_compress roundTrips compressed (ne_nil_of_isCompressible compressible) small
      shorter, ← plain]

theorem not_decompressJob_of_cut {level : CompressionLevel}
    (roundTrips : ∀ library, lz4 = some library → library.RoundTrips)
    (respects : ∀ library, lz4 = some library → library.RespectsCapacity)
    (large : 2 ^ 32 ≤ payload.data.length) (replaced : ¬ KeptByCompress lz4 level payload.data) :
    decompressJob lz4 context (compressChunk lz4 level payload) workerId ≠ .enqueued next := by
  rcases compressChunk_cases lz4 level payload with
    ⟨-, kept⟩ | ⟨block, compressible, compressed, shorter, packed⟩
  · exact absurd kept replaced
  · have nonempty := compress_ne_nil roundTrips compressed (ne_nil_of_isCompressible compressible)
    rw [packed, decompressJob, if_pos rfl]
    dsimp only
    split
    · simp
    · cases unpacked : Core.decompress lz4 block payload.data.length with
      | error failure => simp
      | ok output =>
          have size := length_decompress nonempty unpacked
          have few := length_decompress_lt respects unpacked
          omega

end

/-! ## The round trip -/

section

variable {libraries : Libraries} {config : PipelineConfig} {valid : config.isValid = true}
variable {key : Option Key} {raw payload written : PipelineChunk} {workerId : Nat}

theorem afterDecompress_clear (clear : payload.isEncrypted = false) :
    ((config.context libraries valid).withKey key).afterDecompress payload workerId =
      .enqueued (.verify payload) := by
  have passed : ¬ (config.enableEncryption = true ∧ payload.isEncrypted = true ∧
      config.enableEncryption = true) := by
    rw [clear]
    exact fun encrypts => Bool.false_ne_true encrypts.2.1
  rw [PipelineContext.afterDecompress]
  exact (if_neg passed).trans (if_pos rfl)

theorem afterDecompress_sealed (enabled : config.enableEncryption = true)
    (sealed : payload.isEncrypted = true) :
    ((config.context libraries valid).withKey key).afterDecompress payload workerId =
      .enqueued (.decrypt payload workerId) :=
  if_pos ⟨enabled, sealed, enabled⟩

theorem reachesWrite_iff_of_decompressJob {context : PipelineContext} {submitted : PipelineChunk}
    {next : Job} (unpacked : decompressJob libraries.lz4 context submitted workerId =
      .enqueued next) :
    ReachesWrite libraries context submitted workerId written ↔
      ReflTransGen (Job.Passes libraries context) next (.write written) :=
  reflTransGen_iff_of_step Job.deterministic_passes (Job.passes_of_process fun _ => unpacked)
    (by simp)

theorem decrypt_passes (payload : PipelineChunk) {aes : AesGcm}
    (built : libraries.aes = some aes) (seals : config.Seals libraries key)
    {metadata : EncryptionMetadata} {seen : Bytes}
    (decrypted : AesGcmEngine.decryptChunk aes ⟨key⟩ payload.data metadata = .ok seen)
    (described : payload.encMetadata = some metadata) :
    (Job.decrypt payload workerId).Passes libraries
      ((config.context libraries valid).withKey key)
      (.verify { payload with data := seen, isEncrypted := false, encMetadata := none }) := by
  apply Job.passes_of_process
  intro resources
  have present : AesGcmEngine.hasKey ⟨key⟩ = true := seals.2.2.2
  have passed : decryptStage libraries.aes ((config.context libraries valid).withKey key) payload
      workerId =
        .ok { payload with data := seen, isEncrypted := false, encMetadata := none } := by
    simp only [decryptStage, built, encryptionEngine_of_seals seals, described, present, if_true,
      decrypted]
    rfl
  rw [Job.process, decryptJob, passed]
  exact if_pos rfl

theorem reachesWrite_clear_iff
    (roundTrips : ∀ library, libraries.lz4 = some library → library.RoundTrips)
    (respects : ∀ library, libraries.lz4 = some library → library.RespectsCapacity)
    (unsealed : ¬ config.Seals libraries key) (request : ReadJob) (data : Bytes) :
    ReachesWrite libraries ((config.context libraries valid).withKey key)
        (compressChunk libraries.lz4 .fast (request.chunk data)) workerId (request.chunk data) ↔
      config.SeesAll libraries key data := by
  have verified : ReflTransGen
      (Job.Passes libraries ((config.context libraries valid).withKey key))
      (.verify (request.chunk data)) (.write (request.chunk data)) :=
    (verify_reachesWrite_iff rfl).mpr ⟨rfl, rfl⟩
  have after : ((config.context libraries valid).withKey key).afterDecompress
      (request.chunk data) workerId = .enqueued (.verify (request.chunk data)) :=
    afterDecompress_clear rfl
  have length_eq : (request.chunk data).data.length = data.length := rfl
  by_cases small : data.length < 2 ^ 32
  · obtain ⟨size, same, unpacked⟩ := decompressJob_compressChunk .fast
      ((config.context libraries valid).withKey key) (request.chunk data) workerId roundTrips rfl
      (length_eq.trans_lt small)
    rw [same rfl] at unpacked
    have handed := unpacked.trans after
    exact iff_of_true ((reachesWrite_iff_of_decompressJob handed).mpr verified) (Or.inl small)
  · by_cases kept : KeptByCompress libraries.lz4 .fast data
    · have unpacked : decompressJob libraries.lz4 ((config.context libraries valid).withKey key)
          (compressChunk libraries.lz4 .fast (request.chunk data)) workerId =
            .enqueued (.verify (request.chunk data)) := by
        rw [compressChunk_of_kept kept]
        exact after
      exact iff_of_true ((reachesWrite_iff_of_decompressJob unpacked).mpr verified)
        (Or.inr ⟨unsealed, kept⟩)
    · apply iff_of_false
      · intro reaches
        obtain ⟨next, passes, -⟩ := exists_step_of_reflTransGen reaches (by simp)
        have processed := Job.passes_iff.mp passes ⟨fun _ => none, .success, none⟩
        exact not_decompressJob_of_cut roundTrips respects
          (length_eq.ge.trans' (Nat.not_lt.mp small)) kept processed
      · rintro (few | ⟨-, whole⟩)
        · exact small few
        · exact kept whole

theorem reachesWrite_sealed_iff
    (roundTrips : ∀ library, libraries.lz4 = some library → library.RoundTrips)
    (seals : config.Seals libraries key) {aes : AesGcm} (built : libraries.aes = some aes)
    (deciphers : aes.RoundTrips) (request : ReadJob) {data ciphertext : Bytes}
    {random : Option Bytes} {metadata : EncryptionMetadata}
    (encrypted : AesGcmEngine.encryptChunk aes ⟨key⟩ random data request.chunkIndex =
      .ok (ciphertext, metadata)) :
    ReachesWrite libraries ((config.context libraries valid).withKey key)
        (compressChunk libraries.lz4 .fast ((request.chunk data).sealed ciphertext metadata))
        workerId (request.chunk data) ↔
      config.SeesAll libraries key data := by
  obtain ⟨seen, sees, length_eq, decrypted⟩ :=
    AesGcmEngine.decryptChunk_of_encryptChunk deciphers encrypted
  have few := AesGcmEngine.length_seenByCipher_lt sees
  have small : ((request.chunk data).sealed ciphertext metadata).data.length < 2 ^ 32 := by
    change ciphertext.length < 2 ^ 32
    omega
  obtain ⟨size, same, unpacked⟩ := decompressJob_compressChunk .fast
    ((config.context libraries valid).withKey key)
    ((request.chunk data).sealed ciphertext metadata) workerId roundTrips rfl small
  have passes : (Job.decrypt
      { (request.chunk data).sealed ciphertext metadata with originalSize := size }
      workerId).Passes libraries ((config.context libraries valid).withKey key)
        (.verify { request.chunk data with data := seen, originalSize := size }) :=
    decrypt_passes { (request.chunk data).sealed ciphertext metadata with originalSize := size }
      built seals decrypted rfl
  have handed := unpacked.trans (afterDecompress_sealed seals.1 rfl)
  rw [reachesWrite_iff_of_decompressJob handed,
    reflTransGen_iff_of_step Job.deterministic_passes passes (by simp),
    verify_reachesWrite_iff rfl]
  constructor
  · rintro ⟨-, restored⟩
    have whole : seen = data := congrArg PipelineChunk.data restored
    left
    rw [← whole]
    omega
  · rintro (whole | ⟨unsealed, -⟩)
    · obtain rfl := AesGcmEngine.eq_of_seenByCipher whole sees
      rw [same length_eq.symm]
      exact ⟨rfl, rfl⟩
    · exact absurd seals unsealed

/-- A chunk that a download delivers passes an upload with the same settings and the same key
in all engines, and reaches the write stage exactly as it was read, if and only if no stage of
the download saw only a part of its bytes. -/
theorem delivered_reachesWrite_iff
    (roundTrips : ∀ library, libraries.lz4 = some library → library.RoundTrips)
    (respects : ∀ library, libraries.lz4 = some library → library.RespectsCapacity)
    (deciphers : ∀ aes, libraries.aes = some aes → aes.RoundTrips)
    {files : FileSystem} {request : ReadJob} {delivered : PipelineChunk}
    (delivers : Delivers libraries ((config.context libraries valid).withKey key) files request
      delivered) (workerId : Nat) :
    ∃ content, files request.filePath = some content ∧
      (ReachesWrite libraries ((config.context libraries valid).withKey key) delivered workerId
          (request.chunk (readAt content request.offset.toNat request.size)) ↔
        config.SeesAll libraries key (readAt content request.offset.toNat request.size)) := by
  obtain ⟨content, stored, payload, prepared, rfl⟩ := delivers.chunk_eq
  refine ⟨content, stored, ?_⟩
  cases prepared with
  | clear unsealed => exact reachesWrite_clear_iff roundTrips respects unsealed request _
  | sealed seals aes built random ciphertext metadata encrypted =>
      exact reachesWrite_sealed_iff roundTrips seals built (deciphers aes built) request encrypted

end

theorem delivers_of_readable {libraries : Libraries} {config : PipelineConfig}
    (valid : config.isValid = true) (key : Option Key) (clear : config.enableEncryption = false)
    {request : ReadJob} {files : FileSystem} {content : Bytes}
    (readable : request.Readable ⟨files, .success, none⟩ content) :
    Delivers libraries ((config.context libraries valid).withKey key) files request
      (compressChunk libraries.lz4 .fast
        (request.chunk (readAt content request.offset.toNat request.size))) where
  chain := by
    have skips : ¬ (config.enableEncryption = true ∧ config.enableEncryption = true) := by
      rw [clear]
      exact fun encrypts => Bool.false_ne_true encrypts.1
    have read : request.process ((config.context libraries valid).withKey key) files .success =
        .enqueued (.compress
          (request.chunk (readAt content request.offset.toNat request.size))
          request.chunkIndex.toNat) :=
      (ReadJob.process_of_readable readable rfl).trans
        (congrArg JobOutcome.enqueued (if_neg skips))
    generalize request.chunk (readAt content request.offset.toNat request.size) = raw at read ⊢
    have compressed : compressJob libraries.lz4 ((config.context libraries valid).withKey key) raw
        request.chunkIndex.toNat = .enqueued (.send (compressChunk libraries.lz4 .fast raw)) := by
      rw [compressJob, engine_withKey]
      exact if_pos rfl
    have first : (Job.read request).HandsTo libraries
        ((config.context libraries valid).withKey key) files
          (.compress raw request.chunkIndex.toNat) :=
      ⟨⟨false, true, true⟩, .success, none, Job.doWork_of_permitted.trans read⟩
    have second : (Job.compress raw request.chunkIndex.toNat).HandsTo libraries
        ((config.context libraries valid).withKey key) files
          (.send (compressChunk libraries.lz4 .fast raw)) :=
      ⟨⟨false, true, true⟩, .success, none, Job.doWork_of_permitted.trans compressed⟩
    exact ⟨_, ⟨false, true, true⟩, .success, none, .head first (.single second),
      Job.doWork_of_permitted⟩

/-! ## Equal bytes -/

namespace RoundTripSample

/-- A file of equal bytes. -/
def content (count : Nat) : Bytes :=
  List.replicate count 0x61

/-- The block that LZ4 makes of 4096 of them: one literal, a match of 4090 bytes at distance
one, and five literals. -/
def block : Bytes :=
  [0x1F, 0x61, 0x01, 0x00] ++ List.replicate 15 0xFF ++ [0xF6, 0x50] ++ List.replicate 5 0x61

/-- LZ4 on these bytes. -/
def lz4 : Lz4 where
  compressDefault source := if source = content 4096 then some block else none
  compressHc _ := none
  decompressSafe input capacity :=
    if input = block ∧ 4096 ≤ capacity then some (content 4096) else none

theorem roundTrips : lz4.RoundTrips where
  compressDefault source output compressed := by
    simp only [lz4, Option.ite_none_right_eq_some, Option.some.injEq] at compressed
    obtain ⟨rfl, rfl⟩ := compressed
    constructor
    · decide
    · have capacity : (content 4096).length = 4096 := List.length_replicate
      simp only [lz4, capacity, Nat.le_refl, and_self, if_true]
  compressHc _ _ compressed := absurd compressed (by simp [lz4])

theorem compressDefault_content : lz4.compressDefault (content 4096) = some block := by
  simp only [lz4, if_true]

theorem respectsCapacity : lz4.RespectsCapacity := by
  intro input capacity output decompressed
  simp only [lz4, Option.ite_none_right_eq_some, Option.some.injEq] at decompressed
  obtain ⟨⟨-, fits⟩, rfl⟩ := decompressed
  rwa [content, List.length_replicate]

def libraries : Libraries :=
  ⟨some lz4, none⟩

/-- The request for all bytes of the file. -/
def request (count : Nat) : ReadJob :=
  ⟨TransferId.zero, 0, Text.ascii "run", 0, count⟩

variable {count : Nat}

theorem readable (fits : count ≤ maxVectorSize) :
    (request count).Readable ⟨fun _ => some (content count), .success, none⟩ (content count) :=
  ⟨rfl, rfl, (by decide : (0 : UInt64).toNat < streamOffsetBound), fits⟩

theorem readAt_content (count : Nat) : readAt (content count) 0 count = content count := by
  rw [readAt, List.drop_zero, List.take_of_length_le]
  rw [content, List.length_replicate]

def delivered (count : Nat) : PipelineChunk :=
  compressChunk (some lz4) .fast ((request count).chunk (content count))

theorem delivers (fits : count ≤ maxVectorSize) :
    Delivers libraries ((PipelineConfig.default.context libraries rfl).withKey none)
      (fun _ => some (content count)) (request count) (delivered count) := by
  have chain : Delivers libraries ((PipelineConfig.default.context libraries rfl).withKey none)
      (fun _ => some (content count)) (request count)
      (compressChunk libraries.lz4 .fast ((request count).chunk
        (readAt (content count) (request count).offset.toNat (request count).size))) :=
    delivers_of_readable rfl none rfl (readable fits)
  have read : readAt (content count) (request count).offset.toNat (request count).size =
      content count := readAt_content count
  rwa [read] at chain

theorem not_isPrecompressedFormat (count : Nat) :
    isPrecompressedFormat (content (count + 12)) = false := by
  have split : content (count + 12) = List.replicate 12 0x61 ++ List.replicate count 0x61 := by
    rw [content, Nat.add_comm, List.replicate_add]
  rw [split, isPrecompressedFormat, Bool.and_eq_false_iff]
  right
  simp [compressedSignatures, isMp4Format, List.isPrefixOf, List.replicate]

theorem isCompressible_content (large : 4096 ≤ count) :
    isCompressible (some lz4) (content count) = true := by
  have sample : (content count).take sampleSize = content 4096 := by
    rw [content, List.take_replicate, content]
    exact congrArg (List.replicate · 0x61) (Nat.min_eq_left large)
  have nonempty : content count ≠ [] := by
    rw [content, ne_eq, List.replicate_eq_nil_iff]
    omega
  have format : isPrecompressedFormat (content count) = false := by
    have found := not_isPrecompressedFormat (count - 12)
    rwa [Nat.sub_add_cancel (by omega)] at found
  simp only [isCompressible, nonempty, format, sample, compressDefault_content, if_false,
    Bool.false_eq_true]
  rw [content, List.length_replicate]
  decide

theorem compress_content (large : 4096 ≤ count) (cut : count % 2 ^ 32 = 4096) :
    Core.compress (some lz4) .fast (content count) = .ok block := by
  have size : asInt (content count).length = 4096 := by
    rw [content, List.length_replicate, asInt, cut]
    rfl
  have nonempty : content count ≠ [] := by
    rw [content, ne_eq, List.replicate_eq_nil_iff]
    omega
  have seen : (content count).take 4096 = content 4096 := by
    rw [content, List.take_replicate, content, Nat.min_eq_left large]
  have fits : ¬ ((4096 : Int) < 0 ∨ lz4MaxInputSize < 4096) := by decide
  simp only [Core.compress, nonempty, if_false, size, fits]
  rw [show (4096 : Int).toNat = 4096 from rfl, seen, compressDefault_content]

theorem documented : ∀ library, libraries.lz4 = some library →
    library.RoundTrips ∧ library.RespectsCapacity := by
  intro library same
  cases same
  exact ⟨roundTrips, respectsCapacity⟩

theorem fits : 2 ^ 32 + 4096 ≤ maxVectorSize := by
  decide

end RoundTripSample

/-- On 4096 equal bytes the theorem speaks about a compressed chunk. -/
theorem delivered_reachesWrite_of_equal_bytes :
    ∃ content, some (RoundTripSample.content 4096) = some content ∧
      (ReachesWrite RoundTripSample.libraries
          ((PipelineConfig.default.context RoundTripSample.libraries rfl).withKey none)
          (RoundTripSample.delivered 4096) 7
          ((RoundTripSample.request 4096).chunk (readAt content 0 4096)) ↔
        PipelineConfig.default.SeesAll RoundTripSample.libraries none (readAt content 0 4096)) :=
  delivered_reachesWrite_iff (fun library same => (RoundTripSample.documented library same).1)
    (fun library same => (RoundTripSample.documented library same).2)
    (fun _ absent => nomatch absent) (RoundTripSample.delivers (by decide)) 7

/-- A request for 2 ^ 32 + 4096 equal bytes is delivered as the block of the first 4096, and
does not reach the write stage as it was read. -/
theorem large_chunk_not_restored :
    Delivers RoundTripSample.libraries
        ((PipelineConfig.default.context RoundTripSample.libraries rfl).withKey none)
        (fun _ => some (RoundTripSample.content (2 ^ 32 + 4096)))
        (RoundTripSample.request (2 ^ 32 + 4096)) (RoundTripSample.delivered (2 ^ 32 + 4096)) ∧
      ¬ ReachesWrite RoundTripSample.libraries
        ((PipelineConfig.default.context RoundTripSample.libraries rfl).withKey none)
        (RoundTripSample.delivered (2 ^ 32 + 4096)) 0
        ((RoundTripSample.request (2 ^ 32 + 4096)).chunk
          (RoundTripSample.content (2 ^ 32 + 4096))) := by
  refine ⟨RoundTripSample.delivers RoundTripSample.fits, ?_⟩
  have clear : ¬ PipelineConfig.default.Seals RoundTripSample.libraries none :=
    fun seals => Bool.false_ne_true seals.1
  have restored_iff : ReachesWrite RoundTripSample.libraries
      ((PipelineConfig.default.context RoundTripSample.libraries rfl).withKey none)
      (RoundTripSample.delivered (2 ^ 32 + 4096)) 0
      ((RoundTripSample.request (2 ^ 32 + 4096)).chunk
        (RoundTripSample.content (2 ^ 32 + 4096))) ↔
      PipelineConfig.default.SeesAll RoundTripSample.libraries none
        (RoundTripSample.content (2 ^ 32 + 4096)) :=
    reachesWrite_clear_iff (fun library same => (RoundTripSample.documented library same).1)
      (fun library same => (RoundTripSample.documented library same).2) clear _ _
  have length_eq : (RoundTripSample.content (2 ^ 32 + 4096)).length = 2 ^ 32 + 4096 :=
    List.length_replicate
  have large : 4096 ≤ 2 ^ 32 + 4096 := Nat.le_add_left _ _
  have shorter : RoundTripSample.block.length < 2 ^ 32 + 4096 := by decide
  rw [restored_iff]
  rintro (few | ⟨-, kept⟩)
  · omega
  · apply kept (RoundTripSample.isCompressible_content large) RoundTripSample.block
      (RoundTripSample.compress_content large rfl)
    rwa [length_eq]

end FileTrans.Server
