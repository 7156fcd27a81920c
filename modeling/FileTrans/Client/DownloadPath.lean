import FileTrans.Client.FileTransferClient
import FileTrans.Core.BandwidthWaits
import FileTrans.Server.PipelineJobs

/-!
# From the server's file to the client's file

A chunk that the download pipeline emits is put into a wire chunk and handed to
the client.  The server computes the checksum before it compresses, and the
client checks it before it decompresses, so the two agree exactly on the chunks
that are sent as they were read.

The client first waits for bandwidth, and the last chunk of a download finalizes it
within the same call.
-/

namespace FileTrans.Client

open FileTrans.Core
open FileTrans.Core.Checksum
open FileTrans.Server
open FileTrans.Storage

/-- The wire chunk carries what the pipeline emitted for `offset`. -/
structure PlacedIn (emitted : PipelineChunk) (offset : UInt64) (wire : Chunk) : Prop where
  data_eq : wire.data = emitted.data
  checksum_eq : wire.header.checksum = emitted.checksum
  originalSize_eq : wire.header.originalSize.toNat = emitted.originalSize
  compressed_eq : wire.isCompressed = emitted.isCompressed
  offset_eq : wire.header.chunkOffset = offset

/-- `process_download_chunk` with its wait at the download limiter, if that ends within so many
passes. -/
def FileTransferClient.processLimited (client : FileTransferClient)
    (downloadLimiter : Option BandwidthLimiter) (outOfRange : ℚ → Int64) (passes : Nat) (now : ℚ)
    (relock : Relock) (lz4 : Option Lz4) (disk : DiskOutcome) (handle : UInt64) (chunk : Chunk) :
    Option ((Completion Unit × FileTransferClient) × Option BandwidthLimiter) :=
  match downloadLimiter with
  | none => some (client.processDownloadChunk relock lz4 disk handle chunk, none)
  | some limiter =>
      (limiter.acquire outOfRange passes (UInt64.ofNat chunk.data.length) now).map fun state =>
        (client.processDownloadChunk relock lz4 disk handle chunk, some state.limiter)

namespace DownloadContext

variable (ctx : DownloadContext)

/-- The next chunk makes the download complete. -/
def ExpectsLast : Prop :=
  ctx.totalChunks ≤ ctx.transferredChunks + 1

instance : Decidable ctx.ExpectsLast :=
  inferInstanceAs (Decidable (_ ≤ _))

/-- The file that holds the data once the next chunk is taken. -/
def destination : Path :=
  if ctx.ExpectsLast then ctx.localPath else ctx.tempPath

/-- The temp file after a write at an offset. -/
def written (files : FileSystem) (offset : UInt64) (data : Bytes) : Bytes :=
  writeAt 0 ((files ctx.tempPath).getD []) offset.toNat data

/-- The call that completes the download can finalize it: the second lock of the mutex goes
through, and the hash, if it is to be verified, is that of the temp file. -/
def Finalizes (relock : Relock) (files : FileSystem) (offset : UInt64) (data : Bytes) : Prop :=
  relock = .proceeds ∧
    ctx.hashMismatch .success (files.put ctx.tempPath (ctx.written files offset data)) = false

end DownloadContext

/-- `process_download_chunk` accepts the chunk: on a disk that works it returns success, and
exactly `data` was written at the chunk's offset. -/
def FileTransferClient.AcceptsWriting (client : FileTransferClient)
    (downloadLimiter : Option BandwidthLimiter) (now : ℚ) (relock : Relock)
    (lz4 : Option Lz4) (handle : UInt64) (chunk : Chunk) (data : Bytes) : Prop :=
  ∃ ctx, client.downloadContexts handle = some ctx ∧ ∀ outOfRange, ∃ passes after limiter,
    client.processLimited downloadLimiter outOfRange passes now relock lz4 .success handle chunk =
      some ((.returned (.ok ()), after), limiter) ∧
    after.files ctx.destination = some (ctx.written client.files chunk.header.chunkOffset data)

/-- The limiter, if there is one, lets so many bytes through: it is disabled, or they fit into
the burst. -/
def LimiterPasses (downloadLimiter : Option BandwidthLimiter) (bytes : UInt64) : Prop :=
  ∀ limiter ∈ downloadLimiter, limiter.enabled = false ∨ bytes = 0 ∨ limiter.FitsBurst bytes

/-- A limiter as a client has it at this time: it is disabled without a limit, and its clock has
not run ahead. -/
def LimiterReady (downloadLimiter : Option BandwidthLimiter) (now : ℚ) : Prop :=
  ∀ limiter ∈ downloadLimiter,
    (limiter.enabled = true → limiter.bytesPerSecond ≠ 0) ∧ limiter.lastRefill ≤ now

section

variable {lz4 : Option Lz4} {client : FileTransferClient} {handle : UInt64}
variable {ctx : DownloadContext} {chunk : Chunk} {data : Bytes} {relock : Relock}

theorem DownloadContext.finalize_success {files : FileSystem} {content : Bytes}
    (stored : files ctx.tempPath = some content) (distinct : ctx.tempPath ≠ ctx.localPath)
    (matching : ctx.hashMismatch .success files = false) :
    (ctx.finalize .success files).1 = .ok () ∧
      (ctx.finalize .success files).2.2 ctx.localPath = some content := by
  have kept : ∀ left, left = (if ctx.options.overwrite = true ∧ files.exist ctx.localPath = true
      then files.remove ctx.localPath else files) → left ctx.tempPath = some content := by
    rintro left rfl
    split
    · rwa [FileSystem.remove_of_ne _ distinct]
    · exact stored
  unfold finalize
  dsimp only
  rw [if_neg (Bool.eq_false_iff.mp matching), FileSystem.rename_success _ (kept _ rfl) distinct]
  refine ⟨rfl, ?_⟩
  dsimp only
  rw [FileSystem.remove_of_ne _ distinct.symm, FileSystem.put_self]

theorem DownloadContext.finalize_of_mismatch {files : FileSystem}
    (mismatch : ctx.hashMismatch .success files = true) :
    (ctx.finalize .success files).1 =
      unexpected .fileHashMismatch "SHA-256 verification failed" := by
  rw [finalize, if_pos mismatch]

theorem checkCompletion_ok_iff (present : client.downloadContexts handle = some ctx)
    (unlocked : ctx.locked = false) {content : Bytes}
    (stored : client.files ctx.tempPath = some content)
    (distinct : ctx.tempPath ≠ ctx.localPath) :
    ((client.checkCompletion relock .success handle ctx).1 = .returned (.ok ()) ↔
      (ctx.totalChunks ≤ ctx.transferredChunks →
        relock = .proceeds ∧ ctx.hashMismatch .success client.files = false)) ∧
    ((client.checkCompletion relock .success handle ctx).1 = .returned (.ok ()) →
      (client.checkCompletion relock .success handle ctx).2.files
        (if ctx.totalChunks ≤ ctx.transferredChunks then ctx.localPath else ctx.tempPath) =
        some content) := by
  unfold FileTransferClient.checkCompletion
  by_cases last : ctx.totalChunks ≤ ctx.transferredChunks
  · rw [if_pos last, if_pos last]
    cases relock with
    | blocks =>
        have hangs : (Completion.hangs : Completion Unit) ≠ .returned (.ok ()) := by
          intro same
          cases same
        exact ⟨iff_of_false hangs fun holds => Relock.noConfusion (holds last).1,
          fun taken => absurd taken hangs⟩
    | proceeds =>
        dsimp only
        rw [FileTransferClient.finalizeDownload, present]
        dsimp only
        rw [if_neg (Bool.eq_false_iff.mp unlocked)]
        cases mismatch : ctx.hashMismatch .success client.files with
        | true =>
            have failed := DownloadContext.finalize_of_mismatch mismatch
            have refused : Completion.returned (ctx.finalize .success client.files).1 ≠
                .returned (.ok ()) := by
              rw [failed]
              intro same
              cases same
            exact ⟨iff_of_false refused fun holds => Bool.true_eq_false.mp (holds last).2,
              fun taken => absurd taken refused⟩
        | false =>
            obtain ⟨succeeds, moved⟩ := DownloadContext.finalize_success stored distinct mismatch
            exact ⟨iff_of_true (congrArg Completion.returned succeeds) fun _ => ⟨rfl, rfl⟩,
              fun _ => moved⟩
  · rw [if_neg last, if_neg last]
    exact ⟨iff_of_true rfl fun reached => absurd reached last, fun _ => stored⟩

theorem processDownloadChunk_of_not_verified (present : client.downloadContexts handle = some ctx)
    (running : ctx.cancelled = false) (unlocked : ctx.locked = false)
    (mismatch : ¬ verifyCrc32 chunk.data chunk.header.checksum = true) (relock : Relock)
    (disk : DiskOutcome) :
    client.processDownloadChunk relock lz4 disk handle chunk =
      (.returned (unexpected .chunkChecksumError "Chunk CRC32 verification failed"), client) := by
  have refused : ctx.receiveChunk lz4 disk client.files chunk =
      (unexpected .chunkChecksumError "Chunk CRC32 verification failed", client.files) := by
    rw [DownloadContext.receiveChunk, running, if_neg Bool.false_ne_true, if_pos mismatch]
  rw [FileTransferClient.processDownloadChunk, present]
  dsimp only
  rw [if_neg (Bool.eq_false_iff.mp unlocked), refused]
  rfl

/-- On a disk that works a chunk that can be unpacked succeeds if its checksum matches, unless it
completes a download that cannot be finalized. -/
theorem processDownloadChunk_ok_iff (present : client.downloadContexts handle = some ctx)
    (running : ctx.cancelled = false) (unlocked : ctx.locked = false)
    (distinct : ctx.tempPath ≠ ctx.localPath)
    (unpacked : DownloadContext.writeData lz4 chunk = .ok data)
    (seekable : chunk.header.chunkOffset.toNat < streamOffsetBound) :
    ((client.processDownloadChunk relock lz4 .success handle chunk).1 = .returned (.ok ()) ↔
      verifyCrc32 chunk.data chunk.header.checksum = true ∧ (ctx.ExpectsLast →
        ctx.Finalizes relock client.files chunk.header.chunkOffset data)) ∧
    ((client.processDownloadChunk relock lz4 .success handle chunk).1 = .returned (.ok ()) →
      (client.processDownloadChunk relock lz4 .success handle chunk).2.files ctx.destination =
        some (ctx.written client.files chunk.header.chunkOffset data)) := by
  by_cases verified : verifyCrc32 chunk.data chunk.header.checksum = true
  · have received : ctx.receiveChunk lz4 .success client.files chunk = _ :=
      DownloadContext.receiveChunk_success running verified unpacked seekable
    rw [and_iff_right verified, FileTransferClient.processDownloadChunk, present]
    dsimp only
    rw [if_neg (Bool.eq_false_iff.mp unlocked), received]
    apply checkCompletion_ok_iff
    · exact FileTransferClient.setDownload_self _ _
    · exact unlocked
    · exact FileSystem.put_self _ _ _
    · exact distinct
  · rw [processDownloadChunk_of_not_verified present running unlocked verified]
    have refused : Completion.returned (unexpected .chunkChecksumError
        "Chunk CRC32 verification failed") ≠ .returned (.ok ()) := by
      intro same
      cases same
    exact ⟨iff_of_false refused fun accepted => verified accepted.1,
      fun taken => absurd taken refused⟩

variable {downloadLimiter : Option BandwidthLimiter} {now : ℚ}

theorem acceptsWriting_iff (present : client.downloadContexts handle = some ctx)
    (ready : LimiterReady downloadLimiter now) :
    client.AcceptsWriting downloadLimiter now relock lz4 handle chunk data ↔
      LimiterPasses downloadLimiter (UInt64.ofNat chunk.data.length) ∧
        (client.processDownloadChunk relock lz4 .success handle chunk).1 = .returned (.ok ()) ∧
        (client.processDownloadChunk relock lz4 .success handle chunk).2.files ctx.destination =
          some (ctx.written client.files chunk.header.chunkOffset data) := by
  constructor
  · rintro ⟨before, beforePresent, accepts⟩
    obtain rfl : ctx = before := Option.some.inj (present.symm.trans beforePresent)
    cases downloadLimiter with
    | none =>
        obtain ⟨passes, after, limiter, call, holds⟩ := accepts BandwidthLimiter.longest
        have same := (Prod.mk.inj (Option.some.inj call)).1
        rw [same]
        exact ⟨nofun, rfl, holds⟩
    | some limiter =>
        obtain ⟨limit, past⟩ := ready limiter rfl
        have through : limiter.LetsThrough (UInt64.ofNat chunk.data.length) now := by
          intro outOfRange
          obtain ⟨passes, after, filled, call, -⟩ := accepts outOfRange
          obtain ⟨state, acquired, -⟩ := Option.map_eq_some_iff.mp call
          exact ⟨passes, state, acquired⟩
        obtain ⟨passes, after, filled, call, holds⟩ := accepts BandwidthLimiter.longest
        obtain ⟨state, -, same⟩ := Option.map_eq_some_iff.mp call
        rw [(Prod.mk.inj same).1]
        refine ⟨?_, rfl, holds⟩
        rintro _ ⟨rfl⟩
        exact (BandwidthLimiter.letsThrough_iff limit past).mp through
  · rintro ⟨passes, succeeds, holds⟩
    refine ⟨ctx, present, fun outOfRange => ?_⟩
    have call : client.processDownloadChunk relock lz4 .success handle chunk =
        (.returned (.ok ()), (client.processDownloadChunk relock lz4 .success handle chunk).2) :=
      Prod.ext succeeds rfl
    cases downloadLimiter with
    | none => exact ⟨0, _, none, congrArg (fun call => some (call, none)) call, holds⟩
    | some limiter =>
        obtain ⟨limit, past⟩ := ready limiter rfl
        obtain ⟨count, state, acquired⟩ :=
          (BandwidthLimiter.letsThrough_iff limit past).mpr (passes limiter rfl) outOfRange
        refine ⟨count, _, some state.limiter, ?_, holds⟩
        rw [FileTransferClient.processLimited, acquired, call]
        rfl

/-- A chunk that can be unpacked is accepted exactly if the limiter lets it through, its checksum
matches and, where it is the last one, the download can be finalized. -/
theorem acceptsWriting_iff_of_unpacked (present : client.downloadContexts handle = some ctx)
    (running : ctx.cancelled = false) (unlocked : ctx.locked = false)
    (distinct : ctx.tempPath ≠ ctx.localPath)
    (unpacked : DownloadContext.writeData lz4 chunk = .ok data)
    (seekable : chunk.header.chunkOffset.toNat < streamOffsetBound)
    (ready : LimiterReady downloadLimiter now) :
    client.AcceptsWriting downloadLimiter now relock lz4 handle chunk data ↔
      LimiterPasses downloadLimiter (UInt64.ofNat chunk.data.length) ∧
        verifyCrc32 chunk.data chunk.header.checksum = true ∧
        (ctx.ExpectsLast →
          ctx.Finalizes relock client.files chunk.header.chunkOffset data) := by
  obtain ⟨succeeds, holds⟩ :=
    @processDownloadChunk_ok_iff lz4 client handle ctx chunk data relock present running unlocked
      distinct unpacked seekable
  rw [acceptsWriting_iff present ready, ← succeeds]
  exact and_congr_right fun _ => and_iff_left_of_imp holds

end

/-- The compress stage sends the bytes as they were read, or with a checksum
that its LZ4 block happens to share. -/
def SentVerifiable (lz4 : Option Lz4) (level : CompressionLevel) (data : Bytes) : Prop :=
  isCompressible lz4 data = true → ∀ block, compress lz4 level data = .ok block →
    block.length < data.length → crc32 block = crc32 data

/-- The client accepts the chunk that the server emits for a range of a file, and
writes exactly the bytes read from the file, if and only if its limiter lets the chunk through,
the compress stage left the bytes alone or produced a block with the same checksum, and a
chunk that completes the download can be finalized. -/
theorem acceptsWriting_emitted_iff {lz4 : Option Lz4}
    (roundTrips : ∀ library, lz4 = some library → library.RoundTrips)
    {context : PipelineContext} {files : FileSystem} {job : ReadJob} {emitted : PipelineChunk}
    (emits : Emits lz4 context files job emitted) {wire : Chunk}
    (placed : PlacedIn emitted job.offset wire)
    {client : FileTransferClient} {handle : UInt64} {ctx : DownloadContext}
    (present : client.downloadContexts handle = some ctx)
    (temp : ctx.tempPath = ctx.localPath ++ Text.ascii ".tmp")
    (running : ctx.cancelled = false) (unlocked : ctx.locked = false)
    {downloadLimiter : Option BandwidthLimiter} {now : ℚ}
    (ready : LimiterReady downloadLimiter now) (relock : Relock) :
    ∃ content, files job.filePath = some content ∧
      (client.AcceptsWriting downloadLimiter now relock lz4 handle wire
          (readAt content job.offset.toNat job.size) ↔
        LimiterPasses downloadLimiter (UInt64.ofNat wire.data.length) ∧
        SentVerifiable lz4 (context.engine job.chunkIndex.toNat)
          (readAt content job.offset.toNat job.size) ∧
        (ctx.ExpectsLast → ctx.Finalizes relock client.files job.offset
          (readAt content job.offset.toNat job.size))) := by
  obtain ⟨content, stored, seekable, emitted_eq⟩ := emits.chunk_eq
  refine ⟨content, stored, ?_⟩
  have distinct : ctx.tempPath ≠ ctx.localPath := by
    rw [temp]
    exact fun same => absurd (List.append_right_eq_self.mp same) (by decide)
  rw [← placed.offset_eq] at seekable
  have accepted_iff {data : Bytes} (unpacked : DownloadContext.writeData lz4 wire = .ok data)
      (verified_iff : verifyCrc32 wire.data wire.header.checksum = true ↔
        SentVerifiable lz4 (context.engine job.chunkIndex.toNat) data) :
      client.AcceptsWriting downloadLimiter now relock lz4 handle wire data ↔
        LimiterPasses downloadLimiter (UInt64.ofNat wire.data.length) ∧
        SentVerifiable lz4 (context.engine job.chunkIndex.toNat) data ∧
        (ctx.ExpectsLast → ctx.Finalizes relock client.files job.offset data) := by
    rw [← verified_iff, ← placed.offset_eq]
    exact acceptsWriting_iff_of_unpacked present running unlocked distinct unpacked seekable ready
  have data_eq := placed.data_eq
  have checksum_eq := placed.checksum_eq
  have compressed_eq := placed.compressed_eq
  have size_eq := placed.originalSize_eq
  rw [emitted_eq] at data_eq checksum_eq compressed_eq size_eq
  rcases compressChunk_cases lz4 (context.engine job.chunkIndex.toNat)
      (job.chunk (readAt content job.offset.toNat job.size)) with
    ⟨kept, notShorter⟩ | ⟨block, compressible, compressed, shorter, packed⟩
  · rw [kept] at data_eq checksum_eq compressed_eq
    dsimp only [ReadJob.chunk] at data_eq checksum_eq compressed_eq notShorter
    apply accepted_iff
    · rw [DownloadContext.writeData, compressed_eq, data_eq, if_neg Bool.false_ne_true]
    · apply iff_of_true
      · rw [data_eq, checksum_eq, verifyCrc32_crc32]
      · exact fun compressible block compressed shorter =>
          absurd shorter (notShorter compressible block compressed)
  · rw [packed] at data_eq checksum_eq compressed_eq size_eq
    dsimp only [ReadJob.chunk] at data_eq checksum_eq compressed_eq size_eq
    dsimp only [ReadJob.chunk] at compressible compressed shorter
    have wireSized : (readAt content job.offset.toNat job.size).length < 2 ^ 32 := by
      rw [← size_eq]
      exact wire.header.originalSize.toNat_lt
    apply accepted_iff
    · rw [DownloadContext.writeData, compressed_eq, if_pos rfl, size_eq, data_eq,
        decompress_compress roundTrips compressed (ne_nil_of_isCompressible compressible)
          wireSized shorter]
    · rw [data_eq, checksum_eq, verifyCrc32_eq_true_iff]
      constructor
      · intro same _ other otherCompressed _
        rwa [← Except.ok.inj (compressed.symm.trans otherCompressed)]
      · intro sent
        exact sent compressible block compressed shorter

/-! ## A file of equal bytes -/

namespace Sample

/-- Thirty-two equal bytes. -/
def content : Bytes := List.replicate 32 0x61

/-- The block that LZ4 makes of them: one literal, a match of 26 bytes at
distance one, and five literals. -/
def block : Bytes := [0x1F, 0x61, 0x01, 0x00, 0x07, 0x50, 0x61, 0x61, 0x61, 0x61, 0x61]

/-- LZ4 on these bytes. -/
def lz4 : Lz4 where
  compressDefault source := if source = content then some block else none
  compressHc _ := none
  decompressSafe input capacity :=
    if input = block ∧ content.length ≤ capacity then some content else none

theorem roundTrips : lz4.RoundTrips where
  compressDefault source output compressed := by
    simp only [lz4, Option.ite_none_right_eq_some, Option.some.injEq] at compressed
    obtain ⟨rfl, rfl⟩ := compressed
    exact ⟨by decide, by decide⟩
  compressHc _ _ compressed := absurd compressed (by simp [lz4])

def id : TransferId :=
  TransferId.zero

/-- A pipeline without encryption. -/
def context : PipelineContext where
  encryptionEnabled := false
  decryptQueue := false
  verifyQueue := true
  writeQueue := true
  encryptQueue := false
  compressQueue := true
  sendQueue := true
  compressionEngines := [.fast]
  engines_ne_nil := by decide
  encryptionEngines := []

def job : ReadJob := ⟨id, 0, Text.ascii "run", 0, 32⟩

def emitted : PipelineChunk := ⟨id, 0, block, crc32 content, true, 32, false, none⟩

def wire : Chunk := ⟨⟨id, 0, 0, 32, 11, crc32 content, ChunkFlags.compressed⟩, block⟩

/-- A download of one chunk, once it is described. -/
def download : DownloadContext :=
  ((FileTransferClient.newDownload id (Text.ascii "run") (Text.ascii "copy")
    ⟨false, true⟩).setMetadata .success (fun _ => none) 32 1 32 []).1

def client : FileTransferClient :=
  (FileTransferClient.initial 65536 fun _ => none).setDownload 1 download

theorem emits : Emits (some lz4) context (fun _ => some content) job emitted where
  chain := by
    refine ⟨none, ⟨false, true, true⟩, ⟨false, true, true⟩, ⟨false, true, true⟩, .success, none,
      job.chunk content, emitted, ?_, ?_, rfl⟩
    · rfl
    · rfl

theorem placed : PlacedIn emitted job.offset wire :=
  ⟨rfl, rfl, rfl, rfl, rfl⟩

end Sample

/-- On thirty-two equal bytes the theorem speaks about a compressed chunk, the only one of its
download, behind a limit of 1000 bytes per second. -/
theorem acceptsWriting_emitted_sample :
    ∃ content, some Sample.content = some content ∧
      (Sample.client.AcceptsWriting (some (.create 1000 0)) 0 .proceeds (some Sample.lz4) 1
          Sample.wire (readAt content 0 32) ↔
        LimiterPasses (some (.create 1000 0)) 11 ∧
        SentVerifiable (some Sample.lz4) .fast (readAt content 0 32) ∧
        (Sample.download.ExpectsLast →
          Sample.download.Finalizes .proceeds Sample.client.files 0 (readAt content 0 32))) := by
  have ready : LimiterReady (some (.create 1000 0)) 0 := by
    rintro _ ⟨rfl⟩
    exact ⟨fun _ => by decide, le_rfl⟩
  exact acceptsWriting_emitted_iff (fun _ same => Option.some.inj same ▸ Sample.roundTrips)
    Sample.emits Sample.placed (FileTransferClient.setDownload_self _ Sample.download) rfl rfl rfl
    ready .proceeds

/-- The server emits a compressed chunk of the file, and the client refuses it. -/
theorem compressed_sample_refused :
    Emits (some Sample.lz4) Sample.context (fun _ => some Sample.content) Sample.job
        Sample.emitted ∧
      PlacedIn Sample.emitted Sample.job.offset Sample.wire ∧
      ∀ relock,
        ¬ Sample.client.AcceptsWriting none 0 relock (some Sample.lz4) 1 Sample.wire
          Sample.content ∧
        Sample.client.processDownloadChunk relock (some Sample.lz4) .success 1 Sample.wire =
          (.returned (unexpected .chunkChecksumError "Chunk CRC32 verification failed"),
            Sample.client) := by
  have mismatch : ¬ verifyCrc32 Sample.wire.data Sample.wire.header.checksum = true := by
    decide +kernel
  have present : Sample.client.downloadContexts 1 = some Sample.download :=
    FileTransferClient.setDownload_self _ _
  refine ⟨Sample.emits, Sample.placed, fun relock => ⟨?_, ?_⟩⟩
  · rw [acceptsWriting_iff present fun _ none => absurd none (Option.not_mem_none _),
      processDownloadChunk_of_not_verified present rfl rfl mismatch]
    exact fun accepted => nomatch accepted.2.1
  · exact processDownloadChunk_of_not_verified present rfl rfl mismatch relock .success

end FileTrans.Client
