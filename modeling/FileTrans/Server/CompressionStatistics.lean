import FileTrans.Server.ServerPipeline

/-!
# The bytes saved by compression

`compression_saved_bytes` is raised by a decompress job and by a compress job,
by the original size less the size of the data.  The compress job holds the
block by then, and the decompress job the plain data, so that an upload counts
for nothing.

`crossed` is no field of the source: it holds the original and the compressed
size of every chunk that crossed the wire compressed since the last reset.
-/

namespace FileTrans.Server

open FileTrans.Core
open FileTrans.Transition

/-- The data that `decompress_job` puts in place of the received block, if it does. -/
def PipelineChunk.decompressed (lz4 : Option Lz4) (chunk : PipelineChunk) : Option Bytes :=
  if chunk.isCompressed ∧ ¬ decompressThrows lz4 chunk then
    (Core.decompress lz4 chunk.data chunk.originalSize).toOption
  else none

/-- The block that `compress_job` puts in place of the data, if it does. -/
def PipelineChunk.compressed (lz4 : Option Lz4) (level : CompressionLevel)
    (chunk : PipelineChunk) : Option Bytes :=
  if isCompressible lz4 chunk.data then
    (Core.compress lz4 level chunk.data).toOption.filter (·.length < chunk.data.length)
  else none

namespace Job

variable (libraries : Libraries) (context : PipelineContext)

/-- What a job adds to `compression_saved_bytes`. -/
def savedBytes : Job → UInt64
  | decompress chunk _ =>
      match chunk.decompressed libraries.lz4 with
      | some data => .ofNat chunk.originalSize - .ofNat data.length
      | none => 0
  | compress chunk workerId =>
      match chunk.compressed libraries.lz4 (context.engine workerId) with
      | some block => .ofNat chunk.data.length - .ofNat block.length
      | none => 0
  | _ => 0

/-- The original and the compressed size of a chunk that crosses the wire compressed. -/
def crossing : Job → Option (Nat × Nat)
  | decompress chunk _ =>
      (chunk.decompressed libraries.lz4).map fun _ => (chunk.originalSize, chunk.data.length)
  | compress chunk workerId =>
      (chunk.compressed libraries.lz4 (context.engine workerId)).map fun block =>
        (chunk.data.length, block.length)
  | _ => none

/-- With this count, the job adds what its chunk saved: a received block is as long as its
original, or it is empty, and the count stays below `2 ^ 64`. -/
def Counts (counted : UInt64) : Job → Prop
  | decompress chunk _ =>
      chunk.decompressed libraries.lz4 ≠ none →
        if chunk.data = [] then counted.toNat + chunk.originalSize < 2 ^ 64
        else chunk.data.length = chunk.originalSize
  | compress chunk workerId =>
      ∀ block, chunk.compressed libraries.lz4 (context.engine workerId) = some block →
        counted.toNat + (chunk.data.length - block.length) < 2 ^ 64
  | _ => True

end Job

/-- The job that does its work in the call. -/
def PipelineState.executed (state : PipelineState) : PipelineInput → Option Job
  | .execute index isCancelled _ _ =>
      if isCancelled ∨ ¬ state.running then none else state.pending[index]?.map Prod.snd
  | _ => none

structure CountedPipeline where
  pipeline : PipelineState
  compressionSavedBytes : UInt64
  crossed : List (Nat × Nat)

/-- A call of the pipeline, or `reset_statistics`. -/
inductive StatisticsInput
  | pipeline (input : PipelineInput)
  | resetStatistics

namespace CountedPipeline

/-- A pipeline after `create`. -/
def initial : CountedPipeline :=
  ⟨.initial, 0, []⟩

section

variable (libraries : Libraries) (context : PipelineContext)

/-- One call, or one execution of a waiting job. -/
def step : Step CountedPipeline StatisticsInput (Option PipelineOutput) := fun counted input =>
  match input with
  | .pipeline input =>
      let result := counted.pipeline.step libraries context input
      let executed := counted.pipeline.executed input
      (some result.1,
        { pipeline := result.2
          compressionSavedBytes := counted.compressionSavedBytes +
            (executed.map (Job.savedBytes libraries context)).getD 0
          crossed := counted.crossed ++
            (executed.bind (Job.crossing libraries context)).toList })
  | .resetStatistics => (none, ⟨counted.pipeline, 0, []⟩)

/-- The job of the call adds what its chunk saved. -/
def Counts (counted : CountedPipeline) : StatisticsInput → Prop
  | .pipeline input => ∀ job, counted.pipeline.executed input = some job →
      job.Counts libraries context counted.compressionSavedBytes
  | .resetStatistics => True

/-- The statistics show what was saved. -/
def SavesExactly (counted : CountedPipeline) : Prop :=
  (counted.compressionSavedBytes.toNat : Int) =
    (counted.crossed.map fun sizes => (sizes.1 : Int) - sizes.2).sum

end

end CountedPipeline

/-! ## What a job adds -/

section

variable {libraries : Libraries} {context : PipelineContext} {chunk : PipelineChunk}
  {level : CompressionLevel} {workerId : Nat}

theorem length_compressed {block : Bytes}
    (kept : chunk.compressed libraries.lz4 level = some block) :
    block.length < chunk.data.length := by
  rw [PipelineChunk.compressed] at kept
  split at kept
  · exact of_decide_eq_true (Option.filter_eq_some_iff.mp kept).2
  · contradiction

theorem decompress_of_decompressed {data : Bytes}
    (taken : chunk.decompressed libraries.lz4 = some data) :
    Core.decompress libraries.lz4 chunk.data chunk.originalSize = .ok data := by
  rw [PipelineChunk.decompressed] at taken
  split at taken
  · cases result : Core.decompress libraries.lz4 chunk.data chunk.originalSize with
    | error failure =>
        rw [result] at taken
        contradiction
    | ok output =>
        rw [result] at taken
        exact congrArg Except.ok (Option.some.inj taken)
  · contradiction

theorem decompressed_of_empty {data : Bytes} (empty : chunk.data = [])
    (taken : chunk.decompressed libraries.lz4 = some data) : data = [] := by
  have decompressed := decompress_of_decompressed taken
  rw [empty] at decompressed
  cases library : libraries.lz4 with
  | none =>
      rw [library] at decompressed
      contradiction
  | some lz4 =>
      rw [library, Core.decompress, if_pos rfl] at decompressed
      exact (Except.ok.inj decompressed).symm

theorem add_saved_iff (counted : UInt64) {original compressed : Nat} (le : compressed ≤ original) :
    ((counted + (UInt64.ofNat original - UInt64.ofNat compressed)).toNat : Int) =
        counted.toNat + ((original : Int) - compressed) ↔
      counted.toNat + (original - compressed) < 2 ^ 64 := by
  rw [← UInt64.ofNat_sub le, ← Int.natCast_sub le]
  norm_cast
  have bounded := (counted + UInt64.ofNat (original - compressed)).toNat_lt
  constructor
  · intro same
    omega
  · intro fits
    rw [UInt64.toNat_add, UInt64.toNat_ofNat', Nat.add_mod_mod, Nat.mod_eq_of_lt fits]

theorem counts_iff (counted : UInt64) (job : Job) :
    ((counted + job.savedBytes libraries context).toNat : Int) = counted.toNat +
        (((job.crossing libraries context).toList.map
          fun sizes => (sizes.1 : Int) - sizes.2).sum) ↔
      job.Counts libraries context counted := by
  cases job with
  | decompress chunk workerId =>
      rw [Job.savedBytes, Job.crossing, Job.Counts]
      cases taken : chunk.decompressed libraries.lz4 with
      | none => simp
      | some data =>
          by_cases empty : chunk.data = []
          · have added := add_saved_iff counted (Nat.zero_le chunk.originalSize)
            rw [decompressed_of_empty empty taken]
            simpa [empty] using added
          · have whole := length_decompress empty (decompress_of_decompressed taken)
            simp only [whole, empty, UInt64.sub_self, UInt64.add_zero, Option.map_some,
              Option.toList_some, List.map_cons, List.map_nil, List.sum_cons, List.sum_nil,
              add_zero, if_false, ne_eq, reduceCtorEq, not_false_eq_true, true_implies]
            omega
  | compress chunk workerId =>
      rw [Job.savedBytes, Job.crossing, Job.Counts]
      cases kept : chunk.compressed libraries.lz4 (context.engine workerId) with
      | none => simp
      | some block =>
          have added := add_saved_iff counted (length_compressed kept).le
          simpa using added
  | decrypt chunk workerId => simp [Job.savedBytes, Job.crossing, Job.Counts]
  | verify chunk => simp [Job.savedBytes, Job.crossing, Job.Counts]
  | write chunk => simp [Job.savedBytes, Job.crossing, Job.Counts]
  | read request => simp [Job.savedBytes, Job.crossing, Job.Counts]
  | encrypt chunk workerId => simp [Job.savedBytes, Job.crossing, Job.Counts]
  | send chunk => simp [Job.savedBytes, Job.crossing, Job.Counts]

end

namespace CountedPipeline

section

variable {libraries : Libraries} {context : PipelineContext} {counted : CountedPipeline}

theorem savesExactly_step_iff (saves : counted.SavesExactly) (input : StatisticsInput) :
    (step libraries context counted input).2.SavesExactly ↔
      counted.Counts libraries context input := by
  cases input with
  | resetStatistics => exact iff_of_true rfl trivial
  | pipeline input =>
      rw [step, SavesExactly, Counts]
      dsimp only
      rw [List.map_append, List.sum_append, ← saves]
      cases counted.pipeline.executed input with
      | none => simp
      | some job => simpa using counts_iff counted.compressionSavedBytes job

end

/-- In a run from a created pipeline the statistics show in every state what was saved since the
last reset, if and only if every job adds what its chunk saved. -/
theorem saves_exactly_iff (libraries : Libraries) (context : PipelineContext)
    (inputs : List StatisticsInput) :
    (∀ first rest, inputs = first ++ rest →
      (final (step libraries context) initial first).SavesExactly) ↔
      Guarded (step libraries context) (Counts libraries context) initial inputs := by
  apply forall_prefix_iff_guarded
  · intro counted input saves
    exact savesExactly_step_iff saves input
  · rfl

/-- Thirty-two equal bytes. -/
def equalBytes : Bytes :=
  List.replicate 32 0x61

/-- Their LZ4 block: one literal, a match of 26 bytes at distance one, and five literals. -/
def equalBlock : Bytes :=
  [0x1F, 0x61, 0x01, 0x00, 0x07, 0x50, 0x61, 0x61, 0x61, 0x61, 0x61]

/-- LZ4 as far as it is asked here. -/
def blockLibraries : Libraries where
  lz4 := some
    { compressDefault := fun _ => none
      compressHc := fun _ => none
      decompressSafe := fun block capacity =>
        if block = equalBlock ∧ 32 ≤ capacity then some equalBytes else none }
  aes := none

/-- A chunk of 32 bytes that is sent as 11. -/
def packedChunk : PipelineChunk :=
  ⟨TransferId.zero, 0, equalBlock, Checksum.crc32 equalBytes, true, 32, false, none⟩

/-- One execution of the first waiting job. -/
def execution : StatisticsInput :=
  .pipeline (.execute 0 false true ⟨fun _ => none, .success, none⟩)

/-- The upload of a compressed chunk through all stages. -/
def packedUpload : List StatisticsInput :=
  [.pipeline (.start true), .pipeline (.submitUploadChunk packedChunk true), execution,
    execution, execution]

/-- The uploaded chunk saved 21 bytes on the wire, and the statistics show none. -/
theorem upload_saves_nothing :
    (final (step blockLibraries (PipelineConfig.default.context blockLibraries rfl)) initial
      packedUpload).pipeline.reports = [(0, .uploadComplete TransferId.zero 32)] ∧
    (final (step blockLibraries (PipelineConfig.default.context blockLibraries rfl)) initial
      packedUpload).crossed = [(32, 11)] ∧
    (final (step blockLibraries (PipelineConfig.default.context blockLibraries rfl)) initial
      packedUpload).compressionSavedBytes = 0 ∧
    ¬ (final (step blockLibraries (PipelineConfig.default.context blockLibraries rfl)) initial
      packedUpload).SavesExactly := by
  refine ⟨by decide +kernel, by decide +kernel, by decide +kernel, ?_⟩
  rw [SavesExactly]
  decide +kernel

end CountedPipeline

end FileTrans.Server
