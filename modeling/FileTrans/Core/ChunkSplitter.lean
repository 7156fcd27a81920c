import FileTrans.Core.Checksum
import FileTrans.Storage.FileSystem

/-!
# Splitting a file into chunks

`split` opens a file and `next` reads its chunks one after the other: all of
the configured size except the last one, which holds what remains.  An empty
file has one empty chunk.

On a file that reads without failures the iterator yields exactly the chunks
`chunkAt`, whose byte ranges partition the file.
-/

namespace FileTrans.Core

open FileTrans.Storage
open FileTrans.Core.Checksum

/-! ## Configuration -/

structure ChunkConfig where
  chunkSize : Nat
  deriving DecidableEq

namespace ChunkConfig

def minChunkSize : Nat := 64 * 1024

def maxChunkSize : Nat := 1024 * 1024

def validate (config : ChunkConfig) : Result Unit :=
  if config.chunkSize < minChunkSize then
    .error ⟨.invalidChunkSize, Text.ascii "chunk size too small (minimum: " ++
      Text.decimal minChunkSize ++ Text.ascii ")"⟩
  else if config.chunkSize > maxChunkSize then
    .error ⟨.invalidChunkSize, Text.ascii "chunk size too large (maximum: " ++
      Text.decimal maxChunkSize ++ Text.ascii ")"⟩
  else
    .ok ()

def calculateChunkCount (config : ChunkConfig) (fileSize : Nat) : Nat :=
  if fileSize = 0 then 0
  else wrap64 (fileSize + config.chunkSize - 1) / config.chunkSize

theorem validate_eq_ok_iff (config : ChunkConfig) :
    config.validate = .ok () ↔
      minChunkSize ≤ config.chunkSize ∧ config.chunkSize ≤ maxChunkSize := by
  unfold validate
  split
  · rename_i small
    simp only [reduceCtorEq, false_iff, not_and]
    intro large
    omega
  · split
    · rename_i large
      simp only [reduceCtorEq, false_iff, not_and]
      intro _
      omega
    · simp only [true_iff]
      constructor <;> omega

end ChunkConfig

/-! ## The iterator -/

/-- `chunk_splitter::chunk_iterator`, without its scratch buffer. -/
structure ChunkIterator where
  file : InputStream
  config : ChunkConfig
  transferId : TransferId
  fileSize : Nat
  totalChunks : Nat
  currentIndex : Nat
  deriving DecidableEq

namespace ChunkIterator

def hasNext (it : ChunkIterator) : Bool :=
  it.currentIndex < it.totalChunks

/-- Whether the current chunk is the last one. -/
def atLast (it : ChunkIterator) : Bool :=
  it.currentIndex == it.totalChunks - 1

/-- `bytes_to_read` for the chunk at `offset`. -/
def bytesToRead (it : ChunkIterator) (offset : Nat) : Nat :=
  if it.atLast then sub64 it.fileSize offset else it.config.chunkSize

def currentFlags (it : ChunkIterator) : ChunkFlags :=
  let flags := if it.currentIndex = 0 then ChunkFlags.none ||| ChunkFlags.firstChunk
    else ChunkFlags.none
  if it.atLast then flags ||| ChunkFlags.lastChunk else flags

def next (it : ChunkIterator) : Result Chunk × ChunkIterator :=
  if ¬ it.hasNext then
    (unexpected .invalidChunkIndex "no more chunks available", it)
  else if ¬ it.file.good then
    (unexpected .fileReadError "file stream error", it)
  else
    let offset := wrap64 (it.currentIndex * it.config.chunkSize)
    let bytesToRead := it.bytesToRead offset
    let sought := it.file.seekg offset
    if ¬ sought.good then
      (unexpected .fileReadError "seek failed", { it with file := sought })
    else
      let (data, file) := sought.read bytesToRead
      if data.length ≠ bytesToRead then
        (unexpected .fileReadError "failed to read expected bytes", { it with file })
      else
        let header : ChunkHeader :=
          { id := it.transferId
            chunkIndex := UInt64.ofNat it.currentIndex
            chunkOffset := UInt64.ofNat offset
            originalSize := UInt32.ofNat data.length
            compressedSize := UInt32.ofNat data.length
            checksum := crc32 data
            flags := it.currentFlags }
        (.ok ⟨header, data⟩, { it with file, currentIndex := it.currentIndex + 1 })

theorem currentIndex_next_of_ok {it : ChunkIterator} {chunk : Chunk}
    (produced : it.next.1 = .ok chunk) :
    it.currentIndex < it.totalChunks ∧ it.next.2.currentIndex = it.currentIndex + 1 ∧
      it.next.2.totalChunks = it.totalChunks := by
  unfold next at produced ⊢
  by_cases hasNext : it.hasNext
  · rw [if_neg (not_not.mpr hasNext)] at produced ⊢
    refine ⟨by simpa [ChunkIterator.hasNext] using hasNext, ?_⟩
    split
    · simp_all [unexpected]
    · rename_i good
      rw [if_neg good] at produced
      dsimp only at produced ⊢
      split
      · simp_all [unexpected]
      · rename_i sought
        rw [if_neg sought] at produced
        split
        · simp_all [unexpected]
        · exact ⟨rfl, rfl⟩
  · simp [hasNext, unexpected] at produced

/-- Call `next` while `has_next` holds, and collect the chunks. -/
def drain (it : ChunkIterator) : Result (List Chunk) :=
  if it.hasNext then
    match _produced : it.next.1 with
    | .error failure => .error failure
    | .ok chunk => (drain it.next.2).map (chunk :: ·)
  else
    .ok []
termination_by it.totalChunks - it.currentIndex
decreasing_by
  obtain ⟨below, index, total⟩ := currentIndex_next_of_ok _produced
  rw [index, total]
  omega

end ChunkIterator

/-- `chunk_splitter::split` of the file at `path`. -/
def split (config : ChunkConfig) (files : FileSystem) (disk : DiskOutcome) (path : Path)
    (id : TransferId) : Result ChunkIterator :=
  match config.validate with
  | .error failure => .error failure
  | .ok () =>
      match files path with
      | none => .error ⟨.fileNotFound, Text.ascii "file not found: " ++ path⟩
      | some content =>
          if ¬ disk.opens then
            .error ⟨.fileAccessDenied, Text.ascii "cannot open file: " ++ path⟩
          else
            let fileSize := content.length
            let counted := config.calculateChunkCount fileSize
            let totalChunks := if counted = 0 then 1 else counted
            .ok ⟨InputStream.openFile content, config, id, fileSize, totalChunks, 0⟩

/-! ## Geometry -/

/-- Number of chunks of a file with `size` bytes; at least one. -/
def chunkTotal (chunkSize size : Nat) : Nat :=
  if size = 0 then 1 else (size + chunkSize - 1) / chunkSize

/-- Number of bytes of chunk `index`. -/
def chunkLength (chunkSize size index : Nat) : Nat :=
  if index = chunkTotal chunkSize size - 1 then size - index * chunkSize else chunkSize

section Geometry

variable {chunkSize size index : Nat}

theorem pred_chunkTotal_mul_le (chunkSize size : Nat) :
    (chunkTotal chunkSize size - 1) * chunkSize ≤ size := by
  unfold chunkTotal
  split
  · omega
  · have quotient := Nat.div_mul_le_self (size + chunkSize - 1) chunkSize
    rw [Nat.sub_mul]
    omega

theorem le_chunkTotal_mul (positive : 0 < chunkSize) :
    size ≤ chunkTotal chunkSize size * chunkSize := by
  unfold chunkTotal
  split
  · omega
  · have remainder := Nat.mod_lt (size + chunkSize - 1) positive
    have division := Nat.div_add_mod (size + chunkSize - 1) chunkSize
    rw [Nat.mul_comm] at division
    omega

theorem chunkOffset_le (inside : index < chunkTotal chunkSize size) :
    index * chunkSize ≤ size :=
  calc
    index * chunkSize ≤ (chunkTotal chunkSize size - 1) * chunkSize :=
      Nat.mul_le_mul_right chunkSize (by omega)
    _ ≤ size := pred_chunkTotal_mul_le chunkSize size

theorem chunkEnd_le (inside : index < chunkTotal chunkSize size) :
    index * chunkSize + chunkLength chunkSize size index ≤ size := by
  have start := chunkOffset_le inside
  unfold chunkLength
  split
  · omega
  · rename_i notLast
    have next : (index + 1) * chunkSize ≤ size :=
      (Nat.mul_le_mul_right chunkSize (by omega)).trans
        (pred_chunkTotal_mul_le chunkSize size)
    rw [Nat.add_mul, Nat.one_mul] at next
    exact next

theorem exists_chunk_of_position (positive : 0 < chunkSize) {position : Nat}
    (inside : position < size) :
    ∃ index < chunkTotal chunkSize size,
      position ∈ Set.Ico (index * chunkSize)
        (index * chunkSize + chunkLength chunkSize size index) := by
  have reach : size ≤ chunkTotal chunkSize size * chunkSize := le_chunkTotal_mul positive
  have below : position / chunkSize < chunkTotal chunkSize size :=
    (Nat.div_lt_iff_lt_mul positive).mpr (by omega)
  have lower := Nat.div_mul_le_self position chunkSize
  refine ⟨position / chunkSize, below, lower, ?_⟩
  unfold chunkLength
  split
  · omega
  · have remainder := Nat.mod_lt position positive
    have division := Nat.div_add_mod position chunkSize
    rw [Nat.mul_comm] at division
    omega

end Geometry

/-! ## What the iterator yields -/

/-- Chunk `index` of a file. -/
def chunkAt (config : ChunkConfig) (id : TransferId) (content : Bytes) (index : Nat) : Chunk :=
  let offset := index * config.chunkSize
  let data := readAt content offset (chunkLength config.chunkSize content.length index)
  let last := index == chunkTotal config.chunkSize content.length - 1
  let flags := if index = 0 then ChunkFlags.none ||| ChunkFlags.firstChunk else ChunkFlags.none
  { header :=
      { id
        chunkIndex := UInt64.ofNat index
        chunkOffset := UInt64.ofNat offset
        originalSize := UInt32.ofNat data.length
        compressedSize := UInt32.ofNat data.length
        checksum := crc32 data
        flags := if last then flags ||| ChunkFlags.lastChunk else flags }
    data }

/-- An iterator over a file, in front of chunk `index`. -/
structure ReadsFrom (config : ChunkConfig) (id : TransferId) (content : Bytes) (index : Nat)
    (it : ChunkIterator) : Prop where
  content_eq : it.file.content = content
  good : it.file.good = true
  config_eq : it.config = config
  id_eq : it.transferId = id
  fileSize_eq : it.fileSize = content.length
  total_eq : it.totalChunks = chunkTotal config.chunkSize content.length
  index_eq : it.currentIndex = index

variable {config : ChunkConfig} {id : TransferId} {content : Bytes} {index : Nat}

theorem ReadsFrom.next {it : ChunkIterator} (reads : ReadsFrom config id content index it)
    (addressable : content.length < streamOffsetBound)
    (inside : index < chunkTotal config.chunkSize content.length) :
    it.next.1 = .ok (chunkAt config id content index) ∧
      ReadsFrom config id content (index + 1) it.next.2 := by
  rcases it with ⟨⟨stored, position, good⟩, itConfig, itId, fileSize, total, current⟩
  rcases reads with ⟨content_eq, good_eq, config_eq, id_eq, size_eq, total_eq, index_eq⟩
  dsimp only at content_eq good_eq config_eq id_eq size_eq total_eq index_eq
  subst content_eq good_eq config_eq id_eq size_eq total_eq index_eq
  have start := chunkOffset_le inside
  have finish := chunkEnd_le inside
  simp only [streamOffsetBound] at addressable
  have offset_eq : wrap64 (current * itConfig.chunkSize) = current * itConfig.chunkSize :=
    wrap64_of_lt (by omega)
  have count_eq : ∀ it : ChunkIterator, it.currentIndex = current →
      it.totalChunks = chunkTotal itConfig.chunkSize stored.length →
      it.fileSize = stored.length → it.config = itConfig →
      it.bytesToRead (current * itConfig.chunkSize) =
        chunkLength itConfig.chunkSize stored.length current := by
    intro it index_eq total_eq size_eq config_eq
    simp only [ChunkIterator.bytesToRead, ChunkIterator.atLast, chunkLength, index_eq,
      total_eq, size_eq, config_eq, beq_iff_eq, sub64_of_le start (by omega)]
  have length_eq : (readAt stored (current * itConfig.chunkSize)
      (chunkLength itConfig.chunkSize stored.length current)).length =
        chunkLength itConfig.chunkSize stored.length current := by
    rw [length_readAt]
    omega
  have seekable : current * itConfig.chunkSize < streamOffsetBound := by
    simp only [streamOffsetBound]
    omega
  constructor
  · simp [ChunkIterator.next, ChunkIterator.hasNext, inside, offset_eq, InputStream.seekg,
      seekable, count_eq, InputStream.read, length_eq, chunkAt, ChunkIterator.currentFlags,
      ChunkIterator.atLast]
  · constructor <;>
      simp [ChunkIterator.next, ChunkIterator.hasNext, inside, offset_eq, InputStream.seekg,
        seekable, count_eq, InputStream.read, length_eq]

theorem ReadsFrom.drain {it : ChunkIterator} (reads : ReadsFrom config id content index it)
    (addressable : content.length < streamOffsetBound) (remaining : Nat)
    (total_eq : index + remaining = chunkTotal config.chunkSize content.length) :
    it.drain = .ok ((List.range' index remaining).map (chunkAt config id content)) := by
  induction remaining generalizing index it with
  | zero =>
      rw [ChunkIterator.drain]
      have done : it.hasNext = false := by
        simp [ChunkIterator.hasNext, reads.index_eq, reads.total_eq]
        omega
      simp [done]
  | succ remaining ih =>
      obtain ⟨produced, reads'⟩ := reads.next addressable (by omega)
      rw [ChunkIterator.drain]
      have more : it.hasNext = true := by
        simp [ChunkIterator.hasNext, reads.index_eq, reads.total_eq]
        omega
      rw [if_pos more]
      split
      · rename_i failed
        rw [produced] at failed
        contradiction
      · rename_i chunk same
        rw [produced] at same
        cases same
        rw [ih reads' (by omega)]
        rfl

theorem split_success (valid : config.validate = .ok ()) {files : FileSystem} {path : Path}
    {file : StoredFile} (stored : files path = some file.bytes) (id : TransferId) :
    ∃ it, split config files .success path id = .ok it ∧
      ReadsFrom config id file.bytes 0 it := by
  obtain ⟨lower, upper⟩ := config.validate_eq_ok_iff.mp valid
  simp only [ChunkConfig.minChunkSize, ChunkConfig.maxChunkSize] at lower upper
  have addressable := file.length_lt
  simp only [streamOffsetBound] at addressable
  have split_eq : split config files .success path id =
      .ok ⟨InputStream.openFile file.bytes, config, id, file.bytes.length,
        if config.calculateChunkCount file.bytes.length = 0 then 1
        else config.calculateChunkCount file.bytes.length, 0⟩ := by
    simp [split, valid, stored, DiskOutcome.success]
  refine ⟨_, split_eq, rfl, rfl, rfl, rfl, rfl, ?_, rfl⟩
  have counted : config.calculateChunkCount file.bytes.length =
      if file.bytes.length = 0 then 0
      else (file.bytes.length + config.chunkSize - 1) / config.chunkSize := by
    rw [ChunkConfig.calculateChunkCount, wrap64_of_lt (by omega)]
  simp only [counted, chunkTotal]
  by_cases empty : file.bytes.length = 0
  · simp [empty]
  · have positive : 0 < (file.bytes.length + config.chunkSize - 1) / config.chunkSize :=
      Nat.div_pos (by omega) (by omega)
    simp only [empty, if_false]
    rw [if_neg (by omega)]

end FileTrans.Core
