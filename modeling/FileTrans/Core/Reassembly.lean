import FileTrans.Core.ChunkSplitter
import FileTrans.Core.ChunkAssembler
import FileTrans.Transition.Run

/-!
# Reassembly of a split file

The chunks of a file, delivered to an assembler session in any order and with
any repetition, restore the file.  The invariant `Collects` relates the set of
indices that arrived to the bitmap, the counter and the temporary file of the
session; `Restores` carries the byte ranges.
-/

namespace FileTrans.Core

open FileTrans.Storage
open FileTrans.Core.Checksum
open FileTrans.Transition

/-- `process_chunk` with a working disk, as a step of the assembler. -/
def receive : Step ChunkAssembler Chunk (Result Unit) :=
  fun assembler chunk => assembler.processChunk .success chunk

section Chunks

variable {config : ChunkConfig} {id : TransferId} {content : Bytes} {index : Nat}

/-- What is needed of a chunk size and a file so that no header field wraps. -/
structure Splittable (config : ChunkConfig) (content : Bytes) : Prop where
  positive : 0 < config.chunkSize
  addressable : content.length < streamOffsetBound

theorem splittable_of_validate (valid : config.validate = .ok ()) (file : StoredFile) :
    Splittable config file.bytes := by
  obtain ⟨lower, _⟩ := config.validate_eq_ok_iff.mp valid
  simp only [ChunkConfig.minChunkSize] at lower
  exact ⟨by omega, file.length_lt⟩

theorem Splittable.chunkTotal_lt (splittable : Splittable config content) :
    chunkTotal config.chunkSize content.length < 2 ^ 64 := by
  have addressable := splittable.addressable
  simp only [streamOffsetBound] at addressable
  have start := pred_chunkTotal_mul_le config.chunkSize content.length
  have scaled : (chunkTotal config.chunkSize content.length - 1) * 1 ≤
      (chunkTotal config.chunkSize content.length - 1) * config.chunkSize :=
    Nat.mul_le_mul_left _ splittable.positive
  omega

theorem Splittable.chunkIndex_chunkAt (splittable : Splittable config content)
    (inside : index < chunkTotal config.chunkSize content.length) :
    (chunkAt config id content index).header.chunkIndex.toNat = index := by
  have total := splittable.chunkTotal_lt
  exact UInt64.toNat_ofNat_of_lt (by simp only [UInt64.size]; omega)

theorem Splittable.chunkOffset_chunkAt (splittable : Splittable config content)
    (inside : index < chunkTotal config.chunkSize content.length) :
    (chunkAt config id content index).header.chunkOffset.toNat = index * config.chunkSize := by
  have start := chunkOffset_le inside
  have addressable := splittable.addressable
  simp only [streamOffsetBound] at addressable
  exact UInt64.toNat_ofNat_of_lt (by simp only [UInt64.size]; omega)

end Chunks

/-! ## The invariant of a session -/

/-- The positions covered by the chunks with the given indices. -/
def coveredBy (config : ChunkConfig) (content : Bytes) (arrived : Finset Nat) : Set Nat :=
  {position | ∃ index ∈ arrived, position ∈ Set.Ico (index * config.chunkSize)
    (index * config.chunkSize + chunkLength config.chunkSize content.length index)}

/-- The session of `id` has received exactly the chunks in `arrived`. -/
structure Collects (config : ChunkConfig) (id : TransferId) (content : Bytes)
    (tempPath finalPath : Path) (arrived : Finset Nat) (assembler : ChunkAssembler)
    (ctx : AssemblyContext) : Prop where
  session : assembler.contexts id = some ctx
  tempPath_eq : ctx.tempFilePath = tempPath
  streamPath_eq : ctx.file.path = tempPath
  finalPath_eq : ctx.finalPath = finalPath
  good : ctx.file.good = true
  isOpen : ctx.file.isOpen = true
  total_eq : ctx.totalChunks = chunkTotal config.chunkSize content.length
  bitmap_eq : ctx.receivedChunks =
    (List.range (chunkTotal config.chunkSize content.length)).map
      fun index => decide (index ∈ arrived)
  count_eq : ctx.receivedCount = arrived.card
  subset : arrived ⊆ Finset.range (chunkTotal config.chunkSize content.length)
  restores : ∃ partialFile, assembler.files tempPath = some partialFile ∧
    Restores content partialFile (coveredBy config content arrived)

variable {config : ChunkConfig} {id : TransferId} {content : Bytes}
variable {tempPath finalPath : Path} {arrived : Finset Nat}
variable {assembler : ChunkAssembler} {ctx : AssemblyContext}

namespace Collects

theorem bitmap_getD (collects : Collects config id content tempPath finalPath arrived assembler ctx)
    {index : Nat} (inside : index < chunkTotal config.chunkSize content.length) :
    ctx.receivedChunks.getD index false = decide (index ∈ arrived) := by
  rw [collects.bitmap_eq, List.getD_eq_getElem?_getD, List.getElem?_map,
    List.getElem?_range inside]
  rfl

private theorem bitmap_set (total index : Nat) (arrived : Finset Nat) :
    ((List.range total).map (fun i => decide (i ∈ arrived))).set index true =
      (List.range total).map (fun i => decide (i ∈ insert index arrived)) := by
  apply List.ext_getElem?
  intro i
  rw [List.getElem?_set]
  by_cases same : index = i
  · subst i
    by_cases inside : index < total <;> simp [inside]
  · have distinct : i ≠ index := fun eq => same eq.symm
    by_cases inside : i < total
    · simp [same, distinct, inside]
    · simp [same, inside]

theorem isComplete_iff
    (collects : Collects config id content tempPath finalPath arrived assembler ctx) :
    assembler.isComplete id = true ↔
      arrived = Finset.range (chunkTotal config.chunkSize content.length) := by
  simp only [ChunkAssembler.isComplete, collects.session, beq_iff_eq, collects.count_eq,
    collects.total_eq]
  constructor
  · intro card_eq
    exact Finset.eq_of_subset_of_card_le collects.subset (by rw [card_eq, Finset.card_range])
  · rintro rfl
    exact Finset.card_range _

theorem receive (splittable : Splittable config content)
    (collects : Collects config id content tempPath finalPath arrived assembler ctx)
    {index : Nat} (inside : index < chunkTotal config.chunkSize content.length) :
    (Core.receive assembler (chunkAt config id content index)).1 = .ok () ∧
      ∃ ctx', Collects config id content tempPath finalPath (insert index arrived)
        (Core.receive assembler (chunkAt config id content index)).2 ctx' := by
  have index_eq : (chunkAt config id content index).header.chunkIndex.toNat = index :=
    splittable.chunkIndex_chunkAt inside
  have offset_eq : (chunkAt config id content index).header.chunkOffset.toNat =
      index * config.chunkSize :=
    splittable.chunkOffset_chunkAt inside
  have finish := chunkEnd_le inside
  have addressable := splittable.addressable
  have bitmap := collects.bitmap_getD inside
  have session : assembler.contexts (chunkAt config id content index).header.id = some ctx :=
    collects.session
  by_cases known : index ∈ arrived
  · have step := ChunkAssembler.processChunk_duplicate session
      (by rw [index_eq, collects.total_eq]; exact inside)
      (by rw [index_eq, bitmap, decide_eq_true known]) .success
    rw [Core.receive, step, Finset.insert_eq_of_mem known]
    exact ⟨rfl, ctx, collects⟩
  · have step := ChunkAssembler.processChunk_fresh session
      (by rw [index_eq, collects.total_eq]; exact inside)
      (by rw [index_eq, bitmap, decide_eq_false known])
      (verifyCrc32_crc32 _) collects.good collects.isOpen (by rw [offset_eq]; omega)
    obtain ⟨partialFile, stored, restores⟩ := collects.restores
    rw [Core.receive, step]
    refine ⟨rfl, ctx.record { ctx.file with
      position := (chunkAt config id content index).header.chunkOffset.toNat +
        (chunkAt config id content index).data.length } (chunkAt config id content index), ?_⟩
    have total := splittable.chunkTotal_lt
    have subset' := Finset.insert_subset (Finset.mem_range.mpr inside) collects.subset
    have card := Finset.card_le_card subset'
    rw [Finset.card_insert_of_notMem known, Finset.card_range] at card
    constructor
    case session => simp [chunkAt]
    case tempPath_eq => exact collects.tempPath_eq
    case streamPath_eq => exact collects.streamPath_eq
    case finalPath_eq => exact collects.finalPath_eq
    case good => exact collects.good
    case isOpen => exact collects.isOpen
    case total_eq => exact collects.total_eq
    case bitmap_eq =>
      rw [AssemblyContext.record, index_eq, collects.bitmap_eq]
      exact bitmap_set _ index arrived
    case count_eq =>
      rw [AssemblyContext.record, Finset.card_insert_of_notMem known, collects.count_eq,
        wrap64_of_lt]
      omega
    case subset => exact subset'
    case restores =>
      refine ⟨writeAt 0 partialFile (index * config.chunkSize)
        (chunkAt config id content index).data, ?_, ?_⟩
      · rw [ChunkAssembler.setContext_files]
        dsimp only
        rw [offset_eq, collects.streamPath_eq, FileSystem.write_of_eq_some _ stored,
          FileSystem.put_self]
      · have covered_eq : coveredBy config content (insert index arrived) =
            coveredBy config content arrived ∪ Set.Ico (index * config.chunkSize)
              (index * config.chunkSize +
                chunkLength config.chunkSize content.length index) := by
          ext position
          simp only [coveredBy, Finset.mem_insert, Set.mem_ofPred_eq, Set.mem_union]
          constructor
          · rintro ⟨other, rfl | mem, range⟩
            · exact Or.inr range
            · exact Or.inl ⟨other, mem, range⟩
          · rintro (⟨other, mem, range⟩ | range)
            · exact ⟨other, Or.inr mem, range⟩
            · exact ⟨index, Or.inl rfl, range⟩
        rw [covered_eq]
        exact restores.writeSlice 0 finish

theorem finalize (splittable : Splittable config content)
    (collects : Collects config id content tempPath finalPath
      (Finset.range (chunkTotal config.chunkSize content.length)) assembler ctx)
    (distinct : tempPath ≠ finalPath) {hash : Bytes}
    (hash_eq : hash = [] ∨ hash = sha256File content) :
    (assembler.finalize .success id hash).1 = .ok finalPath ∧
      (assembler.finalize .success id hash).2.files finalPath = some content := by
  obtain ⟨partialFile, stored, restores⟩ := collects.restores
  have content_eq : partialFile = content := restores.eq_content fun position inside => by
    obtain ⟨index, below, range⟩ := exists_chunk_of_position splittable.positive inside
    exact ⟨index, Finset.mem_range.mpr below, range⟩
  rw [content_eq] at stored
  have complete : ¬ ctx.receivedCount ≠ ctx.totalChunks := by
    rw [collects.count_eq, collects.total_eq, Finset.card_range, not_not]
  have verified : ¬ (hash ≠ [] ∧
      ¬ verifySha256 (assembler.files ctx.tempFilePath) hash = true) := by
    rintro ⟨nonempty, mismatch⟩
    rcases hash_eq with rfl | rfl
    · contradiction
    · apply mismatch
      rw [collects.tempPath_eq, stored]
      exact verifySha256_self content
  have stored' : (if assembler.files.exist ctx.finalPath then
      assembler.files.remove ctx.finalPath else assembler.files) tempPath = some content := by
    rw [collects.finalPath_eq]
    split
    · rw [FileSystem.remove_of_ne _ distinct, stored]
    · exact stored
  rw [ChunkAssembler.finalize, collects.session]
  dsimp only
  rw [if_neg complete, if_neg verified, collects.tempPath_eq, collects.finalPath_eq]
  rw [collects.finalPath_eq] at stored'
  rw [FileSystem.rename_success _ stored' distinct]
  refine ⟨rfl, ?_⟩
  rw [ChunkAssembler.eraseContext_files]
  dsimp only
  rw [FileSystem.remove_of_ne _ distinct.symm, FileSystem.put_self]

end Collects

theorem startSession_collects (splittable : Splittable config content)
    (fresh : assembler.contexts id = none) (tempName filename : Bytes) :
    (assembler.startSession .success tempName id filename content.length
        (chunkTotal config.chunkSize content.length)).1 = .ok () ∧
      ∃ ctx, Collects config id content (assembler.outputDir.append tempName)
        (assembler.outputDir.append filename) ∅
        (assembler.startSession .success tempName id filename content.length
          (chunkTotal config.chunkSize content.length)).2 ctx := by
  have addressable := splittable.addressable
  have bounded : content.length - 1 < streamOffsetBound := by omega
  have origin : 0 < streamOffsetBound := by simp [streamOffsetBound]
  have preallocated : ∃ stream files partialFile,
      ChunkAssembler.preallocate .success ⟨assembler.outputDir.append tempName, 0, true, true⟩
        (assembler.files.put (assembler.outputDir.append tempName) []) content.length =
        (stream, files) ∧
      stream.path = assembler.outputDir.append tempName ∧ stream.good = true ∧
      stream.isOpen = true ∧ files (assembler.outputDir.append tempName) = some partialFile ∧
      partialFile.length = content.length := by
    unfold ChunkAssembler.preallocate
    split
    · rename_i positive
      rw [OutputStream.seekp_success _ rfl rfl bounded, OutputStream.write_success _ _ rfl rfl]
      dsimp only
      rw [OutputStream.seekp_success _ rfl rfl origin,
        FileSystem.write_of_eq_some _ (FileSystem.put_self _ _ _)]
      refine ⟨_, _, _, rfl, rfl, rfl, rfl, FileSystem.put_self _ _ _, ?_⟩
      rw [length_writeAt _ _ _ (List.cons_ne_nil _ _)]
      simp only [List.length_nil, List.length_cons]
      omega
    · exact ⟨_, _, _, rfl, rfl, rfl, rfl, FileSystem.put_self _ _ _, by
        simp only [List.length_nil]; omega⟩
  obtain ⟨stream, files, partialFile, prepared, path_eq, good, isOpen, stored, length_eq⟩ :=
    preallocated
  have covered_empty : coveredBy config content ∅ = ∅ := by
    simp [coveredBy]
  simp only [ChunkAssembler.startSession, fresh, OutputStream.openFile, DiskOutcome.success,
    if_true, not_true_eq_false, if_false] at prepared ⊢
  rw [prepared]
  refine ⟨trivial, AssemblyContext.opened (assembler.outputDir.append tempName)
    (assembler.outputDir.append filename) filename stream content.length
    (chunkTotal config.chunkSize content.length), ?_⟩
  constructor
  case session => exact ChunkAssembler.setContext_self _ _ _
  case tempPath_eq => rfl
  case streamPath_eq => exact path_eq
  case finalPath_eq => rfl
  case good => exact good
  case isOpen => exact isOpen
  case total_eq => rfl
  case bitmap_eq => simp [AssemblyContext.opened]
  case count_eq => rfl
  case subset => exact Finset.empty_subset _
  case restores =>
    rw [covered_empty]
    exact ⟨partialFile, stored, Restores.empty length_eq⟩

/-! ## The round trip -/

/-- The indices of the chunks in a list of calls. -/
def arrivedIndices (calls : List Chunk) : Finset Nat :=
  (calls.map fun chunk => chunk.header.chunkIndex.toNat).toFinset

/-- After any calls with chunks of the file, the session has received exactly
the chunks that occur among the calls, and every call succeeded. -/
theorem Collects.run (splittable : Splittable config content)
    (collects : Collects config id content tempPath finalPath ∅ assembler ctx)
    {calls : List Chunk}
    (produced : ∀ chunk ∈ calls, ∃ index < chunkTotal config.chunkSize content.length,
      chunk = chunkAt config id content index) :
    (∀ result ∈ outputs Core.receive assembler calls, result = .ok ()) ∧
      ∃ ctx', Collects config id content tempPath finalPath (arrivedIndices calls)
        (final Core.receive assembler calls) ctx' := by
  have guarded := guarded_of_forall_mem Core.receive assembler produced
  constructor
  · refine Guarded.outputs (fun assembler => ∃ arrived ctx,
      Collects config id content tempPath finalPath arrived assembler ctx)
      (fun result => result = .ok ()) ?_ ?_ guarded ⟨∅, ctx, collects⟩
    · rintro assembler chunk ⟨arrived, ctx, collects⟩ ⟨index, inside, rfl⟩
      exact ⟨_, (collects.receive splittable inside).2⟩
    · rintro assembler chunk ⟨arrived, ctx, collects⟩ ⟨index, inside, rfl⟩
      exact (collects.receive splittable inside).1
  · refine Guarded.history_invariant (fun past assembler => ∃ ctx,
      Collects config id content tempPath finalPath (arrivedIndices past) assembler ctx)
      ?_ [] guarded ⟨ctx, collects⟩
    rintro past assembler chunk ⟨ctx, collects⟩ ⟨index, inside, rfl⟩
    have extended : arrivedIndices (past ++ [chunkAt config id content index]) =
        insert index (arrivedIndices past) := by
      ext i
      simp [arrivedIndices, splittable.chunkIndex_chunkAt inside]
    rw [extended]
    exact (collects.receive splittable inside).2

theorem arrivedIndices_eq_range_iff (splittable : Splittable config content)
    {calls : List Chunk}
    (produced : ∀ chunk ∈ calls, ∃ index < chunkTotal config.chunkSize content.length,
      chunk = chunkAt config id content index) :
    arrivedIndices calls = Finset.range (chunkTotal config.chunkSize content.length) ↔
      ∀ index < chunkTotal config.chunkSize content.length,
        chunkAt config id content index ∈ calls := by
  have mem_iff : ∀ index < chunkTotal config.chunkSize content.length,
      index ∈ arrivedIndices calls ↔ chunkAt config id content index ∈ calls := by
    intro index inside
    simp only [arrivedIndices, List.mem_toFinset, List.mem_map]
    constructor
    · rintro ⟨chunk, mem, index_eq⟩
      obtain ⟨other, otherInside, rfl⟩ := produced chunk mem
      rw [splittable.chunkIndex_chunkAt otherInside] at index_eq
      rwa [← index_eq]
    · intro mem
      exact ⟨_, mem, splittable.chunkIndex_chunkAt inside⟩
  constructor
  · intro all index inside
    rw [← mem_iff index inside, all]
    exact Finset.mem_range.mpr inside
  · intro all
    ext index
    rw [Finset.mem_range]
    constructor
    · intro mem
      obtain ⟨chunk, chunkMem, rfl⟩ := List.mem_map.mp (List.mem_toFinset.mp mem)
      obtain ⟨other, otherInside, rfl⟩ := produced chunk chunkMem
      rwa [splittable.chunkIndex_chunkAt otherInside]
    · intro inside
      exact (mem_iff index inside).mpr (all index inside)

/-- A file split with any valid chunk size is restored by a session that is
opened with the splitter's file size and chunk count.  In every sequence of
calls with chunks of the file, in any order and with any repetition, each call
succeeds, the session is complete exactly when every chunk has occurred, and
then `finalize` leaves the original bytes at the final path. -/
theorem assembles_split_file (config : ChunkConfig) (valid : config.validate = .ok ())
    (file : StoredFile) (source : FileSystem) (path : Path)
    (stored : source path = some file.bytes) (id : TransferId)
    (assembler : ChunkAssembler) (fresh : assembler.contexts id = none)
    (tempName filename : Bytes)
    (distinct : assembler.outputDir.append tempName ≠ assembler.outputDir.append filename) :
    ∃ it chunks opened,
      split config source .success path id = .ok it ∧ it.drain = .ok chunks ∧
      chunks.length = it.totalChunks ∧
      assembler.startSession .success tempName id filename it.fileSize it.totalChunks =
        (.ok (), opened) ∧
      ∀ calls : List Chunk, (∀ chunk ∈ calls, chunk ∈ chunks) →
        (∀ result ∈ outputs receive opened calls, result = .ok ()) ∧
        ((final receive opened calls).isComplete id = true ↔
          ∀ chunk ∈ chunks, chunk ∈ calls) ∧
        ((∀ chunk ∈ chunks, chunk ∈ calls) →
          ∀ hash, hash = [] ∨ hash = sha256File file.bytes →
            ((final receive opened calls).finalize .success id hash).1 =
              .ok (assembler.outputDir.append filename) ∧
            ((final receive opened calls).finalize .success id hash).2.files
              (assembler.outputDir.append filename) = some file.bytes) := by
  have splittable := splittable_of_validate valid file
  obtain ⟨it, split_eq, reads⟩ := split_success valid stored id
  have drained := reads.drain splittable.addressable
    (chunkTotal config.chunkSize file.bytes.length) (Nat.zero_add _)
  obtain ⟨started, ctx, collects⟩ := startSession_collects splittable fresh tempName filename
  have mem_chunks : ∀ chunk, chunk ∈ (List.range' 0
      (chunkTotal config.chunkSize file.bytes.length)).map (chunkAt config id file.bytes) ↔
      ∃ index < chunkTotal config.chunkSize file.bytes.length,
        chunk = chunkAt config id file.bytes index := by
    intro chunk
    simp only [List.mem_map, List.mem_range'_1, Nat.zero_le, true_and, Nat.zero_add]
    constructor <;> rintro ⟨index, inside, eq⟩ <;> exact ⟨index, inside, eq.symm⟩
  refine ⟨it, (List.range' 0 (chunkTotal config.chunkSize file.bytes.length)).map
      (chunkAt config id file.bytes),
    (assembler.startSession .success tempName id filename file.bytes.length
      (chunkTotal config.chunkSize file.bytes.length)).2,
    split_eq, drained, by simp [reads.total_eq], ?_, ?_⟩
  · rw [reads.fileSize_eq, reads.total_eq]
    exact Prod.ext started rfl
  · intro calls produced
    have produced' := fun chunk mem => (mem_chunks chunk).mp (produced chunk mem)
    obtain ⟨succeeded, ctx', collected⟩ := collects.run splittable produced'
    have all_iff := arrivedIndices_eq_range_iff splittable produced'
    have every_iff : (∀ index < chunkTotal config.chunkSize file.bytes.length,
        chunkAt config id file.bytes index ∈ calls) ↔
        ∀ chunk ∈ (List.range' 0 (chunkTotal config.chunkSize file.bytes.length)).map
          (chunkAt config id file.bytes), chunk ∈ calls := by
      constructor
      · intro every chunk mem
        obtain ⟨index, inside, rfl⟩ := (mem_chunks chunk).mp mem
        exact every index inside
      · intro every index inside
        exact every _ ((mem_chunks _).mpr ⟨index, inside, rfl⟩)
    refine ⟨succeeded, collected.isComplete_iff.trans (all_iff.trans every_iff), ?_⟩
    intro every hash hash_eq
    rw [all_iff.mpr (every_iff.mpr every)] at collected
    exact collected.finalize splittable distinct hash_eq

/-- A file of one byte, split with the smallest chunk size, delivered twice. -/
theorem assembles_split_file_one_byte :
    ∃ it chunks opened,
      split ⟨65536⟩ (fun _ => some [7]) .success (Text.ascii "a")
        ⟨List.replicate 16 0, by rfl⟩ = .ok it ∧ it.drain = .ok chunks ∧
      (ChunkAssembler.startSession ⟨Text.ascii "out", fun _ => none, fun _ => none⟩ .success
        (Text.ascii ".tmp_0") ⟨List.replicate 16 0, by rfl⟩ (Text.ascii "a") it.fileSize
        it.totalChunks) = (.ok (), opened) ∧
      ((final receive opened (chunks ++ chunks)).finalize .success
        ⟨List.replicate 16 0, by rfl⟩ []).2.files (Text.ascii "out/a") = some [7] := by
  obtain ⟨it, chunks, opened, split_eq, drained, _, started, delivered⟩ :=
    assembles_split_file ⟨65536⟩ (by decide) ⟨[7], by simp [streamOffsetBound]⟩
      (fun _ => some [7]) (Text.ascii "a") rfl ⟨List.replicate 16 0, by rfl⟩
      ⟨Text.ascii "out", fun _ => none, fun _ => none⟩ rfl (Text.ascii ".tmp_0")
      (Text.ascii "a") (by decide)
  obtain ⟨_, _, finalized⟩ := delivered (chunks ++ chunks) (by simp)
  exact ⟨it, chunks, opened, split_eq, drained, started,
    (finalized (by simp) [] (Or.inl rfl)).2⟩

end FileTrans.Core
