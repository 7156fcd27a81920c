import FileTrans.Core.AssemblerSessions

/-!
# What a finalized file consists of

`process_chunk` checks the index of a chunk, but neither its offset nor its length, and
`finalize` only counts.  The file of a complete session has the declared size, and every
byte of it comes from a chunk, exactly if the byte ranges of the chunks that counted make
up the declared size.

`finalize` does not look at what `close` says, so on a disk that refuses a write the bytes
that the stream still holds are lost.  The disks here take every write.
-/

namespace FileTrans.Core

open Storage Transition Checksum

/-- Where the data of a chunk go. -/
def Chunk.write (chunk : Chunk) : Write UInt8 :=
  ⟨chunk.header.chunkOffset.toNat, chunk.data⟩

/-- The chunks that count: with a correct checksum and an index in range, the first of
every index. -/
def counted (totalChunks : Nat) (chunks : List Chunk) : List Chunk :=
  chunks.foldl (fun kept chunk =>
    if chunk.index < totalChunks ∧ verifyCrc32 chunk.data chunk.header.checksum = true ∧
        chunk.index ∉ kept.map Chunk.index then kept ++ [chunk]
    else kept) []

theorem counted_concat (totalChunks : Nat) (chunks : List Chunk) (last : Chunk) :
    counted totalChunks (chunks ++ [last]) =
      if last.index < totalChunks ∧ verifyCrc32 last.data last.header.checksum = true ∧
          last.index ∉ (counted totalChunks chunks).map Chunk.index then
        counted totalChunks chunks ++ [last]
      else counted totalChunks chunks := by
  rw [counted, List.foldl_append]
  rfl

/-- The answers of a disk that takes every write: what a stream holds reaches the file, at the
latest when it is closed. -/
structure WritableDisk extends DiskOutcome where
  takes : toDiskOutcome.writes = true

/-- Every file operation succeeds. -/
def WritableDisk.success : WritableDisk :=
  ⟨.success, rfl⟩

/-- A chunk that arrives, with the answers of the disk. -/
def deliver (delivery : WritableDisk × Chunk) : AssemblerCall :=
  .processChunk delivery.1.toDiskOutcome delivery.2

namespace ChunkAssembler

theorem preallocate_length (disk : DiskOutcome) (files : FileSystem) (path : Path)
    (fileSize : Nat) :
    ∃ base, (preallocate disk ⟨path, 0, true, true⟩ (files.put path []) fileSize).2 path =
        some base ∧
      (base.length = fileSize ∨ base = [] ∧
        (preallocate disk ⟨path, 0, true, true⟩ (files.put path []) fileSize).1.good =
          false) := by
  rw [preallocate]
  split
  · rename_i positive
    rcases OutputStream.write_cases disk (files.put path [])
      (OutputStream.seekp disk ⟨path, 0, true, true⟩ (fileSize - 1)) [0] with failed | written
    · rw [failed]
      exact ⟨[], FileSystem.put_self _ _ _, Or.inr ⟨rfl, OutputStream.seekp_bad rfl⟩⟩
    · cases sought : (OutputStream.seekp disk ⟨path, 0, true, true⟩ (fileSize - 1)).good with
      | false =>
          rw [OutputStream.write_bad sought]
          exact ⟨[], FileSystem.put_self _ _ _, Or.inr ⟨rfl, OutputStream.seekp_bad rfl⟩⟩
      | true =>
          rw [written, (OutputStream.seekp_good _ sought).2]
          refine ⟨writeAt 0 [] (fileSize - 1) [0], ?_, Or.inl ?_⟩
          · dsimp only
            rw [FileSystem.write_of_eq_some _ (FileSystem.put_self _ _ _), FileSystem.put_self]
          · rw [length_writeAt _ _ _ (List.cons_ne_nil _ _), List.length_nil, Nat.zero_max,
              List.length_singleton, Nat.sub_add_cancel positive]
  · rename_i empty
    exact ⟨[], FileSystem.put_self _ _ _, Or.inl (Nat.eq_zero_of_not_pos empty).symm⟩

theorem finalize_ok {assembler : ChunkAssembler} {disk : DiskOutcome} {id : TransferId}
    {ctx : AssemblyContext} {path : Path} (session : assembler.contexts id = some ctx)
    (finalized : (assembler.finalize disk id []).1 = .ok path) :
    ctx.receivedCount = ctx.totalChunks ∧
      (assembler.finalize disk id []).2.files path = assembler.files ctx.tempFilePath := by
  rw [finalize, session] at finalized ⊢
  dsimp only at finalized ⊢
  split at finalized
  · cases finalized
  · rename_i complete
    have noHash : ¬ (([] : Bytes) ≠ [] ∧
        ¬ verifySha256 (assembler.files ctx.tempFilePath) [] = true) := fun wrong => wrong.1 rfl
    rw [if_neg noHash] at finalized
    rw [if_neg complete, if_neg noHash]
    refine ⟨not_not.mp complete, ?_⟩
    split at finalized
    · cases finalized
    · rename_i files renamed
      rw [← Except.ok.inj finalized]
      exact FileSystem.rename_of_removed renamed

end ChunkAssembler

/-! ## The invariant -/

namespace RecordedAssembler

/-- The temporary file holds what the accepted chunks wrote, and these are the chunks that
count, unless a broken stream keeps the session from ever being complete. -/
structure Assembles (id : TransferId) (totalChunks fileSize : Nat) (past : List Chunk)
    (recorded : RecordedAssembler) (ctx : AssemblyContext) : Prop where
  session : recorded.assembler.contexts id = some ctx
  progress : Progress ctx (recorded.accepted id)
  total_eq : ctx.totalChunks = totalChunks
  kept : recorded.accepted id = counted totalChunks past ∨
    ctx.file.good = false ∧ (recorded.accepted id).length < totalChunks
  written : ∃ base, recorded.assembler.files ctx.tempFilePath =
      some (writeAll 0 base ((recorded.accepted id).map Chunk.write)) ∧
    (base.length = fileSize ∨ base = [] ∧ ctx.file.good = false ∧ recorded.accepted id = [])

variable {id : TransferId} {totalChunks fileSize : Nat} {past : List Chunk}
variable {recorded : RecordedAssembler} {ctx : AssemblyContext}

namespace Assembles

theorem start {prior opened : ChunkAssembler} {disk : DiskOutcome} {tempName : Bytes}
    {filename : Bytes} {fileSize totalChunks : UInt64}
    (started : prior.startSession disk tempName id filename fileSize.toNat totalChunks.toNat =
      (.ok (), opened)) :
    ∃ ctx, Assembles id totalChunks.toNat fileSize.toNat [] ⟨opened, fun _ => []⟩ ctx := by
  rcases prior.startSession_cases disk tempName id filename fileSize.toNat totalChunks.toNat with
    ⟨error, failed⟩ | ⟨-, stream, files, prepared, succeeded⟩
  · rw [failed] at started
    cases started
  · rw [succeeded] at started
    obtain ⟨-, rfl⟩ := Prod.mk.inj started
    obtain ⟨base, stored, sized⟩ := ChunkAssembler.preallocate_length disk prior.files
      (prior.outputDir.append tempName) fileSize.toNat
    have path := (ChunkAssembler.preallocate_frame disk
      ⟨prior.outputDir.append tempName, 0, true, true⟩
      (prior.files.put (prior.outputDir.append tempName) []) fileSize.toNat).1
    rw [prepared] at stored sized path
    refine ⟨_, ChunkAssembler.setContext_self _ _ _, .opened _ _ path _ _, rfl, Or.inl rfl,
      base, stored, ?_⟩
    rcases sized with whole | ⟨nothing, bad⟩
    · exact Or.inl whole
    · exact Or.inr ⟨nothing, bad, rfl⟩

theorem deliver (assembles : Assembles id totalChunks fileSize past recorded ctx)
    (delivery : WritableDisk × Chunk) (own : delivery.2.header.id = id) :
    ∃ ctx', Assembles id totalChunks fileSize (past ++ [delivery.2])
      (record recorded (Core.deliver delivery)).2 ctx' := by
  obtain ⟨disk, chunk⟩ := delivery
  subst own
  have progress := assembles.progress
  have outcome := ChunkAssembler.processChunk_outcome assembles.session disk.toDiskOutcome
  rw [record, Core.deliver, ChunkAssembler.call]
  generalize recorded.assembler.processChunk disk.toDiskOutcome chunk = result at outcome
  have uncounted (ignored : ¬ (chunk.index < totalChunks ∧
      Checksum.verifyCrc32 chunk.data chunk.header.checksum = true ∧
      chunk.index ∉ (counted totalChunks past).map Chunk.index)) :
      counted totalChunks (past ++ [chunk]) = counted totalChunks past := by
    rw [counted_concat, if_neg ignored]
  cases outcome with
  | rejected error faulty =>
      refine ⟨ctx, assembles.session, progress, assembles.total_eq, ?_, assembles.written⟩
      rw [uncounted]
      · exact assembles.kept
      · rintro ⟨inRange, verified, -⟩
        rcases faulty with outside | corrupted
        · rw [assembles.total_eq] at outside
          exact Nat.not_lt.mpr outside inRange
        · rw [corrupted] at verified
          cases verified
  | duplicate inRange received =>
      have again := (progress.received_iff _).mp received
      have same : acceptedAfter recorded.accepted (.processChunk disk.toDiskOutcome chunk)
          (.ok ()) = recorded.accepted := if_pos again
      dsimp only
      rw [same]
      refine ⟨ctx, assembles.session, progress, assembles.total_eq, ?_, assembles.written⟩
      rcases assembles.kept with all | stuck
      · left
        rw [uncounted]
        · exact all
        · rintro ⟨-, -, fresh⟩
          rw [← all] at fresh
          exact fresh again
      · exact Or.inr stuck
  | failed error file path broken inRange missing =>
      have fresh : chunk.index ∉ (recorded.accepted chunk.header.id).map Chunk.index := by
        rw [← progress.received_iff, Chunk.index, missing]
        exact Bool.false_ne_true
      refine ⟨_, ChunkAssembler.setContext_self _ _ _, progress.withFile path,
        assembles.total_eq, Or.inr ⟨broken, ?_⟩, ?_⟩
      · rw [← assembles.total_eq]
        exact progress.accepted_lt inRange fresh
      · obtain ⟨base, stored, sized⟩ := assembles.written
        refine ⟨base, stored, ?_⟩
        rcases sized with whole | ⟨nothing, -, none⟩
        · exact Or.inl whole
        · exact Or.inr ⟨nothing, broken, none⟩
  | accepted file path good wasGood inRange missing verified =>
      have fresh : chunk.index ∉ (recorded.accepted chunk.header.id).map Chunk.index := by
        rw [← progress.received_iff, Chunk.index, missing]
        exact Bool.false_ne_true
      have extended : acceptedAfter recorded.accepted (.processChunk disk.toDiskOutcome chunk)
          (.ok ()) chunk.header.id = recorded.accepted chunk.header.id ++ [chunk] := by
        rw [acceptedAfter, if_neg fresh, Function.update_self]
      have all : recorded.accepted chunk.header.id = counted totalChunks past := by
        rcases assembles.kept with all | ⟨bad, -⟩
        · exact all
        · rw [wasGood] at bad
          cases bad
      have counts : chunk.index < totalChunks ∧
          Checksum.verifyCrc32 chunk.data chunk.header.checksum = true ∧
          chunk.index ∉ (counted totalChunks past).map Chunk.index := by
        rw [← all, ← assembles.total_eq]
        exact ⟨inRange, verified, fresh⟩
      refine ⟨_, ChunkAssembler.setContext_self _ _ _, ?_, assembles.total_eq, Or.inl ?_, ?_⟩
      · dsimp only
        rw [extended]
        exact progress.record path inRange fresh
      · dsimp only
        rw [extended, counted_concat, if_pos counts, all]
      · obtain ⟨base, stored, sized⟩ := assembles.written
        refine ⟨base, ?_, Or.inl ?_⟩
        · dsimp only
          rw [extended, List.map_append, List.map_singleton, writeAll_concat,
            ChunkAssembler.setContext_files, progress.streamPath,
            FileSystem.write_of_eq_some _ stored]
          exact FileSystem.put_self _ _ _
        · rcases sized with whole | ⟨-, bad, -⟩
          · exact whole
          · rw [wasGood] at bad
            cases bad

theorem run (assembles : Assembles id totalChunks fileSize [] recorded ctx)
    {deliveries : List (WritableDisk × Chunk)}
    (own : ∀ delivery ∈ deliveries, delivery.2.header.id = id) :
    ∃ ctx', Assembles id totalChunks fileSize (deliveries.map Prod.snd)
      (final record recorded (deliveries.map Core.deliver)) ctx' := by
  induction deliveries using List.reverseRecOn with
  | nil => exact ⟨ctx, assembles⟩
  | append_singleton earlier last ih =>
      obtain ⟨ctx', before⟩ := ih fun delivery mem => own delivery (List.mem_append_left _ mem)
      rw [List.map_append, List.map_append, List.map_singleton, List.map_singleton, final_concat]
      exact before.deliver last (own last (List.mem_append_right _ (List.mem_singleton_self _)))

end Assembles

/-- On a disk that takes every write, a session that was started with a size and a number of
chunks receives chunks with any offsets and lengths, and is finalized without a hash.  The file
has the declared size and every byte of it is what the last of the accepted chunks that covers it
carries, exactly if the byte ranges of the chunks that count make up the declared size. -/
theorem finalize_fullyWritten_iff (prior opened : ChunkAssembler) (disk : WritableDisk)
    (tempName : Bytes) (id : TransferId) (filename : Bytes) (fileSize totalChunks : UInt64)
    (started : prior.startSession disk.toDiskOutcome tempName id filename fileSize.toNat
      totalChunks.toNat = (.ok (), opened))
    (deliveries : List (WritableDisk × Chunk))
    (own : ∀ delivery ∈ deliveries, delivery.2.header.id = id)
    (lastDisk : WritableDisk) (path : Path)
    (finalized : ((final record ⟨opened, fun _ => []⟩ (deliveries.map deliver)).assembler.finalize
      lastDisk.toDiskOutcome id []).1 = .ok path) :
    let recorded := final record ⟨opened, fun _ => []⟩ (deliveries.map deliver)
    (∃ content,
      (recorded.assembler.finalize lastDisk.toDiskOutcome id []).2.files path = some content ∧
      FullyWritten content fileSize.toNat ((recorded.accepted id).map Chunk.write)) ↔
    ∀ position, position < fileSize.toNat ↔
      ∃ chunk ∈ counted totalChunks.toNat (deliveries.map Prod.snd),
        chunk.write.Covers position := by
  intro recorded
  obtain ⟨first, begins⟩ := Assembles.start started
  obtain ⟨ctx, assembles⟩ := begins.run own
  obtain ⟨complete, moved⟩ := ChunkAssembler.finalize_ok assembles.session finalized
  have all : recorded.accepted id = counted totalChunks.toNat (deliveries.map Prod.snd) := by
    rcases assembles.kept with all | ⟨-, short⟩
    · exact all
    · rw [← assembles.total_eq, ← complete, assembles.progress.count_eq] at short
      exact absurd short (Nat.lt_irrefl _)
  obtain ⟨base, stored, sized⟩ := assembles.written
  have content_iff (condition : Bytes → Prop) :
      (∃ content,
        (recorded.assembler.finalize lastDisk.toDiskOutcome id []).2.files path = some content ∧
        condition content) ↔
      condition (writeAll 0 base ((recorded.accepted id).map Chunk.write)) := by
    rw [moved, stored]
    constructor
    · rintro ⟨content, same, holds⟩
      rwa [Option.some.inj same]
    · exact fun holds => ⟨_, rfl, holds⟩
  have ranges (position : Nat) :
      (∃ write ∈ (recorded.accepted id).map Chunk.write, write.Covers position) ↔
      ∃ chunk ∈ counted totalChunks.toNat (deliveries.map Prod.snd),
        chunk.write.Covers position := by
    simp only [all, List.mem_map, exists_exists_and_eq_and]
  simp only [content_iff fun content => FullyWritten content fileSize.toNat
    ((recorded.accepted id).map Chunk.write), ← ranges]
  rcases sized with whole | ⟨nothing, -, none⟩
  · rw [← whole]
    exact fullyWritten_writeAll_iff 0 base _
  · -- The pre-allocation failed, and nothing was written after it.
    have unaccepted : recorded.accepted id = [] := none
    rw [nothing, unaccepted]
    constructor
    · rintro ⟨length_eq, -⟩ position
      rw [← length_eq]
      simp
    · intro exact_cover
      have empty : fileSize.toNat = 0 := by
        apply Nat.eq_zero_of_not_pos
        intro positive
        obtain ⟨write, mem, -⟩ := (exact_cover 0).mp positive
        cases mem
      rw [empty]
      exact ⟨rfl, fun index inside => absurd inside (Nat.not_lt_zero index)⟩

/-! ## One byte from one chunk, and two from two -/

/-- A session of as many bytes as chunks. -/
def openedSession (count : Nat) : ChunkAssembler :=
  ((ChunkAssembler.create (Text.ascii "out") fun _ => none).startSession .success
    (Text.ascii ".tmp_0") TransferId.zero (Text.ascii "a") count count).2

def oneByteSession : ChunkAssembler :=
  openedSession 1

/-- A chunk with the given index and offset. -/
def sampleChunk (index offset : UInt64) (data : Bytes) : Chunk :=
  ⟨⟨TransferId.zero, index, offset, 0, 0, crc32 data, 0⟩, data⟩

/-- The chunk with index 0, at the given offset. -/
def firstChunk (offset : UInt64) (data : Bytes) : Chunk :=
  sampleChunk 0 offset data

/-- The session after it received the chunk. -/
def oneByteReceived (chunk : Chunk) : RecordedAssembler :=
  final record ⟨oneByteSession, fun _ => []⟩ ([(WritableDisk.success, chunk)].map deliver)

/-- Two bytes in two chunks, the second byte first. -/
def twoByteDeliveries : List (WritableDisk × Chunk) :=
  [(.success, sampleChunk 1 1 [8]), (.success, sampleChunk 0 0 [7])]

theorem two_bytes_covered :
    ∃ content, ((final record ⟨openedSession 2, fun _ => []⟩
        (twoByteDeliveries.map deliver)).assembler.finalize .success
        TransferId.zero []).2.files (Text.ascii "out/a") = some content ∧
      FullyWritten content 2 (((final record ⟨openedSession 2, fun _ => []⟩
        (twoByteDeliveries.map deliver)).accepted TransferId.zero).map Chunk.write) := by
  have own : ∀ delivery ∈ twoByteDeliveries, delivery.2.header.id = TransferId.zero := by
    decide
  have counts : counted 2 (twoByteDeliveries.map Prod.snd) =
      [sampleChunk 1 1 [8], sampleChunk 0 0 [7]] := by decide
  apply (finalize_fullyWritten_iff (.create (Text.ascii "out") fun _ => none) (openedSession 2)
    .success (Text.ascii ".tmp_0") TransferId.zero (Text.ascii "a") 2 2 rfl
    twoByteDeliveries own .success (Text.ascii "out/a") rfl).mpr
  intro position
  change position < 2 ↔
    ∃ chunk ∈ counted 2 (twoByteDeliveries.map Prod.snd), chunk.write.Covers position
  rw [counts]
  simp [Write.Covers, Chunk.write, sampleChunk]
  omega

/-- A chunk without data completes the session and leaves the filler; a chunk at a later
offset makes the file longer than declared. -/
theorem filler_left_and_file_too_long :
    (oneByteReceived (firstChunk 0 [])).assembler.isComplete TransferId.zero = true ∧
    ((oneByteReceived (firstChunk 0 [])).assembler.finalize .success
      TransferId.zero []).1 = .ok (Text.ascii "out/a") ∧
    ((oneByteReceived (firstChunk 0 [])).assembler.finalize .success
      TransferId.zero []).2.files (Text.ascii "out/a") = some [0] ∧
    ¬ FullyWritten [0] 1 (((oneByteReceived (firstChunk 0 [])).accepted
      TransferId.zero).map Chunk.write) ∧
    ((oneByteReceived (firstChunk 3 [7])).assembler.finalize .success
      TransferId.zero []).1 = .ok (Text.ascii "out/a") ∧
    ((oneByteReceived (firstChunk 3 [7])).assembler.finalize .success
      TransferId.zero []).2.files (Text.ascii "out/a") = some [0, 0, 0, 7] := by
  refine ⟨by decide, by decide, by decide, ?_, by decide, by decide⟩
  rintro ⟨-, written⟩
  obtain ⟨cell, last, -⟩ := written 0 Nat.one_pos
  have nothing : lastWritten (((oneByteReceived (firstChunk 0 [])).accepted
      TransferId.zero).map Chunk.write) 0 = none := by decide
  rw [nothing] at last
  cases last

end RecordedAssembler

end FileTrans.Core
