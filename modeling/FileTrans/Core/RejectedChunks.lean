import FileTrans.Core.FileCoverage

/-!
# Rejected chunks

A chunk that is rejected for its index or its checksum leaves its session as it was.
One that is rejected because the stream cannot seek to its offset, or cannot write,
leaves the stream of the session bad, and no later chunk can be written.

The good flag of a stream that is closed makes no difference: every operation on the
stream fails.  Sessions are compared up to this flag.
-/

namespace FileTrans.Storage.OutputStream

/-- A closed stream counts as bad. -/
def sealed (stream : OutputStream) : OutputStream :=
  { stream with good := stream.good && stream.isOpen }

@[simp]
theorem sealed_sealed (stream : OutputStream) : stream.sealed.sealed = stream.sealed := by
  simp [sealed]

@[simp]
theorem sealed_path (stream : OutputStream) : stream.sealed.path = stream.path :=
  rfl

@[simp]
theorem seekp_sealed (disk : DiskOutcome) (stream : OutputStream) (offset : Nat) :
    seekp disk stream.sealed offset = seekp disk stream offset := by
  rcases stream with ⟨path, position, good, _ | _⟩ <;> simp [seekp, sealed]

@[simp]
theorem close_sealed (stream : OutputStream) : stream.sealed.close = stream.close := by
  simp [close, sealed]

end FileTrans.Storage.OutputStream

namespace FileTrans.Core

open Storage Transition
open FileTrans.Core.Checksum

/-- A session up to the good flag of a closed stream. -/
def AssemblyContext.sealed (ctx : AssemblyContext) : AssemblyContext :=
  { ctx with file := ctx.file.sealed }

@[simp]
theorem AssemblyContext.sealed_sealed (ctx : AssemblyContext) :
    ctx.sealed.sealed = ctx.sealed := by
  simp [AssemblyContext.sealed]

namespace ChunkAssembler

/-- An assembler up to the good flags of closed streams. -/
def sealed (assembler : ChunkAssembler) : ChunkAssembler :=
  { assembler with contexts := fun id => (assembler.contexts id).map AssemblyContext.sealed }

@[simp]
theorem sealed_sealed (assembler : ChunkAssembler) :
    assembler.sealed.sealed = assembler.sealed := by
  simp [sealed, Function.comp_def]

theorem sealed_setContext (assembler : ChunkAssembler) (id : TransferId)
    (ctx : AssemblyContext) :
    (assembler.setContext id ctx).sealed = assembler.sealed.setContext id ctx.sealed := by
  simp only [sealed, setContext, ChunkAssembler.mk.injEq, true_and, and_true]
  funext other
  by_cases same : other = id
  · simp [same]
  · simp [same]

theorem sealed_eraseContext (assembler : ChunkAssembler) (id : TransferId) :
    (assembler.eraseContext id).sealed = assembler.sealed.eraseContext id := by
  simp only [sealed, eraseContext, ChunkAssembler.mk.injEq, true_and, and_true]
  funext other
  by_cases same : other = id
  · simp [same]
  · simp [same]

theorem sealed_mk (assembler : ChunkAssembler) (outputDir : Path) (files : FileSystem) :
    (⟨outputDir, assembler.contexts, files⟩ : ChunkAssembler).sealed =
      ⟨outputDir, assembler.sealed.contexts, files⟩ :=
  rfl

theorem sealed_outputDir (assembler : ChunkAssembler) :
    assembler.sealed.outputDir = assembler.outputDir :=
  rfl

/-- The calls return the same, and leave the same. -/
def SameCall (assembler : ChunkAssembler) (called : AssemblerCall) : Prop :=
  (assembler.sealed.call called).1 = (assembler.call called).1 ∧
    (assembler.sealed.call called).2.sealed = (assembler.call called).2.sealed

theorem startSession_sealed (assembler : ChunkAssembler) (disk : DiskOutcome)
    (tempName : Bytes) (id : TransferId) (filename : Bytes) (fileSize totalChunks : UInt64) :
    assembler.SameCall (.startSession disk tempName id filename fileSize totalChunks) := by
  unfold SameCall call startSession
  cases session : assembler.contexts id with
  | some ctx => simp [sealed, session, Function.comp_def]
  | none =>
      have none' : assembler.sealed.contexts id = none := by simp [sealed, session]
      have files : assembler.sealed.files = assembler.files := rfl
      simp only [session, none', files, sealed_outputDir]
      split
      · exact ⟨rfl, sealed_sealed assembler⟩
      · simp only [sealed_setContext, sealed_mk, sealed_sealed, and_self]

theorem processChunk_sealed (assembler : ChunkAssembler) (disk : DiskOutcome) (chunk : Chunk) :
    assembler.SameCall (.processChunk disk chunk) := by
  unfold SameCall call processChunk
  cases session : assembler.contexts chunk.header.id with
  | none => simp [sealed, session, Function.comp_def]
  | some ctx =>
      have some' : assembler.sealed.contexts chunk.header.id = some ctx.sealed := by
        simp [sealed, session]
      have files : assembler.sealed.files = assembler.files := rfl
      simp only [session, some', files, AssemblyContext.sealed, OutputStream.seekp_sealed]
      split
      · exact ⟨rfl, sealed_sealed assembler⟩
      · split
        · exact ⟨rfl, sealed_sealed assembler⟩
        · split
          · exact ⟨rfl, sealed_sealed assembler⟩
          · split
            · simp only [sealed_setContext, sealed_sealed, and_self]
            · split
              · simp only [sealed_setContext, sealed_mk, sealed_outputDir, sealed_sealed, and_self]
              · simp only [sealed_setContext, sealed_mk, sealed_outputDir, sealed_sealed,
                  AssemblyContext.record, and_self]

theorem finalize_sealed (assembler : ChunkAssembler) (disk : DiskOutcome) (id : TransferId)
    (expectedHash : Bytes) : assembler.SameCall (.finalize disk id expectedHash) := by
  unfold SameCall call finalize
  cases session : assembler.contexts id with
  | none => simp [sealed, session, Function.comp_def]
  | some ctx =>
      have some' : assembler.sealed.contexts id = some ctx.sealed := by simp [sealed, session]
      have files : assembler.sealed.files = assembler.files := rfl
      simp only [session, some', files, AssemblyContext.sealed, OutputStream.close_sealed]
      split
      · exact ⟨rfl, sealed_sealed assembler⟩
      · split
        · simp only [sealed_eraseContext, sealed_setContext, sealed_mk, sealed_outputDir,
            setContext_outputDir, sealed_sealed, and_self]
        · split
          · simp only [sealed_setContext, sealed_mk, sealed_outputDir, setContext_outputDir,
              sealed_sealed, and_self]
          · simp only [sealed_eraseContext, sealed_setContext, sealed_mk, sealed_outputDir,
              setContext_outputDir, sealed_sealed, and_self]

theorem cancelSession_sealed (assembler : ChunkAssembler) (id : TransferId) :
    assembler.SameCall (.cancelSession id) := by
  unfold SameCall call cancelSession
  cases session : assembler.contexts id with
  | none => simp [sealed, session, Function.comp_def]
  | some ctx =>
      have some' : assembler.sealed.contexts id = some ctx.sealed := by simp [sealed, session]
      have files : assembler.sealed.files = assembler.files := rfl
      simp only [session, some', files, AssemblyContext.sealed, sealed_eraseContext, sealed_mk,
        sealed_outputDir,
        sealed_sealed, and_self]

theorem call_sealed (assembler : ChunkAssembler) (called : AssemblerCall) :
    assembler.SameCall called := by
  cases called with
  | startSession disk tempName id filename fileSize totalChunks =>
      exact startSession_sealed assembler disk tempName id filename fileSize totalChunks
  | processChunk disk chunk => exact processChunk_sealed assembler disk chunk
  | finalize disk id expectedHash => exact finalize_sealed assembler disk id expectedHash
  | cancelSession id => exact cancelSession_sealed assembler id

/-- Assemblers that agree up to the flags of closed streams return the same in every run, and
still agree at its end. -/
theorem run_of_sealed_eq {first second : ChunkAssembler} (same : second.sealed = first.sealed)
    (calls : List AssemblerCall) :
    outputs call second calls = outputs call first calls ∧
      (final call second calls).sealed = (final call first calls).sealed := by
  induction calls generalizing first second with
  | nil => exact ⟨rfl, same⟩
  | cons called rest ih =>
      have left := call_sealed first called
      have right := call_sealed second called
      rw [SameCall, same] at right
      have later := ih (right.2.symm.trans left.2)
      rw [outputs_cons, outputs_cons, final_cons, final_cons, later.1, later.2,
        right.1.symm.trans left.1]
      exact ⟨rfl, rfl⟩

/-! ## As if the chunk had never arrived -/

/-- Whatever is called next, the calls return the same, and the sessions report the same
progress and the same missing chunks. -/
def AsIfNeverArrived (before after : ChunkAssembler) : Prop :=
  ∀ calls, outputs call after calls = outputs call before calls ∧
    ∀ id, (final call after calls).getProgress id = (final call before calls).getProgress id ∧
      (final call after calls).getMissingChunks id =
        (final call before calls).getMissingChunks id

theorem getProgress_sealed (assembler : ChunkAssembler) (id : TransferId) :
    assembler.sealed.getProgress id = assembler.getProgress id := by
  simp [getProgress, sealed, Function.comp_def, AssemblyContext.sealed]

theorem getMissingChunks_sealed (assembler : ChunkAssembler) (id : TransferId) :
    assembler.sealed.getMissingChunks id = assembler.getMissingChunks id := by
  cases session : assembler.contexts id <;>
    simp [getMissingChunks, sealed, session, AssemblyContext.sealed]

theorem asIfNeverArrived_of_sealed_eq {before after : ChunkAssembler}
    (same : after.sealed = before.sealed) : AsIfNeverArrived before after := by
  intro calls
  have run := run_of_sealed_eq same calls
  refine ⟨run.1, fun id => ⟨?_, ?_⟩⟩
  · rw [← getProgress_sealed, run.2, getProgress_sealed]
  · rw [← getMissingChunks_sealed, run.2, getMissingChunks_sealed]

variable {assembler : ChunkAssembler} {chunk : Chunk} {ctx : AssemblyContext}

/-- A chunk that no retry could repair: its index is out of range or its checksum is wrong. -/
def Faulty (ctx : AssemblyContext) (chunk : Chunk) : Prop :=
  ctx.totalChunks ≤ chunk.header.chunkIndex.toNat ∨
    verifyCrc32 chunk.data chunk.header.checksum = false

theorem processChunk_faulty (session : assembler.contexts chunk.header.id = some ctx)
    (faulty : Faulty ctx chunk) (disk : DiskOutcome) :
    (assembler.processChunk disk chunk).2 = assembler := by
  rw [processChunk, session]
  dsimp only
  split
  · rfl
  · rename_i inRange
    split
    · rfl
    · rcases faulty with outside | corrupted
      · exact absurd outside inRange
      · rw [if_pos (by simp [corrupted])]

theorem processChunk_unusable (session : assembler.contexts chunk.header.id = some ctx)
    (unusable : ctx.file.sealed.good = false) (disk : DiskOutcome) :
    (assembler.processChunk disk chunk).2.sealed = assembler.sealed := by
  have stuck : ctx.file.seekp disk chunk.header.chunkOffset.toNat =
      { ctx.file with good := false } := by
    rw [OutputStream.seekp, if_neg]
    rintro ⟨good, isOpen, -⟩
    simp [OutputStream.sealed, good, isOpen] at unusable
  have same : { ctx with file := { ctx.file with good := false } }.sealed = ctx.sealed := by
    simp only [OutputStream.sealed] at unusable
    simp [AssemblyContext.sealed, OutputStream.sealed, unusable]
  rw [processChunk, session]
  dsimp only
  split
  · rfl
  · split
    · rfl
    · split
      · rfl
      · rw [stuck, if_pos (by simp), sealed_setContext, same]
        simp only [sealed, setContext, ChunkAssembler.mk.injEq, true_and, and_true]
        rw [Function.update_eq_self_iff, session]
        rfl

/-- After a seek or a write on a good stream failed, the same chunk with offset 0 is refused
that was accepted before. -/
theorem not_asIfNeverArrived (session : assembler.contexts chunk.header.id = some ctx)
    (sound : ¬ Faulty ctx chunk) (good : ctx.file.good = true) (isOpen : ctx.file.isOpen = true)
    {disk : DiskOutcome} (rejected : (assembler.processChunk disk chunk).1 ≠ .ok ()) :
    ¬ AsIfNeverArrived assembler (assembler.processChunk disk chunk).2 := by
  intro same
  let retry : Chunk := { chunk with header := { chunk.header with chunkOffset := 0 } }
  have outcome := processChunk_outcome session disk
  generalize assembler.processChunk disk chunk = result at outcome rejected same
  cases outcome with
  | rejected error faulty => exact sound faulty
  | duplicate inRange received => exact rejected rfl
  | accepted file path good wasGood inRange missing verified => exact rejected rfl
  | failed error file path broken inRange missing =>
      have verified : verifyCrc32 chunk.data chunk.header.checksum = true := by
        apply Bool.eq_true_of_not_eq_false
        exact fun corrupted => sound (Or.inr corrupted)
      have before := @processChunk_fresh _ retry _ session inRange missing verified good isOpen
        (by simp [retry, streamOffsetBound])
      have after := @processChunk_outcome _ retry _
        (setContext_self assembler chunk.header.id { ctx with file }) .success
      have heads := (List.cons.inj (same [.processChunk .success retry]).1).1
      simp only [call] at heads
      rw [before] at heads
      generalize (assembler.setContext chunk.header.id { ctx with file }).processChunk .success
        retry = outcome at after heads
      cases after with
      | rejected error faulty => cases heads
      | duplicate inRange received =>
          exact Bool.false_ne_true (missing.symm.trans received)
      | failed error file path broken inRange missing => cases heads
      | accepted file path good wasGood inRange missing verified => simp [broken] at wasGood

/-- A rejected chunk leaves its session as if it had never arrived exactly if its index or its
checksum was wrong, or if the stream was unable to take any chunk before. -/
theorem asIfNeverArrived_iff (session : assembler.contexts chunk.header.id = some ctx)
    (disk : DiskOutcome) (rejected : (assembler.processChunk disk chunk).1 ≠ .ok ()) :
    AsIfNeverArrived assembler (assembler.processChunk disk chunk).2 ↔
      Faulty ctx chunk ∨ ctx.file.good = false ∨ ctx.file.isOpen = false := by
  constructor
  · intro same
    by_contra otherwise
    simp only [not_or, Bool.not_eq_false] at otherwise
    obtain ⟨sound, good, isOpen⟩ := otherwise
    exact not_asIfNeverArrived session sound good isOpen rejected same
  · rintro (faulty | unusable)
    · rw [processChunk_faulty session faulty disk]
      exact asIfNeverArrived_of_sealed_eq rfl
    · apply asIfNeverArrived_of_sealed_eq (processChunk_unusable session _ disk)
      rcases unusable with bad | closed
      · simp [OutputStream.sealed, bad]
      · simp [OutputStream.sealed, closed]

/-- A chunk with an index out of range. -/
theorem asIfNeverArrived_out_of_range :
    AsIfNeverArrived RecordedAssembler.oneByteSession
      (RecordedAssembler.oneByteSession.processChunk .success
        ⟨⟨.zero, 1, 0, 0, 0, crc32 [7], 0⟩, [7]⟩).2 :=
  (asIfNeverArrived_iff rfl .success (by decide)).mpr (Or.inl (Or.inl (by decide)))

/-- The only chunk of a session arrives with an offset that no stream can seek to, and then with
its own: it is rejected again. -/
theorem asIfNeverArrived_not_unseekable :
    ¬ ∀ (assembler : ChunkAssembler) (disk : DiskOutcome) (chunk : Chunk) (ctx : AssemblyContext),
      assembler.contexts chunk.header.id = some ctx →
      (assembler.processChunk disk chunk).1 ≠ .ok () →
      AsIfNeverArrived assembler (assembler.processChunk disk chunk).2 := by
  intro every
  have same := every RecordedAssembler.oneByteSession .success
    (RecordedAssembler.firstChunk 0x8000000000000000 [7]) _ rfl (by decide)
  have outputs := (same [.processChunk .success (RecordedAssembler.firstChunk 0 [7])]).1
  exact absurd outputs (by decide)

end ChunkAssembler

end FileTrans.Core
