import FileTrans.Core.Checksum
import FileTrans.Storage.FileSystem

/-!
# Assembling chunks into a file

A session collects the chunks of one transfer in a temporary file, writing
each at its own offset, and `finalize` moves the complete file to its final
path.  The assembler is modelled together with the file system it works on.

Sessions are protected by their own mutex and the session table by another, so
every operation below is one atomic step.
-/

namespace FileTrans.Core

open FileTrans.Storage
open FileTrans.Core.Checksum

structure AssemblyContext where
  tempFilePath : Path
  finalPath : Path
  filename : Bytes
  file : OutputStream
  fileSize : Nat
  totalChunks : Nat
  receivedChunks : List Bool
  receivedCount : Nat
  bytesWritten : Nat
  deriving DecidableEq

/-- The context of a session that has received nothing yet. -/
def AssemblyContext.opened (tempFilePath finalPath : Path) (filename : Bytes)
    (file : OutputStream) (fileSize totalChunks : Nat) : AssemblyContext :=
  { tempFilePath
    finalPath
    filename
    file
    fileSize
    totalChunks
    receivedChunks := List.replicate totalChunks false
    receivedCount := 0
    bytesWritten := 0 }

/-- The tracking update after a chunk was written to the stream. -/
def AssemblyContext.record (ctx : AssemblyContext) (file : OutputStream) (chunk : Chunk) :
    AssemblyContext :=
  { ctx with
    file
    receivedChunks := ctx.receivedChunks.set chunk.header.chunkIndex.toNat true
    receivedCount := wrap64 (ctx.receivedCount + 1)
    bytesWritten := wrap64 (ctx.bytesWritten + chunk.data.length) }

/-- `chunk_assembler`, with the file system. -/
structure ChunkAssembler where
  outputDir : Path
  contexts : TransferId → Option AssemblyContext
  files : FileSystem

structure AssemblyProgress where
  id : TransferId
  totalChunks : Nat
  receivedChunks : Nat
  bytesWritten : Nat
  deriving DecidableEq

namespace ChunkAssembler

/-- `contexts_[id] = ctx`. -/
def setContext (assembler : ChunkAssembler) (id : TransferId) (ctx : AssemblyContext) :
    ChunkAssembler :=
  { assembler with contexts := Function.update assembler.contexts id (some ctx) }

/-- `contexts_.erase(id)`. -/
def eraseContext (assembler : ChunkAssembler) (id : TransferId) : ChunkAssembler :=
  { assembler with contexts := Function.update assembler.contexts id none }

/-- The pre-allocation of `start_session`: seek to the last byte, write it, and
seek back. -/
def preallocate (disk : DiskOutcome) (stream : OutputStream) (files : FileSystem)
    (fileSize : Nat) : OutputStream × FileSystem :=
  if fileSize > 0 then
    let (stream, files) := (stream.seekp disk (fileSize - 1)).write disk files [0]
    (stream.seekp disk 0, files)
  else (stream, files)

/-- `start_session`; `tempName` is what `generate_temp_filename` returns. -/
def startSession (assembler : ChunkAssembler) (disk : DiskOutcome) (tempName : Bytes)
    (id : TransferId) (filename : Bytes) (fileSize totalChunks : Nat) :
    Result Unit × ChunkAssembler :=
  match assembler.contexts id with
  | some _ => (unexpected .alreadyInitialized "session already exists", assembler)
  | none =>
      let tempFilePath := assembler.outputDir.append tempName
      let (stream, files) := OutputStream.openFile disk assembler.files tempFilePath
      if ¬ stream.isOpen then
        (.error ⟨.fileAccessDenied, Text.ascii "cannot create temp file: " ++ tempFilePath⟩,
          assembler)
      else
        let (stream, files) := preallocate disk stream files fileSize
        let finalPath := assembler.outputDir.append filename
        (.ok (), { assembler with files }.setContext id
          (AssemblyContext.opened tempFilePath finalPath filename stream fileSize totalChunks))

def processChunk (assembler : ChunkAssembler) (disk : DiskOutcome) (chunk : Chunk) :
    Result Unit × ChunkAssembler :=
  match assembler.contexts chunk.header.id with
  | none => (unexpected .notInitialized "session not found", assembler)
  | some ctx =>
      let index := chunk.header.chunkIndex.toNat
      if index ≥ ctx.totalChunks then
        (.error ⟨.invalidChunkIndex,
          Text.ascii "chunk index " ++ Text.decimal index ++ Text.ascii " out of range"⟩,
          assembler)
      else if ctx.receivedChunks.getD index false then
        -- Duplicate chunk: ignored silently.
        (.ok (), assembler)
      else if ¬ verifyCrc32 chunk.data chunk.header.checksum then
        (unexpected .chunkChecksumError "CRC32 verification failed", assembler)
      else
        let sought := ctx.file.seekp disk chunk.header.chunkOffset.toNat
        if ¬ sought.good then
          (unexpected .fileWriteError "seek failed",
            assembler.setContext chunk.header.id { ctx with file := sought })
        else
          let (written, files) := sought.write disk assembler.files chunk.data
          if ¬ written.good then
            (unexpected .fileWriteError "write failed",
              { assembler with files }.setContext chunk.header.id { ctx with file := written })
          else
            (.ok (), { assembler with files }.setContext chunk.header.id
              (ctx.record written chunk))

def isComplete (assembler : ChunkAssembler) (id : TransferId) : Bool :=
  match assembler.contexts id with
  | none => false
  | some ctx => ctx.receivedCount == ctx.totalChunks

def getMissingChunks (assembler : ChunkAssembler) (id : TransferId) : List Nat :=
  match assembler.contexts id with
  | none => []
  | some ctx => (List.range ctx.totalChunks).filter fun i => !ctx.receivedChunks.getD i false

def getProgress (assembler : ChunkAssembler) (id : TransferId) : Option AssemblyProgress :=
  (assembler.contexts id).map fun ctx =>
    ⟨id, ctx.totalChunks, ctx.receivedCount, ctx.bytesWritten⟩

def finalize (assembler : ChunkAssembler) (disk : DiskOutcome) (id : TransferId)
    (expectedHash : Bytes) : Result Path × ChunkAssembler :=
  match assembler.contexts id with
  | none => (unexpected .notInitialized "session not found", assembler)
  | some ctx =>
      if ctx.receivedCount ≠ ctx.totalChunks then
        (.error ⟨.missingChunks, Text.ascii "missing " ++
          Text.decimal (sub64 ctx.totalChunks ctx.receivedCount) ++ Text.ascii " chunks"⟩,
          assembler)
      else
        let closed := assembler.setContext id { ctx with file := ctx.file.close }
        if expectedHash ≠ [] ∧
            ¬ verifySha256 (assembler.files ctx.tempFilePath) expectedHash then
          (unexpected .fileHashMismatch "SHA-256 hash mismatch",
            { closed with files := assembler.files.remove ctx.tempFilePath }.eraseContext id)
        else
          -- An existing file at the final path is removed first.
          let files := if assembler.files.exist ctx.finalPath then
            assembler.files.remove ctx.finalPath else assembler.files
          match files.rename disk ctx.tempFilePath ctx.finalPath with
          | .error message =>
              (.error ⟨.fileWriteError, Text.ascii "cannot rename temp file: " ++ message⟩,
                { closed with files })
          | .ok files => (.ok ctx.finalPath, { closed with files }.eraseContext id)

def cancelSession (assembler : ChunkAssembler) (id : TransferId) : ChunkAssembler :=
  match assembler.contexts id with
  | none => assembler
  | some ctx =>
      { assembler with files := assembler.files.remove ctx.tempFilePath }.eraseContext id

@[simp]
theorem setContext_self (assembler : ChunkAssembler) (id : TransferId)
    (ctx : AssemblyContext) : (assembler.setContext id ctx).contexts id = some ctx := by
  simp [setContext]

@[simp]
theorem setContext_files (assembler : ChunkAssembler) (id : TransferId)
    (ctx : AssemblyContext) : (assembler.setContext id ctx).files = assembler.files :=
  rfl

@[simp]
theorem setContext_outputDir (assembler : ChunkAssembler) (id : TransferId)
    (ctx : AssemblyContext) : (assembler.setContext id ctx).outputDir = assembler.outputDir :=
  rfl

@[simp]
theorem eraseContext_files (assembler : ChunkAssembler) (id : TransferId) :
    (assembler.eraseContext id).files = assembler.files :=
  rfl

variable {id : TransferId} {assembler : ChunkAssembler} {chunk : Chunk} {ctx : AssemblyContext}

theorem setContext_of_ne {other : TransferId} (distinct : other ≠ id) (assembler : ChunkAssembler)
    (ctx : AssemblyContext) :
    (assembler.setContext id ctx).contexts other = assembler.contexts other :=
  Function.update_of_ne distinct _ _

@[simp]
theorem eraseContext_self (assembler : ChunkAssembler) (id : TransferId) :
    (assembler.eraseContext id).contexts id = none :=
  Function.update_self _ _ _

theorem eraseContext_of_ne {other : TransferId} (distinct : other ≠ id)
    (assembler : ChunkAssembler) :
    (assembler.eraseContext id).contexts other = assembler.contexts other :=
  Function.update_of_ne distinct _ _

theorem processChunk_duplicate (session : assembler.contexts chunk.header.id = some ctx)
    (inRange : chunk.header.chunkIndex.toNat < ctx.totalChunks)
    (received : ctx.receivedChunks.getD chunk.header.chunkIndex.toNat false = true)
    (disk : DiskOutcome) : assembler.processChunk disk chunk = (.ok (), assembler) := by
  rw [processChunk, session]
  dsimp only
  rw [if_neg (by omega), if_pos received]

theorem processChunk_fresh (session : assembler.contexts chunk.header.id = some ctx)
    (inRange : chunk.header.chunkIndex.toNat < ctx.totalChunks)
    (missing : ctx.receivedChunks.getD chunk.header.chunkIndex.toNat false = false)
    (verified : verifyCrc32 chunk.data chunk.header.checksum = true) (good : ctx.file.good = true)
    (isOpen : ctx.file.isOpen = true)
    (seekable : chunk.header.chunkOffset.toNat < streamOffsetBound) :
    assembler.processChunk .success chunk =
      (.ok (), { assembler with
          files := assembler.files.write ctx.file.path chunk.header.chunkOffset.toNat chunk.data
        }.setContext chunk.header.id
          (ctx.record { ctx.file with
            position := chunk.header.chunkOffset.toNat + chunk.data.length } chunk)) := by
  rw [processChunk, session]
  dsimp only
  rw [if_neg (by omega), if_neg (by simp only [missing, Bool.false_eq_true, not_false_eq_true]),
    if_neg (not_not.mpr verified), OutputStream.seekp_success ctx.file good isOpen seekable,
    if_neg (not_not.mpr good), OutputStream.write_success assembler.files
      { ctx.file with position := chunk.header.chunkOffset.toNat } good isOpen]
  dsimp only
  rw [if_neg (not_not.mpr good)]

/-! ## What a call can do -/

/-- What `process_chunk` returns and leaves behind in a session. -/
inductive ProcessOutcome (assembler : ChunkAssembler) (ctx : AssemblyContext) (chunk : Chunk) :
    Result Unit × ChunkAssembler → Prop
  | rejected (error : Error)
      (faulty : ctx.totalChunks ≤ chunk.header.chunkIndex.toNat ∨
        verifyCrc32 chunk.data chunk.header.checksum = false) :
      ProcessOutcome assembler ctx chunk (.error error, assembler)
  | duplicate (inRange : chunk.header.chunkIndex.toNat < ctx.totalChunks)
      (received : ctx.receivedChunks.getD chunk.header.chunkIndex.toNat false = true) :
      ProcessOutcome assembler ctx chunk (.ok (), assembler)
  | failed (error : Error) (file : OutputStream) (path : file.path = ctx.file.path)
      (broken : file.good = false)
      (inRange : chunk.header.chunkIndex.toNat < ctx.totalChunks)
      (missing : ctx.receivedChunks.getD chunk.header.chunkIndex.toNat false = false) :
      ProcessOutcome assembler ctx chunk
        (.error error, assembler.setContext chunk.header.id { ctx with file })
  | accepted (file : OutputStream) (path : file.path = ctx.file.path) (good : file.good = true)
      (wasGood : ctx.file.good = true)
      (inRange : chunk.header.chunkIndex.toNat < ctx.totalChunks)
      (missing : ctx.receivedChunks.getD chunk.header.chunkIndex.toNat false = false)
      (verified : verifyCrc32 chunk.data chunk.header.checksum = true) :
      ProcessOutcome assembler ctx chunk
        (.ok (), { assembler with
            files := assembler.files.write ctx.file.path chunk.header.chunkOffset.toNat chunk.data
          }.setContext chunk.header.id (ctx.record file chunk))

theorem processChunk_outcome (session : assembler.contexts chunk.header.id = some ctx)
    (disk : DiskOutcome) :
    ProcessOutcome assembler ctx chunk (assembler.processChunk disk chunk) := by
  rw [processChunk, session]
  dsimp only
  split
  · rename_i outside
    exact .rejected _ (Or.inl outside)
  · rename_i inRange
    have inRange := Nat.lt_of_not_le inRange
    split
    · rename_i received
      exact .duplicate inRange received
    · rename_i missing
      have missing := Bool.eq_false_of_not_eq_true missing
      split
      · rename_i corrupted
        exact .rejected _ (Or.inr (Bool.eq_false_of_not_eq_true corrupted))
      · rename_i verified
        have verified := not_not.mp verified
        split
        · rename_i unsought
          exact .failed _ _ (OutputStream.seekp_path _ _ _)
            (Bool.eq_false_of_not_eq_true unsought) inRange missing
        · rename_i sought
          have sought := not_not.mp sought
          have able := ctx.file.seekp_good sought
          rw [able.2] at sought ⊢
          rcases OutputStream.write_cases disk assembler.files
            { ctx.file with position := chunk.header.chunkOffset.toNat } chunk.data with
            failed | written
          · rw [failed, if_pos (by simp)]
            exact .failed _ _ rfl rfl inRange missing
          · rw [written, if_neg (by simp [able.1])]
            exact .accepted _ rfl able.1 able.1 inRange missing verified

theorem startSession_cases (assembler : ChunkAssembler) (disk : DiskOutcome) (tempName : Bytes)
    (id : TransferId) (filename : Bytes) (fileSize totalChunks : Nat) :
    (∃ error, assembler.startSession disk tempName id filename fileSize totalChunks =
      (.error error, assembler)) ∨
    (assembler.contexts id = none ∧
      ∃ stream files, preallocate disk ⟨assembler.outputDir.append tempName, 0, true, true⟩
          (assembler.files.put (assembler.outputDir.append tempName) []) fileSize =
          (stream, files) ∧
        assembler.startSession disk tempName id filename fileSize totalChunks =
          (.ok (), { assembler with files }.setContext id
            (AssemblyContext.opened (assembler.outputDir.append tempName)
              (assembler.outputDir.append filename) filename stream fileSize totalChunks))) := by
  rw [startSession]
  cases session : assembler.contexts id with
  | some ctx => exact Or.inl ⟨_, rfl⟩
  | none =>
      by_cases opens : disk.opens = true
      · right
        rcases prepared : preallocate disk ⟨assembler.outputDir.append tempName, 0, true, true⟩
          (assembler.files.put (assembler.outputDir.append tempName) []) fileSize with
          ⟨stream, files⟩
        refine ⟨rfl, stream, files, rfl, ?_⟩
        simp only [OutputStream.openFile, opens, if_true, not_true_eq_false, if_false, prepared]
      · left
        simp only [OutputStream.openFile, opens, if_false, Bool.false_eq_true,
          not_false_eq_true, if_true]
        exact ⟨_, rfl⟩

theorem finalize_cases (session : assembler.contexts id = some ctx) (disk : DiskOutcome)
    (expectedHash : Bytes) :
    (∃ error, assembler.finalize disk id expectedHash = (.error error, assembler)) ∨
    ∃ files : FileSystem,
      (∀ path, path ≠ ctx.tempFilePath → path ≠ ctx.finalPath →
        files path = assembler.files path) ∧
      ((∃ result, assembler.finalize disk id expectedHash =
          (result, { assembler with files }.eraseContext id)) ∨
        ∃ error, assembler.finalize disk id expectedHash =
          (.error error, { assembler with files }.setContext id
            { ctx with file := ctx.file.close })) := by
  have cleared (path : Path) (other : path ≠ ctx.finalPath) :
      (if assembler.files.exist ctx.finalPath then assembler.files.remove ctx.finalPath
        else assembler.files) path = assembler.files path := by
    split
    · exact FileSystem.remove_of_ne _ other
    · rfl
  have erased (files : FileSystem) :
      { assembler.setContext id { ctx with file := ctx.file.close } with files }.eraseContext id =
        { assembler with files }.eraseContext id := by
    simp only [eraseContext, setContext, Function.update_idem]
  rw [finalize, session]
  dsimp only
  split
  · exact Or.inl ⟨_, rfl⟩
  · right
    split
    · refine ⟨assembler.files.remove ctx.tempFilePath,
        fun path other _ => FileSystem.remove_of_ne assembler.files other,
        Or.inl ⟨unexpected .fileHashMismatch "SHA-256 hash mismatch", ?_⟩⟩
      rw [← erased]
    · split
      · rename_i message _
        exact ⟨_, fun path _ other => cleared path other, Or.inr ⟨_, rfl⟩⟩
      · rename_i files renamed
        refine ⟨files, fun path notTemp notFinal => ?_, Or.inl ⟨.ok ctx.finalPath, ?_⟩⟩
        · rw [FileSystem.rename_of_ne renamed notTemp notFinal]
          exact cleared path notFinal
        · rw [← erased]

end ChunkAssembler

end FileTrans.Core
