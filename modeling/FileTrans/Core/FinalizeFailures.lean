import FileTrans.Core.FileCoverage

/-!
# Finalizations that fail

`finalize` closes the stream, checks the hash, removes the file at the final path and
moves the temporary file there.  The errors of both removals are ignored; a failure of
the last step comes too late for a file that was at the final path before.
-/

namespace FileTrans.Core

open Storage
open FileTrans.Core.Checksum

namespace ChunkAssembler

/-- `finalize` where files may resist their removal. -/
def finalizeRemoving (assembler : ChunkAssembler) (disk : DiskOutcome) (removes : Path → Bool)
    (id : TransferId) (expectedHash : Bytes) : Result Path × ChunkAssembler :=
  match assembler.contexts id with
  | none => (unexpected .notInitialized "session not found", assembler)
  | some ctx =>
      if ctx.receivedCount ≠ ctx.totalChunks then
        (.error ⟨.missingChunks, Text.ascii "missing " ++
          Text.decimal (sub64 ctx.totalChunks ctx.receivedCount) ++ Text.ascii " chunks"⟩,
          assembler)
      else
        let closed := assembler.setContext id { ctx with file := ctx.file.close }
        if expectedHash ≠ [] ∧
            ¬ verifySha256 (assembler.files ctx.tempFilePath) expectedHash then
          let files := if removes ctx.tempFilePath then assembler.files.remove ctx.tempFilePath
            else assembler.files
          (unexpected .fileHashMismatch "SHA-256 hash mismatch",
            { closed with files }.eraseContext id)
        else
          let files := if assembler.files.exist ctx.finalPath ∧ removes ctx.finalPath then
            assembler.files.remove ctx.finalPath else assembler.files
          match files.rename disk ctx.tempFilePath ctx.finalPath with
          | .error message =>
              (.error ⟨.fileWriteError, Text.ascii "cannot rename temp file: " ++ message⟩,
                { closed with files })
          | .ok files => (.ok ctx.finalPath, { closed with files }.eraseContext id)

theorem finalizeRemoving_true (assembler : ChunkAssembler) (disk : DiskOutcome)
    (id : TransferId) (expectedHash : Bytes) :
    assembler.finalizeRemoving disk (fun _ => true) id expectedHash =
      assembler.finalize disk id expectedHash := by
  unfold finalizeRemoving
  simp only [and_true, if_true]
  rfl

/-- The hash is given, and the temporary file does not have it. -/
def Mismatched (assembler : ChunkAssembler) (ctx : AssemblyContext) (expectedHash : Bytes) :
    Prop :=
  expectedHash ≠ [] ∧ verifySha256 (assembler.files ctx.tempFilePath) expectedHash = false

instance (assembler : ChunkAssembler) (ctx : AssemblyContext) (expectedHash : Bytes) :
    Decidable (assembler.Mismatched ctx expectedHash) :=
  inferInstanceAs (Decidable (_ ∧ _))

/-- The session can still be finalized: nothing changed, or all its chunks were received and a
call with no hash or that of the data moves the data to the final path. -/
def StillFinalizes (before after : ChunkAssembler) (id : TransferId) (ctx : AssemblyContext) :
    Prop :=
  if ctx.receivedCount = ctx.totalChunks then
    ∀ content later, before.files ctx.tempFilePath = some content →
      (later = [] ∨ verifySha256 (some content) later = true) →
      (after.finalize .success id later).1 = .ok ctx.finalPath ∧
        (after.finalize .success id later).2.files ctx.finalPath = some content
  else after = before

/-- An error of `finalize` costs nothing but the data with the wrong hash. -/
structure FinalizeSafe (assembler : ChunkAssembler) (disk : DiskOutcome) (removes : Path → Bool)
    (id : TransferId) (ctx : AssemblyContext) (expectedHash : Bytes) : Prop where
  kept : ∀ error content,
    (assembler.finalizeRemoving disk removes id expectedHash).1 = .error error →
    assembler.files ctx.finalPath = some content →
    (assembler.finalizeRemoving disk removes id expectedHash).2.files ctx.finalPath =
      some content
  resumable : ∀ error,
    (assembler.finalizeRemoving disk removes id expectedHash).1 = .error error →
    error.code ≠ .fileHashMismatch →
    StillFinalizes assembler (assembler.finalizeRemoving disk removes id expectedHash).2 id ctx

/-- The last step does not fail after the old file was removed, nor is the old file the
temporary one. -/
def OldFileSpared (assembler : ChunkAssembler) (disk : DiskOutcome) (removes : Path → Bool)
    (ctx : AssemblyContext) (expectedHash : Bytes) : Prop :=
  if assembler.Mismatched ctx expectedHash then
    ctx.tempFilePath ≠ ctx.finalPath ∨ removes ctx.finalPath = false
  else
    removes ctx.finalPath = false ∧
        (ctx.tempFilePath ≠ ctx.finalPath ∨ disk.renameError = none) ∨
      ctx.tempFilePath ≠ ctx.finalPath ∧ disk.renameError = none ∧
        assembler.files.exist ctx.tempFilePath = true

variable {assembler : ChunkAssembler} {disk : DiskOutcome} {removes : Path → Bool}
variable {id : TransferId} {ctx : AssemblyContext} {expectedHash : Bytes}

theorem finalizeRemoving_incomplete (session : assembler.contexts id = some ctx)
    (incomplete : ctx.receivedCount ≠ ctx.totalChunks) :
    (assembler.finalizeRemoving disk removes id expectedHash).2 = assembler := by
  rw [finalizeRemoving, session]
  dsimp only
  rw [if_pos incomplete]

variable (disk removes) in
theorem finalizeRemoving_mismatched (session : assembler.contexts id = some ctx)
    (complete : ctx.receivedCount = ctx.totalChunks)
    (mismatched : assembler.Mismatched ctx expectedHash) :
    (assembler.finalizeRemoving disk removes id expectedHash).1 =
        unexpected .fileHashMismatch "SHA-256 hash mismatch" ∧
      (assembler.finalizeRemoving disk removes id expectedHash).2.files =
        if removes ctx.tempFilePath then assembler.files.remove ctx.tempFilePath
        else assembler.files := by
  have check : expectedHash ≠ [] ∧
      ¬ verifySha256 (assembler.files ctx.tempFilePath) expectedHash = true :=
    ⟨mismatched.1, by simp [mismatched.2]⟩
  rw [finalizeRemoving, session]
  dsimp only
  rw [if_neg (not_not.mpr complete), if_pos check]
  exact ⟨rfl, rfl⟩

/-- The files before the last step. -/
def cleared (assembler : ChunkAssembler) (removes : Path → Bool) (ctx : AssemblyContext) :
    FileSystem :=
  if assembler.files.exist ctx.finalPath ∧ removes ctx.finalPath then
    assembler.files.remove ctx.finalPath else assembler.files

variable (disk removes) in
theorem finalizeRemoving_matched (session : assembler.contexts id = some ctx)
    (complete : ctx.receivedCount = ctx.totalChunks)
    (matched : ¬ assembler.Mismatched ctx expectedHash) :
    assembler.finalizeRemoving disk removes id expectedHash =
      match (assembler.cleared removes ctx).rename disk ctx.tempFilePath ctx.finalPath with
      | .error message =>
          (.error ⟨.fileWriteError, Text.ascii "cannot rename temp file: " ++ message⟩,
            { assembler with files := assembler.cleared removes ctx }.setContext id
              { ctx with file := ctx.file.close })
      | .ok files => (.ok ctx.finalPath, { assembler with files }.eraseContext id) := by
  have check : ¬ (expectedHash ≠ [] ∧
      ¬ verifySha256 (assembler.files ctx.tempFilePath) expectedHash = true) := by
    rw [Bool.not_eq_true]
    exact matched
  have erased (files : FileSystem) :
      { assembler.setContext id { ctx with file := ctx.file.close } with files }.eraseContext id =
        { assembler with files }.eraseContext id := by
    simp only [eraseContext, setContext, Function.update_idem]
  rw [finalizeRemoving, session]
  dsimp only
  rw [if_neg (not_not.mpr complete), if_neg check, ← cleared]
  split
  · rfl
  · rw [erased]

/-- Once the old file is out of the way, the data that is still in the temporary file can be
moved to the final path. -/
theorem finalize_later {files : FileSystem} {content later : Bytes}
    (complete : ctx.receivedCount = ctx.totalChunks)
    (distinct : ctx.tempFilePath ≠ ctx.finalPath)
    (stored : files ctx.tempFilePath = some content)
    (verifies : later = [] ∨ verifySha256 (some content) later = true) :
    let after := { assembler with files }.setContext id { ctx with file := ctx.file.close }
    (after.finalize .success id later).1 = .ok ctx.finalPath ∧
      (after.finalize .success id later).2.files ctx.finalPath = some content := by
  intro after
  let closed : AssemblyContext := { ctx with file := ctx.file.close }
  have matched : ¬ after.Mismatched closed later := by
    rintro ⟨given, fails⟩
    have data : after.files closed.tempFilePath = some content := stored
    rw [data] at fails
    rcases verifies with none | verified
    · exact given none
    · rw [verified] at fails
      cases fails
  have data : (after.cleared (fun _ => true) closed) closed.tempFilePath = some content := by
    unfold cleared
    split
    · exact (FileSystem.remove_of_ne _ distinct).trans stored
    · exact stored
  have ends := finalizeRemoving_matched .success (fun _ => true)
    (setContext_self { assembler with files } id closed) complete matched
  rw [finalizeRemoving_true, FileSystem.rename_success _ data distinct] at ends
  rw [ends]
  refine ⟨rfl, ?_⟩
  rw [eraseContext_files]
  exact (FileSystem.remove_of_ne _ (Ne.symm distinct)).trans (FileSystem.put_self _ _ _)

theorem rename_cleared_cases (assembler : ChunkAssembler) (disk : DiskOutcome)
    (removes : Path → Bool) (ctx : AssemblyContext) :
    (∃ message, (assembler.cleared removes ctx).rename disk ctx.tempFilePath ctx.finalPath =
        .error message ∧
      (disk.renameError = none → assembler.cleared removes ctx ctx.tempFilePath = none)) ∨
    (∃ files, (assembler.cleared removes ctx).rename disk ctx.tempFilePath ctx.finalPath =
        .ok files ∧
      disk.renameError = none ∧
      (assembler.cleared removes ctx ctx.tempFilePath).isSome = true) := by
  rcases failure : disk.renameError with _ | message
  · rcases stored : assembler.cleared removes ctx ctx.tempFilePath with _ | content
    · exact .inl ⟨_, by simp only [FileSystem.rename, failure, stored]; rfl, fun _ => rfl⟩
    · simp only [FileSystem.rename, failure, stored]
      split
      · exact .inr ⟨_, rfl, by simp⟩
      · exact .inr ⟨_, rfl, by simp⟩
  · exact .inl ⟨message, by simp only [FileSystem.rename, failure], fun none => by cases none⟩

theorem finalizeSafe_of_mismatched (session : assembler.contexts id = some ctx)
    (complete : ctx.receivedCount = ctx.totalChunks) {old : Bytes}
    (exists' : assembler.files ctx.finalPath = some old)
    (mismatched : assembler.Mismatched ctx expectedHash) :
    assembler.FinalizeSafe disk removes id ctx expectedHash ↔
      ctx.tempFilePath ≠ ctx.finalPath ∨ removes ctx.finalPath = false := by
  obtain ⟨result, files⟩ := finalizeRemoving_mismatched disk removes
    session complete mismatched
  constructor
  · rintro ⟨kept, -⟩
    have stays := kept _ old result exists'
    by_contra otherwise
    simp only [not_or, ne_eq, not_not, Bool.not_eq_false] at otherwise
    rw [files, otherwise.1, if_pos otherwise.2, FileSystem.remove_self] at stays
    cases stays
  · intro spared
    refine ⟨fun error content _ stored => ?_, fun error failed notMismatch => ?_⟩
    · rw [files]
      split
      · rename_i removed
        rw [FileSystem.remove_of_ne]
        · exact stored
        · rintro same
          rcases spared with distinct | resists
          · exact distinct same.symm
          · rw [same, removed] at resists
            cases resists
      · exact stored
    · cases result.symm.trans failed
      exact absurd rfl notMismatch

theorem cleared_of_resists (resists : removes ctx.finalPath = false) :
    assembler.cleared removes ctx = assembler.files := by
  simp [cleared, resists]

theorem cleared_of_absent (absent : assembler.files ctx.finalPath = none) :
    assembler.cleared removes ctx = assembler.files := by
  simp [cleared, FileSystem.exist, absent]

theorem cleared_of_removed {old : Bytes} (exists' : assembler.files ctx.finalPath = some old)
    (removed : removes ctx.finalPath = true) :
    assembler.cleared removes ctx = assembler.files.remove ctx.finalPath := by
  simp [cleared, FileSystem.exist, exists', removed]

/-- The last step failed. -/
def unrenamed (assembler : ChunkAssembler) (removes : Path → Bool) (id : TransferId)
    (ctx : AssemblyContext) : ChunkAssembler :=
  { assembler with files := assembler.cleared removes ctx }.setContext id
    { ctx with file := ctx.file.close }

@[simp]
theorem unrenamed_files (assembler : ChunkAssembler) (removes : Path → Bool) (id : TransferId)
    (ctx : AssemblyContext) :
    (assembler.unrenamed removes id ctx).files = assembler.cleared removes ctx :=
  rfl

theorem stillFinalizes_unrenamed (complete : ctx.receivedCount = ctx.totalChunks)
    (unchanged : assembler.cleared removes ctx = assembler.files)
    (distinct : ∀ content, assembler.files ctx.tempFilePath = some content →
      ctx.tempFilePath ≠ ctx.finalPath) :
    StillFinalizes assembler (assembler.unrenamed removes id ctx) id ctx := by
  rw [StillFinalizes, if_pos complete]
  intro content later stored verifies
  rw [unrenamed, unchanged]
  exact finalize_later complete (distinct content stored) stored verifies

theorem not_stillFinalizes_unrenamed {old : Bytes}
    (complete : ctx.receivedCount = ctx.totalChunks)
    (exists' : assembler.files ctx.finalPath = some old)
    (resists : removes ctx.finalPath = false) (same : ctx.tempFilePath = ctx.finalPath) :
    ¬ StillFinalizes assembler (assembler.unrenamed removes id ctx) id ctx := by
  rw [StillFinalizes, if_pos complete]
  intro still
  have moved := (still old [] (same ▸ exists') (Or.inl rfl)).1
  let closed : AssemblyContext := { ctx with file := ctx.file.close }
  have files : (assembler.unrenamed removes id ctx).files = assembler.files :=
    cleared_of_resists resists
  have free : ¬ (assembler.unrenamed removes id ctx).Mismatched closed [] :=
    fun mismatched => mismatched.1 rfl
  have held : (assembler.unrenamed removes id ctx).contexts id = some closed :=
    setContext_self _ id closed
  have ends := finalizeRemoving_matched .success (fun _ => true) held complete free
  have gone : (assembler.files.remove ctx.finalPath).rename .success ctx.tempFilePath
      ctx.finalPath = .error (Text.ascii "No such file or directory") := by
    simp [FileSystem.rename, DiskOutcome.success, same]
  have there : (assembler.unrenamed removes id ctx).files closed.finalPath = some old := by
    rw [files]
    exact exists'
  rw [finalizeRemoving_true, cleared_of_removed there rfl, files, gone] at ends
  rw [ends] at moved
  cases moved

theorem finalizeSafe_of_matched (session : assembler.contexts id = some ctx)
    (complete : ctx.receivedCount = ctx.totalChunks) {old : Bytes}
    (exists' : assembler.files ctx.finalPath = some old)
    (matched : ¬ assembler.Mismatched ctx expectedHash) :
    assembler.FinalizeSafe disk removes id ctx expectedHash ↔
      removes ctx.finalPath = false ∧
          (ctx.tempFilePath ≠ ctx.finalPath ∨ disk.renameError = none) ∨
        ctx.tempFilePath ≠ ctx.finalPath ∧ disk.renameError = none ∧
          assembler.files.exist ctx.tempFilePath = true := by
  have ends := finalizeRemoving_matched disk removes session complete
    matched
  rcases assembler.rename_cleared_cases disk removes ctx with
    ⟨message, failed, missing⟩ | ⟨files, renamed, allowed, present⟩
  · rw [failed] at ends
    dsimp only at ends
    rw [← unrenamed] at ends
    have result : (assembler.finalizeRemoving disk removes id expectedHash).1 = _ :=
      congrArg Prod.fst ends
    cases resists : removes ctx.finalPath with
    | true =>
        have cleared := cleared_of_removed exists' resists
        rw [cleared] at missing
        constructor
        · rintro ⟨kept, -⟩
          have stays := kept _ old result exists'
          rw [ends, unrenamed_files, cleared, FileSystem.remove_self] at stays
          cases stays
        · rintro (⟨other, -⟩ | ⟨distinct, allowed, present⟩)
          · cases other
          · have gone := missing allowed
            rw [FileSystem.remove_of_ne _ distinct] at gone
            simp [FileSystem.exist, gone] at present
    | false =>
        have cleared : assembler.cleared removes ctx = assembler.files :=
          cleared_of_resists resists
        rw [cleared] at missing
        by_cases same : ctx.tempFilePath = ctx.finalPath
        · have refused : disk.renameError ≠ none := by
            intro allowed
            have gone := missing allowed
            rw [same, exists'] at gone
            cases gone
          simp only [same, refused, ne_eq, not_true_eq_false, or_self, and_false, false_and,
            iff_false]
          rintro ⟨-, resumable⟩
          have still := resumable _ result (by simp)
          rw [ends] at still
          exact not_stillFinalizes_unrenamed complete exists' resists same still
        · refine iff_of_true ⟨fun error content _ stored => ?_, fun error _ _ => ?_⟩
            (Or.inl ⟨rfl, Or.inl same⟩)
          · rw [ends, unrenamed_files, cleared]
            exact stored
          · rw [ends]
            exact stillFinalizes_unrenamed complete cleared fun _ _ => same
  · rw [renamed] at ends
    have success : ∀ error,
        (assembler.finalizeRemoving disk removes id expectedHash).1 ≠ .error error := by
      intro error failed
      rw [ends] at failed
      cases failed
    refine iff_of_true ⟨fun error _ failed => absurd failed (success error),
      fun error failed => absurd failed (success error)⟩ ?_
    cases resists : removes ctx.finalPath with
    | false => exact Or.inl ⟨rfl, Or.inr allowed⟩
    | true =>
        rw [cleared_of_removed exists' resists] at present
        have distinct : ctx.tempFilePath ≠ ctx.finalPath := by
          intro same
          rw [same, FileSystem.remove_self] at present
          cases present
        rw [FileSystem.remove_of_ne _ distinct] at present
        exact Or.inr ⟨distinct, allowed, present⟩

/-- An error costs nothing exactly if no file was at the final path, or chunks are missing, or
the old file is spared. -/
theorem finalizeSafe_iff (session : assembler.contexts id = some ctx) (disk : DiskOutcome)
    (removes : Path → Bool) (expectedHash : Bytes) :
    assembler.FinalizeSafe disk removes id ctx expectedHash ↔
      assembler.files ctx.finalPath = none ∨ ctx.receivedCount ≠ ctx.totalChunks ∨
        assembler.OldFileSpared disk removes ctx expectedHash := by
  by_cases complete : ctx.receivedCount = ctx.totalChunks
  · cases old : assembler.files ctx.finalPath with
    | some content =>
        simp only [complete, ne_eq, not_true_eq_false, reduceCtorEq, false_or]
        rw [OldFileSpared]
        split
        · rename_i mismatched
          exact finalizeSafe_of_mismatched session complete old mismatched
        · rename_i matched
          exact finalizeSafe_of_matched session complete old matched
    | none =>
        refine iff_of_true ⟨fun error content _ stored => ?_, fun error failed notMismatch => ?_⟩
          (Or.inl rfl)
        · rw [old] at stored
          cases stored
        · have distinct : ∀ content, assembler.files ctx.tempFilePath = some content →
              ctx.tempFilePath ≠ ctx.finalPath := by
            intro content stored same
            rw [same, old] at stored
            cases stored
          by_cases mismatched : assembler.Mismatched ctx expectedHash
          · have result := (finalizeRemoving_mismatched disk removes
              session complete mismatched).1
            cases result.symm.trans failed
            exact absurd rfl notMismatch
          · have ends := finalizeRemoving_matched disk removes session
              complete mismatched
            rcases assembler.rename_cleared_cases disk removes ctx with
              ⟨message, refused, -⟩ | ⟨files, renamed, -⟩
            · rw [refused] at ends
              dsimp only at ends
              rw [ends, ← unrenamed]
              exact stillFinalizes_unrenamed complete (cleared_of_absent old) distinct
            · rw [renamed] at ends
              rw [ends] at failed
              cases failed
  · refine iff_of_true ⟨fun error content _ stored => ?_, fun error _ _ => ?_⟩
      (Or.inr (Or.inl complete))
    · rw [finalizeRemoving_incomplete session complete]
      exact stored
    · rw [finalizeRemoving_incomplete session complete, StillFinalizes, if_neg complete]

/-- A session that has its chunk, over an old file. -/
def receivedOverOld : ChunkAssembler :=
  let old : ChunkAssembler := .create (Text.ascii "out") fun path =>
    if path = Text.ascii "out/a" then some [1] else none
  (ChunkAssembler.processChunk (old.startSession .success
    (Text.ascii ".tmp_0") .zero (Text.ascii "a") 1 1).2 .success
    (RecordedAssembler.firstChunk 0 [7])).2

/-- The old file resists its removal and the rename fails. -/
theorem finalizeSafe_resisting : ∃ ctx, receivedOverOld.contexts .zero = some ctx ∧
    (receivedOverOld.finalizeRemoving ⟨true, true, true, some []⟩ (fun _ => false) .zero []).1 =
      .error ⟨.fileWriteError, Text.ascii "cannot rename temp file: "⟩ ∧
    receivedOverOld.FinalizeSafe ⟨true, true, true, some []⟩ (fun _ => false) .zero ctx [] := by
  refine ⟨_, rfl, by decide, (finalizeSafe_iff rfl _ _ _).mpr (Or.inr (Or.inr ?_))⟩
  rw [OldFileSpared, if_neg (fun mismatched => mismatched.1 rfl)]
  exact Or.inl ⟨rfl, Or.inl (by decide)⟩

/-- The rename fails after the old file was removed. -/
theorem finalizeSafe_not_rename :
    ¬ ∀ (assembler : ChunkAssembler) (disk : DiskOutcome) (removes : Path → Bool)
      (id : TransferId) (ctx : AssemblyContext) (expectedHash : Bytes),
      assembler.contexts id = some ctx →
      assembler.FinalizeSafe disk removes id ctx expectedHash := by
  intro every
  have safe := every receivedOverOld ⟨true, true, true, some []⟩ (fun _ => true) .zero _ [] rfl
  have stays := safe.kept _ [1] rfl (by decide)
  exact absurd stays (by decide)

end ChunkAssembler

end FileTrans.Core
