import FileTrans.Core.AssemblerSessions
import FileTrans.Storage.LexicalPath

/-!
# The paths of an assembler

The temporary file of a session has a generated name in the output directory.
Its final path is the output directory followed by the name that the peer
sent, which nothing looks at: an absolute name replaces the directory, and a
`..` leads out of it.
-/

namespace FileTrans.Core

open Storage Transition

/-- `generate_temp_filename`, with what the random numbers were. -/
def generateTempFilename (digits : Fin 16 → Fin 16) : Bytes :=
  Text.ascii ".tmp_" ++ List.ofFn fun position => Text.hexChar (digits position)

/-- The name of the temporary file is a generated one. -/
def AssemblerCall.Generated : AssemblerCall → Prop
  | .startSession _ tempName _ _ _ _ => ∃ digits, tempName = generateTempFilename digits
  | _ => True

namespace ChunkAssembler

/-- The paths at which a call may create, rename or remove a file. -/
def touched (assembler : ChunkAssembler) : AssemblerCall → List Path
  | .startSession _ tempName id _ _ _ =>
      match assembler.contexts id with
      | some _ => []
      | none => [assembler.outputDir.append tempName]
  | .processChunk _ _ => []
  | .finalize _ id expectedHash =>
      match assembler.contexts id with
      | none => []
      | some ctx =>
          if ctx.receivedCount ≠ ctx.totalChunks then []
          else if expectedHash ≠ [] ∧
              ¬ Checksum.verifySha256 (assembler.files ctx.tempFilePath) expectedHash then
            [ctx.tempFilePath]
          else [ctx.tempFilePath, ctx.finalPath]
  | .cancelSession id => (assembler.contexts id).toList.map AssemblyContext.tempFilePath

/-- The name that was passed to `start_session` for the session of a call. -/
def filenameOf (assembler : ChunkAssembler) : AssemblerCall → Option Bytes
  | .startSession _ _ _ filename _ _ => some filename
  | called => (assembler.contexts called.id).map AssemblyContext.filename

/-- If the call is about a session for this name, the paths that it touches are in the output
directory. -/
def SessionInside (strictly : Bool) (filename : Path) (assembler : ChunkAssembler)
    (called : AssemblerCall) : Prop :=
  assembler.filenameOf called = some filename →
    ∀ path ∈ assembler.touched called, Path.Inside strictly assembler.outputDir path

theorem exist_of_not_mem_touched (assembler : ChunkAssembler) (called : AssemblerCall) {path : Path}
    (other : path ∉ assembler.touched called) :
    (assembler.call called).2.files.exist path = assembler.files.exist path := by
  cases called with
  | startSession disk tempName id filename fileSize totalChunks =>
      rcases assembler.startSession_cases disk tempName id filename fileSize.toNat
        totalChunks.toNat with ⟨error, failed⟩ | ⟨absent, stream, files, prepared, started⟩
      · rw [call, failed]
      · have notTemp : path ≠ assembler.outputDir.append tempName := by
          rintro rfl
          apply other
          rw [touched, absent]
          exact List.mem_singleton_self _
        have frame := (preallocate_frame disk
          ⟨assembler.outputDir.append tempName, 0, true, true⟩
          (assembler.files.put (assembler.outputDir.append tempName) []) fileSize.toNat).2 path
          notTemp
        rw [prepared, FileSystem.put_of_ne _ notTemp] at frame
        rw [call, started]
        exact congrArg Option.isSome frame
  | processChunk disk chunk =>
      cases session : assembler.contexts chunk.header.id with
      | none => simp only [call, processChunk, session]
      | some ctx =>
          have outcome := processChunk_outcome session disk
          rw [call]
          generalize assembler.processChunk disk chunk = result at outcome
          cases outcome with
          | rejected error faulty => rfl
          | duplicate inRange received => rfl
          | failed error file path broken inRange missing => rfl
          | accepted file path good wasGood inRange missing verified =>
              exact FileSystem.exist_write _ _ _ _ _
  | finalize disk id expectedHash =>
      cases session : assembler.contexts id with
      | none => simp only [call, finalize, session]
      | some ctx =>
          rw [touched, session] at other
          rw [call, finalize, session]
          dsimp only at other ⊢
          split at other
          · rename_i incomplete
            rw [if_pos incomplete]
          rename_i complete
          rw [if_neg complete]
          split at other
          · rename_i mismatched
            rw [if_pos mismatched]
            have notTemp : path ≠ ctx.tempFilePath :=
              fun same => other (List.mem_singleton.mpr same)
            exact congrArg Option.isSome (FileSystem.remove_of_ne _ notTemp)
          · rename_i matched
            rw [if_neg matched]
            obtain ⟨notTemp, notFinal⟩ := not_or.mp (List.mem_pair.not.mp other)
            have cleared : (if assembler.files.exist ctx.finalPath then
                assembler.files.remove ctx.finalPath else assembler.files) path =
                  assembler.files path := by
              split
              · exact FileSystem.remove_of_ne _ notFinal
              · rfl
            split
            · exact congrArg Option.isSome cleared
            · rename_i files renamed
              exact congrArg Option.isSome
                ((FileSystem.rename_of_ne renamed notTemp notFinal).trans cleared)
  | cancelSession id =>
      cases session : assembler.contexts id with
      | none => simp only [call, cancelSession, session]
      | some ctx =>
          have notTemp : path ≠ ctx.tempFilePath := by
            rintro rfl
            apply other
            rw [touched, session]
            exact List.mem_singleton_self _
          simp only [call, cancelSession, session]
          exact congrArg Option.isSome (FileSystem.remove_of_ne _ notTemp)

/-! ## The paths of a session -/

/-- The temporary path has a generated name in the directory, and the final path is the
directory followed by the name of the session. -/
structure OwnPaths (directory : Path) (ctx : AssemblyContext) : Prop where
  temporary : ∃ digits, ctx.tempFilePath = directory.append (generateTempFilename digits)
  final : ctx.finalPath = directory.append ctx.filename

/-- Every session has its own paths in the directory. -/
structure PathsOwned (directory : Path) (assembler : ChunkAssembler) : Prop where
  outputDir : assembler.outputDir = directory
  own : ∀ id ctx, assembler.contexts id = some ctx → OwnPaths directory ctx

section

variable {directory : Path} {assembler : ChunkAssembler}

theorem PathsOwned.setContext (owned : PathsOwned directory assembler) {id : TransferId}
    {ctx : AssemblyContext} (own : OwnPaths directory ctx) (files : FileSystem) :
    PathsOwned directory ({ assembler with files }.setContext id ctx) := by
  refine ⟨owned.outputDir, fun other held session => ?_⟩
  by_cases same : other = id
  · subst same
    rw [setContext_self] at session
    rwa [← Option.some.inj session]
  · rw [setContext_of_ne same] at session
    exact owned.own other held session

theorem PathsOwned.eraseContext (owned : PathsOwned directory assembler) (id : TransferId)
    (files : FileSystem) : PathsOwned directory ({ assembler with files }.eraseContext id) := by
  refine ⟨owned.outputDir, fun other held session => ?_⟩
  by_cases same : other = id
  · subst same
    rw [eraseContext_self] at session
    contradiction
  · rw [eraseContext_of_ne same] at session
    exact owned.own other held session

theorem PathsOwned.call (owned : PathsOwned directory assembler) {called : AssemblerCall}
    (generated : called.Generated) : PathsOwned directory (assembler.call called).2 := by
  cases called with
  | startSession disk tempName id filename fileSize totalChunks =>
      obtain ⟨digits, rfl⟩ := generated
      rcases assembler.startSession_cases disk (generateTempFilename digits) id filename
        fileSize.toNat totalChunks.toNat with ⟨error, failed⟩ | ⟨-, stream, files, -, started⟩
      · rw [ChunkAssembler.call, failed]
        exact owned
      · obtain rfl := owned.outputDir
        rw [ChunkAssembler.call, started]
        apply owned.setContext _ files
        exact ⟨⟨digits, rfl⟩, rfl⟩
  | processChunk disk chunk =>
      cases session : assembler.contexts chunk.header.id with
      | none =>
          simp only [ChunkAssembler.call, processChunk, session]
          exact owned
      | some ctx =>
          have own := owned.own _ _ session
          have outcome := processChunk_outcome session disk
          rw [ChunkAssembler.call]
          generalize assembler.processChunk disk chunk = result at outcome
          cases outcome with
          | rejected error faulty => exact owned
          | duplicate inRange received => exact owned
          | failed error file path broken inRange missing =>
              apply owned.setContext _ assembler.files
              exact ⟨own.temporary, own.final⟩
          | accepted file path good wasGood inRange missing verified =>
              apply owned.setContext
              exact ⟨own.temporary, own.final⟩
  | finalize disk id expectedHash =>
      cases session : assembler.contexts id with
      | none =>
          simp only [ChunkAssembler.call, finalize, session]
          exact owned
      | some ctx =>
          have own := owned.own _ _ session
          rcases finalize_cases session disk expectedHash with
            ⟨error, unchanged⟩ | ⟨files, -, ⟨result, ended⟩ | ⟨error, closed⟩⟩
          · rw [ChunkAssembler.call, unchanged]
            exact owned
          · rw [ChunkAssembler.call, ended]
            exact owned.eraseContext id files
          · rw [ChunkAssembler.call, closed]
            apply owned.setContext _ files
            exact ⟨own.temporary, own.final⟩
  | cancelSession id =>
      cases session : assembler.contexts id with
      | none =>
          simp only [ChunkAssembler.call, cancelSession, session]
          exact owned
      | some ctx =>
          simp only [ChunkAssembler.call, cancelSession, session]
          exact owned.eraseContext id _

theorem PathsOwned.run (owned : PathsOwned directory assembler) {calls : List AssemblerCall}
    (generated : ∀ called ∈ calls, called.Generated) :
    PathsOwned directory (Transition.final ChunkAssembler.call assembler calls) := by
  induction calls generalizing assembler with
  | nil => exact owned
  | cons called rest ih =>
      exact ih (owned.call (generated called List.mem_cons_self))
        fun later mem => generated later (List.mem_cons_of_mem called mem)

theorem pathsOwned_create (directory : Path) (files : FileSystem) :
    PathsOwned directory (create directory files) :=
  ⟨rfl, nofun⟩

theorem PathsOwned.touched (owned : PathsOwned directory assembler) {called : AssemblerCall}
    (generated : called.Generated) {path : Path} (mem : path ∈ assembler.touched called) :
    (∃ digits, path = directory.append (generateTempFilename digits)) ∨
      ∃ filename, assembler.filenameOf called = some filename ∧
        path = directory.append filename := by
  cases called with
  | startSession disk tempName id filename fileSize totalChunks =>
      obtain ⟨digits, rfl⟩ := generated
      rw [ChunkAssembler.touched] at mem
      split at mem
      · contradiction
      · rw [List.mem_singleton.mp mem, owned.outputDir]
        exact .inl ⟨digits, rfl⟩
  | processChunk disk chunk => contradiction
  | finalize disk id expectedHash =>
      rw [ChunkAssembler.touched] at mem
      cases session : assembler.contexts id with
      | none =>
          rw [session] at mem
          contradiction
      | some ctx =>
          have own := owned.own id ctx session
          rw [session] at mem
          dsimp only at mem
          split at mem
          · contradiction
          split at mem
          · rw [List.mem_singleton.mp mem]
            exact .inl own.temporary
          · rcases List.mem_pair.mp mem with rfl | rfl
            · exact .inl own.temporary
            · exact .inr ⟨ctx.filename, congrArg (Option.map AssemblyContext.filename) session,
                own.final⟩
  | cancelSession id =>
      rw [ChunkAssembler.touched] at mem
      cases session : assembler.contexts id with
      | none =>
          rw [session] at mem
          contradiction
      | some ctx =>
          rw [session] at mem
          rw [List.mem_singleton.mp mem]
          exact .inl (owned.own id ctx session).temporary

end

/-! ## What lies inside -/

theorem inside_generated (strictly : Bool) (directory : Path) (digits : Fin 16 → Fin 16) :
    Path.Inside strictly directory (directory.append (generateTempFilename digits)) := by
  have digit : ∀ value : Fin 16, Text.hexChar value ≠ 0x2f := by decide
  have length : (generateTempFilename digits).length = 21 := by
    rw [generateTempFilename, List.length_append, List.length_ofFn]
    rfl
  apply (Path.inside_append_iff strictly directory _).mpr
  apply Path.leadsInto_of_plain
  · intro mem
    rcases List.mem_append.mp mem with fixed | random
    · exact absurd fixed (by decide)
    · obtain ⟨position, same⟩ := List.mem_ofFn.mp random
      exact digit _ same
  · intro empty
    rw [empty] at length
    contradiction
  · intro here
    rw [here] at length
    contradiction
  · intro up
    rw [up] at length
    contradiction

/-- What holds in every run of an assembler for the sessions with this name: their calls, and
the destructor, which removes the temporary files of the sessions that are left, stay inside
the output directory. -/
structure StaysInside (strictly : Bool) (directory filename : Path) : Prop where
  calls : ∀ files calls, (∀ called ∈ calls, AssemblerCall.Generated called) →
    Guarded call (SessionInside strictly filename) (create directory files) calls
  left : ∀ files calls, (∀ called ∈ calls, AssemblerCall.Generated called) →
    ∀ id ctx, (Transition.final call (create directory files) calls).contexts id = some ctx →
      ctx.filename = filename → Path.Inside strictly directory ctx.tempFilePath

theorem guarded_of_leadsInto {strictly : Bool} {directory filename : Path}
    (leads : Path.LeadsInto strictly directory filename) {assembler : ChunkAssembler}
    (owned : PathsOwned directory assembler) {calls : List AssemblerCall}
    (generated : ∀ called ∈ calls, AssemblerCall.Generated called) :
    Guarded call (SessionInside strictly filename) assembler calls := by
  induction calls generalizing assembler with
  | nil => trivial
  | cons called rest ih =>
      have first := generated called List.mem_cons_self
      refine ⟨?_, ih (owned.call first) fun later mem => generated later (.tail called mem)⟩
      intro named path mem
      rw [owned.outputDir]
      rcases owned.touched first mem with ⟨digits, rfl⟩ | ⟨other, same, rfl⟩
      · exact inside_generated strictly directory digits
      · obtain rfl := Option.some.inj (named.symm.trans same)
        exact (Path.inside_append_iff strictly directory filename).mpr leads

/-- As long as the calls are about sessions whose names lead into the output directory, no file
outside of it is created or removed. -/
theorem exist_outside {strictly : Bool} {directory path : Path} {assembler : ChunkAssembler}
    (owned : PathsOwned directory assembler) {calls : List AssemblerCall}
    (generated : ∀ called ∈ calls, AssemblerCall.Generated called)
    (leads : Guarded call (fun assembler called => ∀ filename,
      assembler.filenameOf called = some filename → Path.LeadsInto strictly directory filename)
      assembler calls) (outside : ¬ Path.Inside strictly directory path) :
    (Transition.final call assembler calls).files.exist path = assembler.files.exist path := by
  induction calls generalizing assembler with
  | nil => rfl
  | cons called rest ih =>
      have first := generated called List.mem_cons_self
      have apart : path ∉ assembler.touched called := by
        intro mem
        apply outside
        rcases owned.touched first mem with ⟨digits, rfl⟩ | ⟨filename, named, rfl⟩
        · exact inside_generated strictly directory digits
        · exact (Path.inside_append_iff strictly directory filename).mpr
            (leads.1 filename named)
      rw [Transition.final_cons, ih (owned.call first)
        (fun later mem => generated later (.tail called mem)) leads.2]
      exact assembler.exist_of_not_mem_touched called apart

/-- A session for an empty file that is finalized at once. -/
def completeSession (filename : Path) : List AssemblerCall :=
  [.startSession .success (generateTempFilename fun _ => 0) TransferId.zero filename 0 0,
    .finalize .success TransferId.zero []]

theorem completeSession_generated (filename : Path) :
    ∀ called ∈ completeSession filename, AssemblerCall.Generated called := by
  intro called mem
  rcases List.mem_pair.mp mem with rfl | rfl
  · exact ⟨fun _ => 0, rfl⟩
  · trivial

section

variable (directory filename : Path)

theorem context_completeSession :
    ∃ file, ((create directory fun _ => none).call (.startSession .success
      (generateTempFilename fun _ => 0) TransferId.zero filename 0 0)).2.contexts TransferId.zero =
        some (.opened (directory.append (generateTempFilename fun _ => 0))
          (directory.append filename) filename file 0 0) := by
  rcases (create directory fun _ => none).startSession_cases .success
    (generateTempFilename fun _ => 0) TransferId.zero filename 0 0 with
    ⟨error, failed⟩ | ⟨-, stream, files, -, started⟩
  · have opens : DiskOutcome.success.opens = true := rfl
    rw [startSession, create] at failed
    dsimp only at failed
    rw [OutputStream.openFile, if_pos opens] at failed
    cases failed
  · refine ⟨stream, ?_⟩
    exact (congrArg (fun result => result.2.contexts TransferId.zero) started).trans
      (setContext_self _ _ _)

theorem touches_completeSession (strictly : Bool)
    (inside : Guarded call (SessionInside strictly filename) (create directory fun _ => none)
      (completeSession filename)) :
    Path.Inside strictly directory (directory.append filename) := by
  obtain ⟨file, session⟩ := context_completeSession directory filename
  have finalized := inside.2.1
  have outputDir := ((pathsOwned_create directory fun _ => none).call
    (completeSession_generated filename _ List.mem_cons_self)).outputDir
  rw [SessionInside, outputDir] at finalized
  apply finalized (congrArg (Option.map AssemblyContext.filename) session)
  rw [touched, session]
  dsimp only [AssemblyContext.opened]
  rw [if_neg (not_not.mpr rfl), if_neg fun given => given.1 rfl]
  exact List.mem_cons_of_mem _ List.mem_cons_self

end

theorem leads_of_filenameOf {strictly : Bool} {directory name : Path}
    {assembler : ChunkAssembler} {called : AssemblerCall}
    (same : assembler.filenameOf called = some name)
    (leads : Path.LeadsInto strictly directory name) (filename : Path)
    (named : assembler.filenameOf called = some filename) :
    Path.LeadsInto strictly directory filename :=
  Option.some.inj (same.symm.trans named) ▸ leads

/-- Two sessions next to each other, of which one is finalized and the other cancelled. -/
def twoSessions : List AssemblerCall :=
  let other : TransferId := ⟨List.replicate 16 1, rfl⟩
  [.startSession .success (generateTempFilename fun _ => 0) TransferId.zero (Text.ascii "a") 1 1,
    .startSession .success (generateTempFilename fun _ => 1) other (Text.ascii "d/b") 2 2,
    .processChunk .success ⟨⟨other, 0, 0, 1, 1, Checksum.crc32 [7], 0⟩, [7]⟩,
    .processChunk .success ⟨⟨TransferId.zero, 0, 0, 1, 1, Checksum.crc32 [8], 0⟩, [8]⟩,
    .finalize .success TransferId.zero [], .cancelSession other]

theorem exist_outside_two_sessions :
    (Transition.final call (create (Text.ascii "out") fun path =>
      if path = Text.ascii "b" then some [9] else none) twoSessions).files.exist
        (Text.ascii "b") = true := by
  have first : Path.LeadsInto true (Text.ascii "out") (Text.ascii "a") := by decide
  have second : Path.LeadsInto true (Text.ascii "out") (Text.ascii "d/b") := by decide
  refine @exist_outside true (Text.ascii "out") (Text.ascii "b") _ (pathsOwned_create _ _)
    twoSessions ?_ ?_ (by decide)
  · intro called mem
    simp only [twoSessions, List.mem_cons, List.not_mem_nil, or_false] at mem
    rcases mem with rfl | rfl | rfl | rfl | rfl | rfl
    case inl => exact ⟨fun _ => 0, rfl⟩
    case inr.inl => exact ⟨fun _ => 1, rfl⟩
    all_goals trivial
  · exact ⟨leads_of_filenameOf rfl first, leads_of_filenameOf rfl second,
      leads_of_filenameOf (by decide +kernel) second, leads_of_filenameOf (by decide +kernel) first,
      leads_of_filenameOf (by decide +kernel) first, leads_of_filenameOf (by decide +kernel) second,
      trivial⟩

/-- The sessions with this name stay inside the directory exactly if the name leads into it. -/
theorem staysInside_iff (strictly : Bool) (directory filename : Path) :
    StaysInside strictly directory filename ↔ Path.LeadsInto strictly directory filename := by
  constructor
  · intro stays
    have run := stays.calls (fun _ => none) (completeSession filename)
      (completeSession_generated filename)
    exact (Path.inside_append_iff strictly directory filename).mp
      (touches_completeSession directory filename strictly run)
  · intro leads
    constructor
    · intro files calls generated
      exact guarded_of_leadsInto leads (pathsOwned_create directory files) generated
    · intro files calls generated id ctx session same
      obtain ⟨digits, temporary⟩ :=
        (((pathsOwned_create directory files).run generated).own id ctx session).temporary
      rw [temporary]
      exact inside_generated strictly directory digits

/-- A name that goes up and an absolute one leave the directory `out`. -/
theorem hostile_names_leave :
    Path.append (Text.ascii "out") (Text.ascii "../x") = Text.ascii "out/../x" ∧
    ¬ StaysInside false (Text.ascii "out") (Text.ascii "../x") ∧
    Path.append (Text.ascii "out") (Text.ascii "/x") = Text.ascii "/x" ∧
    ¬ StaysInside false (Text.ascii "out") (Text.ascii "/x") := by
  refine ⟨by decide, fun stays => ?_, by decide, fun stays => ?_⟩
  · have run := stays.calls (fun _ => none) (completeSession (Text.ascii "../x"))
      (completeSession_generated _)
    exact absurd (touches_completeSession _ _ false run) (by decide)
  · have run := stays.calls (fun _ => none) (completeSession (Text.ascii "/x"))
      (completeSession_generated _)
    exact absurd (touches_completeSession _ _ false run) (by decide)

end ChunkAssembler

end FileTrans.Core
