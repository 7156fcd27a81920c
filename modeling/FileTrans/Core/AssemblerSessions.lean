import FileTrans.Core.ChunkAssembler
import FileTrans.Transition.Run
import Mathlib.Data.List.GetD

/-!
# Progress of the sessions of an assembler

Runs of the assembler are recorded together with the chunks that each session accepted,
told from what the calls return.  `Progress` relates the four views that a session keeps
of them: the bitmap, the counter, the byte total and the list of missing chunks.
-/

namespace FileTrans.Core

open Storage Transition

/-- A call that may change the assembler, with the answers of the disk. -/
inductive AssemblerCall
  | startSession (disk : DiskOutcome) (tempName : Bytes) (id : TransferId) (filename : Bytes)
      (fileSize totalChunks : UInt64)
  | processChunk (disk : DiskOutcome) (chunk : Chunk)
  | finalize (disk : DiskOutcome) (id : TransferId) (expectedHash : Bytes)
  | cancelSession (id : TransferId)

/-- The transfer that a call is about. -/
def AssemblerCall.id : AssemblerCall → TransferId
  | .startSession _ _ id _ _ _ => id
  | .processChunk _ chunk => chunk.header.id
  | .finalize _ id _ => id
  | .cancelSession id => id

/-- `chunk_header::chunk_index`, as a position in the bitmap. -/
def Chunk.index (chunk : Chunk) : Nat :=
  chunk.header.chunkIndex.toNat

namespace ChunkAssembler

/-- `chunk_assembler(output_dir)`. -/
def create (outputDir : Path) (files : FileSystem) : ChunkAssembler :=
  ⟨outputDir, fun _ => none, files⟩

/-- One call; the path that `finalize` returns is left out. -/
def call : Step ChunkAssembler AssemblerCall (Result Unit) := fun assembler called =>
  match called with
  | .startSession disk tempName id filename fileSize totalChunks =>
      assembler.startSession disk tempName id filename fileSize.toNat totalChunks.toNat
  | .processChunk disk chunk => assembler.processChunk disk chunk
  | .finalize disk id expectedHash =>
      let finalized := assembler.finalize disk id expectedHash
      (finalized.1.map fun _ => (), finalized.2)
  | .cancelSession id => (.ok (), assembler.cancelSession id)

/-- The files that a call may write, move or remove. -/
def ownPaths (assembler : ChunkAssembler) : AssemblerCall → List Path
  | .startSession _ tempName _ _ _ _ => [assembler.outputDir.append tempName]
  | called =>
      match assembler.contexts called.id with
      | none => []
      | some ctx => [ctx.file.path, ctx.tempFilePath, ctx.finalPath]

end ChunkAssembler

/-! ## Accepted chunks -/

/-- An assembler with the chunks that each session accepted since it was started. -/
structure RecordedAssembler where
  assembler : ChunkAssembler
  accepted : TransferId → List Chunk

namespace RecordedAssembler

/-- A successful start begins a new list; a chunk is accepted if the call succeeds and
its index was not accepted before. -/
def acceptedAfter (accepted : TransferId → List Chunk) :
    AssemblerCall → Result Unit → TransferId → List Chunk
  | .startSession _ _ id _ _ _, .ok () => Function.update accepted id []
  | .processChunk _ chunk, .ok () =>
      if chunk.index ∈ (accepted chunk.header.id).map Chunk.index then accepted
      else Function.update accepted chunk.header.id (accepted chunk.header.id ++ [chunk])
  | _, _ => accepted

/-- One call. -/
def record : Step RecordedAssembler AssemblerCall (Result Unit) := fun recorded called =>
  let result := recorded.assembler.call called
  (result.1, ⟨result.2, acceptedAfter recorded.accepted called result.1⟩)

/-- The start of a run. -/
def create (outputDir : Path) (files : FileSystem) : RecordedAssembler :=
  ⟨.create outputDir files, fun _ => []⟩

end RecordedAssembler

/-! ## The invariant of a session -/

/-- The tracking data of a session describe the accepted chunks. -/
structure Progress (ctx : AssemblyContext) (accepted : List Chunk) : Prop where
  total_lt : ctx.totalChunks < 2 ^ 64
  streamPath : ctx.file.path = ctx.tempFilePath
  length_eq : ctx.receivedChunks.length = ctx.totalChunks
  distinct : (accepted.map Chunk.index).Nodup
  received_iff : ∀ index, ctx.receivedChunks.getD index false = true ↔
    index ∈ accepted.map Chunk.index
  count_eq : ctx.receivedCount = accepted.length
  bytes_eq : ctx.bytesWritten = wrap64 (accepted.map fun chunk => chunk.data.length).sum

namespace Progress

variable {ctx : AssemblyContext} {accepted : List Chunk}

theorem index_lt (progress : Progress ctx accepted) {index : Nat}
    (mem : index ∈ accepted.map Chunk.index) : index < ctx.totalChunks := by
  rw [← progress.length_eq]
  apply Nat.lt_of_not_le
  intro outside
  have received := (progress.received_iff index).mpr mem
  rw [List.getD_eq_default _ _ outside] at received
  cases received

theorem perm_filter_range (progress : Progress ctx accepted) :
    ((List.range ctx.totalChunks).filter fun index => ctx.receivedChunks.getD index false).Perm
      (accepted.map Chunk.index) := by
  apply (List.perm_ext_iff_of_nodup (List.nodup_range.filter _) progress.distinct).mpr
  intro index
  rw [List.mem_filter, List.mem_range, progress.received_iff]
  exact ⟨And.right, fun mem => ⟨progress.index_lt mem, mem⟩⟩

theorem count_true (progress : Progress ctx accepted) :
    ctx.receivedChunks.count true = accepted.length := by
  have bitmap : ctx.receivedChunks =
      (List.range ctx.totalChunks).map fun index => ctx.receivedChunks.getD index false := by
    apply List.ext_getElem
    · rw [List.length_map, List.length_range, progress.length_eq]
    · intro index inside _
      rw [List.getElem_map, List.getElem_range, List.getD_eq_getElem _ _ inside]
  have same := progress.perm_filter_range.length_eq
  rw [List.length_map] at same
  rw [← same, ← List.countP_eq_length_filter, bitmap, List.count_eq_countP, List.countP_map]
  apply List.countP_congr
  intro index mem
  rw [← bitmap]
  simp

theorem missing_add_accepted (progress : Progress ctx accepted) :
    ((List.range ctx.totalChunks).filter fun index =>
      !ctx.receivedChunks.getD index false).length + accepted.length = ctx.totalChunks := by
  have split := List.length_eq_length_filter_add (l := List.range ctx.totalChunks)
    fun index => ctx.receivedChunks.getD index false
  have same := progress.perm_filter_range.length_eq
  rw [List.length_map] at same
  rw [List.length_range, same] at split
  rw [Nat.add_comm]
  exact split.symm

theorem accepted_lt (progress : Progress ctx accepted) {index : Nat}
    (inRange : index < ctx.totalChunks) (missing : index ∉ accepted.map Chunk.index) :
    accepted.length < ctx.totalChunks := by
  have unset : ctx.receivedChunks.getD index false = false := by
    apply Bool.eq_false_of_not_eq_true
    rwa [progress.received_iff]
  have member : index ∈ (List.range ctx.totalChunks).filter fun index =>
      !ctx.receivedChunks.getD index false := by
    rw [List.mem_filter, List.mem_range, unset]
    exact ⟨inRange, rfl⟩
  have positive := List.length_pos_of_mem member
  have total := progress.missing_add_accepted
  omega

theorem withFile (progress : Progress ctx accepted) {file : OutputStream}
    (path : file.path = ctx.file.path) : Progress { ctx with file } accepted where
  total_lt := progress.total_lt
  streamPath := path.trans progress.streamPath
  length_eq := progress.length_eq
  distinct := progress.distinct
  received_iff := progress.received_iff
  count_eq := progress.count_eq
  bytes_eq := progress.bytes_eq

theorem opened {tempFilePath : Path} (finalPath : Path) (filename : Bytes) {file : OutputStream}
    (path : file.path = tempFilePath) (fileSize : Nat) (totalChunks : UInt64) :
    Progress (.opened tempFilePath finalPath filename file fileSize totalChunks.toNat) [] where
  total_lt := totalChunks.toNat_lt
  streamPath := path
  length_eq := List.length_replicate
  distinct := List.nodup_nil
  received_iff := by
    intro index
    simp [AssemblyContext.opened]
  count_eq := rfl
  bytes_eq := rfl

theorem record (progress : Progress ctx accepted) {chunk : Chunk} {file : OutputStream}
    (path : file.path = ctx.file.path) (inRange : chunk.index < ctx.totalChunks)
    (missing : chunk.index ∉ accepted.map Chunk.index) :
    Progress (ctx.record file chunk) (accepted ++ [chunk]) where
  total_lt := progress.total_lt
  streamPath := path.trans progress.streamPath
  length_eq := (List.length_set ..).trans progress.length_eq
  distinct := by
    rw [List.map_append, List.map_singleton]
    rw [← List.concat_eq_append]
    exact progress.distinct.concat missing
  received_iff := by
    intro index
    have known := progress.received_iff index
    rw [List.getD_eq_getElem?_getD] at known
    rw [AssemblyContext.record, List.getD_eq_getElem?_getD, List.getElem?_set, List.map_append,
      List.map_singleton, List.mem_append, List.mem_singleton]
    by_cases same : chunk.index = index
    · have inside : chunk.index < ctx.receivedChunks.length := by
        rw [progress.length_eq]
        exact inRange
      rw [if_pos (by exact same), if_pos (by exact inside)]
      exact iff_of_true rfl (Or.inr same.symm)
    · rw [if_neg (by exact same), known]
      exact (or_iff_left (Ne.symm same)).symm
  count_eq := by
    have room := progress.accepted_lt inRange missing
    rw [AssemblyContext.record, progress.count_eq, List.length_append, List.length_singleton]
    exact wrap64_of_lt (Nat.lt_of_le_of_lt room progress.total_lt)
  bytes_eq := by
    rw [AssemblyContext.record, progress.bytes_eq, List.map_append, List.sum_append]
    simp [wrap64, Nat.add_mod]

end Progress

/-! ## Runs -/

namespace ChunkAssembler

variable {assembler : ChunkAssembler}

theorem preallocate_frame (disk : DiskOutcome) (stream : OutputStream) (files : FileSystem)
    (fileSize : Nat) :
    (preallocate disk stream files fileSize).1.path = stream.path ∧
      ∀ path, path ≠ stream.path →
          (preallocate disk stream files fileSize).2 path = files path := by
  rw [preallocate]
  split
  · constructor
    · rw [OutputStream.seekp_path, OutputStream.write_path, OutputStream.seekp_path]
    · intro path other
      rcases OutputStream.write_cases disk files (stream.seekp disk (fileSize - 1)) [0] with
        failed | written
      · rw [failed]
      · rw [written, OutputStream.seekp_path]
        exact FileSystem.write_of_ne files other _ _
  · exact ⟨rfl, fun path _ => rfl⟩

/-- What a call about one transfer leaves of the sessions of the others, and of files
that are not its own. -/
def LeavesOthers (assembler next : ChunkAssembler) (called : AssemblerCall) : Prop :=
  (∀ id, id ≠ called.id → next.contexts id = assembler.contexts id) ∧
    ∀ path ∉ assembler.ownPaths called, next.files path = assembler.files path

theorem leavesOthers_refl (assembler : ChunkAssembler) (called : AssemblerCall) :
    assembler.LeavesOthers assembler called :=
  ⟨fun _ _ => rfl, fun _ _ => rfl⟩

theorem call_leavesOthers (assembler : ChunkAssembler) (called : AssemblerCall) :
    assembler.LeavesOthers (assembler.call called).2 called := by
  cases called with
  | startSession disk tempName id filename fileSize totalChunks =>
      rcases assembler.startSession_cases disk tempName id filename fileSize.toNat
        totalChunks.toNat with ⟨error, failed⟩ | ⟨-, stream, files, prepared, started⟩
      · rw [call, failed]
        exact assembler.leavesOthers_refl _
      · rw [call, started]
        constructor
        · intro other distinct
          exact setContext_of_ne distinct _ _
        · intro path foreign
          have other : path ≠ assembler.outputDir.append tempName :=
            fun same => foreign (List.mem_singleton.mpr same)
          have frame := (preallocate_frame disk
            ⟨assembler.outputDir.append tempName, 0, true, true⟩
            (assembler.files.put (assembler.outputDir.append tempName) []) fileSize.toNat).2 path
            other
          rw [prepared] at frame
          exact frame.trans (FileSystem.put_of_ne _ other _)
  | processChunk disk chunk =>
      cases session : assembler.contexts chunk.header.id with
      | none =>
          simp only [call, processChunk, session]
          exact assembler.leavesOthers_refl _
      | some ctx =>
          have outcome := processChunk_outcome session disk
          rw [call]
          generalize assembler.processChunk disk chunk = result at outcome
          cases outcome with
          | rejected error faulty => exact assembler.leavesOthers_refl _
          | duplicate inRange received => exact assembler.leavesOthers_refl _
          | failed error file path broken inRange missing =>
              exact ⟨fun other distinct => setContext_of_ne distinct _ _, fun path _ => rfl⟩
          | accepted file path good wasGood inRange missing verified =>
              constructor
              · intro other distinct
                exact setContext_of_ne distinct _ _
              · intro path foreign
                simp only [ownPaths, AssemblerCall.id, session, List.mem_cons, not_or] at foreign
                exact FileSystem.write_of_ne _ foreign.1 _ _
  | finalize disk id expectedHash =>
      cases session : assembler.contexts id with
      | none =>
          simp only [call, finalize, session]
          exact assembler.leavesOthers_refl _
      | some ctx =>
          rcases finalize_cases session disk expectedHash with
            ⟨error, unchanged⟩ | ⟨files, frame, ⟨result, ended⟩ | ⟨error, closed⟩⟩
          · rw [call, unchanged]
            exact assembler.leavesOthers_refl _
          · rw [call, ended]
            constructor
            · intro other distinct
              exact eraseContext_of_ne distinct _
            · intro path foreign
              simp only [ownPaths, AssemblerCall.id, session, List.mem_cons, not_or] at foreign
              exact frame path foreign.2.1 foreign.2.2.1
          · rw [call, closed]
            constructor
            · intro other distinct
              exact setContext_of_ne distinct _ _
            · intro path foreign
              simp only [ownPaths, AssemblerCall.id, session, List.mem_cons, not_or] at foreign
              exact frame path foreign.2.1 foreign.2.2.1
  | cancelSession id =>
      cases session : assembler.contexts id with
      | none =>
          simp only [call, cancelSession, session]
          exact assembler.leavesOthers_refl _
      | some ctx =>
          simp only [call, cancelSession, session]
          constructor
          · intro other distinct
            exact eraseContext_of_ne distinct _
          · intro path foreign
            simp only [ownPaths, AssemblerCall.id, session, List.mem_cons, not_or] at foreign
            exact FileSystem.remove_of_ne _ foreign.2.1

end ChunkAssembler

namespace RecordedAssembler

/-- Every session tracks the chunks it accepted. -/
def Tracked (recorded : RecordedAssembler) : Prop :=
  ∀ id ctx, recorded.assembler.contexts id = some ctx → Progress ctx (recorded.accepted id)

theorem acceptedAfter_of_ne (accepted : TransferId → List Chunk) {called : AssemblerCall}
    {id : TransferId} (other : id ≠ called.id) (result : Result Unit) :
    acceptedAfter accepted called result id = accepted id := by
  cases called with
  | startSession disk tempName started filename fileSize totalChunks =>
      cases result with
      | error error => rfl
      | ok => exact Function.update_of_ne other _ _
  | processChunk disk chunk =>
      cases result with
      | error error => rfl
      | ok =>
          rw [acceptedAfter]
          split
          · rfl
          · exact Function.update_of_ne other _ _
  | finalize disk finalized expectedHash => rfl
  | cancelSession cancelled => rfl

theorem Tracked.record_self {recorded : RecordedAssembler} (tracked : recorded.Tracked)
    {called : AssemblerCall} {ctx : AssemblyContext}
    (session : (record recorded called).2.assembler.contexts called.id = some ctx) :
    Progress ctx ((record recorded called).2.accepted called.id) := by
  cases called with
  | startSession disk tempName id filename fileSize totalChunks =>
      rcases recorded.assembler.startSession_cases disk tempName id filename fileSize.toNat
        totalChunks.toNat with ⟨error, failed⟩ | ⟨-, stream, files, prepared, started⟩
      · simp only [record, ChunkAssembler.call, failed] at session ⊢
        exact tracked _ _ session
      · simp only [record, ChunkAssembler.call, started, AssemblerCall.id,
          ChunkAssembler.setContext_self, Option.some.injEq] at session ⊢
        have path := (ChunkAssembler.preallocate_frame disk
          ⟨recorded.assembler.outputDir.append tempName, 0, true, true⟩
          (recorded.assembler.files.put (recorded.assembler.outputDir.append tempName) [])
          fileSize.toNat).1
        rw [prepared] at path
        rw [← session, acceptedAfter, Function.update_self]
        exact .opened _ _ path _ _
  | processChunk disk chunk =>
      cases known : recorded.assembler.contexts chunk.header.id with
      | none =>
          simp only [record, ChunkAssembler.call, ChunkAssembler.processChunk, known]
            at session ⊢
          rw [AssemblerCall.id, known] at session
          cases session
      | some old =>
          have progress := tracked _ _ known
          have outcome := ChunkAssembler.processChunk_outcome known disk
          rw [record, ChunkAssembler.call] at session ⊢
          generalize recorded.assembler.processChunk disk chunk = result at outcome session
          cases outcome with
          | rejected error faulty => exact tracked _ _ session
          | duplicate inRange received =>
              have same : acceptedAfter recorded.accepted (.processChunk disk chunk) (.ok ()) =
                  recorded.accepted := if_pos ((progress.received_iff _).mp received)
              change Progress ctx (acceptedAfter recorded.accepted (.processChunk disk chunk)
                (.ok ()) chunk.header.id)
              rw [same]
              exact tracked _ _ session
          | failed error file path broken inRange missing =>
              rw [AssemblerCall.id, ChunkAssembler.setContext_self] at session
              rw [← Option.some.inj session]
              exact progress.withFile path
          | accepted file path good wasGood inRange missing verified =>
              have fresh : chunk.index ∉ (recorded.accepted chunk.header.id).map Chunk.index := by
                rw [← progress.received_iff, Chunk.index, missing]
                exact Bool.false_ne_true
              rw [AssemblerCall.id, ChunkAssembler.setContext_self] at session
              have extended : acceptedAfter recorded.accepted (.processChunk disk chunk) (.ok ())
                  chunk.header.id = recorded.accepted chunk.header.id ++ [chunk] := by
                rw [acceptedAfter, if_neg fresh, Function.update_self]
              change Progress ctx (acceptedAfter recorded.accepted (.processChunk disk chunk)
                (.ok ()) chunk.header.id)
              rw [← Option.some.inj session, extended]
              exact progress.record path inRange fresh
  | finalize disk id expectedHash =>
      cases known : recorded.assembler.contexts id with
      | none =>
          simp only [record, ChunkAssembler.call, ChunkAssembler.finalize, known] at session ⊢
          rw [AssemblerCall.id, known] at session
          cases session
      | some old =>
          rcases ChunkAssembler.finalize_cases known disk expectedHash with
            ⟨error, unchanged⟩ | ⟨files, -, ⟨result, ended⟩ | ⟨error, closed⟩⟩
          · simp only [record, ChunkAssembler.call, unchanged] at session ⊢
            exact tracked _ _ session
          · simp only [record, ChunkAssembler.call, ended, AssemblerCall.id,
              ChunkAssembler.eraseContext_self] at session
            cases session
          · simp only [record, ChunkAssembler.call, closed, AssemblerCall.id,
              ChunkAssembler.setContext_self, Option.some.injEq] at session ⊢
            rw [← session]
            exact (tracked _ _ known).withFile rfl
  | cancelSession id =>
      cases known : recorded.assembler.contexts id with
      | none =>
          simp only [record, ChunkAssembler.call, ChunkAssembler.cancelSession, known]
            at session ⊢
          rw [AssemblerCall.id, known] at session
          cases session
      | some old =>
          simp only [record, ChunkAssembler.call, ChunkAssembler.cancelSession, known,
            AssemblerCall.id, ChunkAssembler.eraseContext_self] at session
          cases session

theorem Tracked.record {recorded : RecordedAssembler} (tracked : recorded.Tracked)
    (called : AssemblerCall) : (record recorded called).2.Tracked := by
  intro id ctx session
  by_cases same : id = called.id
  · subst same
    exact tracked.record_self session
  · have untouched := (recorded.assembler.call_leavesOthers called).1 id same
    have accepted := acceptedAfter_of_ne recorded.accepted same
      (recorded.assembler.call called).1
    have old : recorded.assembler.contexts id = some ctx := untouched.symm.trans session
    have progress := tracked id ctx old
    rw [← accepted] at progress
    exact progress

theorem tracked_run (outputDir : Path) (files : FileSystem) (calls : List AssemblerCall) :
    (final RecordedAssembler.record (create outputDir files) calls).Tracked := by
  have unguarded : Guarded RecordedAssembler.record (fun _ _ => True) (create outputDir files)
      calls := guarded_of_forall_mem _ _ fun _ _ => trivial
  apply unguarded.invariant Tracked
  · intro recorded called tracked _
    exact tracked.record called
  · intro id ctx session
    cases session

/-- After any calls, the counter of a session is the number of bits set in its bitmap and
of chunks it accepted, the missing chunks are listed in increasing order and are those
that were not accepted, the session is complete exactly if none is missing, and the byte
total is the sum of the accepted sizes in `uint64_t` arithmetic.  Whatever is called next,
the sessions of other transfers stay as they are, and so do the files that are not its
own. -/
theorem session_progress (outputDir : Path) (files : FileSystem) (calls : List AssemblerCall) :
    let recorded := final RecordedAssembler.record (create outputDir files) calls
    (∀ id ctx, recorded.assembler.contexts id = some ctx →
      ctx.receivedCount = ctx.receivedChunks.count true ∧
      ctx.receivedCount = (recorded.accepted id).length ∧
      (recorded.assembler.getMissingChunks id).Pairwise (· < ·) ∧
      (∀ index, index ∈ recorded.assembler.getMissingChunks id ↔
        index < ctx.totalChunks ∧ ∀ chunk ∈ recorded.accepted id, chunk.index ≠ index) ∧
      (recorded.assembler.isComplete id = true ↔
        recorded.assembler.getMissingChunks id = []) ∧
      ctx.bytesWritten =
        wrap64 ((recorded.accepted id).map fun chunk => chunk.data.length).sum ∧
      recorded.assembler.getProgress id =
        some ⟨id, ctx.totalChunks, ctx.receivedCount, ctx.bytesWritten⟩) ∧
    ∀ called, recorded.assembler.LeavesOthers (recorded.assembler.call called).2 called := by
  intro recorded
  constructor
  · intro id ctx session
    have progress : Progress ctx (recorded.accepted id) :=
      tracked_run outputDir files calls id ctx session
    have missing_eq : recorded.assembler.getMissingChunks id =
        (List.range ctx.totalChunks).filter fun index =>
          !ctx.receivedChunks.getD index false := by
      rw [ChunkAssembler.getMissingChunks, session]
    have total := progress.missing_add_accepted
    rw [missing_eq]
    refine ⟨progress.count_eq.trans progress.count_true.symm, progress.count_eq, ?_, ?_, ?_,
      progress.bytes_eq, ?_⟩
    · exact List.pairwise_lt_range.filter _
    · intro index
      rw [List.mem_filter, List.mem_range, Bool.not_eq_true', ← Bool.not_eq_true,
        progress.received_iff, List.mem_map]
      simp only [not_exists, not_and, ne_eq]
    · rw [ChunkAssembler.isComplete, session, ← List.length_eq_zero_iff]
      simp only [beq_iff_eq]
      rw [progress.count_eq]
      constructor
      · intro complete
        omega
      · intro none
        omega
    · rw [ChunkAssembler.getProgress, session]
      rfl
  · exact recorded.assembler.call_leavesOthers

end RecordedAssembler

end FileTrans.Core
