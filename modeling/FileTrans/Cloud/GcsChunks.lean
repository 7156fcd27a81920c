import FileTrans.Cloud.GcsStorage
import FileTrans.Cloud.PartWriter
import FileTrans.Collections.Tilings

/-!
# The chunks of an upload to Google Cloud Storage

What `gcs_upload_stream` passes to `upload_chunk`: the chunks that its writes
cut, and the rest that `finalize` adds.  A chunk gets the offset of the write
that cuts it, which is where the chunk begins only if nothing was buffered
before, and only for the first chunk of the write.
-/

namespace FileTrans.Cloud

open FileTrans.Core FileTrans.Transition FileTrans.Collections

/-- A stream, and the offsets and data that it has passed to `upload_chunk`. -/
structure RecordedStream where
  stream : GcsUploadStream
  passed : List (Nat × Bytes)

namespace RecordedStream

/-- A new stream. -/
def create : RecordedStream where
  stream := .create
  passed := []

variable (storage : GcsStorage) (finishes : Nat → Nat)

/-- `upload_chunk_async`, recorded. -/
def uploadChunkAsync (offset : Nat) (data : Bytes) (recorded : RecordedStream) :
    RecordedStream where
  stream := recorded.stream.uploadChunkAsync finishes offset data
  passed := recorded.passed ++ [(offset, data)]

/-- The inner part of the loop of `write`, recorded. -/
def flush (passes : Nat) : Flush UInt8 RecordedStream Error := fun data recorded =>
  match recorded.stream.uploads.makeRoom storage.multipart.maxConcurrentParts passes with
  | none => none
  | some (.error failure, uploads) =>
      some (.error failure, { recorded with stream := { recorded.stream with uploads } })
  | some (.ok (), uploads) =>
      some (.ok (), uploadChunkAsync finishes recorded.stream.bytesWritten data
        { recorded with stream := { recorded.stream with uploads } })

/-- `write`, recorded. -/
def write (passes : Nat) (data : Bytes) (recorded : RecordedStream) :
    Option (Result Nat × RecordedStream) :=
  if recorded.stream.finalized ∨ recorded.stream.aborted then
    some (unexpected .internalError "Stream already closed", recorded)
  else
    match fill storage.multipart.partSize (flush storage finishes passes) passes data
        recorded.stream.buffer recorded with
    | none => none
    | some (.error failure, buffer, recorded) =>
        some (.error failure, { recorded with stream := { recorded.stream with buffer } })
    | some (.ok (), buffer, recorded) =>
        some (.ok data.length, { recorded with stream := { recorded.stream with
          buffer, bytesWritten := recorded.stream.bytesWritten + data.length } })

/-- The rest of the buffer as the last chunk, recorded. -/
def uploadRest (recorded : RecordedStream) : Result Unit × RecordedStream :=
  if recorded.stream.buffer = [] then (.ok (), recorded)
  else
    let offset := recorded.stream.bytesWritten - recorded.stream.buffer.length
    (GcsUploadStream.uploadChunk offset recorded.stream.buffer,
      { recorded with passed := recorded.passed ++ [(offset, recorded.stream.buffer)] })

/-- `finalize`, recorded. -/
def finalize (name : Bytes) (recorded : RecordedStream) : Result UploadResult × RecordedStream :=
  if recorded.stream.finalized then
    (unexpected .internalError "Stream already finalized", recorded)
  else if recorded.stream.aborted then (unexpected .internalError "Stream was aborted", recorded)
  else
    match recorded.uploadRest with
    | (.error failure, recorded) => (.error failure, recorded)
    | (.ok (), recorded) =>
        match recorded.stream.uploads.waitAllUploads with
        | (.error failure, uploads) =>
            (.error failure, { recorded with stream := { recorded.stream with uploads } })
        | (.ok (), uploads) =>
            (.ok (recorded.stream.finalizeUpload storage name),
              { recorded with stream := { recorded.stream with uploads, finalized := true } })

/-! ## The record changes nothing -/

theorem flush_stream (passes : Nat) (piece : Bytes) (recorded : RecordedStream) :
    GcsUploadStream.flush storage finishes passes piece recorded.stream =
      (flush storage finishes passes piece recorded).map fun result =>
        (result.1, result.2.stream) := by
  rw [flush, GcsUploadStream.flush]
  rcases recorded.stream.uploads.makeRoom storage.multipart.maxConcurrentParts passes with
    _ | ⟨_ | _, _⟩ <;> rfl

theorem write_stream (passes : Nat) (data : Bytes) (recorded : RecordedStream) :
    recorded.stream.write storage finishes passes data =
      (recorded.write storage finishes passes data).map fun result =>
        (result.1, result.2.stream) := by
  rw [write, GcsUploadStream.write]
  split
  · rfl
  · rw [fill_map stream (flush_stream storage finishes passes)]
    rcases fill storage.multipart.partSize (flush storage finishes passes) passes data
      recorded.stream.buffer recorded with _ | ⟨_ | _, _, _⟩ <;> rfl

theorem finalize_stream (name : Bytes) (recorded : RecordedStream) :
    recorded.stream.finalize storage name =
      ((recorded.finalize storage name).1, (recorded.finalize storage name).2.stream) := by
  rw [finalize, GcsUploadStream.finalize]
  split
  · rfl
  · split
    · rfl
    · rw [uploadRest, GcsUploadStream.uploadRest]
      by_cases empty : recorded.stream.buffer = []
      · rw [if_pos empty, if_pos empty]
        dsimp only
        rcases recorded.stream.uploads.waitAllUploads with ⟨_ | _, _⟩ <;> rfl
      · rw [if_neg empty, if_neg empty]
        dsimp only
        rw [GcsUploadStream.uploadChunk]
        dsimp only
        rcases recorded.stream.uploads.waitAllUploads with ⟨_ | _, _⟩ <;> rfl

/-! ## As a writer of parts -/

/-- How the stream begins its chunks. -/
def partWriter : PartWriter RecordedStream Nat Unit where
  maxConcurrent := storage.multipart.maxConcurrentParts
  label rest _ := rest.stream.bytesWritten
  answer data rest := GcsUploadStream.uploadChunk rest.stream.bytesWritten data
  finishes uploads _ := finishes (uploads.completed.length + uploads.pending.length)
  next data rest := { rest with passed := rest.passed ++ [(rest.stream.bytesWritten, data)] }

/-- The uploads, and the rest of the stream. -/
def parts (recorded : RecordedStream) : Uploads Nat Unit × RecordedStream :=
  (recorded.stream.uploads, { recorded with stream := { recorded.stream with uploads := .start } })

theorem flush_parts (passes : Nat) (piece : Bytes) (recorded : RecordedStream) :
    (partWriter storage finishes).flush passes piece recorded.parts =
      (flush storage finishes passes piece recorded).map fun result =>
        (result.1, result.2.parts) := by
  rw [flush, PartWriter.flush, parts]
  cases outcome : recorded.stream.uploads.makeRoom storage.multipart.maxConcurrentParts passes with
  | none =>
      have waits : recorded.stream.uploads.makeRoom
        (partWriter storage finishes).maxConcurrent passes = none := outcome
      rw [waits]
      rfl
  | some ended =>
      obtain ⟨result, uploads⟩ := ended
      have room : recorded.stream.uploads.makeRoom
        (partWriter storage finishes).maxConcurrent passes = some (result, uploads) := outcome
      rw [room]
      cases result with
      | error failure => rfl
      | ok value => rfl

/-! ## What is passed -/

/-- Write the data one after the other, if every write returns within so many passes of its
loops. -/
def writeAll (passes : Nat) : List Bytes → RecordedStream → Option RecordedStream
  | [], recorded => some recorded
  | data :: rest, recorded =>
      match recorded.write storage finishes passes data with
      | none => none
      | some (_, recorded) => writeAll passes rest recorded

/-- What the writes of the data, and `finalize`, pass to `upload_chunk`. -/
def passedChunks (name : Bytes) (passes : Nat) (writes : List Bytes) :
    Option (List (Nat × Bytes)) :=
  (writeAll storage finishes passes writes .create).map fun recorded =>
    (recorded.finalize storage name).2.passed

variable {storage finishes} {passes : Nat} {recorded after : RecordedStream} {written data : Bytes}
  {piece : Bytes}

theorem not_fails_uploadChunkAsync {offset : Nat} (sound : ¬ recorded.stream.uploads.Fails) :
    ¬ (uploadChunkAsync finishes offset data recorded).stream.uploads.Fails := by
  rintro ⟨upload, mem, valid, failure, failed⟩
  rcases List.mem_append.mp mem with mem | mem
  · exact sound ⟨upload, mem, valid, failure, failed⟩
  · rw [List.mem_singleton.mp mem] at failed
    contradiction

/-- The stream is open, and what it has passed and holds is what was written. -/
structure Recording (storage : GcsStorage) (written : Bytes) (recorded : RecordedStream) :
    Prop where
  opened : recorded.stream.finalized = false ∧ recorded.stream.aborted = false
  content : joined recorded.passed ++ recorded.stream.buffer = written
  counted : recorded.stream.bytesWritten = written.length
  buffered : recorded.stream.buffer.length = written.length % storage.multipart.partSize
  sound : ¬ recorded.stream.uploads.Fails

/-- The stream has passed these chunks of the full size since, all with one offset. -/
structure Cutting (partSize : Nat) (before : RecordedStream) (chunks : List Bytes)
    (recorded : RecordedStream) : Prop where
  sized : ∀ chunk ∈ chunks, chunk.length = partSize
  passed : recorded.passed =
    before.passed ++ chunks.map fun chunk => (before.stream.bytesWritten, chunk)
  finalized : recorded.stream.finalized = before.stream.finalized
  aborted : recorded.stream.aborted = before.stream.aborted
  counted : recorded.stream.bytesWritten = before.stream.bytesWritten
  sound : ¬ recorded.stream.uploads.Fails

/-- Without a failure under way a full buffer becomes a chunk with the offset of the write, and
there is none after it. -/
theorem flush_sound {result : Result Unit} (sound : ¬ recorded.stream.uploads.Fails)
    (flushed : flush storage finishes passes piece recorded = some (result, after)) :
    result = .ok () ∧ ¬ after.stream.uploads.Fails ∧ ∃ uploads,
      after = uploadChunkAsync finishes recorded.stream.bytesWritten piece
        { recorded with stream := { recorded.stream with uploads } } := by
  rw [flush] at flushed
  split at flushed
  · contradiction
  · rename_i failure uploads failed
    have went := (Uploads.makeRoom_sound sound failed).1
    contradiction
  · rename_i uploads room
    cases flushed
    exact ⟨rfl, not_fails_uploadChunkAsync (Uploads.makeRoom_sound sound room).2.1, uploads, rfl⟩

theorem Cutting.flush {before : RecordedStream} {chunks : List Bytes}
    (cutting : Cutting storage.multipart.partSize before chunks recorded)
    (sized : piece.length = storage.multipart.partSize) {result : Result Unit}
    (flushed : flush storage finishes passes piece recorded = some (result, after)) :
    result = .ok () ∧ Cutting storage.multipart.partSize before (chunks ++ [piece]) after := by
  obtain ⟨went, sound, uploads, rfl⟩ := flush_sound cutting.sound flushed
  refine ⟨went, ?_, ?_, cutting.finalized, cutting.aborted, cutting.counted, sound⟩
  · intro chunk mem
    rcases List.mem_append.mp mem with mem | mem
    · exact cutting.sized chunk mem
    · rw [List.mem_singleton.mp mem]
      exact sized
  · rw [uploadChunkAsync, List.map_append, ← List.append_assoc, ← cutting.passed, cutting.counted]
    rfl

theorem write_cuts (positive : 0 < storage.multipart.partSize)
    (recording : Recording storage written recorded) {result : Result Nat}
    (wrote : recorded.write storage finishes passes data = some (result, after)) :
    ∃ chunks : List Bytes, after.passed =
        recorded.passed ++ chunks.map (fun chunk => (written.length, chunk)) ∧
      (∀ chunk ∈ chunks, chunk.length = storage.multipart.partSize) ∧
      chunks.length =
        (written.length % storage.multipart.partSize + data.length) / storage.multipart.partSize ∧
      Recording storage (written ++ data) after := by
  obtain ⟨⟨not_finalized, not_aborted⟩, content, counted, buffered, sound⟩ := recording
  rw [write, if_neg (by rw [not_finalized, not_aborted]; decide)] at wrote
  have room : recorded.stream.buffer.length < storage.multipart.partSize :=
    buffered ▸ Nat.mod_lt _ positive
  have start : Cutting storage.multipart.partSize recorded [] recorded :=
    ⟨fun _ mem => absurd mem List.not_mem_nil, (List.append_nil _).symm, rfl, rfl, rfl, sound⟩
  have flushes (handed piece : Bytes) (rest after : RecordedStream)
      (cutting : ∃ chunks, chunks.flatten = handed ∧
        Cutting storage.multipart.partSize recorded chunks rest)
      (sized : piece.length = storage.multipart.partSize)
      (flushed : flush storage finishes passes piece rest = some (.ok (), after)) :
      ∃ chunks, chunks.flatten = handed ++ piece ∧
        Cutting storage.multipart.partSize recorded chunks after := by
    obtain ⟨chunks, rfl, cutting⟩ := cutting
    exact ⟨chunks ++ [piece], by simp, (cutting.flush sized flushed).2⟩
  split at wrote
  · contradiction
  · rename_i failed
    obtain ⟨handed, before, ⟨chunks, -, cutting⟩, sized, flushed, -⟩ :=
      fill_error _ flushes ⟨[], rfl, start⟩ (Nat.le_of_lt room) failed
    have went := (cutting.flush sized flushed).1
    contradiction
  · rename_i buffer ended filled
    cases wrote
    obtain ⟨handed, ⟨chunks, rfl, cutting⟩, together, -, less⟩ :=
      fill_ok _ flushes ⟨[], rfl, start⟩ (Nat.le_of_lt room) filled
    rw [List.flatten_nil, List.nil_append] at together
    have sizes : chunks.flatten.length = chunks.length * storage.multipart.partSize := by
      have pieces := length_flatten_pieces cutting.sized
      rwa [List.map_id'] at pieces
    have lengths := congrArg List.length together
    rw [List.length_append, sizes, List.length_append, buffered] at lengths
    rw [Nat.add_comm, Nat.mul_comm] at lengths
    have cut := (Nat.div_mod_unique positive).mpr ⟨lengths, less room⟩
    refine ⟨chunks, ?_, cutting.sized, cut.1.symm, ?_, ?_, ?_, ?_, cutting.sound⟩
    · rw [← counted]
      exact cutting.passed
    · exact ⟨cutting.finalized.trans not_finalized, cutting.aborted.trans not_aborted⟩
    · rw [← content, cutting.passed, joined_append, joined_map_offset, List.append_assoc,
        List.append_assoc, together]
    · rw [List.length_append, ← counted, ← cutting.counted]
    · rw [List.length_append, ← Nat.mod_add_mod]
      exact cut.2.symm

/-- Each write that cuts a chunk begins with an empty buffer, and cuts no other. -/
def CutsAligned (partSize : Nat) : Nat → List Bytes → Prop
  | _, [] => True
  | total, data :: rest =>
      (total % partSize + data.length < partSize ∨
        total % partSize = 0 ∧ data.length < 2 * partSize) ∧
      CutsAligned partSize (total + data.length) rest

instance (partSize : Nat) : ∀ total writes, Decidable (CutsAligned partSize total writes)
  | _, [] => .isTrue trivial
  | total, data :: rest =>
      have := instDecidableCutsAligned partSize (total + data.length) rest
      inferInstanceAs (Decidable (_ ∧ _))

theorem consecutive_chunks_iff {partSize start total length : Nat} {chunks : List Bytes}
    (positive : 0 < partSize) (sized : ∀ chunk ∈ chunks, chunk.length = partSize)
    (number : chunks.length = (total % partSize + length) / partSize)
    (begins : start + total % partSize = total) :
    Consecutive start (chunks.map fun chunk => (total, chunk)) ↔
      total % partSize + length < partSize ∨ total % partSize = 0 ∧ length < 2 * partSize := by
  have none_iff : chunks = [] ↔ total % partSize + length < partSize := by
    rw [← List.length_eq_zero_iff, number, Nat.div_eq_zero_iff, or_iff_right (by omega)]
  have one_iff : chunks.length = 1 ↔
      partSize ≤ total % partSize + length ∧ total % partSize + length < 2 * partSize := by
    rw [number, Nat.div_eq_iff positive]
    omega
  rw [consecutive_map_offset_iff positive sized, none_iff, one_iff]
  omega

theorem writeAll_passed (positive : 0 < storage.multipart.partSize) {writes : List Bytes}
    (recording : Recording storage written recorded)
    (wrote : writeAll storage finishes passes writes recorded = some after) :
    Recording storage (written ++ writes.flatten) after ∧
      (Consecutive 0 after.passed ↔ Consecutive 0 recorded.passed ∧
        CutsAligned storage.multipart.partSize written.length writes) := by
  induction writes generalizing written recorded with
  | nil =>
      cases wrote
      rw [List.flatten_nil, List.append_nil]
      exact ⟨recording, (and_iff_left trivial).symm⟩
  | cons data rest ih =>
      rw [writeAll] at wrote
      split at wrote
      · contradiction
      · rename_i result middle first
        obtain ⟨chunks, passed, sized, number, later⟩ := write_cuts positive recording first
        obtain ⟨last, consecutive⟩ := ih later wrote
        have begins : 0 + (joined recorded.passed).length +
            written.length % storage.multipart.partSize = written.length := by
          rw [← recording.buffered, Nat.zero_add, ← List.length_append, recording.content]
        rw [List.flatten_cons, ← List.append_assoc]
        refine ⟨last, ?_⟩
        rw [consecutive, passed, consecutive_append_iff,
          consecutive_chunks_iff positive sized number begins, List.length_append, and_assoc,
          CutsAligned]

theorem passed_finalize (name : Bytes)
    (opened : recorded.stream.finalized = false ∧ recorded.stream.aborted = false) :
    (recorded.finalize storage name).2.passed = recorded.uploadRest.2.passed := by
  rw [finalize, if_neg (by rw [opened.1]; decide), if_neg (by rw [opened.2]; decide)]
  split
  · rename_i rest
    rw [rest]
  · rename_i rest
    rw [rest]
    split <;> rfl

theorem finalize_passed (name : Bytes) (recording : Recording storage written recorded) :
    joined (recorded.finalize storage name).2.passed = written ∧
      (Consecutive 0 (recorded.finalize storage name).2.passed ↔
        Consecutive 0 recorded.passed) := by
  have content := recording.content
  rw [passed_finalize name recording.opened, uploadRest]
  split
  · rename_i empty
    rw [empty, List.append_nil] at content
    exact ⟨content, Iff.rfl⟩
  · have offset : recorded.stream.bytesWritten - recorded.stream.buffer.length =
        0 + (joined recorded.passed).length := by
      rw [recording.counted, ← content, List.length_append]
      omega
    dsimp only
    rw [joined_append, consecutive_append_iff]
    refine ⟨?_, and_iff_left ⟨offset, trivial⟩⟩
    rw [joined_cons, joined_nil, List.append_nil]
    exact content

theorem recording_create (storage : GcsStorage) : Recording storage [] create where
  opened := ⟨rfl, rfl⟩
  content := rfl
  counted := rfl
  buffered := (Nat.zero_mod _).symm
  sound := fun ⟨_, mem, _⟩ => absurd mem List.not_mem_nil

/-- The chunks of an upload tile what was written exactly if each write that cuts a chunk begins
with an empty buffer and cuts no other. -/
theorem chunks_tile_iff (storage : GcsStorage) (positive : 0 < storage.multipart.partSize)
    (finishes : Nat → Nat) (name : Bytes) (passes : Nat) (writes : List Bytes)
    {passed : List (Nat × Bytes)}
    (returns : passedChunks storage finishes name passes writes = some passed) :
    Tiles writes.flatten passed ↔ CutsAligned storage.multipart.partSize 0 writes := by
  obtain ⟨recorded, wrote, rfl⟩ := Option.map_eq_some_iff.mp returns
  obtain ⟨recording, consecutive⟩ := writeAll_passed positive (recording_create storage) wrote
  obtain ⟨content, last⟩ := finalize_passed name recording
  rw [List.nil_append] at content
  rw [tiles_iff, last, consecutive, and_iff_right content]
  exact and_iff_right trivial

/-- Chunks of two bytes, four at a time. -/
def pairChunks : GcsStorage where
  connected := true
  multipart := ⟨true, 0, 2, 4⟩
  sha256 := fun _ => []
  uploadId := []
  createJwt := .ok fun _ => []
  policy := ⟨id, fun assertion => (assertion, none)⟩

/-- A chunk, and the rest. -/
theorem chunks_tile_pair :
    Tiles ([[1, 2], [3]] : List Bytes).flatten [(0, [1, 2]), (2, [3])] := by
  have returns : passedChunks pairChunks (fun _ => 0) [] 4 [[1, 2], [3]] =
    some [(0, [1, 2]), (2, [3])] := by decide
  exact (chunks_tile_iff pairChunks (by decide) (fun _ => 0) [] 4 [[1, 2], [3]] returns).mpr
    (by decide)

/-- A chunk that two writes have filled is said to begin where the second one does. -/
theorem chunk_at_write :
    passedChunks pairChunks (fun _ => 0) [] 4 [[1], [2]] = some [(1, [1, 2])] ∧
      ¬ Tiles [1, 2] [(1, [1, 2])] := by
  refine ⟨by decide, fun tiles => ?_⟩
  have offset := tiles.offsets [] (1, [1, 2]) [] rfl
  contradiction

end RecordedStream

end FileTrans.Cloud
