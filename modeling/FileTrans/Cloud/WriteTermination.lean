import FileTrans.Cloud.AzureFinalize
import FileTrans.Cloud.GcsChunks
import FileTrans.Cloud.S3PartFailures

/-!
# Whether a write returns

The three upload streams are writers of parts, and nothing checks their part
size or their number of slots.  A part size of zero makes a write begin empty
parts for ever, and without a slot a write that fills a part waits for ever;
only a part that fails ends that.
-/

namespace FileTrans.Cloud

open FileTrans.Core FileTrans.Transition

/-- What makes a write return: the stream is closed, the data do not fill a part, a part under
way is to fail, or there is a slot, and parts have a size or an empty one is to fail. -/
def MultipartConfig.WillReturn (config : MultipartConfig) (closed : Prop) (buffered : Nat)
    (data : Bytes) (fails emptyPartFails : Prop) : Prop :=
  closed ∨ data = [] ∨ buffered + data.length < config.partSize ∨ fails ∨
    0 < config.maxConcurrentParts ∧ (0 < config.partSize ∨ emptyPartFails)

theorem length_fill_le {size passes : Nat} {Rest : Type} {flush : Flush UInt8 Rest Error}
    {data buffer held : Bytes} {rest after : Rest} {result : Result Unit}
    (fits : buffer.length ≤ size)
    (ends : fill size flush passes data buffer rest = some (result, held, after)) :
    held.length ≤ size := by
  cases result with
  | error failure =>
      have failed : ∃ handed before, True ∧ held.length = size ∧
          flush held before = some (.error failure, after) ∧
            handed ++ held <+: [] ++ (buffer ++ data) :=
        fill_error (fun _ _ => True) (fun _ _ _ _ _ _ _ => trivial) trivial fits ends
      obtain ⟨-, -, -, length, -⟩ := failed
      exact Nat.le_of_eq length
  | ok value =>
      have went : ∃ handed, True ∧ handed ++ held = [] ++ (buffer ++ data) ∧ held.length ≤ size ∧
          (buffer.length < size → held.length < size) :=
        fill_ok (fun _ _ => True) (fun _ _ _ _ _ _ _ => trivial) trivial fits ends
      obtain ⟨-, -, -, le, -⟩ := went
      exact le

theorem returns_view_iff {size : Nat} {Rest Other : Type} {flush : Nat → Flush UInt8 Rest Error}
    {other : Nat → Flush UInt8 Other Error} (view : Rest → Other)
    (same : ∀ passes piece rest, other passes piece (view rest) =
      (flush passes piece rest).map fun result => (result.1, view result.2))
    {data buffer : Bytes} {rest : Rest} :
    Returns size flush data buffer rest ↔ Returns size other data buffer (view rest) := by
  apply exists_congr
  intro passes
  rw [fill_map view (same passes), Option.isSome_map]

/-! ## S3 -/

namespace S3UploadStream

variable (context : S3Context)

/-- How the stream begins its parts. -/
def partWriter : PartWriter S3UploadStream Nat Etag where
  maxConcurrent := context.multipart.maxConcurrentParts
  label rest _ := rest.currentPartNumber
  answer data rest :=
    (context.uploadPart rest.uploadId rest.currentPartNumber data rest.wire).1
  finishes _ rest := context.network.finishes rest.wire.sent.length
  next data rest := { rest with
    wire := (context.uploadPart rest.uploadId rest.currentPartNumber data rest.wire).2
    currentPartNumber := rest.currentPartNumber + 1 }

/-- The uploads, and the rest of the stream. -/
def parts (stream : S3UploadStream) : Uploads Nat Etag × S3UploadStream :=
  (stream.uploads, { stream with uploads := .start })

theorem flush_parts (passes : Nat) (piece : Bytes) (stream : S3UploadStream) :
    (partWriter context).flush passes piece stream.parts =
      (flush context passes piece stream).map fun result => (result.1, result.2.parts) := by
  rw [flush, PartWriter.flush, parts]
  cases outcome : stream.uploads.makeRoom context.multipart.maxConcurrentParts passes with
  | none =>
      have waits : stream.uploads.makeRoom (partWriter context).maxConcurrent passes = none :=
        outcome
      rw [waits]
      rfl
  | some ended =>
      obtain ⟨result, uploads⟩ := ended
      have room : stream.uploads.makeRoom (partWriter context).maxConcurrent passes =
        some (result, uploads) := outcome
      rw [room]
      cases result with
      | error failure => rfl
      | ok value => rfl

def WriteReturns (data : Bytes) (stream : S3UploadStream) : Prop :=
  ∃ passes, (stream.write context passes data).isSome

/-- Something makes a write of the data return. -/
def WillReturn (data : Bytes) (stream : S3UploadStream) : Prop :=
  context.multipart.WillReturn (stream.finalized ∨ stream.aborted) stream.partBuffer.length data
    stream.uploads.Fails ((partWriter context).EmptyPartFails stream.parts.2)

theorem writeReturns_iff (data : Bytes) {stream : S3UploadStream}
    (fits : stream.partBuffer.length ≤ context.multipart.partSize) :
    stream.WriteReturns context data ↔ stream.WillReturn context data := by
  by_cases closed : stream.finalized = true ∨ stream.aborted = true
  · apply iff_of_true _ (.inl closed)
    exact ⟨0, by rw [write, if_pos closed]; rfl⟩
  · have returns : stream.WriteReturns context data ↔
        Returns context.multipart.partSize (flush context) data stream.partBuffer stream := by
      apply exists_congr
      intro passes
      rw [write, if_neg closed]
      rcases fill context.multipart.partSize (flush context passes) passes data
        stream.partBuffer stream with _ | ⟨_ | _, _, _⟩ <;> rfl
    rw [returns, returns_view_iff parts (flush_parts context), PartWriter.returns_iff fits,
      WillReturn, MultipartConfig.WillReturn, or_iff_right closed]
    rfl

theorem partBuffer_finalize (stream : S3UploadStream) :
    (stream.finalize context).2.partBuffer = stream.partBuffer := by
  have aborts (stream : S3UploadStream) :
      (abortMultipartUpload context stream).partBuffer = stream.partBuffer := by
    rw [abortMultipartUpload]
    split <;> rfl
  have rest : (uploadRest context stream).2.partBuffer = stream.partBuffer := by
    rw [uploadRest]
    split
    · rfl
    · dsimp only
      split <;> rfl
  have completes (stream : S3UploadStream) :
      (completeMultipartUpload context stream).2.partBuffer = stream.partBuffer := by
    rw [completeMultipartUpload]
    dsimp only
    split
    · split <;> rfl
    · rfl
  rw [finalize]
  split
  · rfl
  · split
    · rfl
    · split
      · rename_i failed
        rw [failed] at rest
        rw [aborts]
        exact rest
      · rename_i went
        rw [went] at rest
        split
        · rw [aborts]
          exact rest
        · rw [completes]
          exact rest

theorem fits_step (passes : Nat) (stream : S3UploadStream) (call : UploadCall)
    (fits : stream.partBuffer.length ≤ context.multipart.partSize) :
    (s3Step context passes stream call).2.partBuffer.length ≤ context.multipart.partSize := by
  cases call with
  | finalize =>
      rw [s3Step, partBuffer_finalize]
      exact fits
  | write data =>
      rw [s3Step]
      split
      · exact fits
      · rename_i result after wrote
        rw [write] at wrote
        split at wrote
        · cases wrote
          exact fits
        · split at wrote
          · contradiction
          · rename_i failed
            cases wrote
            exact length_fill_le fits failed
          · rename_i went
            cases wrote
            exact length_fill_le fits went

end S3UploadStream

/-! ## Azure -/

namespace AzureUploadStream

variable (context : AzureContext)

/-- How the stream begins its blocks. -/
def partWriter : PartWriter AzureUploadStream Bytes Unit where
  maxConcurrent := context.multipart.maxConcurrentParts
  label rest _ := generateBlockId rest.currentBlockNumber
  answer data rest :=
    (context.uploadBlock (generateBlockId rest.currentBlockNumber) data rest.wire).1
  finishes _ rest := context.network.finishes rest.wire.sent.length
  next data rest := { rest with
    blockIds := rest.blockIds ++ [generateBlockId rest.currentBlockNumber]
    wire := (context.uploadBlock (generateBlockId rest.currentBlockNumber) data rest.wire).2
    currentBlockNumber := rest.currentBlockNumber + 1 }

/-- The uploads, and the rest of the stream. -/
def parts (stream : AzureUploadStream) : Uploads Bytes Unit × AzureUploadStream :=
  (stream.uploads, { stream with uploads := .start })

theorem flush_parts (passes : Nat) (piece : Bytes) (stream : AzureUploadStream) :
    (partWriter context).flush passes piece stream.parts =
      (flush context passes piece stream).map fun result => (result.1, result.2.parts) := by
  rw [flush, PartWriter.flush, parts]
  cases outcome : stream.uploads.makeRoom context.multipart.maxConcurrentParts passes with
  | none =>
      have waits : stream.uploads.makeRoom (partWriter context).maxConcurrent passes = none :=
        outcome
      rw [waits]
      rfl
  | some ended =>
      obtain ⟨result, uploads⟩ := ended
      have room : stream.uploads.makeRoom (partWriter context).maxConcurrent passes =
        some (result, uploads) := outcome
      rw [room]
      cases result with
      | error failure => rfl
      | ok value => rfl

def WriteReturns (data : Bytes) (stream : AzureUploadStream) : Prop :=
  ∃ passes, (stream.write context passes data).isSome

/-- Something makes a write of the data return. -/
def WillReturn (data : Bytes) (stream : AzureUploadStream) : Prop :=
  context.multipart.WillReturn (stream.finalized ∨ stream.aborted) stream.blockBuffer.length data
    stream.uploads.Fails ((partWriter context).EmptyPartFails stream.parts.2)

theorem writeReturns_iff (data : Bytes) {stream : AzureUploadStream}
    (fits : stream.blockBuffer.length ≤ context.multipart.partSize) :
    stream.WriteReturns context data ↔ stream.WillReturn context data := by
  by_cases closed : stream.finalized = true ∨ stream.aborted = true
  · apply iff_of_true _ (.inl closed)
    exact ⟨0, by rw [write, if_pos closed]; rfl⟩
  · have returns : stream.WriteReturns context data ↔
        Returns context.multipart.partSize (flush context) data stream.blockBuffer stream := by
      apply exists_congr
      intro passes
      rw [write, if_neg closed]
      rcases fill context.multipart.partSize (flush context passes) passes data
        stream.blockBuffer stream with _ | ⟨_ | _, _, _⟩ <;> rfl
    rw [returns, returns_view_iff parts (flush_parts context), PartWriter.returns_iff fits,
      WillReturn, MultipartConfig.WillReturn, or_iff_right closed]
    rfl

theorem blockBuffer_finalize (stream : AzureUploadStream) :
    (stream.finalize context).2.blockBuffer = stream.blockBuffer := by
  have rest : (uploadRest context stream).2.blockBuffer = stream.blockBuffer := by
    rw [uploadRest]
    split <;> rfl
  have commits (stream : AzureUploadStream) :
      (commitBlockList context stream).2.blockBuffer = stream.blockBuffer := by
    rw [commitBlockList]
    dsimp only
    split
    · rfl
    · split <;> rfl
  rw [finalize]
  split
  · rfl
  · split
    · rfl
    · split
      · rename_i failed
        rw [failed] at rest
        exact rest
      · rename_i went
        rw [went] at rest
        split
        · exact rest
        · rw [commits]
          exact rest

theorem fits_step (passes : Nat) (stream : AzureUploadStream) (call : UploadCall)
    (fits : stream.blockBuffer.length ≤ context.multipart.partSize) :
    (azureStep context passes stream call).2.blockBuffer.length ≤ context.multipart.partSize := by
  cases call with
  | finalize =>
      rw [azureStep, blockBuffer_finalize]
      exact fits
  | write data =>
      rw [azureStep]
      split
      · exact fits
      · rename_i result after wrote
        rw [write] at wrote
        split at wrote
        · cases wrote
          exact fits
        · split at wrote
          · contradiction
          · rename_i failed
            cases wrote
            exact length_fill_le fits failed
          · rename_i went
            cases wrote
            exact length_fill_le fits went

end AzureUploadStream

/-! ## Google Cloud Storage -/

namespace GcsUploadStream

variable (storage : GcsStorage) (finishes : Nat → Nat)

def WriteReturns (data : Bytes) (stream : GcsUploadStream) : Prop :=
  ∃ passes, (stream.write storage finishes passes data).isSome

/-- Something makes a write of the data return; no chunk ever fails. -/
def WillReturn (data : Bytes) (stream : GcsUploadStream) : Prop :=
  storage.multipart.WillReturn (stream.finalized ∨ stream.aborted) stream.buffer.length data
    False False

theorem writeReturns_iff (data : Bytes) {stream : GcsUploadStream}
    (sound : ¬ stream.uploads.Fails) (fits : stream.buffer.length ≤ storage.multipart.partSize) :
    stream.WriteReturns storage finishes data ↔ stream.WillReturn storage data := by
  by_cases closed : stream.finalized = true ∨ stream.aborted = true
  · apply iff_of_true _ (.inl closed)
    exact ⟨0, by rw [write, if_pos closed]; rfl⟩
  · have returns : stream.WriteReturns storage finishes data ↔ Returns storage.multipart.partSize
        (RecordedStream.flush storage finishes) data stream.buffer ⟨stream, []⟩ := by
      apply exists_congr
      intro passes
      have recorded := RecordedStream.write_stream storage finishes passes data ⟨stream, []⟩
      rw [recorded, Option.isSome_map, RecordedStream.write, if_neg closed]
      rcases fill storage.multipart.partSize (RecordedStream.flush storage finishes passes) passes
        data stream.buffer ⟨stream, []⟩ with _ | ⟨_ | _, _, _⟩ <;> rfl
    have good : ¬ (RecordedStream.partWriter storage finishes).EmptyPartFails
        (RecordedStream.parts ⟨stream, []⟩).2 := by
      rintro ⟨count, failure, failed⟩
      contradiction
    rw [returns,
      returns_view_iff RecordedStream.parts (RecordedStream.flush_parts storage finishes),
      PartWriter.returns_iff fits, WillReturn, MultipartConfig.WillReturn, or_iff_right closed,
      iff_false_intro good]
    exact or_congr_right (or_congr_right (or_congr_left (iff_false_intro sound)))

/-- The buffer fits, and no chunk is to fail. -/
def Usable (stream : GcsUploadStream) : Prop :=
  stream.buffer.length ≤ storage.multipart.partSize ∧ ¬ stream.uploads.Fails

theorem usable_create : GcsUploadStream.create.Usable storage := by
  refine ⟨Nat.zero_le _, ?_⟩
  rintro ⟨upload, mem, -⟩
  contradiction

theorem sound_flush {passes : Nat} {piece : Bytes} {stream after : GcsUploadStream}
    {result : Result Unit} (sound : ¬ stream.uploads.Fails)
    (flushed : flush storage finishes passes piece stream = some (result, after)) :
    ¬ after.uploads.Fails := by
  have recorded := RecordedStream.flush_stream storage finishes passes piece ⟨stream, []⟩
  rw [flushed] at recorded
  obtain ⟨⟨outcome, next⟩, found, same⟩ := Option.map_eq_some_iff.mp recorded.symm
  cases same
  exact (RecordedStream.flush_sound sound found).2.1

theorem usable_step (name : Bytes) (passes : Nat) (stream : GcsUploadStream) (call : UploadCall)
    (usable : stream.Usable storage) :
    (gcsStep storage finishes name passes stream call).2.Usable storage := by
  cases call with
  | finalize =>
      rw [gcsStep, finalize]
      split
      · exact usable
      · split
        · exact usable
        · split
          · exact usable
          · split
            · rename_i failed
              exact ⟨usable.1, Uploads.not_fails_waitAllUploads usable.2 failed⟩
            · rename_i went
              exact ⟨usable.1, Uploads.not_fails_waitAllUploads usable.2 went⟩
  | write data =>
      rw [gcsStep]
      split
      · exact usable
      · rename_i result after wrote
        rw [write] at wrote
        split at wrote
        · cases wrote
          exact usable
        · split at wrote
          · contradiction
          · rename_i failed
            cases wrote
            exact ⟨length_fill_le usable.1 failed,
              fill_invariant (fun stream => ¬ stream.uploads.Fails)
              (fun _ _ _ _ => sound_flush storage finishes) usable.2 failed⟩
          · rename_i went
            cases wrote
            exact ⟨length_fill_le usable.1 went,
              fill_invariant (fun stream => ¬ stream.uploads.Fails)
              (fun _ _ _ _ => sound_flush storage finishes) usable.2 went⟩

end GcsUploadStream

/-! ## The three streams -/

/-- After any calls a write on a stream returns exactly if something makes it. -/
theorem writes_return_iff (data : Bytes) (calls : List UploadCall) (passes : Nat) :
    (∀ (context : S3Context) (server : S3Server),
      (final (s3Step context passes) (.opened context (.begin server)) calls).WriteReturns
          context data ↔
        (final (s3Step context passes) (.opened context (.begin server)) calls).WillReturn
          context data) ∧
    (∀ (context : AzureContext) (server : AzureServer),
      (final (azureStep context passes) (.create (.begin server)) calls).WriteReturns
          context data ↔
        (final (azureStep context passes) (.create (.begin server)) calls).WillReturn
          context data) ∧
    ∀ (storage : GcsStorage) (finishes : Nat → Nat) (name : Bytes),
      (final (gcsStep storage finishes name passes) .create calls).WriteReturns
          storage finishes data ↔
        (final (gcsStep storage finishes name passes) .create calls).WillReturn storage data := by
  refine ⟨fun context server => ?_, fun context server => ?_, fun storage finishes name => ?_⟩
  · apply S3UploadStream.writeReturns_iff
    apply final_invariant (fun stream : S3UploadStream =>
      stream.partBuffer.length ≤ context.multipart.partSize)
      (S3UploadStream.fits_step context passes)
    obtain ⟨uploadId, initialized, same⟩ := S3UploadStream.opened_eq context (.begin server)
    rw [same]
    exact Nat.zero_le _
  · apply AzureUploadStream.writeReturns_iff
    exact final_invariant (fun stream : AzureUploadStream =>
      stream.blockBuffer.length ≤ context.multipart.partSize)
      (AzureUploadStream.fits_step context passes) (Nat.zero_le _) calls
  · have usable := final_invariant (GcsUploadStream.Usable storage)
      (GcsUploadStream.usable_step storage finishes name passes)
      (GcsUploadStream.usable_create storage) calls
    exact GcsUploadStream.writeReturns_iff storage finishes data usable.2 usable.1

/-- A storage that cuts uploads into such chunks. -/
def storageOfChunks (partSize maxConcurrentParts : Nat) : GcsStorage where
  connected := true
  multipart := ⟨true, 0, partSize, maxConcurrentParts⟩
  sha256 := fun _ => []
  uploadId := []
  createJwt := .ok fun _ => []
  policy := ⟨id, fun assertion => (assertion, none)⟩

/-- Chunks without a size are begun for ever, and without a slot the first one waits for ever. -/
theorem write_goes_on :
    ¬ GcsUploadStream.create.WriteReturns (storageOfChunks 0 4) (fun _ => 0) [1] ∧
      ¬ GcsUploadStream.create.WriteReturns (storageOfChunks 1 0) (fun _ => 0) [1] := by
  have start (partSize maxConcurrentParts : Nat) :=
    GcsUploadStream.usable_create (storageOfChunks partSize maxConcurrentParts)
  refine ⟨?_, ?_⟩
  · rw [GcsUploadStream.writeReturns_iff _ _ _ (start 0 4).2 (start 0 4).1]
    unfold GcsUploadStream.WillReturn MultipartConfig.WillReturn
    decide
  · rw [GcsUploadStream.writeReturns_iff _ _ _ (start 1 0).2 (start 1 0).1]
    unfold GcsUploadStream.WillReturn MultipartConfig.WillReturn
    decide

end FileTrans.Cloud
