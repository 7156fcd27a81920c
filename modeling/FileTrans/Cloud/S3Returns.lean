import FileTrans.Cloud.S3Parts

/-!
# S3 uploads that go through

Where every part gets a good answer and there is a slot to wait for, a `write`
returns success, and `finalize` comes to send the completion.
-/

namespace FileTrans.Cloud

open FileTrans.Core FileTrans.Text FileTrans.Transition

/-- How many parts a content is cut into. -/
def partCount (length partSize : Nat) : Nat :=
  (length + partSize - 1) / partSize

theorem partCount_zero (size : Nat) : partCount 0 size = 0 := by
  rw [partCount, Nat.zero_add]
  cases size with
  | zero => rfl
  | succ size => exact Nat.div_eq_of_lt (Nat.lt_succ_self _)

theorem succ_le_partCount {count size rest length : Nat} (positive : 0 < size)
    (some_left : 0 < rest) (le : count * size + rest ≤ length) :
    count + 1 ≤ partCount length size := by
  rw [partCount, Nat.le_div_iff_mul_le positive, Nat.succ_mul]
  omega

theorem partCount_eq {count size rest length : Nat} (positive : 0 < size) (less : rest < size)
    (same : count * size + rest = length) :
    partCount length size = count + if rest = 0 then 0 else 1 := by
  rw [partCount, ← same]
  split
  · rename_i none
    rw [none, Nat.add_zero, Nat.add_zero]
    apply Nat.div_eq_of_lt_le
    · omega
    · rw [Nat.succ_mul]
      omega
  · apply Nat.div_eq_of_lt_le
    · rw [Nat.succ_mul]
      omega
    · rw [Nat.succ_mul, Nat.succ_mul]
      omega

variable {context : S3Context} {content piece data written total : Bytes}
  {stream after : S3UploadStream} {passes bound : Nat}

theorem Steady.length_content (steady : Steady context content stream) :
    (sentParts stream.wire.sent).length * context.multipart.partSize = content.length := by
  rw [← steady.content, length_flatten_pieces steady.sized]

/-- From this wire on, the parts of a content of this length get good answers. -/
structure GoodAnswers (context : S3Context) (uploadId : UploadId) (length : Nat)
    (good : S3Wire → Prop) : Prop where
  answer : ∀ wire number data, good wire →
    wire.sent.length ≤ partCount length context.multipart.partSize →
    (∃ etag, (context.uploadPart uploadId number data wire).1 = .ok etag) ∧
      good (context.uploadPart uploadId number data wire).2

/-- Every part has a good result, and the answers under way are there in time. -/
structure Promising (context : S3Context) (good : S3Wire → Prop) (bound : Nat)
    (stream : S3UploadStream) : Prop where
  wire : good stream.wire
  results : ∀ part ∈ sentParts stream.wire.sent, ∃ etag, (part.result context).2 = .ok etag
  finishes : ∀ upload ∈ stream.uploads.pending, upload.finishes ≤ bound

variable {good : S3Wire → Prop}

theorem results_uploadPart (promising : Promising context good bound stream) {uploadId : UploadId}
    {number : Nat} {etag : Etag}
    (answered : (context.uploadPart uploadId number data stream.wire).1 = .ok etag) :
    ∀ part ∈ sentParts (context.uploadPart uploadId number data stream.wire).2.sent,
      ∃ etag, (part.result context).2 = .ok etag := by
  rcases sentParts_uploadPart context uploadId number data stream.wire with
    ⟨answer, parts, result⟩
  intro part mem
  rw [parts] at mem
  rcases List.mem_append.mp mem with mem | mem
  · exact promising.results part mem
  · rw [List.mem_singleton.mp mem]
    exact ⟨etag, result.symm.trans answered⟩

theorem promising_opened {good : S3Wire → Prop} {bound : Nat} {server : S3Server}
    (wire : good (S3UploadStream.opened context (.begin server)).wire) :
    Promising context good bound (.opened context (.begin server)) := by
  refine ⟨wire, ?_, ?_⟩
  · rw [(S3UploadStream.sent_opened context server).2]
    simp
  · rcases S3UploadStream.opened_eq context (.begin server) with ⟨uploadId, initialized, same⟩
    rw [same]
    simp [S3UploadStream.create, Uploads.start]

namespace S3UploadStream

theorem not_error_of_good
    (results : ∀ part ∈ sentParts stream.wire.sent, ∃ etag, (part.result context).2 = .ok etag) :
    ¬ ∃ label failure, (label, .error failure) ∈
      (sentParts stream.wire.sent).map (SentPart.result context) := by
  rintro ⟨label, failure, mem⟩
  rcases List.mem_map.mp mem with ⟨part, sent, same⟩
  rcases results part sent with ⟨etag, good⟩
  rw [same] at good
  contradiction

theorem flush_returns (answers : GoodAnswers context stream.uploadId total.length good)
    (positive : 0 < context.multipart.partSize)
    (slots : context.multipart.partSize ≤ total.length →
      0 < context.multipart.maxConcurrentParts)
    (bounded : ∀ number ≤ partCount total.length context.multipart.partSize,
      context.network.finishes number ≤ bound)
    (steady : Steady context content stream) (promising : Promising context good bound stream)
    (size : piece.length = context.multipart.partSize) (part : content ++ piece <+: total) :
    ∃ after, flush context (bound + 1) piece stream = some (.ok (), after) ∧
      Steady context (content ++ piece) after ∧ Promising context good bound after ∧
      SameHeader stream after := by
  have length := part.length_le
  rw [List.length_append, ← steady.length_content, size] at length
  have number : stream.wire.sent.length ≤ partCount total.length context.multipart.partSize := by
    rw [steady.requests]
    exact succ_le_partCount positive positive length
  have free := slots (le_trans (Nat.le_add_left _ _) length)
  rcases Uploads.makeRoom_returns steady.accounts steady.untaken free
    (fun upload mem => le_trans (promising.finishes upload mem) (Nat.le_add_left bound _))
    (not_error_of_good promising.results) with ⟨uploads, room⟩
  rcases answers.answer stream.wire stream.currentPartNumber piece promising.wire number with
    ⟨⟨etag, answered⟩, kept⟩
  have flushed : flush context (bound + 1) piece stream = some (.ok (),
      { uploadPartAsync context stream.currentPartNumber piece { stream with uploads } with
          currentPartNumber := stream.currentPartNumber + 1 }) := by
    rw [flush, room]
    rfl
  refine ⟨_, flushed, flush_steady steady size flushed, ?_, flush_header flushed⟩
  refine ⟨kept, results_uploadPart promising answered, ?_⟩
  intro upload mem
  rcases List.mem_append.mp mem with mem | mem
  · exact promising.finishes upload (Uploads.mem_makeRoom room mem)
  · rw [List.mem_singleton.mp mem]
    exact bounded _ number

theorem write_returns (answers : GoodAnswers context stream.uploadId total.length good)
    (positive : 0 < context.multipart.partSize)
    (slots : context.multipart.partSize ≤ total.length →
      0 < context.multipart.maxConcurrentParts)
    (bounded : ∀ number ≤ partCount total.length context.multipart.partSize,
      context.network.finishes number ≤ bound)
    (uploading : Uploading context written stream)
    (promising : Promising context good bound stream) (part : written ++ data <+: total)
    (enough : data.length ≤ bound) :
    ∃ after, write context (bound + 1) data stream = some (.ok data.length, after) ∧
      Promising context good bound after := by
  rcases uploading with ⟨⟨finalized, aborted⟩, ⟨handed, steady, content⟩, -, room, -⟩
  have initial : Steady context handed stream ∧ Promising context good bound stream ∧
      SameHeader stream stream := ⟨steady, promising, SameHeader.refl stream⟩
  rw [← content, List.append_assoc] at part
  rcases fill_returns positive
    (fun content other => Steady context content other ∧ Promising context good bound other ∧
      SameHeader stream other)
    (by
      rintro content piece rest ⟨steady, promising, header⟩ size begins
      rw [← header.uploadId] at answers
      rcases flush_returns answers positive slots bounded steady promising size begins with
        ⟨after, flushed, steady, promising, same⟩
      exact ⟨after, flushed, steady, promising, header.trans same⟩)
    initial (room positive) part (Nat.lt_succ_of_le enough) with
    ⟨held, after, later, filled, ⟨-, kept, -⟩, -, -⟩
  refine ⟨{ after with
    partBuffer := held
    bytesWritten := after.bytesWritten + data.length }, ?_,
    kept.wire, kept.results, kept.finishes⟩
  rw [write]
  simp only [finalized, aborted, Bool.false_eq_true, or_self, if_false, filled]

theorem finalize_returns (answers : GoodAnswers context stream.uploadId written.length good)
    (positive : 0 < context.multipart.partSize) (uploading : Uploading context written stream)
    (promising : Promising context good bound stream) :
    ∃ before uploads, uploadRest context stream = (.ok (), before) ∧
      before.uploads.waitAllUploads = (.ok (), uploads) ∧
      finalize context stream =
        completeMultipartUpload context { before with uploads, finalized := true } ∧
      good before.wire ∧
      before.wire.sent.length = partCount written.length context.multipart.partSize + 1 := by
  rcases uploading.active with ⟨finalized, aborted⟩
  have reaches : ∃ before, uploadRest context stream = (.ok (), before) ∧
      (∀ part ∈ sentParts before.wire.sent, ∃ etag, (part.result context).2 = .ok etag) ∧
      good before.wire ∧
      before.wire.sent.length = partCount written.length context.multipart.partSize + 1 := by
    rcases uploading with ⟨-, ⟨handed, steady, content⟩, -, room, -⟩
    have length : (sentParts stream.wire.sent).length * context.multipart.partSize +
        stream.partBuffer.length = written.length := by
      rw [← content, List.length_append, steady.length_content]
    have count := partCount_eq positive (room positive) length
    rw [uploadRest]
    split
    · rename_i empty
      refine ⟨stream, rfl, promising.results, promising.wire, ?_⟩
      rw [steady.requests, count, if_pos (by rw [empty]; rfl), Nat.add_zero]
    · rename_i nonempty
      have some_left : 0 < stream.partBuffer.length := List.length_pos_iff.mpr nonempty
      have number : stream.wire.sent.length ≤
          partCount written.length context.multipart.partSize := by
        rw [steady.requests]
        exact succ_le_partCount positive some_left (le_of_eq length)
      rcases answers.answer stream.wire stream.currentPartNumber stream.partBuffer
        promising.wire number with ⟨⟨etag, answered⟩, kept⟩
      simp only [answered]
      refine ⟨_, rfl, results_uploadPart promising answered, kept, ?_⟩
      rw [count, if_neg (Nat.pos_iff_ne_zero.mp some_left), length_uploadPart, steady.requests]
  rcases reaches with ⟨before, rest, results, kept, requests⟩
  have sent := (uploadRest_ok uploading rest).1
  cases waited : before.uploads.waitAllUploads with
  | mk outcome uploads =>
      cases outcome with
      | error failure =>
          rcases (Uploads.waitAllUploads_error sent.accounts waited).1 with ⟨label, mem⟩
          exact absurd ⟨label, failure, mem⟩ (not_error_of_good results)
      | ok value =>
          refine ⟨before, uploads, rest, waited, ?_, kept, requests⟩
          rw [finalize]
          simp only [finalized, aborted, Bool.false_eq_true, if_false, rest, waited]

end S3UploadStream

end FileTrans.Cloud
