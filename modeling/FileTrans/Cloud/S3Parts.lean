import FileTrans.Cloud.S3UploadStream

/-!
# The parts of an S3 upload

What an upload stream has sent, in order, are the parts numbered from one on;
each has its answer in the list of completed parts, or its future is still to be
taken.  So long as no failure has been delivered, the parts followed by the
buffer are what was written.
-/

namespace FileTrans.Cloud

open FileTrans.Core FileTrans.Text FileTrans.Transition

/-! ## What was sent -/

/-- An upload of a part, with its answer. -/
structure SentPart where
  number : Nat
  data : Bytes
  answer : Option S3Response

/-- The part that a request uploads. -/
def sentPart : S3Request × Option S3Response → Option SentPart
  | (.uploadPart _ number _ data, answer) => some ⟨number, data, answer⟩
  | _ => none

/-- The parts that were uploaded, in order. -/
def sentParts (sent : List (S3Request × Option S3Response)) : List SentPart :=
  sent.filterMap sentPart

/-- The number of a part and what `upload_part` returned for it. -/
def SentPart.result (context : S3Context) (part : SentPart) : Nat × Result Etag :=
  (part.number, context.readPart part.data part.answer)

/-- The server answered the upload of the part with success. -/
def SentPart.Accepted (part : SentPart) : Prop :=
  ∃ response ∈ part.answer, response.status = 200

instance (part : SentPart) : Decidable part.Accepted :=
  inferInstanceAs (Decidable (∃ response ∈ part.answer, _))

theorem sentParts_append (first second : List (S3Request × Option S3Response)) :
    sentParts (first ++ second) = sentParts first ++ sentParts second :=
  List.filterMap_append

theorem uploadPart_sent (context : S3Context) (uploadId : UploadId) (number : Nat) (data : Bytes)
    (wire : S3Wire) :
    ∃ answer, (context.uploadPart uploadId number data wire).2.sent =
        wire.sent ++ [(.uploadPart context.key number uploadId data, answer)] ∧
      (context.uploadPart uploadId number data wire).1 = context.readPart data answer :=
  ⟨_, rfl, rfl⟩

theorem sentParts_uploadPart (context : S3Context) (uploadId : UploadId) (number : Nat)
    (data : Bytes) (wire : S3Wire) :
    ∃ answer, sentParts (context.uploadPart uploadId number data wire).2.sent =
        sentParts wire.sent ++ [⟨number, data, answer⟩] ∧
      (context.uploadPart uploadId number data wire).1 = context.readPart data answer := by
  rcases uploadPart_sent context uploadId number data wire with ⟨answer, sent, result⟩
  refine ⟨answer, ?_, result⟩
  rw [sent, sentParts_append]
  rfl

theorem length_uploadPart (context : S3Context) (uploadId : UploadId) (number : Nat)
    (data : Bytes) (wire : S3Wire) :
    (context.uploadPart uploadId number data wire).2.sent.length = wire.sent.length + 1 :=
  List.length_append

variable {context : S3Context}

/-! ## A stream without a delivered failure -/

/-- Every part is accounted for, no failure has been delivered, and the parts make up the
content. -/
structure Steady (context : S3Context) (content : Bytes) (stream : S3UploadStream) : Prop where
  accounts : stream.uploads.Accounts ((sentParts stream.wire.sent).map (SentPart.result context))
  untaken : Untaken stream.uploads.pending
  numbers : (sentParts stream.wire.sent).map SentPart.number =
    List.range' 1 (sentParts stream.wire.sent).length
  current : stream.currentPartNumber = (sentParts stream.wire.sent).length + 1
  content : ((sentParts stream.wire.sent).map SentPart.data).flatten = content
  sized : ∀ part ∈ sentParts stream.wire.sent, part.data.length = context.multipart.partSize
  requests : stream.wire.sent.length = (sentParts stream.wire.sent).length + 1

variable {content piece data : Bytes} {stream after : S3UploadStream} {passes : Nat}
  {failure : Error}

theorem Steady.congr (steady : Steady context content stream)
    (uploads : after.uploads = stream.uploads) (wire : after.wire = stream.wire)
    (number : after.currentPartNumber = stream.currentPartNumber) :
    Steady context content after := by
  constructor
  · rw [uploads, wire]
    exact steady.accounts
  · rw [uploads]
    exact steady.untaken
  · rw [wire]
    exact steady.numbers
  · rw [wire, number]
    exact steady.current
  · rw [wire]
    exact steady.content
  · rw [wire]
    exact steady.sized
  · rw [wire]
    exact steady.requests

theorem steady_of_sentParts_eq_nil (none_sent : sentParts stream.wire.sent = [])
    (requests : stream.wire.sent.length = 1) (uploads : stream.uploads = .start)
    (number : stream.currentPartNumber = 1) :
    Steady context [] stream := by
  constructor
  · rw [none_sent, uploads]
    exact Uploads.accounts_start
  · rw [uploads]
    simp [Uploads.start, Untaken]
  · rw [none_sent]
    rfl
  · rw [none_sent, number]
    rfl
  · rw [none_sent]
    rfl
  · rw [none_sent]
    simp
  · rw [none_sent, requests]
    rfl

theorem Steady.next (steady : Steady context content stream) (part : SentPart)
    (size : part.data.length = context.multipart.partSize)
    (numbered : part.number = stream.currentPartNumber)
    (parts : sentParts after.wire.sent = sentParts stream.wire.sent ++ [part])
    (requests : after.wire.sent.length = stream.wire.sent.length + 1)
    (accounts : after.uploads.Accounts
      ((sentParts stream.wire.sent).map (SentPart.result context) ++ [part.result context]))
    (untaken : Untaken after.uploads.pending)
    (number : after.currentPartNumber = stream.currentPartNumber + 1) :
    Steady context (content ++ part.data) after := by
  constructor
  · rw [parts, List.map_append]
    exact accounts
  · exact untaken
  · rw [parts, List.map_append, steady.numbers, List.length_append, List.length_singleton,
      List.range'_1_concat, List.map_singleton, numbered, steady.current, Nat.add_comm 1]
  · rw [parts, number, steady.current]
    simp
  · rw [parts, List.map_append, List.flatten_append, steady.content]
    simp
  · intro other mem
    rw [parts] at mem
    rcases List.mem_append.mp mem with mem | mem
    · exact steady.sized other mem
    · rw [List.mem_singleton.mp mem]
      exact size
  · rw [parts, requests, steady.requests, List.length_append]
    rfl

namespace S3UploadStream

theorem flush_ok (outcome : flush context passes piece stream = some (.ok (), after)) :
    ∃ uploads,
      stream.uploads.makeRoom context.multipart.maxConcurrentParts passes =
        some (.ok (), uploads) ∧
      after = { uploadPartAsync context stream.currentPartNumber piece
        { stream with uploads } with currentPartNumber := stream.currentPartNumber + 1 } := by
  rw [flush] at outcome
  split at outcome
  · contradiction
  · simp at outcome
  · rename_i uploads room
    cases outcome
    exact ⟨uploads, room, rfl⟩

theorem flush_error (outcome : flush context passes piece stream = some (.error failure, after)) :
    ∃ uploads, after = { stream with uploads } ∧
      stream.uploads.makeRoom context.multipart.maxConcurrentParts passes =
        some (.error failure, uploads) := by
  rw [flush] at outcome
  split at outcome
  · contradiction
  · rename_i found uploads failed
    cases outcome
    exact ⟨uploads, rfl, failed⟩
  · simp at outcome

theorem flush_steady (steady : Steady context content stream)
    (size : piece.length = context.multipart.partSize)
    (outcome : flush context passes piece stream = some (.ok (), after)) :
    Steady context (content ++ piece) after := by
  rcases flush_ok outcome with ⟨uploads, room, rfl⟩
  rcases Uploads.makeRoom_ok steady.accounts steady.untaken room with ⟨accounts, untaken⟩
  rcases sentParts_uploadPart context stream.uploadId stream.currentPartNumber piece
    stream.wire with ⟨answer, parts, result⟩
  apply steady.next ⟨stream.currentPartNumber, piece, answer⟩ size rfl parts
    (length_uploadPart _ _ _ _ _)
  · simp only [uploadPartAsync, result]
    exact accounts.add _ _ _
  · exact Uploads.untaken_add untaken _ _ _
  · rfl

theorem flush_error_of_steady (steady : Steady context content stream)
    (outcome : flush context passes piece stream = some (.error failure, after)) :
    (∃ part ∈ sentParts after.wire.sent, ∃ failure, (part.result context).2 = .error failure) ∧
      ¬ Untaken after.uploads.pending := by
  rcases flush_error outcome with ⟨uploads, rfl, failed⟩
  rcases Uploads.makeRoom_error steady.accounts steady.untaken failed with ⟨⟨label, same⟩, taken⟩
  rcases Uploads.exists_error_of_perm same with ⟨label, mem⟩
  rcases List.mem_map.mp mem with ⟨part, sent, same⟩
  exact ⟨⟨part, sent, failure, by rw [same]⟩, taken⟩

/-- What a part that is handed on leaves alone. -/
structure SameHeader (before after : S3UploadStream) : Prop where
  uploadId : after.uploadId = before.uploadId
  finalized : after.finalized = before.finalized
  aborted : after.aborted = before.aborted
  bytesWritten : after.bytesWritten = before.bytesWritten

theorem SameHeader.refl (stream : S3UploadStream) : SameHeader stream stream :=
  ⟨rfl, rfl, rfl, rfl⟩

theorem SameHeader.trans {middle : S3UploadStream} (first : SameHeader stream middle)
    (second : SameHeader middle after) : SameHeader stream after where
  uploadId := second.uploadId.trans first.uploadId
  finalized := second.finalized.trans first.finalized
  aborted := second.aborted.trans first.aborted
  bytesWritten := second.bytesWritten.trans first.bytesWritten

variable {result : Result Unit}

theorem flush_header (outcome : flush context passes piece stream = some (result, after)) :
    SameHeader stream after := by
  cases result with
  | error failure =>
      rcases flush_error outcome with ⟨uploads, rfl, -⟩
      exact ⟨rfl, rfl, rfl, rfl⟩
  | ok value =>
      rcases flush_ok outcome with ⟨uploads, -, rfl⟩
      exact ⟨rfl, rfl, rfl, rfl⟩

theorem flush_wire (outcome : flush context passes piece stream = some (result, after)) :
    after.wire = stream.wire ∨
      after.wire =
        (context.uploadPart stream.uploadId stream.currentPartNumber piece stream.wire).2 := by
  cases result with
  | error failure =>
      rcases flush_error outcome with ⟨uploads, rfl, -⟩
      exact .inl rfl
  | ok value =>
      rcases flush_ok outcome with ⟨uploads, -, rfl⟩
      exact .inr rfl

theorem fill_wire (invariant : S3Wire → Prop)
    (uploads : ∀ wire number data, invariant wire →
      invariant (context.uploadPart stream.uploadId number data wire).2)
    (initial : invariant stream.wire) {size rounds : Nat} {buffer held : Bytes}
    (outcome : fill size (flush context passes) rounds data buffer stream =
      some (result, held, after)) : invariant after.wire ∧ SameHeader stream after := by
  apply fill_invariant (fun other => invariant other.wire ∧ SameHeader stream other) _
    ⟨initial, SameHeader.refl stream⟩ outcome
  rintro piece rest result next ⟨holds, header⟩ flushed
  refine ⟨?_, header.trans (flush_header flushed)⟩
  rcases flush_wire flushed with same | uploaded
  · rw [same]
    exact holds
  · rw [uploaded, header.uploadId]
    exact uploads _ _ _ holds

end S3UploadStream

/-! ## Writing -/

/-- An open stream without a delivered failure: what it sent and what it holds back is what was
written. -/
structure Uploading (context : S3Context) (written : Bytes) (stream : S3UploadStream) : Prop where
  active : stream.finalized = false ∧ stream.aborted = false
  steady : ∃ handed, Steady context handed stream ∧ handed ++ stream.partBuffer = written
  fits : stream.partBuffer.length ≤ context.multipart.partSize
  room : 0 < context.multipart.partSize →
    stream.partBuffer.length < context.multipart.partSize
  bytesWritten : stream.bytesWritten = written.length

namespace S3UploadStream

variable {written : Bytes}

theorem opened_eq (context : S3Context) (wire : S3Wire) :
    ∃ uploadId initialized, opened context wire =
      { create wire with
        uploadId := uploadId
        initialized := initialized
        wire := (context.send (.createMultipartUpload context.key) wire).2 } := by
  rw [opened, initiateMultipartUpload]
  simp only
  split
  · exact ⟨_, _, rfl⟩
  · split
    · split
      · exact ⟨_, _, rfl⟩
      · exact ⟨_, _, rfl⟩
    · exact ⟨_, _, rfl⟩

theorem sent_opened (context : S3Context) (server : S3Server) :
    (opened context (.begin server)).wire.sent.length = 1 ∧
      sentParts (opened context (.begin server)).wire.sent = [] := by
  rcases opened_eq context (.begin server) with ⟨uploadId, initialized, same⟩
  rw [same]
  exact ⟨rfl, rfl⟩

theorem uploading_opened (context : S3Context) (server : S3Server) :
    Uploading context [] (opened context (.begin server)) := by
  rcases opened_eq context (.begin server) with ⟨uploadId, initialized, same⟩
  rw [same]
  refine ⟨⟨rfl, rfl⟩, ⟨[], steady_of_sentParts_eq_nil rfl rfl rfl rfl, rfl⟩, ?_, id, rfl⟩
  exact Nat.zero_le _

theorem write_ok (uploading : Uploading context written stream) {count : Nat}
    (outcome : write context passes data stream = some (.ok count, after)) :
    Uploading context (written ++ data) after ∧ count = data.length ∧
      after.uploadId = stream.uploadId := by
  rcases uploading with ⟨⟨finalized, aborted⟩, ⟨handed, steady, content⟩, fits, room, bytes⟩
  rw [write] at outcome
  simp only [finalized, aborted, Bool.false_eq_true, or_self, if_false] at outcome
  split at outcome
  · contradiction
  · simp at outcome
  · rename_i held next filled
    cases outcome
    rcases fill_ok (Steady context) (fun _ _ _ _ steady size flushed =>
      flush_steady steady size flushed) steady fits filled with
      ⟨later, steady, together, fits, less⟩
    have header := (fill_wire (fun _ => True) (fun _ _ _ _ => trivial) trivial filled).2
    refine ⟨⟨?_, ⟨later, steady.congr rfl rfl rfl, ?_⟩, fits, ?_, ?_⟩, rfl, header.uploadId⟩
    · exact ⟨header.finalized.trans finalized, header.aborted.trans aborted⟩
    · rw [together, ← List.append_assoc, content]
    · exact fun positive => less (room positive)
    · simp [header.bytesWritten, bytes]

theorem write_error (uploading : Uploading context written stream)
    (outcome : write context passes data stream = some (.error failure, after)) :
    (∃ part ∈ sentParts after.wire.sent, ∃ failure, (part.result context).2 = .error failure) ∧
      ¬ Untaken after.uploads.pending := by
  rcases uploading with ⟨⟨finalized, aborted⟩, ⟨handed, steady, content⟩, fits, room, bytes⟩
  rw [write] at outcome
  simp only [finalized, aborted, Bool.false_eq_true, or_self, if_false] at outcome
  split at outcome
  · contradiction
  · rename_i found held next filled
    cases outcome
    rcases fill_error (Steady context) (fun _ _ _ _ steady size flushed =>
      flush_steady steady size flushed) steady fits filled with
      ⟨later, before, steady, size, flushed, -⟩
    have delivered := flush_error_of_steady steady flushed
    exact delivered
  · simp at outcome

theorem write_header {result : Result Nat}
    (outcome : write context passes data stream = some (result, after)) :
    after.uploadId = stream.uploadId ∧ after.finalized = stream.finalized := by
  rw [write] at outcome
  split at outcome
  · cases outcome
    exact ⟨rfl, rfl⟩
  · split at outcome
    · contradiction
    · rename_i filled
      cases outcome
      have header := (fill_wire (fun _ => True) (fun _ _ _ _ => trivial) trivial filled).2
      exact ⟨header.uploadId, header.finalized⟩
    · rename_i filled
      cases outcome
      have header := (fill_wire (fun _ => True) (fun _ _ _ _ => trivial) trivial filled).2
      exact ⟨header.uploadId, header.finalized⟩

theorem write_wire (invariant : S3Wire → Prop)
    (uploads : ∀ wire number data, invariant wire →
      invariant (context.uploadPart stream.uploadId number data wire).2)
    (initial : invariant stream.wire) {result : Result Nat}
    (outcome : write context passes data stream = some (result, after)) :
    invariant after.wire := by
  rw [write] at outcome
  split at outcome
  · cases outcome
    exact initial
  · split at outcome
    · contradiction
    · rename_i filled
      cases outcome
      exact (fill_wire invariant uploads initial filled).1
    · rename_i filled
      cases outcome
      exact (fill_wire invariant uploads initial filled).1

end S3UploadStream

/-! ## Completing -/

/-- All that was written has been sent: the parts but the last have the full size. -/
structure AllSent (context : S3Context) (written : Bytes) (stream : S3UploadStream) : Prop where
  accounts : stream.uploads.Accounts ((sentParts stream.wire.sent).map (SentPart.result context))
  numbers : (sentParts stream.wire.sent).map SentPart.number =
    List.range' 1 (sentParts stream.wire.sent).length
  content : ((sentParts stream.wire.sent).map SentPart.data).flatten = written
  sized : ∀ part ∈ (sentParts stream.wire.sent).dropLast,
    part.data.length = context.multipart.partSize
  requests : stream.wire.sent.length = (sentParts stream.wire.sent).length + 1

theorem uploadRest_ok {written : Bytes} (uploading : Uploading context written stream)
    (outcome : S3UploadStream.uploadRest context stream = (.ok (), after)) :
    AllSent context written after ∧ S3UploadStream.SameHeader stream after := by
  rcases uploading with ⟨-, ⟨handed, steady, content⟩, -, -, -⟩
  rw [S3UploadStream.uploadRest] at outcome
  split at outcome
  · rename_i empty
    cases outcome
    refine ⟨⟨steady.accounts, steady.numbers, ?_, ?_, steady.requests⟩,
      S3UploadStream.SameHeader.refl _⟩
    · rw [steady.content, ← content, empty, List.append_nil]
    · intro part mem
      exact steady.sized part (List.mem_of_mem_dropLast mem)
  · simp only at outcome
    split at outcome
    · simp at outcome
    · rename_i etag answered
      cases outcome
      rcases sentParts_uploadPart context stream.uploadId stream.currentPartNumber
        stream.partBuffer stream.wire with ⟨answer, parts, result⟩
      rw [answered] at result
      refine ⟨⟨?_, ?_, ?_, ?_, ?_⟩, ⟨rfl, rfl, rfl, rfl⟩⟩
      · simp only [parts, List.map_append, List.map_singleton, SentPart.result, ← result]
        exact steady.accounts.complete _ _
      · simp only [parts]
        rw [List.map_append, steady.numbers, List.length_append, List.length_singleton,
          List.range'_1_concat, List.map_singleton, steady.current, Nat.add_comm 1]
      · simp only [parts]
        rw [List.map_append, List.flatten_append, steady.content, ← content]
        simp
      · simp only [parts]
        rw [List.dropLast_concat]
        exact steady.sized
      · simp only [parts]
        rw [length_uploadPart, steady.requests, List.length_append]
        rfl

theorem good_sortByKey {begun : List (Nat × Result Etag)} {completed : List (Nat × Etag)}
    {count : Nat} (same : begun.Perm (good completed))
    (numbers : begun.map Prod.fst = List.range' 1 count) :
    good (sortByKey Prod.fst completed) = begun := by
  have all_good : ∀ entry ∈ begun, entry ∈ Set.range fun entry : Nat × Etag =>
      ((entry.1, .ok entry.2) : Nat × Result Etag) := by
    intro entry mem
    rcases List.mem_map.mp (same.mem_iff.mp mem) with ⟨found, -, rfl⟩
    exact ⟨found, rfl⟩
  rcases (Set.ext_iff.mp (Set.range_list_map _) begun).mpr all_good with ⟨values, rfl⟩
  have injective : Function.Injective fun entry : Nat × Etag =>
      ((entry.1, .ok entry.2) : Nat × Result Etag) := by
    rintro ⟨number, etag⟩ ⟨other, found⟩ equal
    simpa using equal
  have alike : values.Perm completed := (List.map_perm_map_iff injective).mp same
  have keys : values.map Prod.fst = List.range' 1 count := by
    rw [← numbers, List.map_map]
    rfl
  have increasing : values.Pairwise fun left right => left.1 < right.1 := by
    rw [← List.pairwise_map, keys]
    exact List.pairwise_lt_range'
  have distinct : (completed.map Prod.fst).Nodup := by
    rw [← (alike.map Prod.fst).nodup_iff, keys]
    exact List.nodup_range'
  rw [sortByKey_eq_of_perm distinct alike.symm, sortByKey_of_pairwise increasing]
  rfl

theorem finalize_closed {result : Result UploadResult}
    (outcome : S3UploadStream.finalize context stream = (result, after)) :
    after.finalized = true ∨ after.aborted = true := by
  have aborted (stream : S3UploadStream) :
      (S3UploadStream.abortMultipartUpload context stream).aborted = true := by
    rw [S3UploadStream.abortMultipartUpload]
    split <;> rfl
  rw [S3UploadStream.finalize] at outcome
  split at outcome
  · rename_i closed
    cases outcome
    exact .inl closed
  · split at outcome
    · rename_i closed
      cases outcome
      exact .inr closed
    · split at outcome
      · cases outcome
        exact .inr (aborted _)
      · split at outcome
        · cases outcome
          exact .inr (aborted _)
        · rw [S3UploadStream.completeMultipartUpload] at outcome
          simp only at outcome
          split at outcome
          · split at outcome <;> cases outcome <;> exact .inl rfl
          · cases outcome
            exact .inl rfl

theorem finalize_cases {result : UploadResult}
    (outcome : S3UploadStream.finalize context stream = (.ok result, after)) :
    (stream.finalized = false ∧ stream.aborted = false) ∧
    ∃ before uploads answer,
      S3UploadStream.uploadRest context stream = (.ok (), before) ∧
      before.uploads.waitAllUploads = (.ok (), uploads) ∧
      (answer, after.wire) = context.send (.completeMultipartUpload context.key before.uploadId
        (sortByKey Prod.fst uploads.completed)) before.wire ∧
      (answer = none ∨ ∃ response, answer = some response ∧ response.status = 200) ∧
      result.bytesUploaded = before.bytesWritten ∧
      after.bytesWritten = before.bytesWritten := by
  rw [S3UploadStream.finalize] at outcome
  split at outcome
  · simp [unexpected] at outcome
  · rename_i finalized
    split at outcome
    · simp [unexpected] at outcome
    · rename_i aborted
      refine ⟨⟨Bool.not_eq_true _ ▸ finalized, Bool.not_eq_true _ ▸ aborted⟩, ?_⟩
      split at outcome
      · simp at outcome
      · rename_i before rest
        split at outcome
        · simp at outcome
        · rename_i uploads waited
          refine ⟨before, uploads, (context.send (.completeMultipartUpload context.key
            before.uploadId (sortByKey Prod.fst uploads.completed)) before.wire).1,
            rest, waited, ?_⟩
          rw [S3UploadStream.completeMultipartUpload] at outcome
          simp only [S3UploadStream.sortedParts] at outcome
          split at outcome
          · rename_i response answered
            split at outcome
            · rename_i success
              cases outcome
              exact ⟨rfl, .inr ⟨response, answered, success⟩, rfl, rfl⟩
            · simp [statusError] at outcome
          · rename_i answered
            cases outcome
            exact ⟨rfl, .inl answered, rfl, rfl⟩

theorem uploadRest_wire {result : Result Unit}
    (outcome : S3UploadStream.uploadRest context stream = (result, after)) :
    after.uploadId = stream.uploadId ∧
      (stream.partBuffer = [] ∧ after.wire = stream.wire ∨
        stream.partBuffer ≠ [] ∧ after.wire = (context.uploadPart stream.uploadId
          stream.currentPartNumber stream.partBuffer stream.wire).2) := by
  rw [S3UploadStream.uploadRest] at outcome
  split at outcome
  · rename_i empty
    cases outcome
    exact ⟨rfl, .inl ⟨empty, rfl⟩⟩
  · rename_i nonempty
    simp only at outcome
    split at outcome <;> cases outcome <;> exact ⟨rfl, .inr ⟨nonempty, rfl⟩⟩

/-- What the completion of an upload sends: the parts in the order of their numbers, which is
the one in which they were sent, with the good answers. -/
theorem finalize_ok {written : Bytes} (uploading : Uploading context written stream)
    {result : UploadResult}
    (outcome : S3UploadStream.finalize context stream = (.ok result, after)) :
    ∃ before listed answer,
      S3UploadStream.uploadRest context stream = (.ok (), before) ∧
      good listed = (sentParts before.wire.sent).map (SentPart.result context) ∧
      (answer, after.wire) = context.send
        (.completeMultipartUpload context.key stream.uploadId listed) before.wire ∧
      (answer = none ∨ ∃ response, answer = some response ∧ response.status = 200) ∧
      result.bytesUploaded = written.length ∧ after.bytesWritten = written.length := by
  rcases finalize_cases outcome with
    ⟨-, before, uploads, answer, rest, waited, sends, answered, reported, counted⟩
  rcases uploadRest_ok uploading rest with ⟨sent, header⟩
  have bytes : before.bytesWritten = written.length :=
    header.bytesWritten.trans uploading.bytesWritten
  have same := (Uploads.waitAllUploads_ok sent.accounts waited).1
  have numbers : ((sentParts before.wire.sent).map (SentPart.result context)).map Prod.fst =
      List.range' 1 (sentParts before.wire.sent).length := by
    rw [List.map_map]
    exact sent.numbers
  refine ⟨before, sortByKey Prod.fst uploads.completed, answer, rest,
    good_sortByKey same numbers, ?_, answered, reported.trans bytes, counted.trans bytes⟩
  rw [← header.uploadId]
  exact sends

end FileTrans.Cloud
