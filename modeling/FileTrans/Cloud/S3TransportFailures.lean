import FileTrans.Cloud.S3Completion
import FileTrans.Cloud.S3PartFailures
import FileTrans.Cloud.S3Returns

/-!
# Requests of an S3 upload that are lost

A request that fails in transport is taken for a success.  A lost part is found
out by the completion, which lists it; but a lost completion, or a lost
`PutObject`, is reported as a success with nothing stored.
-/

namespace FileTrans.Cloud

open FileTrans.Core FileTrans.Text FileTrans.Transition

namespace S3Context

variable (context : S3Context)

/-- The choice of a multipart upload. -/
def UsesMultipart (data : Bytes) : Prop :=
  context.multipart.enabled = true ∧ context.multipart.threshold ≤ data.length

instance (data : Bytes) : Decidable (context.UsesMultipart data) :=
  inferInstanceAs (Decidable (_ ∧ _))

/-- The result of a single `PutObject`. -/
def putResult (data : Bytes) (etag : Etag) : UploadResult where
  key := context.key
  etag := etag
  uploadId := none
  bytesUploaded := data.length

/-- `s3_storage::upload`, if it returns within so many passes of each loop. -/
def upload (connected : Bool) (passes : Nat) (data : Bytes) (wire : S3Wire) :
    Option (Result UploadResult × S3Wire) :=
  if ¬ connected then some (unexpected .notInitialized "Not connected", wire)
  else if context.UsesMultipart data then
    match (S3UploadStream.opened context wire).write context passes data with
    | none => none
    | some (.error failure, stream) =>
        some (.error failure, (stream.abortMultipartUpload context).wire)
    | some (.ok _, stream) =>
        let finished := stream.finalize context
        some (finished.1, finished.2.wire)
  else
    let answered := context.send (.putObject context.key data) wire
    match answered.1 with
    | some response =>
        if response.status ≠ 200 ∧ response.status ≠ 201 then
          some (statusError "S3 PutObject failed with status " response.status, answered.2)
        else
          some (.ok (context.putResult data (response.etag.getD (context.localEtag data))),
            answered.2)
    | none => some (.ok (context.putResult data (context.localEtag data)), answered.2)

/-- The number of the parts that the data are cut into. -/
def parts (data : Bytes) : Nat :=
  partCount data.length context.multipart.partSize

/-- The request that commits the object arrives; or the creation of the upload is lost and then
a part arrives, or the data cannot be cut, so that no success is reported. -/
def Commits (data : Bytes) : Prop :=
  if context.UsesMultipart data then
    context.network.fate (context.parts data + 1) = .served ∨
      (context.network.fate 0 = .lost ∧ ∃ part, 0 < part ∧ part ≤ context.parts data ∧
        context.network.fate part = .served) ∨
      context.multipart.Uncuttable data
  else context.network.fate 0 = .served

end S3Context

/-! ## Streams whose upload is unknown -/

variable {context : S3Context} {content data written : Bytes} {stream after : S3UploadStream}
  {passes : Nat}

/-- Of an unknown upload a part has a good result exactly if it was lost. -/
structure Forgotten (context : S3Context) (uploadId : UploadId) (wire : S3Wire) : Prop where
  unknown : Unknown context uploadId wire
  requests : wire.sent.length = (sentParts wire.sent).length + 1
  lost : ∀ index part, (sentParts wire.sent)[index]? = some part →
    ((∃ etag, (part.result context).2 = .ok etag) ↔ context.network.fate (index + 1) = .lost)

variable {wire : S3Wire} {server : S3Server} {upload count : Nat} {result : UploadResult}

theorem forgotten_uploadPart (transports : context.network.Transports) {uploadId : UploadId}
    (forgotten : Forgotten context uploadId wire) (number : Nat) (data : Bytes) :
    Forgotten context uploadId (context.uploadPart uploadId number data wire).2 := by
  rcases unknown_uploadPart transports forgotten.unknown number data with ⟨server, good⟩
  rcases sentParts_uploadPart context uploadId number data wire with ⟨answer, parts, result⟩
  constructor
  · rw [Unknown, server]
    exact forgotten.unknown
  · rw [length_uploadPart, parts, forgotten.requests, List.length_append]
    rfl
  · intro index part found
    rw [parts] at found
    rcases Nat.lt_trichotomy index (sentParts wire.sent).length with less | same | more
    · rw [List.getElem?_append_left less] at found
      exact forgotten.lost index part found
    · subst same
      rw [List.getElem?_concat_length] at found
      cases found
      rw [← forgotten.requests, ← good, result]
      rfl
    · rw [List.getElem?_eq_none] at found
      · contradiction
      · rw [List.length_append]
        exact more

theorem forgotten_opened (lost : context.network.fate 0 = .lost) :
    Forgotten context (S3UploadStream.opened context (.begin server)).uploadId
      (S3UploadStream.opened context (.begin server)).wire := by
  rcases S3UploadStream.sent_opened context server with ⟨length, none_sent⟩
  refine ⟨(opened_of_lost server lost).1, ?_, ?_⟩
  · rw [length, none_sent]
    rfl
  · intro index part found
    rw [none_sent] at found
    contradiction

/-! ## Completing -/

/-- The number of the request that completes the upload. -/
def S3UploadStream.commitNumber (stream : S3UploadStream) : Nat :=
  stream.wire.sent.length + if stream.partBuffer = [] then 0 else 1

theorem length_uploadRest {result : Result Unit}
    (outcome : stream.uploadRest context = (result, after)) :
    after.wire.sent.length = stream.commitNumber := by
  rw [S3UploadStream.commitNumber]
  rcases (uploadRest_wire outcome).2 with ⟨empty, wire⟩ | ⟨nonempty, wire⟩
  · rw [wire, if_pos empty]
    rfl
  · rw [wire, if_neg nonempty, length_uploadPart]

theorem results_of_kept (kept : Kept context upload wire) :
    ∀ part ∈ sentParts wire.sent, ∃ etag, (part.result context).2 = .ok etag := by
  intro part mem
  rcases kept.answers part mem with answered | answered
  · simp [SentPart.result, answered, S3Context.readPart]
  · simp [SentPart.result, answered, S3Context.readPart, S3Response.ofEtag]

theorem finalize_of_kept (transports : context.network.Transports)
    (uploadId : stream.uploadId = .issued upload) (kept : Kept context upload stream.wire)
    (uploading : Uploading context written stream)
    (outcome : stream.finalize context = (.ok result, after)) :
    after.wire.server.objects context.key = some written ↔
      context.network.fate stream.commitNumber = .served ∨
        stream.wire.server.objects context.key = some written := by
  rcases finalize_ok uploading outcome with
    ⟨before, listed, answer, rest, names, sends, answered, -⟩
  have sent := (uploadRest_ok uploading rest).1
  have distinct : ((sentParts before.wire.sent).map SentPart.number).Nodup := by
    rw [sent.numbers]
    exact List.nodup_range'
  have rested : Kept context upload before.wire ∧
      before.wire.server.objects = stream.wire.server.objects := by
    rcases (uploadRest_wire rest).2 with ⟨-, wire⟩ | ⟨-, wire⟩
    · rw [wire]
      exact ⟨kept, rfl⟩
    · rw [wire, uploadId]
      have uploaded := kept_uploadPart transports kept stream.currentPartNumber stream.partBuffer
      exact ⟨uploaded.1, uploaded.2.2⟩
  rw [uploadId] at sends
  rw [← length_uploadRest rest]
  rcases transports before.wire.sent.length with served | lost
  · rw [complete_of_kept rested.1 distinct names served sends answered, sent.content]
    exact iff_of_true rfl (.inl served)
  · rw [(complete_of_lost lost sends).2, rested.2]
    simp [lost]

theorem finalize_of_unknown (transports : context.network.Transports)
    (unknown : Unknown context stream.uploadId stream.wire)
    (outcome : stream.finalize context = (.ok result, after)) :
    context.network.fate stream.commitNumber = .lost ∧
      after.wire.server.objects = stream.wire.server.objects := by
  rcases finalize_cases outcome with ⟨-, before, uploads, answer, rest, -, sends, answered, -⟩
  rcases uploadRest_wire rest with ⟨uploadId, wire⟩
  have rested : Unknown context before.uploadId before.wire ∧
      before.wire.server = stream.wire.server := by
    rw [uploadId]
    rcases wire with ⟨-, wire⟩ | ⟨-, wire⟩
    · rw [wire]
      exact ⟨unknown, rfl⟩
    · have same := (unknown_uploadPart transports unknown stream.currentPartNumber
        stream.partBuffer).1
      rw [wire]
      exact ⟨by rw [Unknown, same]; exact unknown, same⟩
  rw [← length_uploadRest rest]
  rcases transports before.wire.sent.length with served | lost
  · exact absurd answered (complete_of_unknown rested.1 served sends)
  · exact ⟨lost, by rw [(complete_of_lost lost sends).2, rested.2]⟩

/-! ## Runs of calls -/

/-- A stream is closed, its upload is kept and holds what was written, or its upload is
unknown. -/
inductive Tracked (context : S3Context) (objects : Bytes → Option Bytes) (written : Bytes)
    (stream : S3UploadStream) : Prop
  | closed (closed : stream.finalized = true ∨ stream.aborted = true)
  | kept (upload : Nat) (uploadId : stream.uploadId = .issued upload)
      (kept : Kept context upload stream.wire) (uploading : Uploading context written stream)
      (objects : stream.wire.server.objects = objects)
  | unknown (unknown : Unknown context stream.uploadId stream.wire)
      (objects : stream.wire.server.objects = objects)

variable {objects : Bytes → Option Bytes}

theorem tracked_opened (transports : context.network.Transports) (server : S3Server) :
    Tracked context server.objects [] (.opened context (.begin server)) := by
  rcases transports 0 with served | lost
  · rcases opened_of_served server served with ⟨uploadId, kept, same⟩
    exact .kept _ uploadId kept (S3UploadStream.uploading_opened context server) same
  · rcases opened_of_lost server lost with ⟨unknown, same⟩
    exact .unknown unknown (by rw [same])

theorem write_of_kept (transports : context.network.Transports)
    (uploadId : stream.uploadId = .issued upload) (kept : Kept context upload stream.wire)
    (uploading : Uploading context written stream) {result : Result Nat}
    (outcome : stream.write context passes data = some (result, after)) :
    result = .ok data.length ∧ Uploading context (written ++ data) after ∧
      after.uploadId = stream.uploadId ∧ Kept context upload after.wire ∧
      after.wire.server.objects = stream.wire.server.objects := by
  have wire := S3UploadStream.write_wire
    (fun wire => Kept context upload wire ∧
      wire.server.objects = stream.wire.server.objects)
    (by
      rintro wire number data ⟨kept, same⟩
      rw [uploadId]
      have uploaded := kept_uploadPart transports kept number data
      exact ⟨uploaded.1, uploaded.2.2.trans same⟩)
    ⟨kept, rfl⟩ outcome
  cases result with
  | error failure =>
      rcases (S3UploadStream.write_error uploading outcome).1 with ⟨part, sent, failure, failed⟩
      rcases results_of_kept wire.1 part sent with ⟨etag, good⟩
      rw [failed] at good
      contradiction
  | ok count =>
      rcases S3UploadStream.write_ok uploading outcome with ⟨later, rfl, same⟩
      exact ⟨rfl, later, same, wire.1, wire.2⟩

theorem write_of_unknown (transports : context.network.Transports)
    (unknown : Unknown context stream.uploadId stream.wire) {result : Result Nat}
    (outcome : stream.write context passes data = some (result, after)) :
    Unknown context after.uploadId after.wire ∧
      after.wire.server = stream.wire.server := by
  have wire := S3UploadStream.write_wire
    (fun wire => Unknown context stream.uploadId wire ∧ wire.server = stream.wire.server)
    (by
      rintro wire number data ⟨unknown, same⟩
      have server := (unknown_uploadPart transports unknown number data).1
      exact ⟨by rw [Unknown, server]; exact unknown, server.trans same⟩)
    ⟨unknown, rfl⟩ outcome
  rw [(S3UploadStream.write_header outcome).1]
  exact wire

theorem tracked_step (transports : context.network.Transports)
    (tracked : Tracked context objects written stream) (call : UploadCall) :
    Tracked context objects (written ++ call.adds (s3Step context passes stream call).1)
      (s3Step context passes stream call).2 := by
  cases call with
  | finalize =>
      cases tracked with
      | closed closed =>
          rw [(s3Step_of_closed closed .finalize).1]
          exact .closed closed
      | kept upload uploadId kept uploading same => exact .closed (finalize_closed rfl)
      | unknown unknown same => exact .closed (finalize_closed rfl)
  | write data =>
      cases tracked with
      | closed closed =>
          rw [(s3Step_of_closed closed _).1]
          exact .closed closed
      | kept upload uploadId kept uploading same =>
          rw [s3Step]
          cases outcome : stream.write context passes data with
          | none =>
              simp only [UploadCall.adds, List.append_nil]
              exact .kept upload uploadId kept uploading same
          | some returned =>
              rcases returned with ⟨result, after⟩
              rcases write_of_kept transports uploadId kept uploading outcome with
                ⟨rfl, later, sameId, keptLater, server⟩
              exact .kept upload (sameId.trans uploadId) keptLater later (server.trans same)
      | unknown unknown same =>
          rw [s3Step]
          cases outcome : stream.write context passes data with
          | none => exact .unknown unknown same
          | some returned =>
              rcases returned with ⟨result, after⟩
              rcases write_of_unknown transports unknown outcome with ⟨later, server⟩
              exact .unknown later (by rw [server, same])

theorem tracked_final (transports : context.network.Transports) (server : S3Server)
    (calls : List UploadCall) :
    Tracked context server.objects
      (writtenBytes (s3Step context passes) (.opened context (.begin server)) calls)
      (final (s3Step context passes) (.opened context (.begin server)) calls) := by
  have always := guarded_of_forall_mem (s3Step context passes) (.opened context (.begin server))
    (fun call (_ : call ∈ calls) => trivial)
  exact writtenBytes_invariant (Tracked context server.objects)
    (fun _ _ call tracked _ => tracked_step transports tracked call) always
    (tracked_opened transports server)

/-- In every run, a completion that reports success has stored the bytes of the writes that
returned success exactly if it arrived, or if they were there when the stream was opened. -/
theorem reported_iff (transports : context.network.Transports) (server : S3Server)
    (before : List UploadCall) (call : UploadCall) :
    let initial := S3UploadStream.opened context (.begin server)
    let last := final (s3Step context passes) initial before
    ReportsSuccess (s3Step context passes last call).1 →
      ((s3Step context passes last call).2.wire.server.objects context.key =
          some (writtenBytes (s3Step context passes) initial before) ↔
        context.network.fate last.commitNumber = .served ∨
          server.objects context.key =
            some (writtenBytes (s3Step context passes) initial before)) := by
  intro initial last reports
  have tracked : Tracked context server.objects
      (writtenBytes (s3Step context passes) initial before) last :=
    tracked_final transports server before
  cases call with
  | write data =>
      rw [s3Step] at reports
      split at reports <;> contradiction
  | finalize =>
      cases outcome : last.finalize context with
      | mk result after =>
          rw [s3Step] at reports ⊢
          simp only [outcome] at reports ⊢
          cases result with
          | error failure => contradiction
          | ok result =>
              cases tracked with
              | closed closed =>
                  rcases finalize_cases outcome with ⟨⟨finalized, aborted⟩, -⟩
                  have isClosed : last.finalized = true ∨ last.aborted = true := closed
                  simp [finalized, aborted] at isClosed
              | kept upload uploadId kept uploading same =>
                  rw [finalize_of_kept transports uploadId kept uploading outcome, same]
              | unknown unknown same =>
                  rcases finalize_of_unknown transports unknown outcome with ⟨lost, unchanged⟩
                  rw [unchanged, same, lost]
                  simp

/-! ## A single upload -/

theorem upload_multipart_iff (context : S3Context) {last : S3Wire}
    (multipart : context.UsesMultipart data) :
    context.upload true passes data wire = some (.ok result, last) ↔
      ∃ count stream after,
        (S3UploadStream.opened context wire).write context passes data =
          some (.ok count, stream) ∧
        stream.finalize context = (.ok result, after) ∧ after.wire = last := by
  rw [S3Context.upload, if_neg (by simp), if_pos multipart]
  constructor
  · intro outcome
    split at outcome
    · contradiction
    · simp at outcome
    · rename_i count stream wrote
      cases finished : stream.finalize context with
      | mk returned after =>
          rw [finished] at outcome
          rcases Prod.mk.inj (Option.some.inj outcome) with ⟨rfl, rfl⟩
          exact ⟨count, stream, after, wrote, finished, rfl⟩
  · rintro ⟨count, stream, after, wrote, finished, rfl⟩
    rw [wrote]
    simp only [finished]

theorem write_nil (context : S3Context) (server : S3Server) (passes : Nat) :
    (S3UploadStream.opened context (.begin server)).write context (passes + 1) [] =
      some (.ok 0, .opened context (.begin server)) := by
  rcases S3UploadStream.opened_eq context (.begin server) with ⟨uploadId, initialized, same⟩
  rw [same]
  rfl

theorem commitNumber_of_uploading (uploading : Uploading context written stream)
    (positive : 0 < context.multipart.partSize) :
    stream.commitNumber = context.parts written + 1 := by
  rcases uploading with ⟨-, ⟨handed, steady, content⟩, -, room, -⟩
  have length : (sentParts stream.wire.sent).length * context.multipart.partSize +
      stream.partBuffer.length = written.length := by
    rw [← content, List.length_append, steady.length_content]
  rw [S3Context.parts, partCount_eq positive (room positive) length,
    S3UploadStream.commitNumber, steady.requests]
  simp only [List.length_eq_zero_iff]
  omega

theorem write_ne_ok_of_uncuttable (uncuttable : context.multipart.Uncuttable data) :
    (S3UploadStream.opened context (.begin server)).write context passes data ≠
      some (.ok count, stream) := by
  intro outcome
  rcases S3UploadStream.opened_eq context (.begin server) with ⟨uploadId, initialized, same⟩
  rw [same, S3UploadStream.write] at outcome
  simp only [S3UploadStream.create, Bool.false_eq_true, or_self, if_false] at outcome
  split at outcome
  · contradiction
  · simp at outcome
  · rename_i held next filled
    apply MultipartConfig.not_uncuttable_of_fill _ filled uncuttable
    intro piece rest after zero flushed
    rcases S3UploadStream.flush_ok flushed with ⟨uploads, room, -⟩
    rw [zero] at room
    exact absurd room Uploads.makeRoom_zero_ne_ok

theorem completeMultipartUpload_of_lost
    (lost : context.network.fate stream.wire.sent.length = .lost) :
    ∃ result, (stream.completeMultipartUpload context).1 = .ok result := by
  have answered : (context.send (.completeMultipartUpload context.key stream.uploadId
      stream.sortedParts) stream.wire).1 = none :=
    (exchange_of_lost lost).1
  rw [S3UploadStream.completeMultipartUpload]
  simp only [answered]
  exact ⟨_, rfl⟩

theorem reaches_completion {good : S3Wire → Prop}
    (answers : GoodAnswers context (S3UploadStream.opened context (.begin server)).uploadId
      data.length good) (wire : good (S3UploadStream.opened context (.begin server)).wire)
    (cuttable : ¬ context.multipart.Uncuttable data) :
    ∃ (passes count : Nat) (stream before : S3UploadStream) (uploads : Uploads Nat Etag),
      (S3UploadStream.opened context (.begin server)).write context passes data =
        some (.ok count, stream) ∧
      stream.finalize context = S3UploadStream.completeMultipartUpload context
        { before with uploads, finalized := true } ∧
      stream.commitNumber = context.parts data + 1 ∧
      before.wire.sent.length = context.parts data + 1 := by
  by_cases empty : data = []
  · subst empty
    refine ⟨1, 0, _, .opened context (.begin server), .start, write_nil context server 0, ?_⟩
    rcases S3UploadStream.opened_eq context (.begin server) with ⟨uploadId, initialized, same⟩
    rw [same, S3Context.parts, List.length_nil, partCount_zero]
    exact ⟨rfl, rfl, rfl⟩
  · have positive : 0 < context.multipart.partSize := by
      by_contra zero
      exact cuttable ⟨empty, .inl (Nat.eq_zero_of_not_pos zero)⟩
    have slots : context.multipart.partSize ≤ data.length →
        0 < context.multipart.maxConcurrentParts := by
      intro long
      by_contra zero
      exact cuttable ⟨empty, .inr ⟨Nat.eq_zero_of_not_pos zero, long⟩⟩
    have bounded := context.network.finishes_bounded (context.parts data) data.length
    rcases bounded with ⟨bound, enough, bounded⟩
    have uploading := S3UploadStream.uploading_opened context server
    rcases S3UploadStream.write_returns answers positive slots bounded uploading
      (promising_opened wire) (List.prefix_refl _) enough with ⟨stream, wrote, promising⟩
    rcases S3UploadStream.write_ok uploading wrote with ⟨uploading, -, uploadId⟩
    rw [← uploadId] at answers
    rcases S3UploadStream.finalize_returns answers positive uploading promising with
      ⟨before, uploads, -, -, finished, -, requests⟩
    exact ⟨_, _, stream, before, uploads, wrote, finished,
      commitNumber_of_uploading uploading positive, requests⟩

theorem positive_of_write (nonempty : data ≠ [])
    (wrote : (S3UploadStream.opened context (.begin server)).write context passes data =
      some (.ok count, stream)) : 0 < context.multipart.partSize := by
  by_contra zero
  exact write_ne_ok_of_uncuttable ⟨nonempty, .inl (Nat.eq_zero_of_not_pos zero)⟩ wrote

theorem commitNumber_of_write
    (wrote : (S3UploadStream.opened context (.begin server)).write context passes data =
      some (.ok count, stream)) : stream.commitNumber = context.parts data + 1 := by
  by_cases empty : data = []
  · subst empty
    cases passes with
    | zero =>
        rcases S3UploadStream.opened_eq context (.begin server) with
          ⟨uploadId, initialized, same⟩
        rw [same, S3UploadStream.write] at wrote
        simp [fill, S3UploadStream.create] at wrote
    | succ passes =>
        rw [write_nil] at wrote
        rw [← (Prod.mk.inj (Option.some.inj wrote)).2, S3Context.parts, List.length_nil,
          partCount_zero]
        rcases S3UploadStream.opened_eq context (.begin server) with
          ⟨uploadId, initialized, same⟩
        rw [same]
        rfl
  · have uploading := (S3UploadStream.write_ok
      (S3UploadStream.uploading_opened context server) wrote).1
    exact commitNumber_of_uploading uploading (positive_of_write empty wrote)

/-- A `write` and a `finalize` that succeed have stored the data exactly if the completion
arrived, or if they were there before. -/
theorem finished_iff (transports : context.network.Transports)
    (wrote : (S3UploadStream.opened context (.begin server)).write context passes data =
      some (.ok count, stream)) (finished : stream.finalize context = (.ok result, after)) :
    after.wire.server.objects context.key = some data ↔
      context.network.fate (context.parts data + 1) = .served ∨
        server.objects context.key = some data := by
  rw [← commitNumber_of_write wrote]
  rcases transports 0 with served | lost
  · rcases opened_of_served server served with ⟨uploadId, kept, same⟩
    rcases write_of_kept transports uploadId kept (S3UploadStream.uploading_opened context server)
      wrote with ⟨-, uploading, sameId, later, objects⟩
    rw [List.nil_append] at uploading
    rw [finalize_of_kept transports (sameId.trans uploadId) later uploading finished, objects,
      same]
  · rcases opened_of_lost server lost with ⟨unknown, same⟩
    rcases write_of_unknown transports unknown wrote with ⟨later, objects⟩
    rcases finalize_of_unknown transports later finished with ⟨commitLost, unchanged⟩
    rw [unchanged, objects, same, commitLost]
    simp

theorem parts_lost_of_success (transports : context.network.Transports)
    (lost : context.network.fate 0 = .lost)
    (wrote : (S3UploadStream.opened context (.begin server)).write context passes data =
      some (.ok count, stream)) (finished : stream.finalize context = (.ok result, after))
    (positive : 0 < context.multipart.partSize) :
    ∀ part, 0 < part → part ≤ context.parts data → context.network.fate part = .lost := by
  rcases S3UploadStream.write_ok (S3UploadStream.uploading_opened context server) wrote with
    ⟨uploading, -, uploadId⟩
  rw [List.nil_append] at uploading
  have forgotten : Forgotten context stream.uploadId stream.wire := by
    rw [uploadId]
    exact S3UploadStream.write_wire (Forgotten context _)
      (fun wire number data forgotten => forgotten_uploadPart transports forgotten number data)
      (forgotten_opened lost) wrote
  rcases finalize_ok uploading finished with ⟨before, listed, answer, rest, names, -⟩
  have rested : Forgotten context stream.uploadId before.wire := by
    rcases (uploadRest_wire rest).2 with ⟨-, wire⟩ | ⟨-, wire⟩
    · rw [wire]
      exact forgotten
    · rw [wire]
      exact forgotten_uploadPart transports forgotten _ _
  have requests := length_uploadRest rest
  rw [commitNumber_of_uploading uploading positive, rested.requests] at requests
  intro part some_part le
  have bound : part - 1 < (sentParts before.wire.sent).length := by omega
  have found := List.getElem?_eq_getElem bound
  have same : part - 1 + 1 = part := Nat.succ_pred_eq_of_pos some_part
  rw [← same]
  apply (rested.lost _ _ found).mp
  have good_entry : ((sentParts before.wire.sent)[part - 1]).result context ∈ good listed := by
    rw [names]
    exact List.mem_map_of_mem (List.getElem_mem bound)
  rcases List.mem_map.mp good_entry with ⟨entry, -, equal⟩
  exact ⟨entry.2, (congrArg Prod.snd equal).symm⟩

theorem upload_multipart_stores_iff (transports : context.network.Transports) (server : S3Server)
    (multipart : context.UsesMultipart data) :
    (∀ passes result after, context.upload true passes data (.begin server) =
        some (.ok result, after) → after.server.objects context.key = some data) ↔
      context.Commits data ∨ server.objects context.key = some data := by
  rw [S3Context.Commits, if_pos multipart]
  constructor
  · intro stores
    by_contra neither
    push Not at neither
    rcases neither with ⟨⟨notServed, notForgotten, cuttable⟩, absent⟩
    have commitLost := (transports (context.parts data + 1)).resolve_left notServed
    have reaches : ∃ (passes count : Nat) (stream before : S3UploadStream)
        (uploads : Uploads Nat Etag),
        (S3UploadStream.opened context (.begin server)).write context passes data =
          some (.ok count, stream) ∧
        stream.finalize context = S3UploadStream.completeMultipartUpload context
          { before with uploads, finalized := true } ∧
        stream.commitNumber = context.parts data + 1 ∧
        before.wire.sent.length = context.parts data + 1 := by
      rcases transports 0 with served | lost
      · rcases opened_of_served server served with ⟨uploadId, kept, -⟩
        apply reaches_completion ⟨?_⟩ kept cuttable
        intro wire number data kept _
        rw [uploadId]
        have uploaded := kept_uploadPart transports kept number data
        exact ⟨uploaded.2.1, uploaded.1⟩
      · have unknown := (opened_of_lost server lost).1
        apply reaches_completion ⟨?_⟩ unknown cuttable
        intro wire number part unknown le
        rcases unknown_uploadPart transports unknown number part with ⟨same, good⟩
        refine ⟨good.mpr ?_, by rw [Unknown, same]; exact unknown⟩
        rcases Nat.eq_zero_or_pos wire.sent.length with zero | positive
        · rw [zero]
          exact lost
        · exact (transports _).resolve_left (notForgotten lost _ positive le)
    rcases reaches with ⟨passes, count, stream, before, uploads, wrote, finished, number, sent⟩
    have lost : context.network.fate
        ({ before with uploads, finalized := true } : S3UploadStream).wire.sent.length = .lost := by
      rw [← commitLost, ← sent]
    rcases completeMultipartUpload_of_lost lost with ⟨result, success⟩
    cases outcome : stream.finalize context with
    | mk returned after =>
        have returns : returned = .ok result := by
          rw [← success, ← finished, outcome]
        subst returns
        have stored := stores passes result after.wire
          ((upload_multipart_iff context multipart).mpr ⟨count, stream, after, wrote, outcome, rfl⟩)
        exact ((finished_iff transports wrote outcome).mp stored).elim notServed absent
  · intro condition passes result last success
    rcases (upload_multipart_iff context multipart).mp success with
      ⟨count, stream, after, wrote, finished, rfl⟩
    apply (finished_iff transports wrote finished).mpr
    rcases condition with (served | ⟨lost, part, some_part, le, served⟩ | uncuttable) | stored
    · exact .inl served
    · have nonempty : data ≠ [] := by
        rintro rfl
        rw [S3Context.parts, List.length_nil, partCount_zero] at le
        exact absurd some_part (Nat.not_lt.mpr le)
      have everyLost := parts_lost_of_success transports lost wrote finished
        (positive_of_write nonempty wrote) part some_part le
      rw [everyLost] at served
      contradiction
    · exact absurd wrote (write_ne_ok_of_uncuttable uncuttable)
    · exact .inr stored

theorem upload_put_stores_iff (transports : context.network.Transports) (server : S3Server)
    (single : ¬ context.UsesMultipart data) :
    (∀ passes result after, context.upload true passes data (.begin server) =
        some (.ok result, after) → after.server.objects context.key = some data) ↔
      context.Commits data ∨ server.objects context.key = some data := by
  rw [S3Context.Commits, if_neg single]
  simp only [S3Context.upload, if_neg single, not_true_eq_false, if_false]
  rcases transports 0 with served | lost
  · apply iff_of_true _ (.inl served)
    intro passes result after outcome
    have step : context.send (.putObject context.key data) (.begin server) =
        (some (.ofEtag (context.etagOf data)), ⟨server.put context.key data,
          [(.putObject context.key data, some (.ofEtag (context.etagOf data)))]⟩) := by
      simp [S3Context.send, exchange, deliver, Wire.begin, served, s3Service, S3Server.serve]
    rw [step] at outcome
    simp only [S3Response.ofEtag, ne_eq, not_true_eq_false, false_and, if_false] at outcome
    cases outcome
    exact Function.update_self _ _ _
  · have step : context.send (.putObject context.key data) (.begin server) =
        (none, ⟨server, [(.putObject context.key data, none)]⟩) := by
      simp [S3Context.send, exchange, deliver, Wire.begin, lost]
    rw [step, lost]
    simp only [reduceCtorEq, false_or]
    constructor
    · intro stores
      exact stores 0 _ _ rfl
    · intro stored passes result after outcome
      cases outcome
      exact stored

/-- An upload that reports success has stored its data exactly if the request that commits them
arrives, or no success can be reported, or the data were there before; and a stream that reports
success has stored what was written to it exactly if its completion arrived, or that was there
before. -/
theorem stored_iff (context : S3Context) (transports : context.network.Transports)
    (server : S3Server) :
    (∀ data,
      (∀ passes result after, context.upload true passes data (.begin server) =
          some (.ok result, after) → after.server.objects context.key = some data) ↔
        context.Commits data ∨ server.objects context.key = some data) ∧
    (∀ passes before call,
      let initial := S3UploadStream.opened context (.begin server)
      let last := final (s3Step context passes) initial before
      ReportsSuccess (s3Step context passes last call).1 →
        ((s3Step context passes last call).2.wire.server.objects context.key =
            some (writtenBytes (s3Step context passes) initial before) ↔
          context.network.fate last.commitNumber = .served ∨
            server.objects context.key =
              some (writtenBytes (s3Step context passes) initial before))) := by
  constructor
  · intro data
    by_cases multipart : context.UsesMultipart data
    · exact upload_multipart_stores_iff transports server multipart
    · exact upload_put_stores_iff transports server multipart
  · intro passes before call
    exact reported_iff transports server before call

/-- Where every request arrives, a multipart upload of two parts stores both. -/
theorem stored_sample : ∃ passes result after,
    (byteParts fun _ => .served).upload true passes [1, 2] (.begin emptyServer) =
        some (.ok result, after) ∧
      after.server.objects [0x6b] = some [1, 2] := by
  have stores := ((stored_iff (byteParts fun _ => .served) (fun _ => .inl rfl) emptyServer).1
    [1, 2]).mpr (by
      rw [S3Context.Commits, if_pos (by decide)]
      exact .inl (.inl rfl))
  exact ⟨5, _, _, rfl, stores 5 _ _ rfl⟩

/-- The completion of an upload in one part is lost. -/
def completionLost (number : Nat) : Fate :=
  if number = 2 then .lost else .served

/-- The upload reports success, and the server has no object. -/
theorem success_without_object :
    ¬ ∀ (context : S3Context) (_ : context.network.Transports) (server : S3Server)
        (data : Bytes) (passes : Nat) (result : UploadResult) (after : S3Wire),
      context.upload true passes data (.begin server) = some (.ok result, after) →
      after.server.objects context.key = some data := by
  intro claim
  have transports : (byteParts completionLost).network.Transports := by
    intro number
    change completionLost number = _ ∨ completionLost number = _
    rw [completionLost]
    split
    · exact .inr rfl
    · exact .inl rfl
  have stored := claim (byteParts completionLost) transports emptyServer [1] 2 _ _ rfl
  revert stored
  decide

end FileTrans.Cloud
