import FileTrans.Cloud.S3Parts

/-!
# Failed parts of an S3 upload

A call that takes the failure of a part returns it, and leaves an entry without
a future behind.  The next call drops the entry without a word; from then on
nothing knows of the part that is missing.
-/

namespace FileTrans.Cloud

open FileTrans.Core FileTrans.Transition

/-! ## Runs of calls -/

/-- One call.  One that does not return within so many passes of its loops is left out of the
run. -/
def s3Step (context : S3Context) (passes : Nat) :
    Step S3UploadStream UploadCall (Option UploadReturn) := fun stream call =>
  match call with
  | .write data =>
      match stream.write context passes data with
      | none => (none, stream)
      | some (result, stream) => (some (.wrote result), stream)
  | .finalize =>
      let finished := stream.finalize context
      (some (.finished finished.1), finished.2)

/-! ## Parts that are answered and listed -/

/-- The numbers in the body of the completion, if that was the last request. -/
def listedNumbers (sent : List (S3Request × Option S3Response)) : List Nat :=
  match sent.getLast? with
  | some (.completeMultipartUpload _ _ parts, _) => parts.map Prod.fst
  | _ => []

/-- Every part that the stream has begun was answered with success and is listed. -/
def AllListed (stream : S3UploadStream) : Prop :=
  ∀ part ∈ sentParts stream.wire.sent,
    part.Accepted ∧ part.number ∈ listedNumbers stream.wire.sent

instance (stream : S3UploadStream) : Decidable (AllListed stream) :=
  inferInstanceAs (Decidable (∀ part ∈ sentParts stream.wire.sent, _))

/-- Every request reaches the server and is answered. -/
def Network.Answers (network : Network) : Prop :=
  ∀ number, network.fate number = .served ∨ ∃ status, network.fate number = .refused status

/-- The stream is closed, or no failure has been delivered from an entry that is still in the
list. -/
def NothingTaken (stream : S3UploadStream) (_ : UploadCall) : Prop :=
  stream.finalized = true ∨ Untaken stream.uploads.pending

instance (stream : S3UploadStream) (call : UploadCall) : Decidable (NothingTaken stream call) :=
  inferInstanceAs (Decidable (_ ∨ _))

/-! ## Every answer is there -/

variable {context : S3Context} {written : Bytes} {stream after : S3UploadStream} {passes : Nat}

/-- A network that answers gives every part an answer. -/
def Answered (wire : S3Wire) : Prop :=
  ∀ part ∈ sentParts wire.sent, part.answer.isSome

theorem send_isSome (answers : context.network.Answers) (request : S3Request) (wire : S3Wire) :
    (context.send request wire).1.isSome := by
  rcases answers wire.sent.length with served | ⟨status, refused⟩
  · rw [S3Context.send, (exchange_of_served served).1]
    rfl
  · rw [S3Context.send, (exchange_of_refused refused).1]
    rfl

theorem answered_uploadPart (answers : context.network.Answers) {wire : S3Wire}
    (answered : Answered wire) (uploadId : UploadId) (number : Nat) (data : Bytes) :
    Answered (context.uploadPart uploadId number data wire).2 := by
  intro part mem
  have parts : sentParts (context.uploadPart uploadId number data wire).2.sent =
      sentParts wire.sent ++ [⟨number, data,
        (context.send (.uploadPart context.key number uploadId data) wire).1⟩] :=
    sentParts_append _ _
  rw [parts] at mem
  rcases List.mem_append.mp mem with mem | mem
  · exact answered part mem
  · rw [List.mem_singleton.mp mem]
    exact send_isSome answers _ _

theorem accepted_of_result {part : SentPart} (answered : part.answer.isSome) {etag : Etag}
    (result : (part.result context).2 = .ok etag) : part.Accepted := by
  rcases part with ⟨number, data, answer⟩
  rcases Option.isSome_iff_exists.mp answered with ⟨response, rfl⟩
  refine ⟨response, rfl, ?_⟩
  rw [SentPart.result, S3Context.readPart] at result
  split at result
  · assumption
  · simp [statusError] at result

theorem answered_uploadRest (answers : context.network.Answers) (answered : Answered stream.wire)
    {result : Result Unit} (outcome : stream.uploadRest context = (result, after)) :
    Answered after.wire := by
  rcases (uploadRest_wire outcome).2 with ⟨-, wire⟩ | ⟨-, wire⟩
  · rw [wire]
    exact answered
  · rw [wire]
    exact answered_uploadPart answers answered _ _ _

theorem allListed_of_finalize (uploading : Uploading context written stream)
    (answers : context.network.Answers) (answered : Answered stream.wire) {result : UploadResult}
    (outcome : stream.finalize context = (.ok result, after)) : AllListed after := by
  rcases finalize_ok uploading outcome with ⟨before, listed, answer, rest, same, sent, -, -⟩
  have answered := answered_uploadRest answers answered rest
  have wire : after.wire.sent = before.wire.sent ++
      [(.completeMultipartUpload context.key stream.uploadId listed, answer)] := by
    rcases Prod.mk.inj sent with ⟨rfl, wire⟩
    rw [wire]
  have parts : sentParts after.wire.sent = sentParts before.wire.sent := by
    rw [wire, sentParts_append]
    exact List.append_nil _
  have numbers : listedNumbers after.wire.sent = listed.map Prod.fst := by
    rw [listedNumbers, wire, List.getLast?_concat]
  intro part mem
  rw [parts] at mem
  have entry : part.result context ∈ good listed := by
    rw [same]
    exact List.mem_map_of_mem mem
  rcases List.mem_map.mp entry with ⟨⟨number, etag⟩, found, equal⟩
  rcases Prod.mk.inj equal with ⟨rfl, good⟩
  constructor
  · exact accepted_of_result (answered part mem) good.symm
  · rw [numbers]
    exact List.mem_map_of_mem found

/-! ## Runs in which no failure is left behind -/

/-- A stream is closed, has delivered a failure, or is uploading. -/
inductive Stage (context : S3Context) (stream : S3UploadStream) : Prop
  | closed (closed : stream.finalized = true ∨ stream.aborted = true)
  | delivered (taken : ∀ call, ¬ NothingTaken stream call)
  | uploading (written : Bytes) (uploading : Uploading context written stream)
      (answered : Answered stream.wire)

theorem s3Step_of_closed (closed : stream.finalized = true ∨ stream.aborted = true)
    (call : UploadCall) :
    (s3Step context passes stream call).2 = stream ∧
      ¬ ReportsSuccess (s3Step context passes stream call).1 := by
  cases call with
  | write data =>
      simp [s3Step, S3UploadStream.write, closed, ReportsSuccess, unexpected]
  | finalize =>
      rcases closed with finalized | aborted
      · simp [s3Step, S3UploadStream.finalize, finalized, ReportsSuccess, unexpected]
      · cases finalized : stream.finalized <;>
          simp [s3Step, S3UploadStream.finalize, finalized, aborted, ReportsSuccess, unexpected]

theorem stage_step (answers : context.network.Answers) {call : UploadCall}
    (stage : Stage context stream) (untaken : NothingTaken stream call) :
    Stage context (s3Step context passes stream call).2 := by
  cases stage with
  | closed closed =>
      rw [(s3Step_of_closed closed call).1]
      exact .closed closed
  | delivered taken => exact absurd untaken (taken call)
  | uploading written uploading answered =>
      cases call with
      | write data =>
          rw [s3Step]
          cases outcome : stream.write context passes data with
          | none => exact .uploading written uploading answered
          | some returned =>
              rcases returned with ⟨result, after⟩
              have wire := S3UploadStream.write_wire Answered
                (fun wire number data answered =>
                  answered_uploadPart answers answered stream.uploadId number data)
                answered outcome
              cases result with
              | error failure =>
                  have stillOpen : after.finalized = false :=
                    (S3UploadStream.write_header outcome).2.trans uploading.active.1
                  have taken := (S3UploadStream.write_error uploading outcome).2
                  refine .delivered fun call untaken => ?_
                  rcases untaken with closed | untaken
                  · simp [stillOpen] at closed
                  · exact taken untaken
              | ok count =>
                  exact .uploading _ (S3UploadStream.write_ok uploading outcome).1 wire
      | finalize => exact .closed (finalize_closed rfl)

theorem stage_opened (context : S3Context) (server : S3Server) :
    Stage context (.opened context (.begin server)) := by
  apply Stage.uploading [] (S3UploadStream.uploading_opened context server)
  rcases S3UploadStream.opened_eq context (.begin server) with ⟨uploadId, initialized, same⟩
  rw [same]
  intro part mem
  contradiction

/-- In a run that makes no call after a delivered failure, a completed upload lists every part
that was begun, and every one of them was answered with success. -/
theorem completed_lists_all (context : S3Context) (answers : context.network.Answers)
    (server : S3Server) (passes : Nat) (calls : List UploadCall)
    (guarded : Guarded (s3Step context passes) NothingTaken (.opened context (.begin server))
      calls) :
    ∀ before call rest, calls = before ++ call :: rest →
      ReportsSuccess (s3Step context passes
        (final (s3Step context passes) (.opened context (.begin server)) before) call).1 →
      AllListed (final (s3Step context passes) (.opened context (.begin server))
        (before ++ [call])) := by
  rintro before call rest rfl reports
  rw [final_concat]
  have untaken := (guarded_append_iff.mp guarded).2.1
  have stage := guarded.firstPart.invariant (Stage context)
    (fun _ _ stage untaken => stage_step answers stage untaken) (stage_opened context server)
  cases stage with
  | closed closed => exact absurd reports (s3Step_of_closed closed call).2
  | delivered taken => exact absurd untaken (taken call)
  | uploading written uploading answered =>
      cases call with
      | write data =>
          rw [s3Step] at reports
          split at reports <;> contradiction
      | finalize =>
          rw [s3Step] at reports ⊢
          cases outcome : S3UploadStream.finalize context
            (final (s3Step context passes) (.opened context (.begin server)) before) with
          | mk result after =>
              rw [outcome] at reports
              cases result with
              | error failure => contradiction
              | ok result => exact allListed_of_finalize uploading answers answered outcome

/-- Parts of one byte, one at a time, over a network with these fates. -/
def byteParts (fate : Nat → Fate) : S3Context where
  key := [0x6b]
  multipart := ⟨true, 0, 1, 1⟩
  network := ⟨fate, fun _ => 0⟩
  sha256 := fun _ => []
  random := []
  etagOf := id

/-- A server without objects. -/
def emptyServer : S3Server :=
  ⟨fun _ => none, fun _ => none, 0⟩

def firstPartRefused (number : Nat) : Fate :=
  if number = 1 then .refused ⟨503, by decide⟩ else .served

theorem answers_firstPartRefused (context : S3Context)
    (fate : context.network.fate = firstPartRefused) : context.network.Answers := by
  intro number
  rw [fate, firstPartRefused]
  split
  · exact .inr ⟨_, rfl⟩
  · exact .inl rfl

/-- Without a failure both parts and the rest are listed. -/
theorem completed_lists_sample :
    AllListed (final (s3Step (byteParts fun _ => .served) 4)
      (.opened (byteParts fun _ => .served) (.begin emptyServer))
      [.write [1], .write [2], .finalize]) :=
  completed_lists_all (byteParts fun _ => .served) (fun _ => .inl rfl) emptyServer 4
    [.write [1], .write [2], .finalize] (by simp only [guarded_cons_iff, guarded_nil]; decide)
    [.write [1], .write [2]] .finalize [] rfl (by decide)

/-- The failure of the first part is delivered to the second `write`; then `finalize` reports
success without that part. -/
theorem completed_misses_part :
    ¬ ∀ (context : S3Context) (_ : context.network.Answers) (server : S3Server) (passes : Nat)
        (calls : List UploadCall) (before : List UploadCall) (call : UploadCall)
        (rest : List UploadCall),
      calls = before ++ call :: rest →
      ReportsSuccess (s3Step context passes
        (final (s3Step context passes) (.opened context (.begin server)) before) call).1 →
      AllListed (final (s3Step context passes) (.opened context (.begin server))
        (before ++ [call])) := by
  intro claim
  have listed := claim (byteParts firstPartRefused) (answers_firstPartRefused _ rfl) emptyServer 4
    [.write [1], .write [2], .finalize] [.write [1], .write [2]] .finalize [] rfl (by decide)
  revert listed
  decide

end FileTrans.Cloud
