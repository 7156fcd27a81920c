import FileTrans.Cloud.PartThreads

/-!
# Parts that come after the abort

A stream that was aborted sends nothing more from its calls.  But the threads that
have not sent their parts go on: their parts arrive after the abort.  The order of
the requests is kept, however the threads go on, exactly if every thread that was
begun has sent its part whenever the abort is sent.
-/

namespace FileTrans.Cloud

open FileTrans.Core FileTrans.Transition

/-! ## The order of the requests -/

/-- The request is the abort of an upload. -/
def IsAbort (request : Sender × S3Request) : Prop :=
  ∃ key uploadId, request.2 = .abortMultipartUpload key uploadId

/-- The later request is a part of the upload that the earlier one aborts. -/
def Orphans (earlier later : Sender × S3Request) : Prop :=
  ∃ key partKey partNumber uploadId data,
    earlier.2 = .abortMultipartUpload key uploadId ∧
      later.2 = .uploadPart partKey partNumber uploadId data

/-- The thread has not sent its part. -/
def PendingPart.Begun (part : PendingPart) : Prop :=
  part.thread = .begun

namespace ThreadedStream

/-- No part is sent after the abort of its upload. -/
def NoOrphan (stream : ThreadedStream) : Prop :=
  stream.sent.Pairwise fun earlier later => ¬ Orphans earlier later

/-- Every thread that was begun has sent its part. -/
def AllSent (stream : ThreadedStream) : Prop :=
  ∀ part ∈ stream.pendingUploads, ¬ part.Begun

/-- The next step of the call sends the abort. -/
def SendsAbort (stream : ThreadedStream) : Prop :=
  (∃ after, stream.call = .aborting after) ∧ stream.hasClient = true ∧ stream.uploadId ≠ .empty

/-- The abort is sent only when every part was sent. -/
def QuietAbort (stream : ThreadedStream) : StreamInput → Prop
  | .advance _ => stream.SendsAbort → stream.AllSent
  | _ => True

/-- No part is sent after the abort, however the threads go on after the run; and after
`abort` has returned the calls send nothing. -/
structure AbortIsLast (context : S3Context) (start : ThreadedStream)
    (inputs : List StreamInput) : Prop where
  ordered : ∀ more : List StreamInput, (∀ input ∈ more, input.OfThread) →
    (final (step context) start (inputs ++ more)).NoOrphan
  silent : ∀ first input later result, inputs = first ++ input :: later →
    (step context (final (step context) start first) input).1 = some (.aborted result) →
    ∃ new, (final (step context) start inputs).sent =
        (final (step context) start (first ++ [input])).sent ++ new ∧
      ∀ request ∈ new, request.1 = .thread

def AbortSent (stream : ThreadedStream) : Prop :=
  ∃ request ∈ stream.sent, IsAbort request

/-- The stream was aborted, and no call is under way. -/
def Closed (stream : ThreadedStream) : Prop :=
  stream.aborted = true ∧ (stream.call = .idle ∨ stream.call = .destroyed)

/-- A stream that sent an abort is closed, and the abort was that of its upload. -/
structure Sound (stream : ThreadedStream) : Prop where
  closed : stream.AbortSent → stream.Closed
  client : stream.AbortSent → stream.hasClient = true
  named : ∀ sender key uploadId,
    (sender, .abortMultipartUpload key uploadId) ∈ stream.sent → uploadId = stream.uploadId

/-- The later stream has sent more, but no abort. -/
structure Extends (stream later : ThreadedStream) : Prop where
  uploadId : later.uploadId = stream.uploadId
  hasClient : later.hasClient = stream.hasClient
  sent : ∃ new, later.sent = stream.sent ++ new ∧ ∀ request ∈ new, ¬ IsAbort request

variable {context : S3Context} {stream : ThreadedStream}

/-! ## Steps of calls -/

theorem Extends.refl (stream : ThreadedStream) : stream.Extends stream :=
  ⟨rfl, rfl, [], by simp, by simp⟩

theorem Extends.of_eq {later : ThreadedStream} (uploadId : later.uploadId = stream.uploadId)
    (hasClient : later.hasClient = stream.hasClient) (sent : later.sent = stream.sent) :
    stream.Extends later :=
  ⟨uploadId, hasClient, [], by simp [sent], by simp⟩

theorem Extends.of_emit {later : ThreadedStream} {sender : Sender} {request : S3Request}
    (other : ¬ IsAbort (sender, request)) (uploadId : later.uploadId = stream.uploadId)
    (hasClient : later.hasClient = stream.hasClient)
    (sent : later.sent = (stream.emit sender request).sent) : stream.Extends later := by
  refine ⟨uploadId, hasClient, ?_⟩
  rw [sent, emit]
  split
  · exact ⟨[(sender, request)], rfl, by simpa using other⟩
  · exact ⟨[], by simp, by simp⟩

@[simp]
theorem emit_uploadId (sender : Sender) (request : S3Request) (stream : ThreadedStream) :
    (stream.emit sender request).uploadId = stream.uploadId := by
  unfold emit
  split <;> rfl

@[simp]
theorem emit_hasClient (sender : Sender) (request : S3Request) (stream : ThreadedStream) :
    (stream.emit sender request).hasClient = stream.hasClient := by
  unfold emit
  split <;> rfl

@[simp]
theorem emit_pendingUploads (sender : Sender) (request : S3Request) (stream : ThreadedStream) :
    (stream.emit sender request).pendingUploads = stream.pendingUploads := by
  unfold emit
  split <;> rfl

theorem not_isAbort_uploadPart {sender : Sender} {key : Bytes} {partNumber : Nat}
    {uploadId : UploadId} {data : Bytes} :
    ¬ IsAbort (sender, .uploadPart key partNumber uploadId data) := by
  rintro ⟨_, _, same⟩
  cases same

theorem extends_beginCall (call : StreamCall) : stream.Extends (stream.beginCall call).2 := by
  cases call <;> unfold beginCall <;> dsimp only <;> split_ifs <;> exact .of_eq rfl rfl rfl

theorem extends_copyPart (data remaining : Bytes) :
    stream.Extends (stream.copyPart context data remaining).2 := by
  unfold copyPart
  dsimp only
  split_ifs <;> exact .of_eq rfl rfl rfl

theorem extends_collectParts
    {goesOn : ThreadedStream → Option StreamReturn × ThreadedStream}
    (quiet : ∀ stream, (goesOn stream).2.uploadId = stream.uploadId ∧
      (goesOn stream).2.hasClient = stream.hasClient ∧ (goesOn stream).2.sent = stream.sent) :
    stream.Extends (stream.collectParts goesOn).2 := by
  unfold collectParts
  dsimp only
  split
  · exact .of_eq rfl rfl rfl
  · exact .of_eq (quiet _).1 (quiet _).2.1 (quiet _).2.2

theorem extends_uploadRest (response : Option S3Response) :
    stream.Extends (stream.uploadRest context response).2 := by
  unfold uploadRest
  dsimp only
  split
  · exact .of_eq rfl rfl rfl
  · split
    · exact .of_emit not_isAbort_uploadPart (emit_uploadId ..) (emit_hasClient ..) rfl
    · exact .of_emit not_isAbort_uploadPart (emit_uploadId ..) (emit_hasClient ..) rfl

theorem extends_waitForAll : stream.Extends stream.waitForAll.2 := by
  unfold waitForAll
  split
  · exact .of_eq rfl rfl rfl
  · dsimp only
    split
    · exact .refl stream
    · exact .of_eq rfl rfl rfl
    · exact .of_eq rfl rfl rfl

theorem extends_complete (response : Option S3Response) :
    stream.Extends (stream.complete context response).2 := by
  have other {key : Bytes} {uploadId : UploadId} {parts : List (Nat × Etag)} :
      ¬ IsAbort (Sender.call, .completeMultipartUpload key uploadId parts) := by
    rintro ⟨_, _, same⟩
    cases same
  unfold complete
  dsimp only
  split
  · split
    · exact .of_emit other (emit_uploadId ..) (emit_hasClient ..) rfl
    · exact .of_emit other (emit_uploadId ..) (emit_hasClient ..) rfl
  · exact .of_emit other (emit_uploadId ..) (emit_hasClient ..) rfl

theorem extends_advance (response : Option S3Response)
    (other : ∀ after, stream.call ≠ .aborting after) :
    stream.Extends (stream.advance context response).2 := by
  unfold advance
  split
  · exact .refl stream
  · exact extends_copyPart _ _
  · split <;> exact .of_eq rfl rfl rfl
  · exact extends_collectParts fun _ => ⟨rfl, rfl, rfl⟩
  · exact extends_collectParts fun _ => ⟨rfl, rfl, rfl⟩
  · exact extends_uploadRest response
  · exact extends_waitForAll
  · exact extends_complete response
  · rename_i after aborts
    exact absurd aborts (other after)
  · exact .refl stream

theorem abortUpload_spec (after : AfterAbort) :
    (stream.abortUpload context after).2.Closed ∧
      (stream.abortUpload context after).2.uploadId = stream.uploadId ∧
      (stream.abortUpload context after).2.hasClient = stream.hasClient ∧
      (stream.abortUpload context after).2.pendingUploads = stream.pendingUploads ∧
      (stream.abortUpload context after).2.sent =
        stream.sent ++ if stream.hasClient = true ∧ stream.uploadId ≠ .empty then
          [(.call, .abortMultipartUpload context.key stream.uploadId)] else [] := by
  unfold abortUpload
  by_cases empty : stream.uploadId = .empty
  · cases after <;> simp [empty, returns, goTo, Closed]
  · by_cases client : stream.hasClient = true <;>
      cases after <;> simp [empty, client, returns, goTo, Closed, emit]

theorem Closed.beginCall (closed : stream.Closed) (call : StreamCall) :
    (stream.beginCall call).2.Closed ∧ (stream.beginCall call).2.sent = stream.sent ∧
      (stream.beginCall call).2.pendingUploads = stream.pendingUploads := by
  have aborted := closed.1
  cases call with
  | write data => simp [ThreadedStream.beginCall, aborted, returns, Closed]
  | finalize =>
      unfold ThreadedStream.beginCall
      dsimp only
      split_ifs <;> exact ⟨⟨aborted, .inl rfl⟩, rfl, rfl⟩
  | abort => simp [ThreadedStream.beginCall, aborted, returns, Closed]
  | destroy => simp [ThreadedStream.beginCall, aborted, goTo, Closed]

theorem Closed.advance (closed : stream.Closed) (response : Option S3Response) :
    (stream.advance context response).2 = stream := by
  unfold ThreadedStream.advance
  rcases closed.2 with idle | destroyed
  · rw [idle]
  · rw [destroyed]

/-! ## Steps of threads -/

theorem extends_sendPart (index : Nat) : stream.Extends (stream.sendPart context index) := by
  unfold sendPart
  split
  · split
    · exact .of_emit not_isAbort_uploadPart (emit_uploadId ..) (emit_hasClient ..) rfl
    · exact .refl stream
  · exact .refl stream

theorem extends_answerPart (index : Nat) (response : Option S3Response) :
    stream.Extends (stream.answerPart context index response) := by
  unfold answerPart
  split
  · split
    · exact .of_eq rfl rfl rfl
    · exact .refl stream
  · exact .refl stream

theorem Closed.sendPart (closed : stream.Closed) (index : Nat) :
    (stream.sendPart context index).Closed := by
  unfold ThreadedStream.sendPart
  split
  · split
    · unfold emit
      split <;> exact closed
    · exact closed
  · exact closed

theorem Closed.answerPart (closed : stream.Closed) (index : Nat) (response : Option S3Response) :
    (stream.answerPart context index response).Closed := by
  unfold ThreadedStream.answerPart
  split
  · split <;> exact closed
  · exact closed

theorem sent_sendPart (index : Nat) :
    ∃ new, (stream.sendPart context index).sent = stream.sent ++ new ∧
      ∀ request ∈ new, request.1 = .thread := by
  unfold sendPart
  split
  · split
    · unfold emit
      split
      · exact ⟨_, rfl, by simp⟩
      · exact ⟨[], by simp [setThread], by simp⟩
    · exact ⟨[], by simp, by simp⟩
  · exact ⟨[], by simp, by simp⟩

theorem sent_answerPart (index : Nat) (response : Option S3Response) :
    (stream.answerPart context index response).sent = stream.sent := by
  unfold answerPart
  split
  · split <;> rfl
  · rfl

theorem begun_of_sendPart {part : PendingPart} {index other : Nat} (differs : index ≠ other)
    (there : stream.pendingUploads[other]? = some part) :
    (stream.sendPart context index).pendingUploads[other]? = some part := by
  unfold sendPart
  split
  · split
    · simp [setThread, List.getElem?_set_ne differs, there]
    · exact there
  · exact there

theorem begun_of_answerPart {part : PendingPart} {index other : Nat}
    {response : Option S3Response} (begun : part.Begun)
    (there : stream.pendingUploads[other]? = some part) :
    (stream.answerPart context index response).pendingUploads[other]? = some part := by
  unfold answerPart
  split
  · rename_i found held
    split
    · rename_i sent
      have differs : index ≠ other := by
        rintro rfl
        obtain rfl := Option.some.inj (held.symm.trans there)
        rw [PendingPart.Begun, sent] at begun
        cases begun
      simp [setThread, List.getElem?_set_ne differs, there]
    · exact there
  · exact there

theorem AllSent.answerPart (sent : stream.AllSent) (index : Nat)
    (response : Option S3Response) : (stream.answerPart context index response).AllSent := by
  unfold ThreadedStream.answerPart
  split
  · split
    · intro part mem
      rcases List.mem_or_eq_of_mem_set mem with old | rfl
      · exact sent part old
      · exact nofun
    · exact sent
  · exact sent

theorem AllSent.sendPart (sent : stream.AllSent) (index : Nat) :
    stream.sendPart context index = stream := by
  unfold ThreadedStream.sendPart
  split
  · rename_i part held
    split
    · rename_i begun
      exact absurd begun (sent part (List.mem_of_getElem? held))
    · rfl
  · rfl

/-! ## What every step keeps -/

theorem Extends.abortSent {later : ThreadedStream} (extends' : stream.Extends later) :
    later.AbortSent ↔ stream.AbortSent := by
  rcases extends'.sent with ⟨new, sent, others⟩
  unfold AbortSent
  rw [sent]
  constructor
  · rintro ⟨request, mem, abort⟩
    rcases List.mem_append.mp mem with old | added
    · exact ⟨request, old, abort⟩
    · exact absurd abort (others request added)
  · rintro ⟨request, mem, abort⟩
    exact ⟨request, List.mem_append_left _ mem, abort⟩

theorem Sound.of_extends {later : ThreadedStream} (sound : stream.Sound)
    (extends' : stream.Extends later) (closed : stream.Closed → later.Closed) :
    later.Sound := by
  constructor
  · intro aborted
    exact closed (sound.closed (extends'.abortSent.mp aborted))
  · intro aborted
    rw [extends'.hasClient]
    exact sound.client (extends'.abortSent.mp aborted)
  · intro sender key uploadId mem
    rcases extends'.sent with ⟨new, sent, others⟩
    rw [sent] at mem
    rw [extends'.uploadId]
    rcases List.mem_append.mp mem with old | added
    · exact sound.named sender key uploadId old
    · exact absurd ⟨key, uploadId, rfl⟩ (others _ added)

theorem extends_step (input : StreamInput)
    (other : ∀ response, input = .advance response → ∀ after, stream.call ≠ .aborting after) :
    stream.Extends (step context stream input).2 := by
  cases input with
  | call call =>
      unfold step
      dsimp only
      split
      · exact extends_beginCall call
      · exact .refl stream
  | advance response => exact extends_advance response (other response rfl)
  | send index => exact extends_sendPart index
  | answer index response => exact extends_answerPart index response

theorem Closed.step (closed : stream.Closed) (input : StreamInput) :
    (step context stream input).2.Closed := by
  cases input with
  | call call =>
      unfold ThreadedStream.step
      dsimp only
      split
      · exact (closed.beginCall call).1
      · exact closed
  | advance response =>
      change (stream.advance context response).2.Closed
      rwa [closed.advance response]
  | send index => exact closed.sendPart index
  | answer index response => exact closed.answerPart index response

theorem not_closed_of_aborting {after : AfterAbort} (aborts : stream.call = .aborting after) :
    ¬ stream.Closed := by
  rintro ⟨-, idle | destroyed⟩
  · rw [idle] at aborts
    cases aborts
  · rw [destroyed] at aborts
    cases aborts

theorem advance_aborting {after : AfterAbort} (aborts : stream.call = .aborting after)
    (response : Option S3Response) :
    (step context stream (.advance response)).2 = (stream.abortUpload context after).2 := by
  simp only [step, advance, aborts]

theorem Sound.step (sound : stream.Sound) (input : StreamInput) :
    (step context stream input).2.Sound := by
  by_cases aborts : ∃ response after, input = .advance response ∧ stream.call = .aborting after
  · rcases aborts with ⟨response, after, rfl, aborts⟩
    have fresh : ¬ stream.AbortSent :=
      fun sent => not_closed_of_aborting aborts (sound.closed sent)
    rw [advance_aborting aborts]
    rcases @abortUpload_spec context stream after with ⟨closed, uploadId, client, -, sent⟩
    constructor
    · exact fun _ => closed
    · rintro ⟨request, mem, abort⟩
      rw [sent] at mem
      rw [client]
      rcases List.mem_append.mp mem with old | added
      · exact absurd ⟨request, old, abort⟩ fresh
      · split at added
        · rename_i sends
          exact sends.1
        · cases added
    · intro sender key other mem
      rw [sent] at mem
      rw [uploadId]
      rcases List.mem_append.mp mem with old | added
      · exact sound.named sender key other old
      · split at added
        · cases List.mem_singleton.mp added
          rfl
        · cases added
  · apply sound.of_extends (extends_step input _) fun closed => closed.step input
    rintro response rfl after aborting
    exact aborts ⟨response, after, rfl, aborting⟩

theorem not_abortSent_opened (context : S3Context) (hasClient : Bool)
    (response : Option S3Response) : ¬ (opened context hasClient response).AbortSent := by
  rintro ⟨request, mem, key, uploadId, abort⟩
  cases hasClient with
  | false => cases mem
  | true =>
      cases List.mem_singleton.mp mem
      cases abort

theorem sound_opened (context : S3Context) (hasClient : Bool) (response : Option S3Response) :
    (opened context hasClient response).Sound := by
  have none := not_abortSent_opened context hasClient response
  constructor
  · exact fun sent => absurd sent none
  · exact fun sent => absurd sent none
  · intro sender key uploadId mem
    exact absurd ⟨_, mem, key, uploadId, rfl⟩ none

/-! ## What a step to the abort needs -/

/-- The order of the requests is kept, and no thread can break it. -/
structure Settled (stream : ThreadedStream) : Prop where
  noOrphan : stream.NoOrphan
  allSent : stream.AbortSent → stream.AllSent

theorem settled_of_not_abortSent (none : ¬ stream.AbortSent) : stream.Settled where
  noOrphan := by
    apply List.Pairwise.imp_of_mem _ (List.pairwise_of_forall fun _ _ => trivial)
    rintro earlier later mem - - ⟨key, _, _, uploadId, _, abort, -⟩
    exact none ⟨earlier, mem, key, uploadId, abort⟩
  allSent sent := absurd sent none

theorem orphan_sendPart (sound : stream.Sound) (sent : stream.AbortSent) {index : Nat}
    {part : PendingPart} (held : stream.pendingUploads[index]? = some part)
    (begun : part.Begun) : ¬ (stream.sendPart context index).NoOrphan := by
  have client := sound.client sent
  rcases sent with ⟨⟨sender, request⟩, mem, key, uploadId, abort⟩
  dsimp only at abort
  subst abort
  have named := sound.named sender key uploadId mem
  have requests : (stream.sendPart context index).sent =
      stream.sent ++ [(.thread, .uploadPart context.key part.partNumber stream.uploadId
        part.data)] := by
    rw [sendPart, held]
    dsimp only
    rw [PendingPart.Begun] at begun
    rw [begun]
    simp [setThread, emit, client]
  intro ordered
  rw [NoOrphan, requests, List.pairwise_append] at ordered
  refine ordered.2.2 _ mem _ (List.mem_singleton_self _) ?_
  exact ⟨key, _, _, uploadId, _, rfl, by rw [named]⟩

theorem settled_advance_aborting_iff (sound : stream.Sound) {after : AfterAbort}
    (aborts : stream.call = .aborting after) (response : Option S3Response) :
    (step context stream (.advance response)).2.Settled ↔
      stream.QuietAbort (.advance response) := by
  have fresh : ¬ stream.AbortSent :=
    fun sent => not_closed_of_aborting aborts (sound.closed sent)
  rw [advance_aborting aborts]
  rcases @abortUpload_spec context stream after with ⟨-, -, -, pending, sent⟩
  by_cases sends : stream.hasClient = true ∧ stream.uploadId ≠ .empty
  · rw [if_pos sends] at sent
    have quiet : stream.QuietAbort (.advance response) ↔ stream.AllSent :=
      ⟨fun quiet => quiet ⟨⟨after, aborts⟩, sends⟩, fun all _ => all⟩
    rw [quiet]
    constructor
    · intro settled
      have aborted : (stream.abortUpload context after).2.AbortSent := by
        rw [AbortSent, sent]
        exact ⟨_, List.mem_append_right _ (List.mem_singleton_self _), _, _, rfl⟩
      have all := settled.allSent aborted
      rwa [AllSent, pending] at all
    · intro all
      constructor
      · rw [NoOrphan, sent, List.pairwise_append]
        refine ⟨(settled_of_not_abortSent fresh).noOrphan, List.pairwise_singleton _ _, ?_⟩
        rintro earlier mem later - ⟨key, _, _, uploadId, _, abort, -⟩
        exact fresh ⟨earlier, mem, key, uploadId, abort⟩
      · intro _
        rwa [AllSent, pending]
  · rw [if_neg sends, List.append_nil] at sent
    apply iff_of_true
    · apply settled_of_not_abortSent
      rwa [AbortSent, sent]
    · exact fun sending => absurd sending.2 sends

theorem Closed.call_step (closed : stream.Closed) {input : StreamInput}
    (ofCall : ¬ input.OfThread) :
    (ThreadedStream.step context stream input).2.sent = stream.sent ∧
      (ThreadedStream.step context stream input).2.pendingUploads = stream.pendingUploads := by
  cases input with
  | call call =>
      unfold ThreadedStream.step
      dsimp only
      split
      · exact (closed.beginCall call).2
      · exact ⟨rfl, rfl⟩
  | advance response =>
      change (stream.advance context response).2.sent = _ ∧
        (stream.advance context response).2.pendingUploads = _
      rw [closed.advance response]
      exact ⟨rfl, rfl⟩
  | send index => exact absurd trivial ofCall
  | answer index response => exact absurd trivial ofCall

theorem settled_congr {later : ThreadedStream} (sent : later.sent = stream.sent)
    (pending : later.pendingUploads = stream.pendingUploads) :
    later.Settled ↔ stream.Settled := by
  constructor
  · rintro ⟨ordered, all⟩
    rw [NoOrphan, sent] at ordered
    rw [AbortSent, AllSent, sent, pending] at all
    exact ⟨ordered, all⟩
  · rintro ⟨ordered, all⟩
    constructor
    · rwa [NoOrphan, sent]
    · rwa [AbortSent, AllSent, sent, pending]

theorem settled_step_iff (sound : stream.Sound) (settled : stream.Settled)
    (input : StreamInput) :
    (step context stream input).2.Settled ↔ stream.QuietAbort input := by
  by_cases aborts : ∃ response after, input = .advance response ∧ stream.call = .aborting after
  · rcases aborts with ⟨response, after, rfl, aborts⟩
    exact settled_advance_aborting_iff sound aborts response
  · have other : ∀ response, input = .advance response →
        ∀ after, stream.call ≠ .aborting after := by
      rintro response rfl after aborting
      exact aborts ⟨response, after, rfl, aborting⟩
    have quiet : stream.QuietAbort input := by
      cases input with
      | advance response =>
          rintro ⟨⟨after, aborting⟩, -⟩
          exact absurd aborting (other response rfl after)
      | call call => trivial
      | send index => trivial
      | answer index response => trivial
    apply iff_of_true _ quiet
    by_cases sent : stream.AbortSent
    · cases input with
      | call call =>
          have same := @Closed.call_step context stream (sound.closed sent) (.call call) id
          exact (settled_congr same.1 same.2).mpr settled
      | advance response =>
          have same := @Closed.call_step context stream (sound.closed sent) (.advance response) id
          exact (settled_congr same.1 same.2).mpr settled
      | send index =>
          change (stream.sendPart context index).Settled
          rwa [(settled.allSent sent).sendPart]
      | answer index response =>
          constructor
          · change (stream.answerPart context index response).NoOrphan
            rw [NoOrphan, sent_answerPart]
            exact settled.noOrphan
          · exact fun _ => (settled.allSent sent).answerPart index response
    · apply settled_of_not_abortSent
      rwa [(extends_step input other).abortSent]

theorem settled_of_step (sound : stream.Sound) {input : StreamInput}
    (settled : (step context stream input).2.Settled) : stream.Settled := by
  by_cases sent : stream.AbortSent
  · have closed := sound.closed sent
    by_cases ofCall : input.OfThread
    · cases input with
      | call call => exact absurd ofCall id
      | advance response => exact absurd ofCall id
      | send index =>
          have kept := @extends_sendPart context stream index
          rcases kept.sent with ⟨new, requests, -⟩
          have all := settled.allSent (kept.abortSent.mpr sent)
          constructor
          · have ordered := settled.noOrphan
            change (stream.sendPart context index).NoOrphan at ordered
            rw [NoOrphan, requests] at ordered
            exact (List.pairwise_append.mp ordered).1
          · intro _ part mem begun
            rcases List.mem_iff_getElem?.mp mem with ⟨other, held⟩
            by_cases same : index = other
            · subst same
              exact orphan_sendPart sound sent held begun settled.noOrphan
            · exact all part (List.mem_of_getElem? (begun_of_sendPart same held)) begun
      | answer index response =>
          have kept := @extends_answerPart context stream index response
          have all := settled.allSent (kept.abortSent.mpr sent)
          constructor
          · have ordered := settled.noOrphan
            change (stream.answerPart context index response).NoOrphan at ordered
            rwa [NoOrphan, sent_answerPart] at ordered
          · intro _ part mem begun
            rcases List.mem_iff_getElem?.mp mem with ⟨other, held⟩
            exact all part (List.mem_of_getElem? (begun_of_answerPart begun held)) begun
    · have same := @Closed.call_step context stream closed _ ofCall
      exact (settled_congr same.1 same.2).mp settled
  · exact settled_of_not_abortSent sent

theorem settled_opened (context : S3Context) (hasClient : Bool)
    (response : Option S3Response) : (opened context hasClient response).Settled :=
  settled_of_not_abortSent (not_abortSent_opened context hasClient response)

/-! ## Runs -/

theorem ordered_iff_settled (sound : stream.Sound) :
    (∀ more : List StreamInput, (∀ input ∈ more, input.OfThread) →
      (final (step context) stream more).NoOrphan) ↔ stream.Settled := by
  constructor
  · intro ordered
    constructor
    · exact ordered [] nofun
    · intro sent part mem begun
      rcases List.mem_iff_getElem?.mp mem with ⟨index, held⟩
      apply @orphan_sendPart context stream sound sent index part held begun
      apply ordered [.send index]
      rintro input (_ | ⟨_, ⟨⟩⟩)
      trivial
  · intro settled more threads
    have quiet : Guarded (step context) QuietAbort stream more := by
      apply (guarded_of_forall_mem (step context) stream threads).imp
      intro state input ofThread
      cases input with
      | call call => trivial
      | advance response => exact absurd ofThread id
      | send index => trivial
      | answer index response => trivial
    have kept := (final_iff_guarded Sound (fun _ input sound => sound.step input)
      (fun _ input sound settled => settled_step_iff sound settled input)
      (fun _ input sound => settled_of_step sound) sound settled more).mpr quiet
    exact kept.noOrphan

theorem advance_ne_aborted (response : Option S3Response)
    (other : ∀ after, stream.call ≠ .aborting after) (result : Result Unit) :
    (stream.advance context response).1 ≠ some (.aborted result) := by
  unfold advance
  split
  · exact nofun
  · unfold copyPart
    dsimp only
    split_ifs <;> simp [returns, goTo]
  · split <;> simp [goTo]
  · unfold collectParts
    dsimp only
    split <;> simp [returns, goTo]
  · unfold collectParts
    dsimp only
    split <;> simp [returns, goTo, beginPart]
  · unfold uploadRest
    dsimp only
    split
    · simp [goTo]
    · split <;> simp [goTo]
  · unfold waitForAll
    split
    · simp [goTo]
    · dsimp only
      split <;> simp [goTo]
  · unfold complete
    dsimp only
    split
    · split <;> simp [returns]
    · simp [returns]
  · rename_i after aborts
    exact absurd aborts (other after)
  · exact nofun

theorem closed_of_returned {input : StreamInput} {result : Result Unit}
    (returned : (step context stream input).1 = some (.aborted result)) :
    (step context stream input).2.Closed := by
  cases input with
  | call call =>
      unfold step at returned ⊢
      dsimp only at returned ⊢
      split at returned
      · rename_i idle
        by_cases aborted : stream.aborted = true
        · have closed : stream.Closed := ⟨aborted, .inl idle⟩
          exact (closed.beginCall call).1
        · cases call with
          | write data =>
              unfold beginCall at returned
              dsimp only at returned
              split_ifs at returned <;> simp [returns, goTo] at returned
          | finalize =>
              unfold beginCall at returned
              dsimp only at returned
              split_ifs at returned <;> simp [returns, goTo] at returned
          | abort => simp [beginCall, aborted, goTo] at returned
          | destroy =>
              unfold beginCall at returned
              dsimp only at returned
              split_ifs at returned <;> simp [goTo] at returned
      · cases returned
  | advance response =>
      by_cases aborts : ∃ after, stream.call = .aborting after
      · rcases aborts with ⟨after, aborts⟩
        rw [advance_aborting aborts]
        exact (abortUpload_spec after).1
      · rw [not_exists] at aborts
        exact absurd returned (advance_ne_aborted response aborts result)
  | send index => cases returned
  | answer index response => cases returned

theorem Closed.silent (closed : stream.Closed) (inputs : List StreamInput) :
    ∃ new, (final (ThreadedStream.step context) stream inputs).sent = stream.sent ++ new ∧
      ∀ request ∈ new, request.1 = .thread := by
  induction inputs generalizing stream with
  | nil => exact ⟨[], by simp, by simp⟩
  | cons input rest ih =>
      have one : ∃ new, (ThreadedStream.step context stream input).2.sent = stream.sent ++ new ∧
          ∀ request ∈ new, request.1 = .thread := by
        cases input with
        | call call =>
            have same := @Closed.call_step context stream closed (.call call) id
            exact ⟨[], by rw [same.1, List.append_nil], by simp⟩
        | advance response =>
            have same := @Closed.call_step context stream closed (.advance response) id
            exact ⟨[], by rw [same.1, List.append_nil], by simp⟩
        | send index => exact sent_sendPart index
        | answer index response =>
            exact ⟨[], by rw [List.append_nil]; exact sent_answerPart index response, by simp⟩
      rcases one with ⟨first, firstSent, firstThreads⟩
      rcases ih (closed.step input) with ⟨later, laterSent, laterThreads⟩
      refine ⟨first ++ later, ?_, ?_⟩
      · rw [final_cons, laterSent, firstSent, List.append_assoc]
      · intro request mem
        rcases List.mem_append.mp mem with early | late
        · exact firstThreads request early
        · exact laterThreads request late

/-- The abort is the last request but for those of threads, exactly if every thread that was
begun has sent its part when the abort is sent. -/
theorem abortIsLast_iff (context : S3Context) (hasClient : Bool) (response : Option S3Response)
    (inputs : List StreamInput) :
    AbortIsLast context (opened context hasClient response) inputs ↔
      Guarded (step context) QuietAbort (opened context hasClient response) inputs := by
  have sound := sound_opened context hasClient response
  have settled := settled_opened context hasClient response
  have ends : (final (step context) (opened context hasClient response) inputs).Sound :=
    final_invariant Sound (fun _ input sound => sound.step input) sound inputs
  rw [← final_iff_guarded Sound (fun _ input sound => sound.step input)
    (fun _ input sound settled => settled_step_iff sound settled input)
    (fun _ input sound => settled_of_step sound) sound settled inputs, ← ordered_iff_settled ends]
  constructor
  · intro last more threads
    rw [← final_append]
    exact last.ordered more threads
  · intro ordered
    constructor
    · intro more threads
      rw [final_append]
      exact ordered more threads
    · rintro first input later result rfl returned
      have closed := closed_of_returned returned
      rw [← final_concat] at closed
      rw [List.append_cons, final_append]
      exact closed.silent later

/-! ## A part after the abort -/

namespace LatePartSample

/-- Parts of one byte, one at a time. -/
def single : S3Context where
  key := [0x6b]
  multipart := ⟨true, 0, 1, 1⟩
  network := ⟨fun _ => .served, fun _ => 0⟩
  sha256 := fun _ => []
  random := []
  etagOf := fun _ => []

/-- One byte is written, and the stream is aborted while the thread of the part has not sent
it. -/
def inputs : List StreamInput :=
  [.call (.write [0x61]), .advance none, .advance none, .advance none, .advance none,
    .call .abort, .advance none]

/-- The server has created the upload. -/
def start : ThreadedStream :=
  opened single true (some ⟨200, none, some (.issued 0), []⟩)

end LatePartSample

open LatePartSample in
/-- The part is sent after the abort. -/
theorem abortIsLast_not_unsent :
    (step single (final (step single) start (inputs.take 6)) (.advance none)).1 =
        some (.aborted (.ok ())) ∧
      (final (step single) start (inputs ++ [.send 0])).sent =
        [(.call, .createMultipartUpload [0x6b]),
          (.call, .abortMultipartUpload [0x6b] (.issued 0)),
          (.thread, .uploadPart [0x6b] 1 (.issued 0) [0x61])] ∧
      ¬ AbortIsLast single start inputs := by
  refine ⟨rfl, rfl, fun last => ?_⟩
  have ordered : (final (step single) start (inputs ++ [.send 0])).NoOrphan := by
    apply last.ordered
    rintro input (_ | ⟨_, ⟨⟩⟩)
    trivial
  have sent : (final (step single) start (inputs ++ [.send 0])).sent =
      [(.call, .createMultipartUpload [0x6b]),
        (.call, .abortMultipartUpload [0x6b] (.issued 0)),
        (.thread, .uploadPart [0x6b] 1 (.issued 0) [0x61])] := rfl
  rw [NoOrphan, sent] at ordered
  simp [Orphans] at ordered

end ThreadedStream

end FileTrans.Cloud
