import FileTrans.Cloud.S3UploadStream

/-!
# The threads of an upload stream

Every full part of an `s3_upload_stream` is uploaded on a thread of its own, which
sends its request some time after it was begun and has its answer some time after
that.  Between the steps of a call the threads go on in any order.  Calls come one
after the other; a call of `abort_multipart_upload` does not look at the threads.

A request of a call is sent and answered in one step: what a thread sends before
the answer comes is sent after the request.  The answers are part of the input.
-/

namespace FileTrans.Cloud

open FileTrans.Core FileTrans.Text FileTrans.Transition

/-! ## States -/

/-- How far the thread of a part is. -/
inductive PartThread
  | begun
  | sent
  | ready (answer : Result Etag)

/-- `pending_part`: the data went to the thread. -/
structure PendingPart where
  partNumber : Nat
  data : Bytes
  thread : PartThread
  /-- `future.valid()`: the answer has not been taken. -/
  valid : Bool

/-- What `abort_multipart_upload` returns to. -/
inductive AfterAbort
  | abort
  | finalize (failure : Error)
  | destroy

/-- Where a call is. -/
inductive CallState
  | idle
  /-- The head of the loop of `write`, with all of its data and what is left of them. -/
  | writing (data remaining : Bytes)
  /-- The head of the loop of `wait_for_slot`. -/
  | waitingForSlot (data remaining : Bytes)
  /-- `collect_completed_uploads` in that loop. -/
  | collectingForSlot (data remaining : Bytes)
  /-- `collect_completed_uploads` of `write`, and the beginning of the next part. -/
  | collecting (data remaining : Bytes)
  | uploadingRest
  | waitingForAll
  | completing
  | aborting (after : AfterAbort)
  | destroyed

/-- Who sends a request. -/
inductive Sender
  | call
  | thread
  deriving DecidableEq

/-- `s3_upload_stream::impl`, the call that is under way, and the requests sent so far.  Part
numbers below 2^31 and counts below 2^64 are the numbers that the code has. -/
structure ThreadedStream where
  hasClient : Bool
  uploadId : UploadId
  currentPartNumber : Nat
  partBuffer : Bytes
  bytesWritten : Nat
  finalized : Bool
  aborted : Bool
  completedParts : List (Nat × Etag)
  pendingUploads : List PendingPart
  call : CallState
  sent : List (Sender × S3Request)

inductive StreamReturn
  | wrote (result : Result Nat)
  | finished (result : Result UploadResult)
  | aborted (result : Result Unit)

/-- A call of the stream, or its destruction. -/
inductive StreamCall
  | write (data : Bytes)
  | finalize
  | abort
  | destroy

/-- What happens next: a call is made, the call goes on, or the thread of a pending part sends
its request or has its answer.  An answer is missing if the transport failed. -/
inductive StreamInput
  | call (call : StreamCall)
  | advance (response : Option S3Response)
  | send (index : Nat)
  | answer (index : Nat) (response : Option S3Response)

/-- A step of a thread. -/
def StreamInput.OfThread : StreamInput → Prop
  | call _ => False
  | advance _ => False
  | send _ => True
  | answer _ _ => True

/-! ## Pending parts -/

namespace PendingPart

/-- The answer that is ready in a valid future. -/
def readyAnswer (part : PendingPart) : Option (Result Etag) :=
  match part.thread with
  | .ready answer => if part.valid then some answer else none
  | _ => none

/-- The future with its answer taken. -/
def taken (part : PendingPart) : PendingPart :=
  { part with valid := false }

/-- `get_active_upload_count`. -/
def activeUploadCount (parts : List PendingPart) : Nat :=
  parts.countP fun part => part.valid && part.readyAnswer.isNone

/-- The loop of `collect_completed_uploads`: the outcome, the answers that were taken, and the
entries that are left. -/
def collect : List PendingPart → Result Unit × List (Nat × Etag) × List PendingPart
  | [] => (.ok (), [], [])
  | part :: rest =>
      if ¬ part.valid then collect rest
      else
        match part.readyAnswer with
        | some (.error failure) => (.error failure, [], part.taken :: rest)
        | some (.ok etag) =>
            let later := collect rest
            (later.1, (part.partNumber, etag) :: later.2.1, later.2.2)
        | none =>
            let later := collect rest
            (later.1, later.2.1, part :: later.2.2)

/-- The next pass of the loop of `wait_all_uploads`: the first valid future, between the entries
before and after it. -/
def nextValid : List PendingPart → Option (List PendingPart × PendingPart × List PendingPart)
  | [] => none
  | part :: rest =>
      if part.valid then some ([], part, rest)
      else (nextValid rest).map fun found => (part :: found.1, found.2)

end PendingPart

/-! ## Steps -/

namespace ThreadedStream

/-- A stream after the constructor: the first request was answered like this. -/
def opened (context : S3Context) (hasClient : Bool) (response : Option S3Response) :
    ThreadedStream :=
  let uploadId : UploadId :=
    match if hasClient then response else none with
    | none => .random context.random
    | some response =>
        if response.status = 200 then response.uploadId.getD (.random context.random) else .empty
  { hasClient := hasClient
    uploadId := uploadId
    currentPartNumber := 1
    partBuffer := []
    bytesWritten := 0
    finalized := false
    aborted := false
    completedParts := []
    pendingUploads := []
    call := .idle
    sent := if hasClient then [(.call, .createMultipartUpload context.key)] else [] }

variable (context : S3Context)

/-- Send a request, if there is an HTTP client. -/
def emit (sender : Sender) (request : S3Request) (stream : ThreadedStream) : ThreadedStream :=
  if stream.hasClient then { stream with sent := stream.sent ++ [(sender, request)] } else stream

/-- What comes back of a request. -/
def received (stream : ThreadedStream) (response : Option S3Response) : Option S3Response :=
  if stream.hasClient then response else none

/-- The call returns. -/
def returns (value : StreamReturn) (stream : ThreadedStream) :
    Option StreamReturn × ThreadedStream :=
  (some value, { stream with call := .idle })

/-- The call goes on elsewhere. -/
def goTo (call : CallState) (stream : ThreadedStream) : Option StreamReturn × ThreadedStream :=
  (none, { stream with call })

/-- The beginning of a call, or of the destructor. -/
def beginCall (stream : ThreadedStream) : StreamCall → Option StreamReturn × ThreadedStream
  | .write data =>
      if stream.finalized ∨ stream.aborted then
        stream.returns (.wrote (unexpected .internalError "Stream already closed"))
      else stream.goTo (.writing data data)
  | .finalize =>
      if stream.finalized then
        stream.returns (.finished (unexpected .internalError "Stream already finalized"))
      else if stream.aborted then
        stream.returns (.finished (unexpected .internalError "Stream was aborted"))
      else stream.goTo .uploadingRest
  | .abort =>
      if stream.aborted then stream.returns (.aborted (.ok ()))
      else stream.goTo (.aborting .abort)
  | .destroy =>
      if ¬ stream.finalized ∧ ¬ stream.aborted then stream.goTo (.aborting .destroy)
      else stream.goTo .destroyed

/-- A pass of the loop of `write`: copy to the buffer, and upload it if it is full. -/
def copyPart (data remaining : Bytes) (stream : ThreadedStream) :
    Option StreamReturn × ThreadedStream :=
  if remaining = [] then
    { stream with bytesWritten := stream.bytesWritten + data.length }.returns
      (.wrote (.ok data.length))
  else
    let room := context.multipart.partSize - stream.partBuffer.length
    let stream := { stream with partBuffer := stream.partBuffer ++ remaining.take room }
    if stream.partBuffer.length < context.multipart.partSize then
      stream.goTo (.writing data (remaining.drop room))
    else stream.goTo (.waitingForSlot data (remaining.drop room))

/-- `collect_completed_uploads`: an error ends the call of `write`. -/
def collectParts (goesOn : ThreadedStream → Option StreamReturn × ThreadedStream)
    (stream : ThreadedStream) : Option StreamReturn × ThreadedStream :=
  let found := PendingPart.collect stream.pendingUploads
  let stream := { stream with
    completedParts := stream.completedParts ++ found.2.1
    pendingUploads := found.2.2 }
  match found.1 with
  | .error failure => stream.returns (.wrote (.error failure))
  | .ok () => goesOn stream

/-- `upload_part_async`, and what follows it in `write`. -/
def beginPart (data remaining : Bytes) (stream : ThreadedStream) :
    Option StreamReturn × ThreadedStream :=
  let part : PendingPart := ⟨stream.currentPartNumber, stream.partBuffer, .begun, true⟩
  { stream with
    pendingUploads := stream.pendingUploads ++ [part]
    currentPartNumber := stream.currentPartNumber + 1
    partBuffer := [] }.goTo (.writing data remaining)

/-- The rest of the buffer is the last part. -/
def uploadRest (response : Option S3Response) (stream : ThreadedStream) :
    Option StreamReturn × ThreadedStream :=
  if stream.partBuffer = [] then stream.goTo .waitingForAll
  else
    let request := S3Request.uploadPart context.key stream.currentPartNumber stream.uploadId
      stream.partBuffer
    match context.readPart stream.partBuffer (stream.received response) with
    | .error failure => (stream.emit .call request).goTo (.aborting (.finalize failure))
    | .ok etag =>
        { stream.emit .call request with
          completedParts := stream.completedParts ++ [(stream.currentPartNumber, etag)]
        }.goTo .waitingForAll

/-- A pass of `wait_all_uploads`: a future that is not ready blocks. -/
def waitForAll (stream : ThreadedStream) : Option StreamReturn × ThreadedStream :=
  match PendingPart.nextValid stream.pendingUploads with
  | none => { stream with pendingUploads := [], finalized := true }.goTo .completing
  | some (before, part, after) =>
      let taken := { stream with pendingUploads := before ++ part.taken :: after }
      match part.readyAnswer with
      | none => (none, stream)
      | some (.error failure) => taken.goTo (.aborting (.finalize failure))
      | some (.ok etag) =>
          (none, { taken with
            completedParts := stream.completedParts ++ [(part.partNumber, etag)] })

/-- `complete_multipart_upload`. -/
def complete (response : Option S3Response) (stream : ThreadedStream) :
    Option StreamReturn × ThreadedStream :=
  let parts := sortByKey Prod.fst stream.completedParts
  let done := { stream.emit .call
    (.completeMultipartUpload context.key stream.uploadId parts) with completedParts := parts }
  let uploaded (etag : Etag) : StreamReturn :=
    .finished (.ok {
      key := context.key
      etag := etag
      uploadId := some stream.uploadId
      bytesUploaded := stream.bytesWritten })
  match stream.received response with
  | some response =>
      if response.status = 200 then done.returns (uploaded (response.etag.getD []))
      else done.returns
        (.finished (statusError "S3 CompleteMultipartUpload failed with status " response.status))
  | none =>
      let tags := parts.flatMap fun part => cleanEtag part.2
      done.returns (uploaded (inQuotes (tags ++ ascii "-" ++ decimal parts.length)))

/-- `abort_multipart_upload`: the answer is ignored. -/
def abortUpload (after : AfterAbort) (stream : ThreadedStream) :
    Option StreamReturn × ThreadedStream :=
  let closed := if stream.uploadId = .empty then { stream with aborted := true }
    else { stream.emit .call (.abortMultipartUpload context.key stream.uploadId) with
      aborted := true }
  match after with
  | .abort => closed.returns (.aborted (.ok ()))
  | .finalize failure => closed.returns (.finished (.error failure))
  | .destroy => closed.goTo .destroyed

/-- A step of the call that is under way. -/
def advance (response : Option S3Response) (stream : ThreadedStream) :
    Option StreamReturn × ThreadedStream :=
  match stream.call with
  | .idle => (none, stream)
  | .writing data remaining => stream.copyPart context data remaining
  | .waitingForSlot data remaining =>
      if PendingPart.activeUploadCount stream.pendingUploads <
          context.multipart.maxConcurrentParts then
        stream.goTo (.collecting data remaining)
      else stream.goTo (.collectingForSlot data remaining)
  | .collectingForSlot data remaining =>
      stream.collectParts fun stream => stream.goTo (.waitingForSlot data remaining)
  | .collecting data remaining =>
      stream.collectParts fun stream => stream.beginPart data remaining
  | .uploadingRest => stream.uploadRest context response
  | .waitingForAll => stream.waitForAll
  | .completing => stream.complete context response
  | .aborting after => stream.abortUpload context after
  | .destroyed => (none, stream)

/-- The thread of a pending part goes on. -/
def setThread (index : Nat) (part : PendingPart) (thread : PartThread)
    (stream : ThreadedStream) : ThreadedStream :=
  { stream with pendingUploads := stream.pendingUploads.set index { part with thread } }

/-- The thread of a part sends its request. -/
def sendPart (index : Nat) (stream : ThreadedStream) : ThreadedStream :=
  match stream.pendingUploads[index]? with
  | some part =>
      match part.thread with
      | .begun =>
          (stream.emit .thread (.uploadPart context.key part.partNumber stream.uploadId
            part.data)).setThread index part .sent
      | _ => stream
  | none => stream

def answerPart (index : Nat) (response : Option S3Response) (stream : ThreadedStream) :
    ThreadedStream :=
  match stream.pendingUploads[index]? with
  | some part =>
      match part.thread with
      | .sent =>
          stream.setThread index part
            (.ready (context.readPart part.data (stream.received response)))
      | _ => stream
  | none => stream

/-- One step.  A call is made only when no other is under way. -/
def step : Step ThreadedStream StreamInput (Option StreamReturn) := fun stream input =>
  match input with
  | .call call =>
      match stream.call with
      | .idle => stream.beginCall call
      | _ => (none, stream)
  | .advance response => stream.advance context response
  | .send index => (none, stream.sendPart context index)
  | .answer index response => (none, stream.answerPart context index response)

end ThreadedStream

end FileTrans.Cloud
