import FileTrans.Cloud.HttpExchange
import FileTrans.Cloud.ObjectMap
import FileTrans.Cloud.PendingUploads

/-!
# Google Cloud Storage

`gcs_storage` and `gcs_upload_stream`, with the server that they talk to, which
maps names to objects, and the one that issues access tokens.  An upload stream
hashes its chunks and sends nothing.

Clock readings are in nanoseconds.
-/

namespace FileTrans.Cloud

open FileTrans.Core FileTrans.Text FileTrans.Transition

/-! ## The server -/

/-- A request to the server, or to the one that issues tokens. -/
inductive GcsRequest
  | token (assertion : Bytes)
  | insertMedia (name data : Bytes)
  | getMedia (name : Bytes)
  deriving DecidableEq

/-- An answer: the status, what the client finds in its JSON body, and the body of an object. -/
structure GcsResponse where
  status : Nat
  accessToken : Option Bytes
  expiresIn : Option Int
  etag : Bytes
  message : Option Bytes
  body : Bytes
  deriving DecidableEq

/-- An answer without content. -/
def GcsResponse.ofStatus (status : Nat) : GcsResponse :=
  ⟨status, none, none, [], none, []⟩

/-- How the servers answer: the ETags, and the tokens with their lifetimes in seconds. -/
structure GcsPolicy where
  etagOf : Bytes → Bytes
  issue : Bytes → Bytes × Option Int

/-- Execute a request. -/
def GcsPolicy.serve (policy : GcsPolicy) (request : GcsRequest) (objects : Objects) :
    GcsResponse × Objects :=
  match request with
  | .token assertion =>
      (⟨200, some (policy.issue assertion).1, (policy.issue assertion).2, [], none, []⟩, objects)
  | .insertMedia name data =>
      (⟨200, none, none, policy.etagOf data, none, []⟩,
        Function.update objects name (some data))
  | .getMedia name =>
      match objects name with
      | none => (.ofStatus 404, objects)
      | some data => (⟨200, none, none, [], none, data⟩, objects)

/-- The server as a service. -/
def gcsService (policy : GcsPolicy) : Service GcsRequest GcsResponse Objects where
  serve := policy.serve
  refuse status := .ofStatus status.code

/-- The wire to the servers. -/
abbrev GcsWire := Wire GcsRequest GcsResponse Objects

/-! ## Access tokens -/

/-- `gcs_storage::impl`: the state and the configuration, SHA-256, the random bytes of an upload
id, the assertion that the credentials make at a time, or why they make none, and the servers. -/
structure GcsStorage where
  connected : Bool
  multipart : MultipartConfig
  sha256 : Bytes → Bytes
  uploadId : Bytes
  createJwt : Result (Nat → Bytes)
  policy : GcsPolicy

/-- `access_token_` and `token_expiry_`, for a token that was issued for these credentials. -/
structure AccessToken (storage : GcsStorage) where
  token : Bytes
  expiry : Int
  obtained : ∃ jwt, storage.createJwt = .ok jwt

/-- The token that is held, and the wire. -/
structure GcsSession (storage : GcsStorage) where
  held : Option (AccessToken storage)
  wire : GcsWire

/-- So many seconds. -/
def seconds (count : Int) : Int :=
  count * 1000000000

namespace GcsStorage

variable (storage : GcsStorage) (network : Network)

def send (request : GcsRequest) (session : GcsSession storage) :
    Option GcsResponse × GcsSession storage :=
  let answered := exchange (gcsService storage.policy) network request session.wire
  (answered.1, { session with wire := answered.2 })

/-- The token that is held, if it is valid for another minute. -/
def freshToken (now : Nat) (session : GcsSession storage) : Option (AccessToken storage) :=
  session.held.filter fun held => held.token ≠ [] ∧ now + seconds 60 < held.expiry

def getAccessToken (now : Nat) (session : GcsSession storage) :
    Result Bytes × GcsSession storage :=
  match storage.freshToken now session with
  | some held => (.ok held.token, session)
  | none =>
      match made : storage.createJwt with
      | .error failure => (.error failure, session)
      | .ok jwt =>
          let answered := storage.send network (.token (jwt now)) session
          match answered.1 with
          | none => (unexpected .internalError "Token request failed", answered.2)
          | some response =>
              if response.status ≠ 200 then
                (statusError "Token request returned status " response.status, answered.2)
              else
                match response.accessToken with
                | none => (unexpected .internalError "No access_token in response", answered.2)
                | some token =>
                    (.ok token, { answered.2 with
                      held := some ⟨token, now + seconds (response.expiresIn.getD 3600),
                        jwt, made⟩ })

/-- `get_auth_headers`: the value of `Authorization`. -/
def getAuthHeaders (now : Nat) (session : GcsSession storage) :
    Result Bytes × GcsSession storage :=
  match storage.getAccessToken network now session with
  | (.error failure, session) => (.error failure, session)
  | (.ok token, session) => (.ok (ascii "Bearer " ++ token), session)

end GcsStorage

/-! ## Upload streams -/

/-- `gcs_upload_stream::impl`; `bytes_committed` is never read.  Counts below 2^64 are the numbers
that the code has. -/
structure GcsUploadStream where
  buffer : Bytes
  bytesWritten : Nat
  finalized : Bool
  aborted : Bool
  uploads : Uploads Nat Unit

namespace GcsUploadStream

/-- The constructor. -/
def create : GcsUploadStream where
  buffer := []
  bytesWritten := 0
  finalized := false
  aborted := false
  uploads := .start

variable (storage : GcsStorage) (finishes : Nat → Nat)

/-- `upload_chunk`: the hash of the chunk is dropped. -/
def uploadChunk (_offset : Nat) (_data : Bytes) : Result Unit :=
  .ok ()

/-- How many chunks were begun. -/
def chunks (stream : GcsUploadStream) : Nat :=
  stream.uploads.completed.length + stream.uploads.pending.length

/-- `upload_chunk_async`.  The position that it notes is the offset: of the data, which were moved
to the upload, nothing is left to add. -/
def uploadChunkAsync (offset : Nat) (data : Bytes) (stream : GcsUploadStream) : GcsUploadStream :=
  { stream with
    uploads := stream.uploads.add offset (uploadChunk offset data) (finishes stream.chunks) }

/-- The inner part of the loop of `write`: a full buffer waits for a slot and is uploaded.  The
offset is that of the whole write. -/
def flush (passes : Nat) : Flush UInt8 GcsUploadStream Error := fun data stream =>
  match stream.uploads.makeRoom storage.multipart.maxConcurrentParts passes with
  | none => none
  | some (.error failure, uploads) => some (.error failure, { stream with uploads })
  | some (.ok (), uploads) =>
      some (.ok (), uploadChunkAsync finishes stream.bytesWritten data { stream with uploads })

/-- `write`, if it returns within so many passes of each loop. -/
def write (passes : Nat) (data : Bytes) (stream : GcsUploadStream) :
    Option (Result Nat × GcsUploadStream) :=
  if stream.finalized ∨ stream.aborted then
    some (unexpected .internalError "Stream already closed", stream)
  else
    match fill storage.multipart.partSize (flush storage finishes passes) passes data
        stream.buffer stream with
    | none => none
    | some (.error failure, buffer, stream) => some (.error failure, { stream with buffer })
    | some (.ok (), buffer, stream) =>
        some (.ok data.length,
          { stream with buffer, bytesWritten := stream.bytesWritten + data.length })

def finalizeUpload (name : Bytes) (stream : GcsUploadStream) : UploadResult where
  key := name
  etag := inQuotes (bytesToHex (storage.sha256 (name ++ ascii ":" ++ decimal stream.bytesWritten)))
  uploadId := some (.random storage.uploadId)
  bytesUploaded := stream.bytesWritten

/-- Hash the rest of the buffer as the last chunk. -/
def uploadRest (stream : GcsUploadStream) : Result Unit :=
  if stream.buffer = [] then .ok ()
  else uploadChunk (stream.bytesWritten - stream.buffer.length) stream.buffer

def finalize (name : Bytes) (stream : GcsUploadStream) : Result UploadResult × GcsUploadStream :=
  if stream.finalized then (unexpected .internalError "Stream already finalized", stream)
  else if stream.aborted then (unexpected .internalError "Stream was aborted", stream)
  else
    match uploadRest stream with
    | .error failure => (.error failure, stream)
    | .ok () =>
        match stream.uploads.waitAllUploads with
        | (.error failure, uploads) => (.error failure, { stream with uploads })
        | (.ok (), uploads) =>
            (.ok (finalizeUpload storage name stream), { stream with uploads, finalized := true })

end GcsUploadStream

/-- One call on a stream for this object.  One that does not return within so many passes of its
loops is left out of the run. -/
def gcsStep (storage : GcsStorage) (finishes : Nat → Nat) (name : Bytes) (passes : Nat) :
    Step GcsUploadStream UploadCall (Option UploadReturn) := fun stream call =>
  match call with
  | .write data =>
      match stream.write storage finishes passes data with
      | none => (none, stream)
      | some (result, stream) => (some (.wrote result), stream)
  | .finalize =>
      let finished := stream.finalize storage name
      (some (.finished finished.1), finished.2)

/-! ## Storages -/

namespace GcsStorage

variable (storage : GcsStorage) (network : Network)

/-- `use_resumable`. -/
def UsesResumable (data : Bytes) : Prop :=
  storage.multipart.enabled = true ∧ storage.multipart.threshold ≤ data.length

instance (data : Bytes) : Decidable (storage.UsesResumable data) :=
  inferInstanceAs (Decidable (_ ∧ _))

/-- An error with a status, and with the message in the body of the answer. -/
def answerError {α : Type} (literal : String) (response : GcsResponse) : Result α :=
  let status := ascii literal ++ decimal response.status
  .error ⟨.internalError, match response.message with
    | some message => status ++ ascii ": " ++ message
    | none => status⟩

/-- The simple upload of a small object. -/
def uploadMedia (now : Nat) (key data : Bytes) (session : GcsSession storage) :
    Result UploadResult × GcsSession storage :=
  match storage.getAuthHeaders network now session with
  | (.error failure, session) => (.error failure, session)
  | (.ok _, session) =>
      let answered := storage.send network (.insertMedia key data) session
      match answered.1 with
      | none => (unexpected .internalError "Upload request failed", answered.2)
      | some response =>
          if response.status ≠ 200 then
            (answerError "Upload failed with status " response, answered.2)
          else (.ok ⟨key, response.etag, none, data.length⟩, answered.2)

/-- `upload`, if it returns within so many passes of each loop. -/
def upload (passes now : Nat) (key data : Bytes) (session : GcsSession storage) :
    Option (Result UploadResult × GcsSession storage) :=
  if ¬ storage.connected then some (unexpected .notInitialized "Not connected", session)
  else if storage.UsesResumable data then
    match GcsUploadStream.create.write storage network.finishes passes data with
    | none => none
    | some (.error failure, _) => some (.error failure, session)
    | some (.ok _, stream) => some ((stream.finalize storage key).1, session)
  else some (storage.uploadMedia network now key data session)

def download (now : Nat) (key : Bytes) (session : GcsSession storage) :
    Result Bytes × GcsSession storage :=
  if ¬ storage.connected then (unexpected .notInitialized "Not connected", session)
  else
    match storage.getAuthHeaders network now session with
    | (.error failure, session) => (.error failure, session)
    | (.ok _, session) =>
        let answered := storage.send network (.getMedia key) session
        match answered.1 with
        | none => (unexpected .internalError "Download request failed", answered.2)
        | some response =>
            if response.status = 404 then
              (.error ⟨.fileNotFound, ascii "Object not found: " ++ key⟩, answered.2)
            else if response.status ≠ 200 then
              (answerError "Download failed with status " response, answered.2)
            else (.ok response.body, answered.2)

end GcsStorage

end FileTrans.Cloud
