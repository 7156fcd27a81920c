import FileTrans.Cloud.HttpExchange
import FileTrans.Cloud.PendingUploads
import FileTrans.Cloud.UploadCalls
import FileTrans.Collections.Table
import FileTrans.Text.Order

/-!
# Multipart uploads to S3

`s3_upload_stream` of a configuration with an endpoint, so with an HTTP client.
A request that fails in transport is taken for a success with a made-up ETag,
or a made-up upload id; an error status is an error.

The server executes a part when it is begun: no other request of the stream
names that part before its answer is taken.

The server maps keys to objects, and keeps the parts of the multipart uploads
that it has created.  A part is kept when its upload exists; completing an upload
stores the concatenation of the listed parts, if the server has every one of
them with the listed ETag.
-/

namespace FileTrans.Cloud

open FileTrans.Collections FileTrans.Core FileTrans.Text FileTrans.Transition

/-! ## An S3 server -/

/-- A request to the server. -/
inductive S3Request
  | createMultipartUpload (key : Bytes)
  | uploadPart (key : Bytes) (partNumber : Nat) (uploadId : UploadId) (data : Bytes)
  | completeMultipartUpload (key : Bytes) (uploadId : UploadId) (parts : List (Nat × Etag))
  | abortMultipartUpload (key : Bytes) (uploadId : UploadId)
  | putObject (key : Bytes) (data : Bytes)
  | getObject (key : Bytes)
  deriving DecidableEq

/-- An answer: the status, the ETag, the `UploadId` element of the body, and the body of an
object. -/
structure S3Response where
  status : Nat
  etag : Option Etag
  uploadId : Option UploadId
  body : Bytes
  deriving DecidableEq

/-- An answer without content. -/
def S3Response.ofStatus (status : Nat) : S3Response :=
  ⟨status, none, none, []⟩

/-- An answer of success with an ETag. -/
def S3Response.ofEtag (etag : Etag) : S3Response :=
  ⟨200, some etag, none, []⟩

/-- A multipart upload that has been created: its key, and the parts kept so far. -/
structure MultipartUpload where
  key : Bytes
  parts : List (Nat × Bytes)

/-- The objects, the multipart uploads by their numbers, and the number of the next one. -/
structure S3Server where
  objects : Bytes → Option Bytes
  uploads : Nat → Option MultipartUpload
  next : Nat

namespace S3Server

/-- The upload that a request names, with its number. -/
def find (server : S3Server) (key : Bytes) : UploadId → Option (Nat × MultipartUpload)
  | .issued number =>
      match server.uploads number with
      | some upload => if upload.key = key then some (number, upload) else none
      | none => none
  | _ => none

/-- The kept part that an entry of the list names. -/
def listedPart (etagOf : Bytes → Etag) (parts : List (Nat × Bytes)) (entry : Nat × Etag) :
    Option Bytes :=
  match latest entry.1 parts with
  | some data => if etagOf data = entry.2 then some data else none
  | none => none

/-- Store an object. -/
def put (server : S3Server) (key data : Bytes) : S3Server :=
  { server with objects := Function.update server.objects key (some data) }

/-- Execute a request. -/
def serve (etagOf : Bytes → Etag) (request : S3Request) (server : S3Server) :
    S3Response × S3Server :=
  match request with
  | .createMultipartUpload key =>
      (⟨200, none, some (.issued server.next), []⟩, { server with
        uploads := Function.update server.uploads server.next (some ⟨key, []⟩)
        next := server.next + 1 })
  | .uploadPart key partNumber uploadId data =>
      match server.find key uploadId with
      | none => (.ofStatus 404, server)
      | some (number, upload) =>
          (.ofEtag (etagOf data), { server with
            uploads := Function.update server.uploads number
              (some { upload with parts := upload.parts ++ [(partNumber, data)] }) })
  | .completeMultipartUpload key uploadId parts =>
      match server.find key uploadId with
      | none => (.ofStatus 404, server)
      | some (number, upload) =>
          match gather (listedPart etagOf upload.parts) parts with
          | none => (.ofStatus 400, server)
          | some data =>
              (.ofEtag (etagOf data),
                { server.put key data with
                  uploads := Function.update server.uploads number none })
  | .abortMultipartUpload key uploadId =>
      match server.find key uploadId with
      | none => (.ofStatus 404, server)
      | some (number, _) =>
          (.ofStatus 204, { server with uploads := Function.update server.uploads number none })
  | .putObject key data => (.ofEtag (etagOf data), server.put key data)
  | .getObject key =>
      match server.objects key with
      | none => (.ofStatus 404, server)
      | some data => (⟨200, some (etagOf data), none, data⟩, server)

end S3Server

def s3Service (etagOf : Bytes → Etag) : Service S3Request S3Response S3Server where
  serve := S3Server.serve etagOf
  refuse status := .ofStatus status.code

/-- The wire to an S3 server. -/
abbrev S3Wire := Wire S3Request S3Response S3Server

/-! ## Upload streams -/

/-- What a stream works with: its key, the configuration, the network, SHA-256, the random bytes
it draws, and the ETags that the server gives. -/
structure S3Context where
  key : Bytes
  multipart : MultipartConfig
  network : Network
  sha256 : Bytes → Bytes
  random : Bytes
  etagOf : Bytes → Etag

/-- `s3_upload_stream::impl`, and the wire.  Part numbers below 2^31 and counts below 2^64 are the
numbers that the code has. -/
structure S3UploadStream where
  uploadId : UploadId
  currentPartNumber : Nat
  partBuffer : Bytes
  bytesWritten : Nat
  finalized : Bool
  aborted : Bool
  initialized : Bool
  uploads : Uploads Nat Etag
  wire : S3Wire

namespace S3Context

variable (context : S3Context)

def send (request : S3Request) (wire : S3Wire) : Option S3Response × S3Wire :=
  exchange (s3Service context.etagOf) context.network request wire

/-- The ETag that is made up for a part. -/
def localEtag (data : Bytes) : Etag :=
  inQuotes (bytesToHex (context.sha256 data))

/-- What `upload_part` makes of the answer. -/
def readPart (data : Bytes) : Option S3Response → Result Etag
  | some response =>
      if response.status = 200 then .ok (response.etag.getD (context.localEtag data))
      else statusError "S3 UploadPart failed with status " response.status
  | none => .ok (context.localEtag data)

def uploadPart (uploadId : UploadId) (partNumber : Nat) (data : Bytes) (wire : S3Wire) :
    Result Etag × S3Wire :=
  let answered := context.send (.uploadPart context.key partNumber uploadId data) wire
  (context.readPart data answered.1, answered.2)

end S3Context

/-- An ETag without the quotes around it. -/
def cleanEtag (etag : Etag) : Etag :=
  let front := if etag.head? = some 0x22 then etag.tail else etag
  if front.getLast? = some 0x22 then front.dropLast else front

namespace S3UploadStream

/-- The members of a new stream. -/
def create (wire : S3Wire) : S3UploadStream where
  uploadId := .empty
  currentPartNumber := 1
  partBuffer := []
  bytesWritten := 0
  finalized := false
  aborted := false
  initialized := false
  uploads := .start
  wire := wire

variable (context : S3Context)

def initiateMultipartUpload (stream : S3UploadStream) : Result UploadId × S3UploadStream :=
  let answered := context.send (.createMultipartUpload context.key) stream.wire
  let stream := { stream with wire := answered.2 }
  let simulated : Result UploadId × S3UploadStream :=
    (.ok (.random context.random),
      { stream with uploadId := .random context.random, initialized := true })
  match answered.1 with
  | none => simulated
  | some response =>
      if response.status = 200 then
        match response.uploadId with
        | some uploadId => (.ok uploadId, { stream with uploadId, initialized := true })
        | none => simulated
      else (statusError "S3 CreateMultipartUpload failed with status " response.status, stream)

/-- The constructor: the outcome of the first request is ignored. -/
def opened (wire : S3Wire) : S3UploadStream :=
  (initiateMultipartUpload context (create wire)).2

def uploadPartAsync (partNumber : Nat) (data : Bytes) (stream : S3UploadStream) :
    S3UploadStream :=
  let finishes := context.network.finishes stream.wire.sent.length
  let begun := context.uploadPart stream.uploadId partNumber data stream.wire
  { stream with
    uploads := stream.uploads.add partNumber begun.1 finishes
    wire := begun.2 }

/-- The inner part of the loop of `write`: a full buffer waits for a slot and is uploaded. -/
def flush (passes : Nat) : Flush UInt8 S3UploadStream Error := fun data stream =>
  match stream.uploads.makeRoom context.multipart.maxConcurrentParts passes with
  | none => none
  | some (.error failure, uploads) => some (.error failure, { stream with uploads })
  | some (.ok (), uploads) =>
      let begun := uploadPartAsync context stream.currentPartNumber data { stream with uploads }
      some (.ok (), { begun with currentPartNumber := begun.currentPartNumber + 1 })

/-- `write`, if it returns within so many passes of each loop. -/
def write (passes : Nat) (data : Bytes) (stream : S3UploadStream) :
    Option (Result Nat × S3UploadStream) :=
  if stream.finalized ∨ stream.aborted then
    some (unexpected .internalError "Stream already closed", stream)
  else
    match fill context.multipart.partSize (flush context passes) passes data stream.partBuffer
        stream with
    | none => none
    | some (.error failure, partBuffer, stream) =>
        some (.error failure, { stream with partBuffer })
    | some (.ok (), partBuffer, stream) =>
        some (.ok data.length,
          { stream with partBuffer, bytesWritten := stream.bytesWritten + data.length })

/-- `abort_multipart_upload`: the answer is ignored. -/
def abortMultipartUpload (stream : S3UploadStream) : S3UploadStream :=
  if stream.uploadId = .empty then { stream with aborted := true }
  else
    let answered := context.send (.abortMultipartUpload context.key stream.uploadId) stream.wire
    { stream with wire := answered.2, aborted := true }

/-- The parts in the order of their numbers. -/
def sortedParts (stream : S3UploadStream) : List (Nat × Etag) :=
  sortByKey Prod.fst stream.uploads.completed

/-- The result of a completion, with this ETag. -/
def uploadResult (stream : S3UploadStream) (etag : Etag) : UploadResult where
  key := context.key
  etag := etag
  uploadId := some stream.uploadId
  bytesUploaded := stream.bytesWritten

def completeMultipartUpload (stream : S3UploadStream) : Result UploadResult × S3UploadStream :=
  let parts := stream.sortedParts
  let answered := context.send (.completeMultipartUpload context.key stream.uploadId parts)
    stream.wire
  let stream := { stream with
    uploads := { stream.uploads with completed := parts }
    wire := answered.2 }
  match answered.1 with
  | some response =>
      if response.status = 200 then
        (.ok (stream.uploadResult context (response.etag.getD [])), stream)
      else (statusError "S3 CompleteMultipartUpload failed with status " response.status, stream)
  | none =>
      let tags := parts.flatMap fun part => cleanEtag part.2
      (.ok (stream.uploadResult context (inQuotes (tags ++ ascii "-" ++ decimal parts.length))),
        stream)

/-- Upload the rest of the buffer as the last part. -/
def uploadRest (stream : S3UploadStream) : Result Unit × S3UploadStream :=
  if stream.partBuffer = [] then (.ok (), stream)
  else
    let answered := context.uploadPart stream.uploadId stream.currentPartNumber stream.partBuffer
      stream.wire
    let stream := { stream with wire := answered.2 }
    match answered.1 with
    | .error failure => (.error failure, stream)
    | .ok etag =>
        (.ok (), { stream with uploads := { stream.uploads with
          completed := stream.uploads.completed ++ [(stream.currentPartNumber, etag)] } })

def finalize (stream : S3UploadStream) : Result UploadResult × S3UploadStream :=
  if stream.finalized then (unexpected .internalError "Stream already finalized", stream)
  else if stream.aborted then (unexpected .internalError "Stream was aborted", stream)
  else
    match uploadRest context stream with
    | (.error failure, stream) => (.error failure, abortMultipartUpload context stream)
    | (.ok (), stream) =>
        match stream.uploads.waitAllUploads with
        | (.error failure, uploads) =>
            (.error failure, abortMultipartUpload context { stream with uploads })
        | (.ok (), uploads) =>
            completeMultipartUpload context { stream with uploads, finalized := true }

end S3UploadStream

end FileTrans.Cloud
