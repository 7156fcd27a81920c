import FileTrans.Cloud.S3UploadStream
import FileTrans.Text.Base64

/-!
# Block uploads to Azure

`azure_blob_upload_stream`.  The id of a block goes to the list before the block
is uploaded, and stays there if the upload fails; a failed `finalize` leaves the
rest in the buffer and may be called again.

The server executes a block when it is begun: no other request of the stream
names that block before its answer is taken.

The server maps names to blobs, and keeps the blocks that were put for each
name.  A block list stores the concatenation, in the order of the list, of the
latest block of each listed id; it is refused if there is none.
-/

namespace FileTrans.Cloud

open FileTrans.Collections FileTrans.Core FileTrans.Text FileTrans.Transition

/-! ## An Azure Blob server -/

/-- A request to the server. -/
inductive AzureRequest
  | putBlock (blob blockId data : Bytes)
  | putBlockList (blob : Bytes) (blockIds : List Bytes)
  | getBlob (blob : Bytes)
  | getBlobProperties (blob : Bytes)
  | deleteBlob (blob : Bytes)
  deriving DecidableEq

/-- An answer: the status, the ETag, and the body. -/
structure AzureResponse where
  status : Nat
  etag : Option Bytes
  body : Bytes
  deriving DecidableEq

/-- An answer without content. -/
def AzureResponse.ofStatus (status : Nat) : AzureResponse :=
  ⟨status, none, []⟩

/-- The blobs, and the blocks put for each name, with their ids. -/
structure AzureServer where
  blobs : Bytes → Option Bytes
  blocks : Bytes → List (Bytes × Bytes)

namespace AzureServer

/-- Execute a request. -/
def serve (etagOf : Bytes → Bytes) (request : AzureRequest) (server : AzureServer) :
    AzureResponse × AzureServer :=
  match request with
  | .putBlock blob blockId data =>
      (.ofStatus 201, { server with
        blocks := Function.update server.blocks blob (server.blocks blob ++ [(blockId, data)]) })
  | .putBlockList blob blockIds =>
      match gather (fun blockId => latest blockId (server.blocks blob)) blockIds with
      | none => (.ofStatus 400, server)
      | some data =>
          (⟨201, some (etagOf data), []⟩,
            { server with blobs := Function.update server.blobs blob (some data) })
  | .getBlob blob =>
      match server.blobs blob with
      | none => (.ofStatus 404, server)
      | some data => (⟨200, some (etagOf data), data⟩, server)
  | .getBlobProperties blob =>
      match server.blobs blob with
      | none => (.ofStatus 404, server)
      | some data => (⟨200, some (etagOf data), []⟩, server)
  | .deleteBlob blob =>
      match server.blobs blob with
      | none => (.ofStatus 404, server)
      | some _ =>
          (.ofStatus 202, { server with blobs := Function.update server.blobs blob none })

end AzureServer

def azureService (etagOf : Bytes → Bytes) : Service AzureRequest AzureResponse AzureServer where
  serve := AzureServer.serve etagOf
  refuse status := .ofStatus status.code

/-- The wire to an Azure server. -/
abbrev AzureWire := Wire AzureRequest AzureResponse AzureServer

/-! ## Upload streams -/

def generateBlockId (blockNumber : Nat) : Bytes :=
  let digits := decimal blockNumber
  base64Encode (List.replicate (6 - digits.length) 0x30 ++ digits)

theorem generateBlockId_injective : Function.Injective generateBlockId := by
  intro first second same
  have padded := congrArg (ofDigits 10) (base64Encode_injective same)
  rwa [ofDigits_zeros, ofDigits_zeros, ofDigits_decimal, ofDigits_decimal] at padded

/-- What a stream works with: the name of its blob, the configuration, the network, SHA-256, the
message of a failure in transport, and the ETags that the server gives. -/
structure AzureContext where
  blobName : Bytes
  multipart : MultipartConfig
  network : Network
  sha256 : Bytes → Bytes
  transportMessage : Bytes
  etagOf : Bytes → Bytes

/-- `azure_blob_upload_stream::impl`, and the wire.  Block numbers below 2^31 and counts below 2^64
are the numbers that the code has. -/
structure AzureUploadStream where
  blockIds : List Bytes
  currentBlockNumber : Nat
  blockBuffer : Bytes
  bytesWritten : Nat
  finalized : Bool
  aborted : Bool
  uploads : Uploads Bytes Unit
  wire : AzureWire

namespace AzureContext

variable (context : AzureContext)

def send (request : AzureRequest) (wire : AzureWire) : Option AzureResponse × AzureWire :=
  exchange (azureService context.etagOf) context.network request wire

/-- A failure in transport, with its message after this text. -/
def transportError {α : Type} (literal : String) : Result α :=
  .error ⟨.internalError, ascii literal ++ context.transportMessage⟩

/-- What `upload_block` makes of the answer. -/
def readBlock : Option AzureResponse → Result Unit
  | none => context.transportError "Failed to upload block: "
  | some response =>
      if response.status ≠ 201 then
        statusError "Failed to upload block, status: " response.status
      else .ok ()

def uploadBlock (blockId data : Bytes) (wire : AzureWire) : Result Unit × AzureWire :=
  let answered := context.send (.putBlock context.blobName blockId data) wire
  (context.readBlock answered.1, answered.2)

end AzureContext

namespace AzureUploadStream

/-- The constructor. -/
def create (wire : AzureWire) : AzureUploadStream where
  blockIds := []
  currentBlockNumber := 0
  blockBuffer := []
  bytesWritten := 0
  finalized := false
  aborted := false
  uploads := .start
  wire := wire

variable (context : AzureContext)

def uploadBlockAsync (blockId data : Bytes) (stream : AzureUploadStream) : AzureUploadStream :=
  let finishes := context.network.finishes stream.wire.sent.length
  let begun := context.uploadBlock blockId data stream.wire
  { stream with
    uploads := stream.uploads.add blockId begun.1 finishes
    wire := begun.2 }

/-- The inner part of the loop of `write`: a full buffer waits for a slot and is uploaded. -/
def flush (passes : Nat) : Flush UInt8 AzureUploadStream Error := fun data stream =>
  match stream.uploads.makeRoom context.multipart.maxConcurrentParts passes with
  | none => none
  | some (.error failure, uploads) => some (.error failure, { stream with uploads })
  | some (.ok (), uploads) =>
      let blockId := generateBlockId stream.currentBlockNumber
      let begun := uploadBlockAsync context blockId data
        { stream with uploads, blockIds := stream.blockIds ++ [blockId] }
      some (.ok (), { begun with currentBlockNumber := begun.currentBlockNumber + 1 })

/-- `write`, if it returns within so many passes of each loop. -/
def write (passes : Nat) (data : Bytes) (stream : AzureUploadStream) :
    Option (Result Nat × AzureUploadStream) :=
  if stream.finalized ∨ stream.aborted then
    some (unexpected .internalError "Stream already closed", stream)
  else
    match fill context.multipart.partSize (flush context passes) passes data stream.blockBuffer
        stream with
    | none => none
    | some (.error failure, blockBuffer, stream) =>
        some (.error failure, { stream with blockBuffer })
    | some (.ok (), blockBuffer, stream) =>
        some (.ok data.length,
          { stream with blockBuffer, bytesWritten := stream.bytesWritten + data.length })

/-- The result of a commit, with this ETag. -/
def uploadResult (stream : AzureUploadStream) (etag : Etag) : UploadResult where
  key := context.blobName
  etag := etag
  uploadId := none
  bytesUploaded := stream.bytesWritten

def commitBlockList (stream : AzureUploadStream) : Result UploadResult × AzureUploadStream :=
  let answered := context.send (.putBlockList context.blobName stream.blockIds) stream.wire
  let stream := { stream with wire := answered.2 }
  match answered.1 with
  | none => (context.transportError "Failed to commit block list: ", stream)
  | some response =>
      if response.status ≠ 201 then
        (statusError "Failed to commit block list, status: " response.status, stream)
      else
        let made := inQuotes (bytesToHex (context.sha256 stream.blockIds.flatten))
        (.ok (stream.uploadResult context (response.etag.getD made)), stream)

/-- Upload the rest of the buffer as the last block. -/
def uploadRest (stream : AzureUploadStream) : Result Unit × AzureUploadStream :=
  if stream.blockBuffer = [] then (.ok (), stream)
  else
    let blockId := generateBlockId stream.currentBlockNumber
    let answered := context.uploadBlock blockId stream.blockBuffer stream.wire
    (answered.1, { stream with
      blockIds := stream.blockIds ++ [blockId]
      wire := answered.2 })

def finalize (stream : AzureUploadStream) : Result UploadResult × AzureUploadStream :=
  if stream.finalized then (unexpected .internalError "Stream already finalized", stream)
  else if stream.aborted then (unexpected .internalError "Stream was aborted", stream)
  else
    match uploadRest context stream with
    | (.error failure, stream) => (.error failure, stream)
    | (.ok (), stream) =>
        match stream.uploads.waitAllUploads with
        | (.error failure, uploads) => (.error failure, { stream with uploads })
        | (.ok (), uploads) => commitBlockList context { stream with uploads, finalized := true }

end AzureUploadStream

end FileTrans.Cloud
