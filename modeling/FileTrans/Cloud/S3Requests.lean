import FileTrans.Cloud.HttpRequests
import FileTrans.Text.QueryString
import FileTrans.Text.UtcTime

/-!
# Requests to S3

The requests of `s3_storage` and of `s3_upload_stream`, with their addresses,
their headers and their signatures.  Without an endpoint there is no HTTP
client, and nothing is sent.  The hash and the keyed hash are any functions.

The clock is read three times for a request: for its `x-amz-date` header, for
the date of the signature, and for the time of the signature.

A listing writes its parameters in an order of its own, and an upload id is
written as it is.  A query is canonical if its parameters are sorted and
encoded.
-/

namespace FileTrans.Cloud

open FileTrans.Text

/-! ## What a server computes from a request -/

/-- SHA-256, and HMAC-SHA256 of a key and a message. -/
structure Hashes where
  sha256 : Bytes → Bytes
  hmacSha256 : Bytes → Bytes → Bytes

namespace SignatureV4

/-- The names of the signed headers. -/
def signedHeaders (headers : List Header) : Bytes :=
  (ascii ";").intercalate (headers.map Prod.fst)

/-- The lines of a request that are hashed. -/
def canonicalRequest (method path query : Bytes) (headers : List Header) (payloadHash : Bytes) :
    Bytes :=
  newline.intercalate [method, path, query, headers.flatMap headerLine, signedHeaders headers,
    payloadHash]

/-- What the credentials are good for. -/
def credentialScope (date region : Bytes) : Bytes :=
  (ascii "/").intercalate [date, region, ascii "s3", ascii "aws4_request"]

/-- The text that is signed. -/
def stringToSign (hashes : Hashes) (timestamp date region canonical : Bytes) : Bytes :=
  newline.intercalate [ascii "AWS4-HMAC-SHA256", timestamp, credentialScope date region,
    bytesToHex (hashes.sha256 canonical)]

/-- The key for one day, region and service. -/
def signingKey (hashes : Hashes) (secret date region : Bytes) : Bytes :=
  [date, region, ascii "s3", ascii "aws4_request"].foldl hashes.hmacSha256 (ascii "AWS4" ++ secret)

/-- The value of the header. -/
def authorization (hashes : Hashes) (accessKeyId secret timestamp date region : Bytes)
    (signed canonical : Bytes) : Bytes :=
  ascii "AWS4-HMAC-SHA256 Credential=" ++ accessKeyId ++ ascii "/" ++
    credentialScope date region ++ ascii ", SignedHeaders=" ++ signed ++ ascii ", Signature=" ++
    bytesToHex (hashes.hmacSha256 (signingKey hashes secret date region)
      (stringToSign hashes timestamp date region canonical))

/-- The header that a server expects of a request: the path is encoded anew, the query sorted and
encoded anew, and the time and the hash of the body are taken from the headers. -/
def expected (hashes : Hashes) (accessKeyId secret region : Bytes) (sent : TransmittedRequest) :
    Bytes :=
  let target := requestTarget sent.url
  let headers := sortedHeaders sent.headers
  let timestamp := headerValue (ascii "x-amz-date") sent.headers
  authorization hashes accessKeyId secret timestamp (timestamp.take 8) region
    (signedHeaders headers)
    (canonicalRequest sent.method (urlEncode false (percentDecode (targetPath target)))
      (canonicalQuery (targetQuery target)) headers
      (headerValue (ascii "x-amz-content-sha256") sent.headers))

end SignatureV4

/-! ## Addresses -/

/-- `s3_config`, as far as requests depend on it. -/
structure S3Config where
  bucket : Bytes
  region : Bytes
  endpoint : Option Bytes
  usePathStyle : Bool
  useSsl : Bool
  useTransferAcceleration : Bool

structure S3EndpointInfo where
  host : Bytes
  port : Bytes
  useSsl : Bool
  deriving DecidableEq

/-- The port of a scheme. -/
def defaultPort (useSsl : Bool) : Bytes :=
  if useSsl then ascii "443" else ascii "80"

/-- `parse_endpoint`: the host ends at a colon before the first slash, or at the slash. -/
def parseEndpoint (endpoint : Bytes) : S3EndpointInfo :=
  let useSsl := (splitScheme endpoint).1.getD true
  let authority := (splitScheme endpoint).2.takeWhile (· != 0x2f)
  if 0x3a ∈ authority then
    ⟨authority.takeWhile (· != 0x3a), (authority.dropWhile (· != 0x3a)).tail, useSsl⟩
  else ⟨authority, defaultPort useSsl, useSsl⟩

def buildS3Url (host : Bytes) (useSsl : Bool) (path query : Bytes) : Bytes :=
  schemeText useSsl ++ host ++ renderTarget path query

namespace S3Config

variable (config : S3Config)

def getHost : Bytes :=
  match config.endpoint with
  | some endpoint => (parseEndpoint endpoint).host
  | none =>
      if config.useTransferAcceleration then config.bucket ++ ascii ".s3-accelerate.amazonaws.com"
      else if config.usePathStyle then ascii "s3." ++ config.region ++ ascii ".amazonaws.com"
      else config.bucket ++ ascii ".s3." ++ config.region ++ ascii ".amazonaws.com"

def getPath (key : Bytes) : Bytes :=
  if config.usePathStyle = true ∧ config.endpoint.isNone then
    ascii "/" ++ config.bucket ++ ascii "/" ++ key
  else ascii "/" ++ key

/-- The path of a request about the bucket. -/
def bucketPath : Bytes :=
  if config.usePathStyle then ascii "/" ++ config.bucket else ascii "/"

end S3Config

/-! ## Operations -/

/-- What a request is for. -/
inductive S3Operation
  | headBucket
  | listObjects (options : ListObjectsOptions)
  | putObject (key data : Bytes)
  | getObject (key : Bytes)
  | headObject (key : Bytes)
  | deleteObject (key : Bytes)
  | copyObject (sourceKey destKey : Bytes)
  | createMultipartUpload (key : Bytes)
  | uploadPart (key : Bytes) (partNumber : Nat) (uploadId data : Bytes)
  | completeMultipartUpload (key uploadId : Bytes) (parts : List (Nat × Etag))
  | abortMultipartUpload (key uploadId : Bytes)

def buildCompleteMultipartXml (parts : List (Nat × Etag)) : Bytes :=
  ascii "<?xml version=\"1.0\" encoding=\"UTF-8\"?>\n" ++
    ascii "<CompleteMultipartUpload xmlns=\"http://s3.amazonaws.com/doc/2006-03-01/\">\n" ++
    parts.flatMap (fun part =>
      ascii "  <Part>\n" ++
        ascii "    <PartNumber>" ++ decimal part.1 ++ ascii "</PartNumber>\n" ++
        ascii "    <ETag>" ++ part.2 ++ ascii "</ETag>\n" ++
        ascii "  </Part>\n") ++
    ascii "</CompleteMultipartUpload>"

/-- The query of `list_objects`. -/
def ListObjectsOptions.query (options : ListObjectsOptions) : Bytes :=
  ascii "list-type=2" ++
    (options.startsWith.elim [] fun value => ascii "&prefix=" ++ urlEncode true value) ++
    (options.delimiter.elim [] fun value => ascii "&delimiter=" ++ urlEncode true value) ++
    (if 0 < options.maxKeys then ascii "&max-keys=" ++ decimal options.maxKeys else []) ++
    (options.continuationToken.elim [] fun value =>
      ascii "&continuation-token=" ++ urlEncode true value)

namespace S3Operation

def method : S3Operation → Bytes
  | headBucket => ascii "HEAD"
  | listObjects _ => ascii "GET"
  | putObject _ _ => ascii "PUT"
  | getObject _ => ascii "GET"
  | headObject _ => ascii "HEAD"
  | deleteObject _ => ascii "DELETE"
  | copyObject _ _ => ascii "PUT"
  | createMultipartUpload _ => ascii "POST"
  | uploadPart _ _ _ _ => ascii "PUT"
  | completeMultipartUpload _ _ _ => ascii "POST"
  | abortMultipartUpload _ _ => ascii "DELETE"

/-- The key that the request is about, if it is about an object. -/
def key : S3Operation → Option Bytes
  | headBucket => none
  | listObjects _ => none
  | putObject key _ => some key
  | getObject key => some key
  | headObject key => some key
  | deleteObject key => some key
  | copyObject _ destKey => some destKey
  | createMultipartUpload key => some key
  | uploadPart key _ _ _ => some key
  | completeMultipartUpload key _ _ => some key
  | abortMultipartUpload key _ => some key

def path (config : S3Config) (operation : S3Operation) : Bytes :=
  match operation.key with
  | some key => config.getPath key
  | none => config.bucketPath

def query : S3Operation → Bytes
  | listObjects options => options.query
  | createMultipartUpload _ => ascii "uploads="
  | uploadPart _ partNumber uploadId _ =>
      ascii "partNumber=" ++ decimal partNumber ++ ascii "&uploadId=" ++ uploadId
  | completeMultipartUpload _ uploadId _ => ascii "uploadId=" ++ uploadId
  | abortMultipartUpload _ uploadId => ascii "uploadId=" ++ uploadId
  | _ => []

def body : S3Operation → Bytes
  | putObject _ data => data
  | uploadPart _ _ _ data => data
  | completeMultipartUpload _ _ parts => buildCompleteMultipartXml parts
  | _ => []

end S3Operation

/-! ## Headers and signatures -/

/-- `static_credentials`. -/
structure S3Credentials where
  accessKeyId : Bytes
  secretAccessKey : Bytes

/-- The readings of the clock while a request is made. -/
structure ClockReadings where
  header : UtcTime
  date : UtcTime
  time : UtcTime
  header_le_date : header ≤ date
  date_le_time : date ≤ time

/-- What requests are made from: the configuration, the credentials, the hashes, and
`detect_content_type`. -/
structure S3Client where
  config : S3Config
  credentials : S3Credentials
  hashes : Hashes
  detectContentType : Bytes → Bytes

namespace S3Client

variable (client : S3Client)

def createAuthorizationHeader (dateStamp amzDate method uri queryString : Bytes)
    (headers : List Header) (payloadHash : Bytes) : Bytes :=
  let hashes := client.hashes
  let region := client.config.region
  let sorted := headerMap (headers.map lowerName)
  let signedHeaders := (ascii ";").intercalate (sorted.map Prod.fst)
  let canonicalRequest :=
    method ++ newline ++ urlEncode false uri ++ newline ++ queryString ++ newline ++
      sorted.flatMap (fun header => header.1 ++ ascii ":" ++ header.2 ++ newline) ++ newline ++
      signedHeaders ++ newline ++ payloadHash
  let scope := dateStamp ++ ascii "/" ++ region ++ ascii "/s3/aws4_request"
  let stringToSign :=
    ascii "AWS4-HMAC-SHA256" ++ newline ++ amzDate ++ newline ++ scope ++ newline ++
      bytesToHex (hashes.sha256 canonicalRequest)
  let dateKey := hashes.hmacSha256 (ascii "AWS4" ++ client.credentials.secretAccessKey) dateStamp
  let regionKey := hashes.hmacSha256 dateKey region
  let serviceKey := hashes.hmacSha256 regionKey (ascii "s3")
  let signingKey := hashes.hmacSha256 serviceKey (ascii "aws4_request")
  let signature := hashes.hmacSha256 signingKey stringToSign
  ascii "AWS4-HMAC-SHA256" ++ ascii " " ++ ascii "Credential=" ++
    client.credentials.accessKeyId ++ ascii "/" ++ scope ++ ascii ", " ++
    ascii "SignedHeaders=" ++ signedHeaders ++ ascii ", " ++
    ascii "Signature=" ++ bytesToHex signature

/-- What all requests share: three headers, more headers, and the signature. -/
def signedRequest (clock : ClockReadings) (method path query body : Bytes)
    (moreHeaders : List Header) : SentRequest :=
  let host := client.config.getHost
  let payloadHash := bytesToHex (client.hashes.sha256 body)
  let headers := headerMap (
    [(ascii "Host", host), (ascii "x-amz-date", clock.header.iso8601),
      (ascii "x-amz-content-sha256", payloadHash)] ++ moreHeaders)
  { method := method
    url := buildS3Url host client.config.useSsl path query
    headers := headers
    body := body
    authorization := client.createAuthorizationHeader clock.date.dateStamp clock.time.iso8601
      method path query headers payloadHash }

/-- `s3_storage::impl::send_request`: a body has a length. -/
def sendRequest (clock : ClockReadings) (method path query body : Bytes)
    (extraHeaders : List Header) : SentRequest :=
  client.signedRequest clock method path query body
    ((if body = [] then [] else [contentLength body]) ++ extraHeaders)

/-- The headers of the operation that its callers add. -/
def extraHeaders : S3Operation → List Header
  | .putObject key _ => [(ascii "Content-Type", client.detectContentType key)]
  | .copyObject sourceKey _ =>
      [(ascii "x-amz-copy-source",
        urlEncode false (ascii "/" ++ client.config.bucket ++ ascii "/" ++ sourceKey))]
  | .createMultipartUpload key => [(ascii "Content-Type", client.detectContentType key)]
  | .uploadPart _ _ _ data => [contentLength data]
  | .completeMultipartUpload _ _ parts =>
      [(ascii "Content-Type", ascii "application/xml"),
        contentLength (buildCompleteMultipartXml parts)]
  | _ => []

/-- The request is one of an upload stream, which adds its headers itself. -/
def OfStream : S3Operation → Bool
  | .createMultipartUpload _ => true
  | .uploadPart _ _ _ _ => true
  | .completeMultipartUpload _ _ _ => true
  | .abortMultipartUpload _ _ => true
  | _ => false

/-- The request for an operation, if there is an HTTP client to send it. -/
def request (clock : ClockReadings) (operation : S3Operation) : Option SentRequest :=
  let make := if OfStream operation then client.signedRequest else client.sendRequest
  if client.config.endpoint.isSome then
    some (make clock operation.method (operation.path client.config) operation.query
      operation.body (client.extraHeaders operation))
  else none

end S3Client

/-! ## Listings -/

namespace ListObjectsOptions

variable (options : ListObjectsOptions)

/-- The parameters of a listing in the order in which they are written. -/
def parameters : List Parameter :=
  (ascii "list-type", ascii "2") ::
    (options.startsWith.elim [] (fun value => [(ascii "prefix", value)]) ++
      options.delimiter.elim [] (fun value => [(ascii "delimiter", value)]) ++
      (if 0 < options.maxKeys then [(ascii "max-keys", decimal options.maxKeys)] else []) ++
      options.continuationToken.elim [] fun value => [(ascii "continuation-token", value)])

theorem query_eq_renderQuery : options.query = renderQuery options.parameters := by
  have numeral : urlEncode true (decimal options.maxKeys) = decimal options.maxKeys :=
    urlEncode_decimal true options.maxKeys
  have listType : renderParameter (ascii "list-type", ascii "2") = ascii "list-type=2" := rfl
  have startsWith (value : Bytes) : 0x26 :: renderParameter (ascii "prefix", value) =
      ascii "&prefix=" ++ urlEncode true value := rfl
  have delimiter (value : Bytes) : 0x26 :: renderParameter (ascii "delimiter", value) =
      ascii "&delimiter=" ++ urlEncode true value := rfl
  have maxKeys (value : Bytes) : 0x26 :: renderParameter (ascii "max-keys", value) =
      ascii "&max-keys=" ++ urlEncode true value := rfl
  have token (value : Bytes) : 0x26 :: renderParameter (ascii "continuation-token", value) =
      ascii "&continuation-token=" ++ urlEncode true value := rfl
  rw [query, parameters, renderQuery_cons, listType]
  cases options.startsWith <;> cases options.delimiter <;> cases options.continuationToken <;>
    by_cases positive : 0 < options.maxKeys <;>
    simp [positive, startsWith, delimiter, maxKeys, token, numeral]

theorem canonicalQuery_iff :
    canonicalQuery options.query = options.query ↔
      options.delimiter = none ∧ options.continuationToken = none ∧
        (options.startsWith = none ∨ options.maxKeys = 0) := by
  have delimiter : ¬ ascii "list-type" ≤ ascii "delimiter" := by decide
  have token : ¬ ascii "list-type" ≤ ascii "continuation-token" := by decide
  have startsWith : ascii "list-type" ≤ ascii "prefix" := by decide
  have maxKeys : ascii "list-type" ≤ ascii "max-keys" := by decide
  have both : ¬ ascii "prefix" ≤ ascii "max-keys" := by decide
  rw [query_eq_renderQuery, canonicalQuery_renderQuery_eq_iff, parameters, List.pairwise_cons]
  rcases options with ⟨_ | prefix', _ | delimiter', number, _ | token'⟩ <;>
    by_cases zero : number = 0 <;>
    simp [zero, Nat.pos_iff_ne_zero, delimiter, token, startsWith, maxKeys, both]

end ListObjectsOptions

/-! ## Upload ids -/

/-- The upload id is written as it is in a canonical query. -/
def CanonicalUploadId (uploadId : Bytes) : Prop :=
  canonicalQuery (ascii "uploadId=" ++ uploadId) = ascii "uploadId=" ++ uploadId

theorem canonicalQuery_uploadPart_iff (partNumber : Nat) (uploadId : Bytes) :
    canonicalQuery (ascii "partNumber=" ++ decimal partNumber ++ ascii "&uploadId=" ++ uploadId) =
        ascii "partNumber=" ++ decimal partNumber ++ ascii "&uploadId=" ++ uploadId ↔
      CanonicalUploadId uploadId := by
  have number : ascii "partNumber=" ++ decimal partNumber =
      renderParameter (ascii "partNumber", decimal partNumber) := by
    rw [renderParameter, urlEncode_decimal]
    rfl
  have rest : ascii "&uploadId=" ++ uploadId = 0x26 :: (ascii "uploadId=" ++ uploadId) := rfl
  have name : ascii "uploadId=" ++ uploadId = ascii "uploadId" ++ 0x3d :: uploadId := rfl
  rw [List.append_assoc _ (ascii "&uploadId="), rest, number,
    canonicalQuery_append_cons_eq_self_iff _ (by simp [name]), CanonicalUploadId]
  apply and_iff_right_of_imp
  intro canonical other mem
  rw [name] at canonical mem
  have least : ascii "partNumber" ≤ ascii "uploadId" := by decide
  have unreserved : ∀ byte ∈ ascii "uploadId", isUnreserved byte :=
    List.all_eq_true.mp (by decide)
  exact least.trans (le_of_canonicalQuery (by decide) unreserved canonical other mem)

/-! ## All operations -/

/-- What makes the query of an operation canonical. -/
def S3Operation.CanonicalQuery : S3Operation → Prop
  | .listObjects options =>
      options.delimiter = none ∧ options.continuationToken = none ∧
        (options.startsWith = none ∨ options.maxKeys = 0)
  | .uploadPart _ _ uploadId _ => CanonicalUploadId uploadId
  | .completeMultipartUpload _ uploadId _ => CanonicalUploadId uploadId
  | .abortMultipartUpload _ uploadId => CanonicalUploadId uploadId
  | _ => True

theorem S3Operation.canonicalQuery_iff (operation : S3Operation) :
    canonicalQuery operation.query = operation.query ↔ operation.CanonicalQuery := by
  have uploads : canonicalQuery (ascii "uploads=") = ascii "uploads=" := by decide
  cases operation with
  | listObjects options => exact options.canonicalQuery_iff
  | uploadPart key partNumber uploadId data =>
      exact canonicalQuery_uploadPart_iff partNumber uploadId
  | createMultipartUpload key => exact iff_of_true uploads trivial
  | completeMultipartUpload key uploadId parts => exact Iff.rfl
  | abortMultipartUpload key uploadId => exact Iff.rfl
  | headBucket => exact iff_of_true rfl trivial
  | putObject key data => exact iff_of_true rfl trivial
  | getObject key => exact iff_of_true rfl trivial
  | headObject key => exact iff_of_true rfl trivial
  | deleteObject key => exact iff_of_true rfl trivial
  | copyObject sourceKey destKey => exact iff_of_true rfl trivial

end FileTrans.Cloud
