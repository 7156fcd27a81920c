import FileTrans.Cloud.S3Requests

/-!
# Presigned URLs

`s3_storage::generate_presigned_url` for static credentials, and the request
that is made with such a URL.  The signature covers the host and the headers
that the options prescribe, and is the last parameter of the query.

The clock is read twice: for the date of the signature, and for its time.
-/

namespace FileTrans.Cloud

open FileTrans.Text

structure PresignedUrlOptions where
  expiration : Int
  method : Bytes
  contentType : Option Bytes
  contentMd5 : Option Bytes
  storageClass : Option Bytes
  serverSideEncryption : Option Bytes
  kmsKeyId : Option Bytes
  customMetadata : List (Bytes × Bytes)
  responseContentType : Option Bytes
  responseContentDisposition : Option Bytes

/-- The readings of the clock while a URL is made. -/
structure PresignReadings where
  date : UtcTime
  time : UtcTime
  date_le_time : date ≤ time

/-- The value that was assigned last to an entry of a `std::map`. -/
def assignedValue (name : Bytes) (assignments : List Header) : Bytes :=
  (assignments.reverse.find? fun header => header.1 == name).elim [] Prod.snd

namespace PresignedUrlOptions

variable (options : PresignedUrlOptions)

/-- The headers of the members, for a PUT. -/
def memberHeaders : List Header :=
  options.serverSideEncryption.elim [] (fun algorithm =>
    (ascii "x-amz-server-side-encryption", algorithm) ::
      if algorithm = ascii "aws:kms" then
        options.kmsKeyId.elim [] fun keyId =>
          [(ascii "x-amz-server-side-encryption-aws-kms-key-id", keyId)]
      else []) ++
    options.storageClass.elim [] (fun value => [(ascii "x-amz-storage-class", value)]) ++
    options.contentType.elim [] fun value => [(ascii "content-type", value)]

/-- What goes to `headers_to_sign`, and by its names to `signed_header_names`. -/
def headersToSign (host : Bytes) : List Header :=
  (ascii "host", host) ::
    if options.method = ascii "PUT" then
      options.memberHeaders ++ options.customMetadata.map fun entry =>
        ((ascii "x-amz-meta-" ++ entry.1).map toLower, entry.2)
    else []

/-- `signed_header_names`, sorted. -/
def signedHeaderNames (host : Bytes) : List Bytes :=
  sortByKey id ((options.headersToSign host).map Prod.fst)

def signedHeaders (host : Bytes) : Bytes :=
  (ascii ";").intercalate (options.signedHeaderNames host)

def queryString (credential amzDate signedHeaders : Bytes) : Bytes :=
  ascii "X-Amz-Algorithm=" ++ ascii "AWS4-HMAC-SHA256" ++
    ascii "&X-Amz-Credential=" ++ urlEncode true credential ++
    ascii "&X-Amz-Date=" ++ amzDate ++
    ascii "&X-Amz-Expires=" ++ decimalInt options.expiration ++
    ascii "&X-Amz-SignedHeaders=" ++ urlEncode true signedHeaders ++
    if options.method = ascii "GET" then
      (options.responseContentType.elim [] fun value =>
        ascii "&response-content-type=" ++ urlEncode true value) ++
      (options.responseContentDisposition.elim [] fun value =>
        ascii "&response-content-disposition=" ++ urlEncode true value)
    else []

end PresignedUrlOptions

namespace S3Client

variable (client : S3Client) (clock : PresignReadings) (key : Bytes)
  (options : PresignedUrlOptions)

/-- `credential_scope`. -/
def presignScope : Bytes :=
  clock.date.dateStamp ++ ascii "/" ++ client.config.region ++ ascii "/s3/aws4_request"

/-- `query_string`. -/
def presignQuery : Bytes :=
  options.queryString (client.credentials.accessKeyId ++ ascii "/" ++ client.presignScope clock)
    clock.time.iso8601 (options.signedHeaders client.config.getHost)

/-- `canonical_request`. -/
def presignCanonicalRequest : Bytes :=
  let host := client.config.getHost
  options.method ++ newline ++ urlEncode false (client.config.getPath key) ++ newline ++
    client.presignQuery clock options ++ newline ++
    (options.signedHeaderNames host).flatMap (fun name =>
      name ++ ascii ":" ++ assignedValue name (options.headersToSign host) ++ newline) ++ newline ++
    options.signedHeaders host ++ newline ++ ascii "UNSIGNED-PAYLOAD"

/-- `signature`, in hexadecimal digits. -/
def presignSignature : Bytes :=
  let hashes := client.hashes
  let stringToSign :=
    ascii "AWS4-HMAC-SHA256" ++ newline ++ clock.time.iso8601 ++ newline ++
      client.presignScope clock ++ newline ++
      bytesToHex (hashes.sha256 (client.presignCanonicalRequest clock key options))
  let dateKey :=
    hashes.hmacSha256 (ascii "AWS4" ++ client.credentials.secretAccessKey) clock.date.dateStamp
  let regionKey := hashes.hmacSha256 dateKey client.config.region
  let serviceKey := hashes.hmacSha256 regionKey (ascii "s3")
  let signingKey := hashes.hmacSha256 serviceKey (ascii "aws4_request")
  bytesToHex (hashes.hmacSha256 signingKey stringToSign)

def generatePresignedUrl : Bytes :=
  schemeText client.config.useSsl ++ client.config.getHost ++ client.config.getPath key ++
    ascii "?" ++ client.presignQuery clock options ++ ascii "&X-Amz-Signature=" ++
    client.presignSignature clock key options

end S3Client

/-! ## Requests with a presigned URL -/

/-- A character of a header name. -/
def isTokenByte (byte : UInt8) : Bool :=
  (0x30 ≤ byte && byte ≤ 0x39) || (0x41 ≤ byte && byte ≤ 0x5a) || (0x61 ≤ byte && byte ≤ 0x7a) ||
    byte ∈ ascii "!#$%&'*+-.^_`|~"

/-- White space around the value of a header is not part of it. -/
def isSpace (byte : UInt8) : Bool :=
  byte = 0x20 || byte = 0x09

/-- A header that a request can carry: its name is a token, and its value has no control
characters, and no white space around it. -/
def IsField (header : Header) : Prop :=
  (∀ byte ∈ header.1, isTokenByte byte) ∧
    (∀ byte ∈ header.2, byte = 0x09 ∨ 0x20 ≤ byte ∧ byte ≠ 0x7f) ∧
    (∀ byte ∈ header.2.head?, ¬ isSpace byte) ∧ ∀ byte ∈ header.2.getLast?, ¬ isSpace byte

/-- The host that a URL names. -/
def urlHost (url : Bytes) : Bytes :=
  (splitScheme url).2.takeWhile (· != 0x2f)

/-- The headers of a request: the host of its URL, and what the options prescribe. -/
def PresignedUrlOptions.requestHeaders (options : PresignedUrlOptions) (host : Bytes) :
    List Header :=
  (ascii "Host", host) ::
    if options.method = ascii "PUT" then
      options.memberHeaders ++
        options.contentMd5.elim [] (fun value => [(ascii "Content-MD5", value)]) ++
        options.customMetadata.map fun entry => (ascii "x-amz-meta-" ++ entry.1, entry.2)
    else []

namespace SignatureV4

def parameterValue (name : Bytes) (parameters : List Parameter) : Bytes :=
  (parameters.find? fun parameter => parameter.1 == name).elim [] Prod.snd

/-- The names in a list of signed headers, each once, in their order. -/
def signedNames (signed : Bytes) : List Bytes :=
  sortByKey id (signed.splitOn 0x3b).dedup

/-- The signature that a server expects in the URL of a request: the path is encoded anew, all
parameters but the signature are sorted and encoded anew, and the time and the names of the signed
headers are taken from the query. -/
def expectedInQuery (hashes : Hashes) (secret region method url : Bytes) (headers : List Header) :
    Bytes :=
  let target := requestTarget url
  let parameters := parseQuery (targetQuery target)
  let timestamp := parameterValue (ascii "X-Amz-Date") parameters
  let signed := (signedNames (parameterValue (ascii "X-Amz-SignedHeaders") parameters)).map
    fun name => (name, headerValue name headers)
  let unsigned := parameters.filter fun parameter => parameter.1 != ascii "X-Amz-Signature"
  bytesToHex (hashes.hmacSha256 (signingKey hashes secret (timestamp.take 8) region)
    (stringToSign hashes timestamp (timestamp.take 8) region
      (canonicalRequest method (urlEncode false (percentDecode (targetPath target)))
        (renderQuery (sortByKey Prod.fst unsigned)) signed (ascii "UNSIGNED-PAYLOAD"))))

end SignatureV4

end FileTrans.Cloud
