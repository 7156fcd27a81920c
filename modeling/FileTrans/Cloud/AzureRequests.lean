import FileTrans.Cloud.HttpRequests
import FileTrans.Text.Base64
import FileTrans.Text.QueryString

/-!
# Requests to Azure

The requests of `azure_blob_storage` and of its streams, with their addresses,
their headers and their signatures.  The storage, the upload stream and the
download stream sign in the same way.  The keyed hash is any function.
-/

namespace FileTrans.Cloud

open FileTrans.Text

/-! ## What a server computes from a request -/

namespace SharedKey

/-- The headers that are signed before the length of the body. -/
def headersBefore : List Bytes :=
  [ascii "Content-Encoding", ascii "Content-Language"]

/-- The headers that are signed after the length of the body. -/
def headersAfter : List Bytes :=
  [ascii "Content-MD5", ascii "Content-Type", ascii "Date", ascii "If-Modified-Since",
    ascii "If-Match", ascii "If-None-Match", ascii "If-Unmodified-Since", ascii "Range"]

/-- The values of these headers. -/
def headerValues (names : List Bytes) (headers : List Header) : List Bytes :=
  names.map fun name => headerValue (name.map toLower) headers

/-- The length of the body, which is left out if it is zero. -/
def contentLength (headers : List Header) : Bytes :=
  let value := headerValue (ascii "content-length") headers
  if value = ascii "0" then [] else value

/-- The name is one of the service's own. -/
def isServiceHeader (header : Header) : Bool :=
  (ascii "x-ms-").isPrefixOf header.1

/-- The service's own headers in order. -/
def canonicalizedHeaders (headers : List Header) : List Header :=
  (sortedHeaders headers).filter isServiceHeader

/-- A parameter after the path. -/
def parameterLine (parameter : Parameter) : Bytes :=
  newline ++ parameter.1 ++ ascii ":" ++ parameter.2

/-- The parameters of a query by their lower-case names. -/
def canonicalizedParameters (query : Bytes) : Bytes :=
  (sortByKey Prod.fst ((parseQuery query).map lowerName)).flatMap parameterLine

/-- The path as it was sent, and the parameters. -/
def canonicalizedResource (target : Bytes) : Bytes :=
  targetPath target ++ canonicalizedParameters (targetQuery target)

/-- The text that is signed. -/
def stringToSign (method : Bytes) (before : List Bytes) (length : Bytes) (after : List Bytes)
    (headers : List Header) (accountName resource : Bytes) : Bytes :=
  method ++ newline ++ before.flatMap (· ++ newline) ++ length ++ newline ++
    after.flatMap (· ++ newline) ++ headers.flatMap headerLine ++ ascii "/" ++ accountName ++
    resource

/-- The value of the header. -/
def authorization (hmacSha256 : Bytes → Bytes → Bytes) (accountName accountKey signed : Bytes) :
    Bytes :=
  ascii "SharedKey " ++ accountName ++ ascii ":" ++ base64Encode (hmacSha256 accountKey signed)

/-- The header that a server expects of a request. -/
def expected (hmacSha256 : Bytes → Bytes → Bytes) (accountName accountKey : Bytes)
    (sent : TransmittedRequest) : Bytes :=
  authorization hmacSha256 accountName accountKey
    (stringToSign sent.method (headerValues headersBefore sent.headers)
      (contentLength sent.headers) (headerValues headersAfter sent.headers)
      (canonicalizedHeaders sent.headers) accountName
      (canonicalizedResource (requestTarget sent.url)))

end SharedKey

/-! ## Addresses -/

/-- An endpoint: a scheme, a host with or without a port, and a path, which may be empty. -/
structure AzureEndpoint where
  useSsl : Bool
  host : Bytes
  path : Bytes
  host_plain : 0x2f ∉ host ∧ 0x3f ∉ host ∧ 0x23 ∉ host
  path_plain : 0x3f ∉ path ∧ 0x23 ∉ path
  path_absolute : path = [] ∨ path.head? = some 0x2f

/-- An endpoint as it is written. -/
def AzureEndpoint.text (endpoint : AzureEndpoint) : Bytes :=
  schemeText endpoint.useSsl ++ endpoint.host ++ endpoint.path

/-- `azure_blob_config`, as far as requests depend on it.  The name of an account is a label of
its host. -/
structure AzureBlobConfig where
  accountName : Bytes
  container : Bytes
  endpoint : Option AzureEndpoint
  useSsl : Bool
  apiVersion : Bytes
  accountName_plain : 0x2f ∉ accountName ∧ 0x3f ∉ accountName ∧ 0x23 ∉ accountName

def AzureBlobConfig.getBlobEndpoint (config : AzureBlobConfig) : Bytes :=
  match config.endpoint with
  | some endpoint => endpoint.text
  | none =>
      let protocol := if config.useSsl then ascii "https" else ascii "http"
      protocol ++ ascii "://" ++ config.accountName ++ ascii ".blob.core.windows.net"

/-! ## Operations -/

/-- What a request is for. -/
inductive AzureOperation
  | uploadBlock (blobName blockId data : Bytes)
  | commitBlockList (blobName : Bytes) (blockIds : List Bytes)
  | initializeDownload (blobName : Bytes)
  | fetchRange (blobName : Bytes) (start final : Nat)
  | download (key : Bytes)
  | deleteObject (key : Bytes)
  | objectExists (key : Bytes)
  | getMetadata (key : Bytes)
  | listObjects (options : ListObjectsOptions)

/-- The body of `commit_block_list`. -/
def blockListXml (blockIds : List Bytes) : Bytes :=
  ascii "<?xml version=\"1.0\" encoding=\"utf-8\"?>\n" ++ ascii "<BlockList>\n" ++
    blockIds.flatMap (fun blockId =>
      ascii "  <Latest>" ++ blockId ++ ascii "</Latest>\n") ++
    ascii "</BlockList>"

/-- A parameter that is left out if it is empty. -/
def optionalParameter (literal : String) (value : Option Bytes) : Bytes :=
  (value.filter (· ≠ [])).elim [] fun value => ascii literal ++ urlEncode true value

/-- The query of `list_objects`. -/
def ListObjectsOptions.azureQuery (options : ListObjectsOptions) : Bytes :=
  ascii "restype=container&comp=list" ++
    optionalParameter "&prefix=" options.startsWith ++
    (if 0 < options.maxKeys then ascii "&maxresults=" ++ decimal options.maxKeys else []) ++
    optionalParameter "&marker=" options.continuationToken ++
    optionalParameter "&delimiter=" options.delimiter

namespace AzureOperation

def method : AzureOperation → Bytes
  | uploadBlock _ _ _ => ascii "PUT"
  | commitBlockList _ _ => ascii "PUT"
  | initializeDownload _ => ascii "HEAD"
  | fetchRange _ _ _ => ascii "GET"
  | download _ => ascii "GET"
  | deleteObject _ => ascii "DELETE"
  | objectExists _ => ascii "HEAD"
  | getMetadata _ => ascii "HEAD"
  | listObjects _ => ascii "GET"

/-- The blob that the request is about, if it is not about the container. -/
def blobName : AzureOperation → Option Bytes
  | uploadBlock blobName _ _ => some blobName
  | commitBlockList blobName _ => some blobName
  | initializeDownload blobName => some blobName
  | fetchRange blobName _ _ => some blobName
  | download key => some key
  | deleteObject key => some key
  | objectExists key => some key
  | getMetadata key => some key
  | listObjects _ => none

def query : AzureOperation → Bytes
  | uploadBlock _ blockId _ => ascii "comp=block&blockid=" ++ urlEncode true blockId
  | commitBlockList _ _ => ascii "comp=blocklist"
  | listObjects options => options.azureQuery
  | _ => []

def body : AzureOperation → Bytes
  | uploadBlock _ _ data => data
  | commitBlockList _ blockIds => blockListXml blockIds
  | _ => []

/-- The length that is signed: that of the body of a `PUT`. -/
def signedLength : AzureOperation → Bytes
  | uploadBlock _ _ data => decimal data.length
  | commitBlockList _ blockIds => decimal (blockListXml blockIds).length
  | _ => []

variable (config : AzureBlobConfig) (operation : AzureOperation)

/-- The path of the request after that of the endpoint. -/
def path : Bytes :=
  ascii "/" ++ config.container ++
    operation.blobName.elim [] fun blobName => ascii "/" ++ urlEncode false blobName

def url : Bytes :=
  config.getBlobEndpoint ++ renderTarget (operation.path config) operation.query

/-- The resource as it is signed. -/
def resource : Bytes :=
  ascii "/" ++ config.container ++
    operation.blobName.elim [] fun blobName => ascii "/" ++ blobName

end AzureOperation

/-! ## Headers and signatures -/

/-- What requests are made from: the configuration, the decoded key of the account, the keyed hash,
and `detect_content_type`. -/
structure AzureClient where
  config : AzureBlobConfig
  accountKey : Bytes
  hmacSha256 : Bytes → Bytes → Bytes
  detectContentType : Bytes → Bytes

/-- Find a header in a map by its name. -/
def getHeader (headers : List Header) (name : Bytes) : Bytes :=
  (headers.find? fun header => header.1 == name).elim [] Prod.snd

namespace AzureClient

variable (client : AzureClient)

def createAuthorizationHeader (method resource : Bytes) (headers : List Header)
    (contentLength : Bytes) : Bytes :=
  let accountName := client.config.accountName
  let header (name : String) : Bytes := getHeader headers (ascii name) ++ newline
  let msHeaders := headerMap ((headers.map lowerName).filter fun header =>
    (ascii "x-ms-").isPrefixOf header.1)
  let stringToSign :=
    method ++ newline ++ header "Content-Encoding" ++ header "Content-Language" ++
      contentLength ++ newline ++ header "Content-MD5" ++ header "Content-Type" ++
      header "Date" ++ header "If-Modified-Since" ++ header "If-Match" ++
      header "If-None-Match" ++ header "If-Unmodified-Since" ++ header "Range" ++
      msHeaders.flatMap (fun header => header.1 ++ ascii ":" ++ header.2 ++ newline) ++
      ascii "/" ++ accountName ++ resource
  let signature := client.hmacSha256 client.accountKey stringToSign
  ascii "SharedKey " ++ accountName ++ ascii ":" ++ base64Encode signature

/-- The headers that an operation has besides the version and the date. -/
def moreHeaders : AzureOperation → List Header
  | .uploadBlock _ _ data =>
      [contentLength data, (ascii "Content-Type", ascii "application/octet-stream")]
  | .commitBlockList blobName blockIds =>
      [(ascii "Content-Type", ascii "application/xml"), contentLength (blockListXml blockIds),
        (ascii "x-ms-blob-content-type", client.detectContentType blobName)]
  | .fetchRange _ start final =>
      [(ascii "Range", ascii "bytes=" ++ decimal start ++ ascii "-" ++ decimal final)]
  | _ => []

/-- The headers of a request that is made at this date. -/
def headers (date : Bytes) (operation : AzureOperation) : List Header :=
  headerMap ([(ascii "x-ms-version", client.config.apiVersion), (ascii "x-ms-date", date)] ++
    client.moreHeaders operation)

def request (date : Bytes) (operation : AzureOperation) : SentRequest where
  method := operation.method
  url := operation.url client.config
  headers := client.headers date operation
  body := operation.body
  authorization := client.createAuthorizationHeader operation.method
    (operation.resource client.config) (client.headers date operation) operation.signedLength

end AzureClient

end FileTrans.Cloud
