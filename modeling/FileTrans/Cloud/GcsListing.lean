import FileTrans.Cloud.AzureRequests
import FileTrans.Cloud.GcsBodies
import FileTrans.Cloud.S3Listing
import FileTrans.Resume.Json
import FileTrans.Transition.Loop

/-!
# Listings of a bucket of Google Cloud Storage

A page of a listing is searched for the names of its members.  The objects are cut out
by counting braces, and the prefixes by looking for quotes up to a bracket; neither of
them looks whether it is within a string.

A loop that is cut off after some passes has no result.
-/

namespace FileTrans.Cloud

open FileTrans.Core
open FileTrans.Text
open FileTrans.Transition

/-! ## Values -/

def extractJsonValue (json key : Bytes) : Option Bytes :=
  match find (quoted key) json with
  | none => none
  | some fromKey =>
      match find [0x3a] (fromKey.drop (quoted key).length) with
      | none => none
      | some fromColon =>
          match fromColon.tail.dropWhile isJsonSpace with
          | [] => none
          | first :: rest =>
              some (if first = quote then Resume.stringValue quote rest
                else (first :: rest).takeWhile fun byte => !Resume.endsNumber byte)

/-- `brace_count` behind a byte, which is an `int`. -/
def countBrace (braceCount : Int) (byte : UInt8) : Int :=
  if byte = 0x7b then (braceCount + 1).bmod (2 ^ 32)
  else if byte = 0x7d then (braceCount - 1).bmod (2 ^ 32)
  else braceCount

/-- The loop that looks for the closing brace: what it passes, what is left, and the count. -/
def closeBrace (braceCount : Int) : Bytes → Bytes × Bytes × Int
  | [] => ([], [], braceCount)
  | byte :: rest =>
      if 0 < braceCount then
        let (passed, left, last) := closeBrace (countBrace braceCount byte) rest
        (byte :: passed, left, last)
      else ([], byte :: rest, braceCount)

/-- There is a bracket, and no comma in front of it.  What is further ahead has more text behind
it. -/
def endsArray (text : Bytes) : Bool :=
  match find [0x5d] text with
  | none => false
  | some fromBracket =>
      match find [0x2c] text with
      | none => true
      | some fromComma => fromComma.length < fromBracket.length

section

variable (mktime : Int → Int)

/-- `parse_object_metadata`.  `mktime` is given the reading of a clock, as the seconds that it would
be after the epoch in UTC. -/
def parseObjectMetadata (json : Bytes) : CloudObjectMetadata :=
  { CloudObjectMetadata.default with
    key := (extractJsonValue json (ascii "name")).getD []
    size := ((extractJsonValue json (ascii "size")).bind (stoull 10)).getD 0
    contentType := (extractJsonValue json (ascii "contentType")).getD []
    etag := (extractJsonValue json (ascii "etag")).getD []
    lastModified := ((extractJsonValue json (ascii "updated")).bind getTime).elim 0
      fun reading => fromTimeT (mktime reading)
    storageClass := extractJsonValue json (ascii "storageClass") }

/-- The body of the loop over the objects of the array, with the text that is left and the objects
so far. -/
def itemsBody : Body (Bytes × List CloudObjectMetadata) (List CloudObjectMetadata) :=
  fun (text, objects) =>
    if text = [] then .inl objects
    else
      match find [0x7b] text with
      | none => .inl objects
      | some fromBrace =>
          let (passed, left, braceCount) := closeBrace 1 fromBrace.tail
          let objects := if braceCount = 0 then
            objects ++ [parseObjectMetadata mktime (0x7b :: passed)] else objects
          if endsArray left then .inl objects else .inr (left, objects)

def parseListResponse (passes : Nat) (json : Bytes) :
    Option (List CloudObjectMetadata × Option Bytes) :=
  let nextPageToken := (extractJsonValue json (ascii "nextPageToken")).filter (· ≠ [])
  match (find (quoted (ascii "items")) json).bind (find [0x5b]) with
  | none => some ([], nextPageToken)
  | some fromArray =>
      (loop (itemsBody mktime) passes (fromArray.tail, [])).map fun objects =>
        (objects, nextPageToken)

/-- The body of the loop over the strings of the prefixes. -/
def prefixesBody : Body (Bytes × List Bytes) (List Bytes) := fun (text, prefixes) =>
  match find [quote] text with
  | none => .inl prefixes
  | some fromQuote =>
      match find [quote] fromQuote.tail with
      | none => .inl prefixes
      | some fromEnd => .inr (fromEnd.tail, prefixes ++ [fromQuote.tail.takeWhile (· != quote)])

/-- The common prefixes that `list_objects` finds in the body of an answer. -/
def parsePrefixes (passes : Nat) (responseBody : Bytes) : Option (List Bytes) :=
  match (find (quoted (ascii "prefixes")) responseBody).bind (find [0x5b]) with
  | none => some []
  | some fromArray =>
      match find [0x5d] fromArray with
      | none => some []
      | some _ => loop prefixesBody passes (fromArray.tail.takeWhile (· != 0x5d), [])

/-- What `gcs_storage::list_objects` reads from the body of an answer. -/
def parseGcsListing (passes : Nat) (responseBody : Bytes) : Option ListObjectsResult := do
  let (objects, nextToken) ← parseListResponse mktime passes responseBody
  let commonPrefixes ← parsePrefixes passes responseBody
  some {
    objects := objects
    commonPrefixes := commonPrefixes
    isTruncated := nextToken.isSome
    continuationToken := nextToken
    totalCount := none }

end

/-! ## Requests -/

/-- `add_param` with a parameter that is left out if it is missing or empty. -/
def addParam (literal : String) (value : Option Bytes) : List Bytes :=
  (value.filter (· ≠ [])).toList.map fun value =>
    ascii literal ++ ascii "=" ++ urlEncode true value

/-- The query of `list_objects`. -/
def ListObjectsOptions.gcsQuery (options : ListObjectsOptions) : Bytes :=
  (ascii "&").intercalate (addParam "prefix" options.startsWith ++
    addParam "delimiter" options.delimiter ++
    addParam "maxResults" (if 0 < options.maxKeys then some (decimal options.maxKeys) else none) ++
    addParam "pageToken" options.continuationToken)

/-- `gcs_storage`, as far as it lists objects: what requests are made from, the HTTP client, and
`mktime` in the time zone of the process. -/
structure GcsLister where
  requester : GcsRequester
  httpClient : SentRequest → Result HttpResponse
  mktime : Int → Int

def GcsLister.listObjects (passes : Nat) (storage : GcsLister) (options : ListObjectsOptions) :
    Option (Result ListObjectsResult) :=
  if ¬ storage.requester.connected then some (unexpected .notInitialized "Not connected")
  else
    match storage.requester.authorization with
    | .error failure => some (.error failure)
    | .ok authorization =>
        match storage.httpClient {
          method := ascii "GET"
          url := storage.requester.getStorageEndpoint ++ ascii "/storage/v1/b/" ++
            storage.requester.bucket ++ ascii "/o?" ++ options.gcsQuery
          headers := []
          body := []
          authorization := authorization } with
        | .error _ => some (unexpected .internalError "List objects request failed")
        | .ok response =>
            if response.statusCode ≠ 200 then
              some (.error ⟨.internalError, ascii "List objects failed with status " ++
                decimal response.statusCode ++
                (extractJsonValue response.body (ascii "message")).elim [] (ascii ": " ++ ·)⟩)
            else (parseGcsListing storage.mktime passes response.body).map .ok

end FileTrans.Cloud
