import FileTrans.Cloud.AzureRequests
import FileTrans.Cloud.S3Listing

/-!
# Listings of an Azure container

A page of a listing is read from the elements of the answer.  A time is written
for UTC but read as a local one, and a page is the last one if the marker of the
next page is empty.
-/

namespace FileTrans.Cloud

open FileTrans.Core
open FileTrans.Text

/-! ## Times -/

/-- A letter of the C locale. -/
def isLetter (byte : UInt8) : Bool :=
  (0x41 ≤ byte && byte ≤ 0x5a) || (0x61 ≤ byte && byte ≤ 0x7a)

def weekdayNames : List Bytes :=
  [ascii "Sunday", ascii "Monday", ascii "Tuesday", ascii "Wednesday", ascii "Thursday",
    ascii "Friday", ascii "Saturday"]

def monthNames : List Bytes :=
  [ascii "January", ascii "February", ascii "March", ascii "April", ascii "May", ascii "June",
    ascii "July", ascii "August", ascii "September", ascii "October", ascii "November",
    ascii "December"]

/-- The number of a name, which may be cut to three letters, and what comes after it. -/
def nameField (names : List Bytes) (text : Bytes) : Option (Nat × Bytes) :=
  let word := text.takeWhile isLetter
  (names.findIdx? fun name => word = name ∨ word = name.take 3).map fun number =>
    (number, text.drop word.length)

/-- `std::get_time` with the format `%a, %d %b %Y %H:%M:%S`: the seconds from the epoch to what it
reads, if that were UTC.  Space in the format stands for any white space. -/
def getTimeOfWeek (text : Bytes) : Option Int := do
  let (_, text) ← nameField weekdayNames text
  let text ← characterField 0x2c text
  let (day, text) ← numberField 2 1 31 (text.dropWhile Text.isSpace)
  let (month, text) ← nameField monthNames (text.dropWhile Text.isSpace)
  let (year, text) ← numberField 4 0 9999 (text.dropWhile Text.isSpace)
  let (hour, text) ← numberField 2 0 23 (text.dropWhile Text.isSpace)
  let text ← characterField 0x3a text
  let (minute, text) ← numberField 2 0 59 text
  let text ← characterField 0x3a text
  let (second, _) ← numberField 2 0 60 text
  some (daysFromCivil year (month + 1) day * 86400 + (hour * 3600 + minute * 60 + second : Nat))

/-! ## Pages -/

section

variable (mktime : Int → Int)

/-- A `Blob` element, unless its size cannot be read.  `mktime` is given the reading of a clock, as
the seconds that it would be after the epoch in UTC. -/
def parseBlob (blobXml : Bytes) : Option CloudObjectMetadata :=
  let metadata := { CloudObjectMetadata.default with
    key := (extractXmlElement blobXml (ascii "Name")).getD []
    contentType := (extractXmlElement blobXml (ascii "Content-Type")).getD []
    etag := (extractXmlElement blobXml (ascii "Etag")).getD []
    lastModified := ((extractXmlElement blobXml (ascii "Last-Modified")).bind getTimeOfWeek).elim 0
      fun reading => fromTimeT (mktime reading) }
  match extractXmlElement blobXml (ascii "Content-Length") with
  | none => some metadata
  | some contentLength => (stoull 10 contentLength).map fun size => { metadata with size }

/-- What `azure_blob_storage::list_objects` reads from the body of an answer. -/
def parseBlobListing (xmlResponse : Bytes) : Option ListObjectsResult :=
  ((elementsAfter (ascii "Blob") xmlResponse).mapM (parseBlob mktime)).map fun objects =>
    let nextMarker := (extractXmlElement xmlResponse (ascii "NextMarker")).filter (· ≠ [])
    { objects := objects
      commonPrefixes := (elementsAfter (ascii "BlobPrefix") xmlResponse).filterMap fun prefixXml =>
        extractXmlElement prefixXml (ascii "Name")
      isTruncated := nextMarker.isSome
      continuationToken := nextMarker
      totalCount := none }

end

/-- `azure_blob_storage`, as far as it lists objects: what requests are made from, whether it is
connected, the date of the request, the HTTP client, and `mktime` in the time zone of the
process. -/
structure AzureLister where
  client : AzureClient
  connected : Bool
  date : Bytes
  httpClient : Option (SentRequest → Result HttpResponse)
  mktime : Int → Int

/-- `list_objects`, unless it throws. -/
def AzureLister.listObjects (storage : AzureLister) (options : ListObjectsOptions) :
    Option (Result ListObjectsResult) :=
  if ¬ storage.connected then some (unexpected .notInitialized "Not connected")
  else
    match storage.httpClient with
    | none => some (unexpected .notInitialized "HTTP client not initialized")
    | some get =>
        match get (storage.client.request storage.date (.listObjects options)) with
        | .error failure =>
            some (.error ⟨.internalError, ascii "Failed to list blobs: " ++ failure.message⟩)
        | .ok response =>
            if response.statusCode ≠ 200 then
              some (.error ⟨.internalError,
                ascii "Failed to list blobs, status: " ++ decimal response.statusCode⟩)
            else (parseBlobListing storage.mktime response.body).map .ok

example : getTimeOfWeek (ascii "Mon, 27 Jul 2009 12:28:53 GMT") = some 1248697733 := by decide

end FileTrans.Cloud
