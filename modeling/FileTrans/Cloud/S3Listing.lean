import FileTrans.Cloud.S3Requests
import FileTrans.Text.Markup

/-!
# Listings of an S3 bucket

A page of a listing is requested with a query, and read from the elements of the
answer.  The text of an element is taken as it stands, and a number that cannot
be read is an exception.
-/

namespace FileTrans.Cloud

open FileTrans.Core
open FileTrans.Text

/-! ## Times -/

/-- A number of at most so many digits in a range, and what comes after it. -/
def numberField (width least most : Nat) (text : Bytes) : Option (Nat × Bytes) :=
  let digits := (text.take width).takeWhile (isDigit 10)
  let number := ofDigits 10 digits
  if digits = [] ∨ number < least ∨ most < number then none
  else some (number, text.drop digits.length)

/-- A character, and what comes after it. -/
def characterField (character : UInt8) : Bytes → Option Bytes
  | [] => none
  | first :: rest => if first = character then some rest else none

/-- The days from the epoch to a date of the Gregorian calendar.  Years begin with March. -/
def daysFromCivil (year month day : Nat) : Int :=
  let shifted : Int := if month ≤ 2 then year - 1 else year
  let era := shifted / 400
  let yearOfEra := shifted - era * 400
  let dayOfYear : Int := (153 * ((month + 9) % 12) + 2) / 5 + day - 1
  era * 146097 + (yearOfEra * 365 + yearOfEra / 4 - yearOfEra / 100 + dayOfYear) - 719468

/-- `std::get_time` with the format `%Y-%m-%dT%H:%M:%S`, and `timegm` of what it reads. -/
def getTime (text : Bytes) : Option Int := do
  let (year, text) ← numberField 4 0 9999 text
  let text ← characterField 0x2d text
  let (month, text) ← numberField 2 1 12 text
  let text ← characterField 0x2d text
  let (day, text) ← numberField 2 1 31 text
  let text ← characterField 0x54 text
  let (hour, text) ← numberField 2 0 23 text
  let text ← characterField 0x3a text
  let (minute, text) ← numberField 2 0 59 text
  let text ← characterField 0x3a text
  let (second, _) ← numberField 2 0 60 text
  some (daysFromCivil year month day * 86400 + (hour * 3600 + minute * 60 + second : Nat))

/-- `system_clock::from_time_t`: the clock counts nanoseconds. -/
def fromTimeT (seconds : Int) : Int :=
  seconds * 10 ^ 9

/-! ## Pages -/

/-- `cloud_object_metadata`, as far as the storage backend reads it. -/
structure CloudObjectMetadata where
  key : Bytes
  size : UInt64
  lastModified : Int
  etag : Bytes
  contentType : Bytes
  storageClass : Option Bytes
  customMetadata : List (Bytes × Bytes)
  deriving DecidableEq

/-- The default of `cloud_object_metadata`. -/
def CloudObjectMetadata.default : CloudObjectMetadata where
  key := []
  size := 0
  lastModified := 0
  etag := []
  contentType := []
  storageClass := none
  customMetadata := []

/-- The default of `list_objects_options`. -/
def ListObjectsOptions.default : ListObjectsOptions where
  startsWith := none
  delimiter := some (ascii "/")
  maxKeys := 1000
  continuationToken := none

structure ListObjectsResult where
  objects : List CloudObjectMetadata
  commonPrefixes : List Bytes
  isTruncated : Bool
  continuationToken : Option Bytes
  totalCount : Option UInt64
  deriving DecidableEq

/-- An answer over HTTP. -/
structure HttpResponse where
  statusCode : Nat
  body : Bytes

/-- A `Contents` element, unless its size cannot be read. -/
def parseContents (contentXml : Bytes) : Option CloudObjectMetadata :=
  let object := { CloudObjectMetadata.default with
    key := (extractXmlElement contentXml (ascii "Key")).getD []
    etag := (extractXmlElement contentXml (ascii "ETag")).getD []
    lastModified :=
      ((extractXmlElement contentXml (ascii "LastModified")).bind getTime).elim 0 fromTimeT }
  match extractXmlElement contentXml (ascii "Size") with
  | none => some object
  | some size => (stoull 10 size).map fun size => { object with size }

/-- What `list_objects` reads from the body of an answer. -/
def parseListing (body : Bytes) : Option ListObjectsResult :=
  ((elements (ascii "Contents") body).mapM parseContents).map fun objects =>
    { objects := objects
      commonPrefixes := (elements (ascii "CommonPrefixes") body).filterMap fun prefixXml =>
        extractXmlElement prefixXml (ascii "Prefix")
      isTruncated := extractXmlElement body (ascii "IsTruncated") == some (ascii "true")
      continuationToken := extractXmlElement body (ascii "NextContinuationToken")
      totalCount := none }

/-- `s3_storage`, as far as it lists objects: its configuration, whether it is connected, and
`send_request`, by the method, the path and the query. -/
structure S3Storage where
  config : S3Config
  connected : Bool
  sendRequest : Bytes → Bytes → Bytes → Result HttpResponse

/-- `list_objects`, unless it throws. -/
def S3Storage.listObjects (storage : S3Storage) (options : ListObjectsOptions) :
    Option (Result ListObjectsResult) :=
  if ¬ storage.connected then some (unexpected .notInitialized "Not connected")
  else
    match storage.sendRequest (ascii "GET") storage.config.bucketPath options.query with
    | .error failure => some (.error failure)
    | .ok response =>
        if response.statusCode ≠ 200 then
          some (.error ⟨.internalError,
            ascii "S3 ListObjectsV2 failed with status " ++ decimal response.statusCode⟩)
        else (parseListing response.body).map .ok

example : getTime (ascii "2009-10-12T17:50:30.000Z") = some 1255369830 := by decide

end FileTrans.Cloud
