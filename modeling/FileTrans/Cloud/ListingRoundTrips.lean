import FileTrans.Cloud.ListingTimes

/-!
# Reading what a provider lists

A provider writes the texts of a listing with references for the bytes that could
be taken for tags.  Neither client resolves references, so a listing comes back
as it was written; and the client of Azure takes a time of UTC for a local one.
-/

namespace FileTrans.Cloud

open FileTrans.Core
open FileTrans.Text
open ListServer (declaration timeText)

/-! ## Listings -/

/-- The time of a change, which the clock can show in 64 bits of nanoseconds. -/
structure ModificationTime extends CalendarTime where
  clock_le : -2 ^ 63 ≤ fromTimeT toCalendarTime.seconds
  clock_lt : fromTimeT toCalendarTime.seconds < 2 ^ 63

/-- An object as a provider lists it.  S3 shows the storage class and Azure the content type. -/
structure ObjectEntry where
  key : Bytes
  size : UInt64
  etag : Bytes
  modified : ModificationTime
  storageClass : Option Bytes
  contentType : Option Bytes

/-- A page of a listing, with objects and common prefixes in any order. -/
structure ProviderPage where
  entries : List (ObjectEntry ⊕ Bytes)
  isTruncated : Bool
  continuationToken : Option Bytes

/-- A page of which the end of the listing is marked by an empty token. -/
structure MarkedPage extends ProviderPage where
  marked : isTruncated = continuationToken.isSome
  nonempty : continuationToken ≠ some []

/-- What was asked for, as a page repeats it. -/
structure ListingHead where
  container : Bytes
  startsWith : Bytes
  marker : Bytes
  delimiter : Bytes
  maxKeys : Nat

namespace ProviderPage

variable (page : ProviderPage)

def objects : List ObjectEntry :=
  page.entries.filterMap Sum.getLeft?

def commonPrefixes : List Bytes :=
  page.entries.filterMap Sum.getRight?

/-- A listing, with the objects as they are shown and the texts as they are written. -/
def listing (shown : ObjectEntry → CloudObjectMetadata) (write : Bytes → Bytes) :
    ListObjectsResult where
  objects := page.objects.map shown
  commonPrefixes := page.commonPrefixes.map write
  isTruncated := page.isTruncated
  continuationToken := page.continuationToken.map write
  totalCount := none

end ProviderPage

/-- An object as the client of S3 shows it, if texts are written like this. -/
def ObjectEntry.s3Shown (write : Bytes → Bytes) (object : ObjectEntry) : CloudObjectMetadata :=
  { CloudObjectMetadata.default with
    key := write object.key
    size := object.size
    etag := write object.etag
    lastModified := fromTimeT object.modified.seconds }

/-- An object as the client of Azure shows it, if texts and times are read like this. -/
def ObjectEntry.azureShown (write : Bytes → Bytes) (read : Int → Int) (object : ObjectEntry) :
    CloudObjectMetadata :=
  { CloudObjectMetadata.default with
    key := write object.key
    size := object.size
    etag := write object.etag
    lastModified := fromTimeT (read object.modified.seconds)
    contentType := (object.contentType.map write).getD [] }

/-! ## Answers of S3 -/

section S3

variable (escaping : Escaping)

/-- The elements of a `Contents` element. -/
def s3ObjectFields (object : ObjectEntry) : List (Bytes × Bytes) :=
  [(ascii "Key", escaping.escape object.key),
    (ascii "LastModified", timeText object.modified.toUtcTime),
    (ascii "ETag", escaping.escape object.etag),
    (ascii "Size", decimal object.size.toNat)] ++
  object.storageClass.elim [] fun storageClass =>
    [(ascii "StorageClass", escaping.escape storageClass)]

/-- The elements of a `CommonPrefixes` element. -/
def s3PrefixFields (shared : Bytes) : List (Bytes × Bytes) :=
  [(ascii "Prefix", escaping.escape shared)]

/-- The elements in front of the objects. -/
def s3HeadFields (head : ListingHead) (page : ProviderPage) : List (Bytes × Bytes) :=
  [(ascii "Name", escaping.escape head.container),
    (ascii "Prefix", escaping.escape head.startsWith),
    (ascii "KeyCount", decimal page.entries.length),
    (ascii "MaxKeys", decimal head.maxKeys),
    (ascii "IsTruncated", if page.isTruncated then ascii "true" else ascii "false")] ++
  page.continuationToken.elim [] fun token =>
    [(ascii "NextContinuationToken", escaping.escape token)]

/-- The response of `ListObjectsV2`. -/
def renderS3 (head : ListingHead) (page : ProviderPage) : Bytes :=
  declaration ++ (record (s3HeadFields escaping head page) ++
    ((page.objects.flatMap fun object =>
        element (ascii "Contents") (record (s3ObjectFields escaping object))) ++
      ((page.commonPrefixes.flatMap fun shared =>
        element (ascii "CommonPrefixes") (record (s3PrefixFields escaping shared))) ++
      closeTag (ascii "ListBucketResult"))))

end S3

/-! ## Answers of Azure -/

section Azure

variable (escaping : Escaping)

/-- The elements of the `Properties` of a blob. -/
def azureProperties (object : ObjectEntry) : List (Bytes × Bytes) :=
  [(ascii "Last-Modified", weekText object.modified.toCalendarTime),
    (ascii "Etag", escaping.escape object.etag),
    (ascii "Content-Length", decimal object.size.toNat)] ++
  object.contentType.elim [] fun contentType =>
    [(ascii "Content-Type", escaping.escape contentType)]

/-- The name of a blob or of a prefix. -/
def azureName (name : Bytes) : List (Bytes × Bytes) :=
  [(ascii "Name", escaping.escape name)]

/-- What a `Blob` element holds. -/
def azureBlob (object : ObjectEntry) : Bytes :=
  record (azureName escaping object.key) ++
    element (ascii "Properties") (record (azureProperties escaping object))

def azureEntry : ObjectEntry ⊕ Bytes → Bytes
  | .inl object => element (ascii "Blob") (azureBlob escaping object)
  | .inr shared => element (ascii "BlobPrefix") (record (azureName escaping shared))

/-- What an answer begins with. -/
def azureDeclaration : Bytes :=
  openTag (ascii "?xml version=\"1.0\" encoding=\"utf-8\"?") ++
    openTag (ascii "EnumerationResults ServiceEndpoint=\"https://account.blob.core.windows.net/\"")

/-- The elements in front of the blobs. -/
def azureHeadFields (head : ListingHead) : List (Bytes × Bytes) :=
  [(ascii "Prefix", escaping.escape head.startsWith),
    (ascii "Marker", escaping.escape head.marker),
    (ascii "MaxResults", decimal head.maxKeys),
    (ascii "Delimiter", escaping.escape head.delimiter)]

/-- The marker of the next page, which is empty on the last one. -/
def azureMarker (page : ProviderPage) : Bytes :=
  match page.continuationToken with
  | none => openTag (ascii "NextMarker /")
  | some token => element (ascii "NextMarker") (escaping.escape token)

/-- The response of `List Blobs`. -/
def renderAzure (head : ListingHead) (page : ProviderPage) : Bytes :=
  azureDeclaration ++ (record (azureHeadFields escaping head) ++
    (element (ascii "Blobs") (page.entries.flatMap (azureEntry escaping)) ++
      (azureMarker escaping page ++ closeTag (ascii "EnumerationResults"))))

end Azure

/-! ## Reading an answer of S3 -/

section

variable {escaping : Escaping} (head : ListingHead) (page : ProviderPage)

theorem areFields_s3Object (object : ObjectEntry) :
    AreFields ListServer.objectNames (s3ObjectFields escaping object) := by
  cases stored : object.storageClass <;>
    simp [AreFields, s3ObjectFields, ListServer.objectNames, stored, escaping.notMem_escape,
      ListServer.notMem_timeText, ListServer.notMem_decimal]

theorem areFields_s3Prefix (shared : Bytes) :
    AreFields [ascii "Prefix"] (s3PrefixFields escaping shared) := by
  simp [AreFields, s3PrefixFields, escaping.notMem_escape]

theorem areFields_s3Head : AreFields ListServer.pageNames (s3HeadFields escaping head page) := by
  have yes : 0x3c ∉ ascii "true" := by decide
  have no : 0x3c ∉ ascii "false" := by decide
  cases token : page.continuationToken <;> cases truncated : page.isTruncated <;>
    simp [AreFields, s3HeadFields, ListServer.pageNames, token, truncated, escaping.notMem_escape,
      ListServer.notMem_decimal, yes, no]

theorem parseContents_s3Object (object : ObjectEntry) :
    parseContents (element (ascii "Contents") (record (s3ObjectFields escaping object))) =
      some (object.s3Shown escaping.escape) := by
  have key : (s3ObjectFields escaping object).lookup (ascii "Key") =
      some (escaping.escape object.key) := rfl
  have time : (s3ObjectFields escaping object).lookup (ascii "LastModified") =
      some (timeText object.modified.toUtcTime) := rfl
  have etag : (s3ObjectFields escaping object).lookup (ascii "ETag") =
      some (escaping.escape object.etag) := rfl
  have size : (s3ObjectFields escaping object).lookup (ascii "Size") =
      some (decimal object.size.toNat) := rfl
  rw [ListServer.parseContents_fields (areFields_s3Object object), key, time, etag, size]
  simp only [stoull_decimal object.size, getTime_timeText, Option.map_some, Option.getD_some,
    Option.bind_some, Option.elim_some, ObjectEntry.s3Shown]

theorem parseListing_renderS3 : parseListing (renderS3 escaping head page) =
    some (page.listing (ObjectEntry.s3Shown escaping.escape) escaping.escape) := by
  have truncated : (s3HeadFields escaping head page).lookup (ascii "IsTruncated") =
      some (if page.isTruncated then ascii "true" else ascii "false") := rfl
  have token : (s3HeadFields escaping head page).lookup (ascii "NextContinuationToken") =
      page.continuationToken.map escaping.escape := by
    rw [s3HeadFields]
    cases page.continuationToken <;> rfl
  have shared : (fun text => (s3PrefixFields escaping text).lookup (ascii "Prefix")) =
      fun text => some (escaping.escape text) := rfl
  have flag : ∀ more : Bool,
      (some (if more then ascii "true" else ascii "false") == some (ascii "true")) = more := by
    decide
  rw [renderS3, ← ListServer.answerText, ListServer.parseListing_answerText
    (areFields_s3Head head page) areFields_s3Object areFields_s3Prefix,
    ListServer.mapM_map_eq_some fun object _ => parseContents_s3Object object, truncated, token,
    shared, flag, List.filterMap_eq_map']
  rfl

/-! ## Reading an answer of Azure -/

/-- The names of the elements in a `Blob` element. -/
def blobNames : List Bytes :=
  [ascii "Name", ascii "Properties", ascii "Last-Modified", ascii "Etag", ascii "Content-Length",
    ascii "Content-Type"]

theorem areFields_azureName (name : Bytes) :
    AreFields [ascii "Name"] (azureName escaping name) := by
  simp [AreFields, azureName, escaping.notMem_escape]

theorem areFields_azureProperties (object : ObjectEntry) :
    AreFields [ascii "Last-Modified", ascii "Etag", ascii "Content-Length", ascii "Content-Type"]
      (azureProperties escaping object) := by
  cases content : object.contentType <;>
    simp [AreFields, azureProperties, content, escaping.notMem_escape, notMem_weekText,
      ListServer.notMem_decimal]

theorem areFields_azureHead : AreFields
    [ascii "Prefix", ascii "Marker", ascii "MaxResults", ascii "Delimiter"]
    (azureHeadFields escaping head) := by
  simp [AreFields, azureHeadFields, escaping.notMem_escape, ListServer.notMem_decimal]

variable {name : Bytes}

theorem passes_azureBlob (object : ObjectEntry) (apart : Apart name blobNames) :
    Passes name (azureBlob escaping object) := by
  apply Passes.append
  · exact (areFields_azureName object.key).passes (apart.mono (by decide))
  · apply apart.passes_element (by decide)
    exact (areFields_azureProperties object).passes (apart.mono (by decide))

theorem passes_azureEntry (entry : ObjectEntry ⊕ Bytes)
    (apart : Apart name ([ascii "Blob", ascii "BlobPrefix"] ++ blobNames)) :
    Passes name (azureEntry escaping entry) := by
  cases entry with
  | inl object =>
      apply apart.passes_element (by decide)
      exact passes_azureBlob object (apart.mono (by decide))
  | inr shared =>
      apply apart.passes_element (by decide)
      exact (areFields_azureName shared).passes (apart.mono (by decide))

theorem passes_azureHead (short : name.length < 30) (apart : Apart name [ascii "Prefix",
    ascii "Marker", ascii "MaxResults", ascii "Delimiter", ascii "Blobs"]) :
    Passes name (azureDeclaration ++ record (azureHeadFields escaping head) ++
      openTag (ascii "Blobs")) := by
  apply Passes.append
  · apply Passes.append
    · apply Passes.append
      · apply passes_openTag apart.1 (by decide)
        rintro rfl
        exact absurd short (by decide)
      · apply passes_openTag apart.1 (by decide)
        rintro rfl
        exact absurd short (by decide)
    · exact (areFields_azureHead head).passes (apart.mono (by decide))
  · exact apart.passes_openTag (by decide)

theorem passes_azureTail (apart : Apart name [ascii "Blobs", ascii "NextMarker",
    ascii "NextMarker /", ascii "EnumerationResults"]) :
    Passes name (closeTag (ascii "Blobs") ++ (azureMarker escaping page ++
      closeTag (ascii "EnumerationResults"))) := by
  have marker : Passes name (azureMarker escaping page) := by
    cases token : page.continuationToken with
    | none =>
        rw [azureMarker, token]
        exact apart.passes_openTag (by decide)
    | some text =>
        rw [azureMarker, token]
        apply apart.passes_element (by decide)
        exact passes_of_notMem (escaping.notMem_escape text)
  apply (apart.passes_closeTag (by decide)).append
  exact marker.append (apart.passes_closeTag (by decide))

theorem renderAzure_eq : renderAzure escaping head page =
    azureDeclaration ++ record (azureHeadFields escaping head) ++ openTag (ascii "Blobs") ++
      (page.entries.flatMap (azureEntry escaping) ++ (closeTag (ascii "Blobs") ++
        (azureMarker escaping page ++ closeTag (ascii "EnumerationResults")))) := by
  simp only [renderAzure, element, List.append_assoc]

theorem extract_azureProperty (object : ObjectEntry) {tag : Bytes}
    (apart : Apart tag [ascii "Blob", ascii "Name", ascii "Properties"])
    (names : ∀ other ∈ [ascii "Last-Modified", ascii "Etag", ascii "Content-Length",
      ascii "Content-Type"], IsPlain other ∧ tag ≠ 0x2f :: other) :
    extractXmlElement (element (ascii "Blob") (azureBlob escaping object)) tag =
      (azureProperties escaping object).lookup tag := by
  have split : element (ascii "Blob") (azureBlob escaping object) =
      openTag (ascii "Blob") ++ record (azureName escaping object.key) ++
        openTag (ascii "Properties") ++ (record (azureProperties escaping object) ++
          (closeTag (ascii "Properties") ++ closeTag (ascii "Blob"))) := by
    simp only [element, azureBlob, List.append_assoc]
  rw [split]
  apply (areFields_azureProperties object).extractXmlElement apart.1 names
  · apply Passes.append
    · apply (apart.passes_openTag (by decide)).append
      exact (areFields_azureName object.key).passes (apart.mono (by decide))
    · exact apart.passes_openTag (by decide)
  · exact (apart.passes_closeTag (by decide)).append (apart.passes_closeTag (by decide))

theorem extract_azureName (object : ObjectEntry) :
    extractXmlElement (element (ascii "Blob") (azureBlob escaping object)) (ascii "Name") =
      some (escaping.escape object.key) := by
  have apart : Apart (ascii "Name") [ascii "Blob", ascii "Properties", ascii "Last-Modified",
    ascii "Etag", ascii "Content-Length", ascii "Content-Type"] := by decide
  have split : element (ascii "Blob") (azureBlob escaping object) =
      openTag (ascii "Blob") ++ (record (azureName escaping object.key) ++
        (element (ascii "Properties") (record (azureProperties escaping object)) ++
          closeTag (ascii "Blob"))) := by
    simp only [element, azureBlob, List.append_assoc]
  rw [split, (areFields_azureName object.key).extractXmlElement apart.1 (by decide)
    (apart.passes_openTag (by decide))]
  · rfl
  · refine Passes.append ?_ (apart.passes_closeTag (by decide))
    apply apart.passes_element (by decide)
    exact (areFields_azureProperties object).passes (apart.mono (by decide))

theorem parseBlob_azureBlob (mktime : Int → Int) (object : ObjectEntry) :
    parseBlob mktime (element (ascii "Blob") (azureBlob escaping object)) =
      some (object.azureShown escaping.escape mktime) := by
  have time : extractXmlElement (element (ascii "Blob") (azureBlob escaping object))
      (ascii "Last-Modified") = some (weekText object.modified.toCalendarTime) :=
    extract_azureProperty object (by decide) (by decide)
  have etag : extractXmlElement (element (ascii "Blob") (azureBlob escaping object))
      (ascii "Etag") = some (escaping.escape object.etag) :=
    extract_azureProperty object (by decide) (by decide)
  have size : extractXmlElement (element (ascii "Blob") (azureBlob escaping object))
      (ascii "Content-Length") = some (decimal object.size.toNat) :=
    extract_azureProperty object (by decide) (by decide)
  have content : extractXmlElement (element (ascii "Blob") (azureBlob escaping object))
      (ascii "Content-Type") = object.contentType.map escaping.escape := by
    rw [extract_azureProperty object (by decide) (by decide), azureProperties]
    cases object.contentType <;> rfl
  rw [parseBlob, extract_azureName, content, etag, time, size]
  simp only [stoull_decimal object.size, getTimeOfWeek_weekText, Option.map_some,
    Option.getD_some, Option.bind_some, Option.elim_some, ObjectEntry.azureShown]

theorem blobs_renderAzure : elementsAfter (ascii "Blob") (renderAzure escaping head page) =
    page.objects.map fun object => element (ascii "Blob") (azureBlob escaping object) := by
  have opening : Apart (0x2f :: ascii "Blob") blobNames := by decide
  have others : Apart (ascii "Blob") [ascii "BlobPrefix", ascii "Name"] := by decide
  have held (entry : ObjectEntry ⊕ Bytes) (_ : entry ∈ page.entries) (content : Bytes)
      (holds : content ∈ entry.getLeft?.map (azureBlob escaping)) :
      azureEntry escaping entry = element (ascii "Blob") content ∧
        Passes (0x2f :: ascii "Blob") (openTag (ascii "Blob") ++ content) := by
    rcases entry with object | shared
    · rcases holds with ⟨rfl⟩
      refine ⟨rfl, Passes.append ?_ (passes_azureBlob object opening)⟩
      exact passes_openTag (by decide) (by decide) (by decide)
    · contradiction
  have passed (entry : ObjectEntry ⊕ Bytes) (_ : entry ∈ page.entries)
      (free : entry.getLeft?.map (azureBlob escaping) = none) :
      Passes (ascii "Blob") (azureEntry escaping entry) := by
    rcases entry with object | shared
    · contradiction
    · apply others.passes_element (by decide)
      exact (areFields_azureName shared).passes (others.mono (by decide))
  rw [elementsAfter_eq (by decide), renderAzure_eq, elements_flatMap (by decide)
    (passes_azureHead head (by decide) (by decide)) held passed
    (passes_azureTail page (by decide)), ← List.map_filterMap, List.map_map]
  rfl

theorem prefixes_renderAzure :
    elementsAfter (ascii "BlobPrefix") (renderAzure escaping head page) =
      page.commonPrefixes.map fun shared =>
        element (ascii "BlobPrefix") (record (azureName escaping shared)) := by
  have opening : Apart (0x2f :: ascii "BlobPrefix") [ascii "Name"] := by decide
  have others : Apart (ascii "BlobPrefix") (ascii "Blob" :: blobNames) := by decide
  have held (entry : ObjectEntry ⊕ Bytes) (_ : entry ∈ page.entries) (content : Bytes)
      (holds : content ∈ entry.getRight?.map fun shared => record (azureName escaping shared)) :
      azureEntry escaping entry = element (ascii "BlobPrefix") content ∧
        Passes (0x2f :: ascii "BlobPrefix") (openTag (ascii "BlobPrefix") ++ content) := by
    rcases entry with object | shared
    · contradiction
    · rcases holds with ⟨rfl⟩
      refine ⟨rfl, Passes.append ?_ ((areFields_azureName shared).passes opening)⟩
      exact passes_openTag (by decide) (by decide) (by decide)
  have passed (entry : ObjectEntry ⊕ Bytes) (_ : entry ∈ page.entries)
      (free : (entry.getRight?.map fun shared => record (azureName escaping shared)) = none) :
      Passes (ascii "BlobPrefix") (azureEntry escaping entry) := by
    rcases entry with object | shared
    · apply others.passes_element (by decide)
      exact passes_azureBlob object (others.mono (by decide))
    · contradiction
  rw [elementsAfter_eq (by decide), renderAzure_eq, elements_flatMap (by decide)
    (passes_azureHead head (by decide) (by decide)) held passed
    (passes_azureTail page (by decide)), ← List.map_filterMap, List.map_map]
  rfl

theorem marker_renderAzure :
    extractXmlElement (renderAzure escaping head page) (ascii "NextMarker") =
      page.continuationToken.map escaping.escape := by
  have front : Passes (ascii "NextMarker") (azureDeclaration ++
      record (azureHeadFields escaping head) ++ openTag (ascii "Blobs") ++
        (page.entries.flatMap (azureEntry escaping) ++ closeTag (ascii "Blobs"))) := by
    apply (passes_azureHead head (by decide) (by decide)).append
    apply Passes.append
    · apply passes_flatMap
      exact fun entry _ => passes_azureEntry entry (by decide)
    · exact passes_openTag (by decide) (by decide) (by decide)
  have split : renderAzure escaping head page = azureDeclaration ++
      record (azureHeadFields escaping head) ++ openTag (ascii "Blobs") ++
        (page.entries.flatMap (azureEntry escaping) ++ closeTag (ascii "Blobs")) ++
          (azureMarker escaping page ++ closeTag (ascii "EnumerationResults")) := by
    simp only [renderAzure_eq, List.append_assoc]
  rw [split]
  cases token : page.continuationToken with
  | none =>
      rw [azureMarker, token]
      apply extractXmlElement_eq_none
      apply front.append
      apply Passes.append
      · exact passes_openTag (by decide) (by decide) (by decide)
      · exact passes_openTag (by decide) (by decide) (by decide)
  | some text =>
      rw [azureMarker, token]
      exact extractXmlElement_element front (passes_of_notMem (escaping.notMem_escape text)) _

end

theorem parseBlobListing_renderAzure (escaping : Escaping) (head : ListingHead) (page : MarkedPage)
    (mktime : Int → Int) :
    parseBlobListing mktime (renderAzure escaping head page.toProviderPage) =
      some (page.listing (ObjectEntry.azureShown escaping.escape mktime) escaping.escape) := by
  have name : ((fun prefixXml => extractXmlElement prefixXml (ascii "Name")) ∘ fun shared =>
      element (ascii "BlobPrefix") (record (azureName escaping shared))) =
      fun shared => some (escaping.escape shared) := by
    funext shared
    have apart : Apart (ascii "Name") [ascii "BlobPrefix"] := by decide
    rw [Function.comp_apply, element, List.append_assoc,
      (areFields_azureName shared).extractXmlElement apart.1 (by decide)
        (apart.passes_openTag (by decide)) (apart.passes_closeTag (by decide))]
    rfl
  have marker : (page.continuationToken.map escaping.escape).filter (· ≠ []) =
      page.continuationToken.map escaping.escape := by
    cases token : page.continuationToken with
    | none => rfl
    | some text =>
        have long := (length_flatMap_encode (fun _ => escaping.longer) text).1
        have filled : escaping.escape text ≠ [] := by
          intro empty
          have length := congrArg List.length empty
          have nothing := List.eq_nil_of_length_eq_zero (Nat.le_zero.mp (long.trans_eq length))
          exact page.nonempty (token.trans (congrArg some nothing))
        simp [Option.filter, filled]
  rw [parseBlobListing, blobs_renderAzure,
    ListServer.mapM_map_eq_some fun object _ => parseBlob_azureBlob mktime object]
  simp only [Option.map_some, prefixes_renderAzure, List.filterMap_map, name, marker_renderAzure,
    marker, List.filterMap_eq_map', Option.isSome_map, ProviderPage.listing, page.marked]

/-! ## What comes back -/

/-- The client of S3 returns the page, with the times as they are. -/
def S3Returns (escaping : Escaping) (head : ListingHead) (page : ProviderPage) (config : S3Config)
    (options : ListObjectsOptions) : Prop :=
  S3Storage.listObjects ⟨config, true, fun _ _ _ => .ok ⟨200, renderS3 escaping head page⟩⟩
    options = some (.ok (page.listing (ObjectEntry.s3Shown id) id))

/-- The client of Azure returns the page, with the times as they are. -/
def AzureReturns (escaping : Escaping) (head : ListingHead) (page : MarkedPage)
    (client : AzureClient) (date : Bytes) (mktime : Int → Int) (options : ListObjectsOptions) :
    Prop :=
  AzureLister.listObjects ⟨client, true, date, some fun _ =>
    .ok ⟨200, renderAzure escaping head page.toProviderPage⟩, mktime⟩ options =
      some (.ok (page.listing (ObjectEntry.azureShown id id) id))

/-- Every key, etag, prefix and token of the page is written as it is. -/
def ProviderPage.IsKept (escaping : Escaping) (page : ProviderPage) : Prop :=
  (∀ object ∈ page.objects, escaping.Keeps object.key ∧ escaping.Keeps object.etag) ∧
    (∀ shared ∈ page.commonPrefixes, escaping.Keeps shared) ∧
    ∀ token ∈ page.continuationToken, escaping.Keeps token

/-- Content types are written as they are, and clocks of the process show the times in UTC. -/
def ProviderPage.IsLocal (escaping : Escaping) (mktime : Int → Int) (page : ProviderPage) : Prop :=
  ∀ object ∈ page.objects, (∀ content ∈ object.contentType, escaping.Keeps content) ∧
    mktime object.modified.seconds = object.modified.seconds

section

variable {escaping : Escaping}

theorem listing_eq_iff {page : ProviderPage} {shown other : ObjectEntry → CloudObjectMetadata} :
    page.listing shown escaping.escape = page.listing other id ↔
      (∀ object ∈ page.objects, shown object = other object) ∧
        (∀ shared ∈ page.commonPrefixes, escaping.Keeps shared) ∧
        ∀ token ∈ page.continuationToken, escaping.Keeps token := by
  have token : page.continuationToken.map escaping.escape = page.continuationToken.map id ↔
      ∀ token ∈ page.continuationToken, escaping.Keeps token := by
    cases page.continuationToken <;> simp [Escaping.escape_eq_self_iff]
  simp only [ProviderPage.listing, ListObjectsResult.mk.injEq, List.map_inj_left, token, id_eq,
    Escaping.escape_eq_self_iff, true_and, and_true]

theorem fromTimeT_inj {first second : Int} : fromTimeT first = fromTimeT second ↔ first = second :=
  mul_left_inj' (by decide)

theorem s3Shown_eq_iff {object : ObjectEntry} :
    object.s3Shown escaping.escape = object.s3Shown id ↔
      escaping.Keeps object.key ∧ escaping.Keeps object.etag := by
  simp [ObjectEntry.s3Shown, Escaping.escape_eq_self_iff]

theorem azureShown_eq_iff {object : ObjectEntry} {mktime : Int → Int} :
    object.azureShown escaping.escape mktime = object.azureShown id id ↔
      (escaping.Keeps object.key ∧ escaping.Keeps object.etag) ∧
        (∀ content ∈ object.contentType, escaping.Keeps content) ∧
        mktime object.modified.seconds = object.modified.seconds := by
  have content : (object.contentType.map escaping.escape).getD [] =
      (object.contentType.map id).getD [] ↔
        ∀ content ∈ object.contentType, escaping.Keeps content := by
    cases object.contentType <;> simp [Escaping.escape_eq_self_iff]
  simp only [ObjectEntry.azureShown, CloudObjectMetadata.mk.injEq, content, id_eq, fromTimeT_inj,
    Escaping.escape_eq_self_iff, true_and, and_true]
  tauto

theorem s3Returns_iff (head : ListingHead) (page : ProviderPage) (config : S3Config)
    (options : ListObjectsOptions) :
    S3Returns escaping head page config options ↔ page.IsKept escaping := by
  have answered : S3Storage.listObjects ⟨config, true, fun _ _ _ =>
      .ok ⟨200, renderS3 escaping head page⟩⟩ options =
      some (.ok (page.listing (ObjectEntry.s3Shown escaping.escape) escaping.escape)) := by
    simp [S3Storage.listObjects, parseListing_renderS3]
  rw [S3Returns, answered, Option.some.injEq, Except.ok.injEq, listing_eq_iff]
  simp only [s3Shown_eq_iff, ProviderPage.IsKept]

theorem azureReturns_iff (head : ListingHead) (page : MarkedPage) (client : AzureClient)
    (date : Bytes) (mktime : Int → Int) (options : ListObjectsOptions) :
    AzureReturns escaping head page client date mktime options ↔
      page.IsKept escaping ∧ page.IsLocal escaping mktime := by
  have answered : AzureLister.listObjects ⟨client, true, date, some fun _ =>
      .ok ⟨200, renderAzure escaping head page.toProviderPage⟩, mktime⟩ options =
      some (.ok (page.listing
        (ObjectEntry.azureShown escaping.escape mktime) escaping.escape)) := by
    simp [AzureLister.listObjects, parseBlobListing_renderAzure]
  rw [AzureReturns, answered, Option.some.injEq, Except.ok.injEq, listing_eq_iff]
  simp only [azureShown_eq_iff, ProviderPage.IsKept, ProviderPage.IsLocal, forall₂_and]
  tauto

end

/-- A listing comes back as it is exactly if nothing in it is written as a reference and, from
Azure, the clocks of the process show its times in UTC. -/
theorem listings_returned_iff (escaping : Escaping) (head : ListingHead)
    (options : ListObjectsOptions) :
    (∀ (config : S3Config) (page : ProviderPage),
      S3Returns escaping head page config options ↔ page.IsKept escaping) ∧
    ∀ (client : AzureClient) (date : Bytes) (page : MarkedPage) (mktime : Int → Int),
      AzureReturns escaping head page client date mktime options ↔
        page.IsKept escaping ∧ page.IsLocal escaping mktime := by
  constructor
  · intro config page
    exact s3Returns_iff head page config options
  · intro client date page mktime
    exact azureReturns_iff head page client date mktime options

/-! ## A page with one object -/

namespace PageSample

/-- The beginning of the epoch. -/
def epoch : ModificationTime where
  year := 1970
  month := 1
  day := 1
  hour := 0
  minute := 0
  second := 0
  year_lt := by decide
  month_lt := by decide
  day_lt := by decide
  hour_lt := by decide
  minute_lt := by decide
  second_lt := by decide
  month_pos := by decide
  month_le := by decide
  day_pos := by decide
  day_le := by decide
  hour_le := by decide
  minute_le := by decide
  second_le := by decide
  clock_le := by decide +kernel
  clock_lt := by decide +kernel

/-- The last page of a listing, with one object. -/
def page (key : String) : MarkedPage where
  entries := [.inl ⟨ascii key, 1, ascii "e", epoch, none, none⟩]
  isTruncated := false
  continuationToken := none
  marked := rfl
  nonempty := nofun

def head : ListingHead :=
  ⟨ascii "bucket", [], [], [], 1000⟩

def config : S3Config where
  bucket := ascii "bucket"
  region := ascii "us-east-1"
  endpoint := none
  usePathStyle := false
  useSsl := true
  useTransferAcceleration := false

theorem account_plain :
    0x2f ∉ ascii "account" ∧ 0x3f ∉ ascii "account" ∧ 0x23 ∉ ascii "account" := by
  decide

def client : AzureClient where
  config :=
    { accountName := ascii "account"
      container := ascii "bucket"
      endpoint := none
      useSsl := true
      apiVersion := ascii "2020-10-02"
      accountName_plain := account_plain }
  accountKey := []
  hmacSha256 _ _ := []
  detectContentType _ := []

end PageSample

open PageSample in
/-- The key `a&b` comes back as `a&amp;b` from both, and in a time zone that is an hour ahead the
epoch comes back an hour early from Azure. -/
theorem reference_not_resolved :
    ¬ S3Returns .standard head (page "a&b").toProviderPage config .default ∧
    ¬ AzureReturns .standard head (page "a&b") client [] id .default ∧
    ¬ AzureReturns .standard head (page "ab") client [] (fun reading => reading - 3600)
      .default := by
  have escaped : ¬ (page "a&b").IsKept .standard := by
    rintro ⟨objects, -⟩
    exact absurd (objects _ List.mem_cons_self).1 (by decide)
  have shifted : ¬ (page "ab").IsLocal .standard fun reading => reading - 3600 := by
    intro clocks
    have same : epoch.seconds - 3600 = epoch.seconds := (clocks _ List.mem_cons_self).2
    omega
  refine ⟨?_, ?_, ?_⟩
  · rw [s3Returns_iff]
    exact escaped
  · rw [azureReturns_iff]
    exact fun kept => escaped kept.1
  · rw [azureReturns_iff]
    exact fun kept => shifted kept.2

end FileTrans.Cloud
