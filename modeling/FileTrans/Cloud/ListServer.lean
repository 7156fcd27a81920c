import FileTrans.Cloud.S3Listing

/-!
# A server that lists objects

The server lists the keys with a prefix in order.  With a delimiter it shows the
keys that have the delimiter after the prefix by what they share up to it, once.
A page gives the entries from a position on, and names the position of the next
page by a token if more are left.
-/

namespace FileTrans.Cloud

open FileTrans.Text

/-! ## Entries -/

/-- An object, as a listing shows it. -/
structure ListedObject where
  key : Bytes
  size : UInt64
  etag : Bytes
  lastModified : UtcTime
  storageClass : Bytes
  deriving DecidableEq

inductive ListEntry
  | contents (object : ListedObject)
  | commonPrefix (text : Bytes)
  deriving DecidableEq

/-- What a text has up to the first delimiter and with it, if it has one. -/
def upToDelimiter (delimiter text : Bytes) : Option Bytes :=
  (find delimiter text).map fun found =>
    text.take (text.length - found.length + delimiter.length)

/-- The entry that shows an object. -/
def entryOf (startsWith : Bytes) (delimiter : Option Bytes) (object : ListedObject) : ListEntry :=
  match delimiter.bind fun text => upToDelimiter text (object.key.drop startsWith.length) with
  | some shared => .commonPrefix (startsWith ++ shared)
  | none => .contents object

def ListEntry.object? : ListEntry → Option ListedObject
  | contents object => some object
  | commonPrefix _ => none

def ListEntry.prefix? : ListEntry → Option Bytes
  | contents _ => none
  | commonPrefix text => some text

/-- The bucket, how a byte is written in an element, how positions are named, and how many
entries a page has at most.  A bracket is never written as it is, what is not written as it is
takes more than a byte, and a token is written as it is. -/
structure ListServer where
  bucket : Bytes
  objects : List ListedObject
  escapeByte : UInt8 → Bytes
  tokenOf : Nat → Bytes
  position : Bytes → Nat
  pageLimit : Nat
  distinct : (objects.map ListedObject.key).Nodup
  bracket : ∀ byte, 0x3c ∉ escapeByte byte
  longer : ∀ byte, escapeByte byte ≠ [byte] → 1 < (escapeByte byte).length
  position_tokenOf : ∀ number, position (tokenOf number) = number
  token_plain : ∀ number, ∀ byte ∈ tokenOf number, escapeByte byte = [byte]
  pageLimit_pos : 0 < pageLimit

/-- A page: its entries, and the position after it if more are left. -/
structure ListPage where
  startsWith : Bytes
  limit : Nat
  entries : List ListEntry
  next : Option Nat

namespace ListServer

variable (server : ListServer)

/-- A text as it is written in an element. -/
def escape (text : Bytes) : Bytes :=
  text.flatMap server.escapeByte

/-- The objects with the prefix, in order. -/
def matching (startsWith : Bytes) : List ListedObject :=
  (sortByKey ListedObject.key server.objects).filter fun object => startsWith <+: object.key

def entries (startsWith : Bytes) (delimiter : Option Bytes) : List ListEntry :=
  ((server.matching startsWith).map (entryOf startsWith delimiter)).dedup

/-- The page that a request asks for. -/
def page (parameters : List Parameter) : ListPage :=
  let value (name : String) := (parameters.find? fun one => one.1 == ascii name).map Prod.snd
  let startsWith := (value "prefix").getD []
  let all := server.entries startsWith (value "delimiter")
  let limit := ((value "max-keys").map (ofDigits 10)).elim server.pageLimit (min server.pageLimit)
  let first := (value "continuation-token").elim 0 server.position
  { startsWith := startsWith
    limit := limit
    entries := (all.drop first).take limit
    next := if first + limit < all.length then some (first + limit) else none }

/-! ## Answers -/

/-- A time as it is written. -/
def timeText (time : UtcTime) : Bytes :=
  padded 4 time.year ++ ascii "-" ++ padded 2 time.month ++ ascii "-" ++ padded 2 time.day ++
    ascii "T" ++ padded 2 time.hour ++ ascii ":" ++ padded 2 time.minute ++ ascii ":" ++
    padded 2 time.second ++ ascii ".000Z"

/-- The elements of a `Contents` element. -/
def objectFields (object : ListedObject) : List (Bytes × Bytes) :=
  [(ascii "Key", server.escape object.key),
    (ascii "LastModified", timeText object.lastModified),
    (ascii "ETag", server.escape object.etag),
    (ascii "Size", decimal object.size.toNat),
    (ascii "StorageClass", server.escape object.storageClass)]

/-- The elements of a `CommonPrefixes` element. -/
def prefixFields (shared : Bytes) : List (Bytes × Bytes) :=
  [(ascii "Prefix", server.escape shared)]

/-- The elements in front of the objects: a token only if more are left. -/
def pageFields (page : ListPage) : List (Bytes × Bytes) :=
  [(ascii "Name", server.escape server.bucket),
    (ascii "Prefix", server.escape page.startsWith),
    (ascii "KeyCount", decimal page.entries.length),
    (ascii "MaxKeys", decimal page.limit),
    (ascii "IsTruncated", if page.next.isSome then ascii "true" else ascii "false")] ++
  page.next.elim [] fun next =>
    [(ascii "NextContinuationToken", server.escape (server.tokenOf next))]

/-- What an answer begins with. -/
def declaration : Bytes :=
  openTag (ascii "?xml version=\"1.0\" encoding=\"UTF-8\"?") ++ newline ++
    openTag (ascii "ListBucketResult xmlns=\"http://s3.amazonaws.com/doc/2006-03-01/\"")

/-- A page as it is written. -/
def render (page : ListPage) : Bytes :=
  declaration ++ record (server.pageFields page) ++
    (page.entries.filterMap ListEntry.object?).flatMap
      (fun object => element (ascii "Contents") (record (server.objectFields object))) ++
    (page.entries.filterMap ListEntry.prefix?).flatMap
      (fun shared => element (ascii "CommonPrefixes") (record (server.prefixFields shared))) ++
    closeTag (ascii "ListBucketResult")

/-- The server answers every request with a page. -/
def answer (_method _path query : Bytes) : Core.Result HttpResponse :=
  .ok ⟨200, server.render (server.page (parseQuery query))⟩

/-! ## Reading an answer -/

variable {server} {page : ListPage} {name text : Bytes}

theorem notMem_escape (server : ListServer) (text : Bytes) : 0x3c ∉ server.escape text := by
  intro mem
  rcases List.mem_flatMap.mp mem with ⟨byte, -, inside⟩
  exact server.bracket byte inside

theorem notMem_decimal (number : Nat) : 0x3c ∉ decimal number := by
  intro mem
  exact absurd (isDigit_of_mem_decimal mem) (by decide)

theorem notMem_padded (width number : Nat) : 0x3c ∉ padded width number := by
  simp [padded, notMem_decimal]

theorem notMem_timeText (time : UtcTime) : 0x3c ∉ timeText time := by
  simp only [timeText, List.mem_append, notMem_padded, false_or, or_false]
  decide

/-! ### Fields of an answer -/

/-- The names of the fields of an object. -/
def objectNames : List Bytes :=
  [ascii "Key", ascii "LastModified", ascii "ETag", ascii "Size", ascii "StorageClass"]

/-- The names of the fields in front of the objects. -/
def pageNames : List Bytes :=
  [ascii "Name", ascii "Prefix", ascii "KeyCount", ascii "MaxKeys", ascii "IsTruncated",
    ascii "NextContinuationToken"]

/-- The text of an answer, by its fields and those of its objects and common prefixes. -/
def answerText {α β : Type} (head : List (Bytes × Bytes)) (objects : List α)
    (objectFields : α → List (Bytes × Bytes)) (shared : List β)
    (prefixFields : β → List (Bytes × Bytes)) : Bytes :=
  declaration ++ (record head ++
    ((objects.flatMap fun object => element (ascii "Contents") (record (objectFields object))) ++
      ((shared.flatMap fun text =>
        element (ascii "CommonPrefixes") (record (prefixFields text))) ++
      closeTag (ascii "ListBucketResult"))))

theorem passes_declaration (plain : IsPlain name) (short : name.length < 30) :
    Passes name declaration := by
  apply Passes.append
  · apply Passes.append
    · apply passes_openTag plain (by decide)
      rintro rfl
      exact absurd short (by decide)
    · exact passes_of_notMem (by decide)
  · apply passes_openTag plain (by decide)
    rintro rfl
    exact absurd short (by decide)

theorem parseContents_fields {fields : List (Bytes × Bytes)}
    (known : AreFields objectNames fields) :
    parseContents (element (ascii "Contents") (record fields)) =
      let object := { CloudObjectMetadata.default with
        key := (fields.lookup (ascii "Key")).getD []
        etag := (fields.lookup (ascii "ETag")).getD []
        lastModified := ((fields.lookup (ascii "LastModified")).bind getTime).elim 0 fromTimeT }
      match fields.lookup (ascii "Size") with
      | none => some object
      | some size => (stoull 10 size).map fun size => { object with size } := by
  have extracts (tag : Bytes) (apart : Apart tag [ascii "Contents"])
      (names : ∀ other ∈ objectNames, IsPlain other ∧ tag ≠ 0x2f :: other) :
      extractXmlElement (element (ascii "Contents") (record fields)) tag = fields.lookup tag := by
    rw [element, List.append_assoc]
    apply known.extractXmlElement apart.1 names
    · exact apart.passes_openTag List.mem_cons_self
    · exact apart.passes_closeTag List.mem_cons_self
  rw [parseContents, extracts (ascii "Key") (by decide) (by decide),
    extracts (ascii "ETag") (by decide) (by decide),
    extracts (ascii "LastModified") (by decide) (by decide),
    extracts (ascii "Size") (by decide) (by decide)]
  all_goals cases fields.lookup (ascii "Size") <;> rfl

theorem extractPrefix_fields {fields : List (Bytes × Bytes)}
    (known : AreFields [ascii "Prefix"] fields) :
    extractXmlElement (element (ascii "CommonPrefixes") (record fields)) (ascii "Prefix") =
      fields.lookup (ascii "Prefix") := by
  have apart : Apart (ascii "Prefix") [ascii "CommonPrefixes"] := by decide
  rw [element, List.append_assoc]
  exact known.extractXmlElement apart.1 (by decide) (apart.passes_openTag List.mem_cons_self)
    (apart.passes_closeTag List.mem_cons_self)

theorem mapM_map_eq_some {α β γ : Type} {items : List α} {write : α → β} {read : β → Option γ}
    {shown : α → γ} (reads : ∀ item ∈ items, read (write item) = some (shown item)) :
    (items.map write).mapM read = some (items.map shown) := by
  induction items with
  | nil => rfl
  | cons item items ih =>
      have rest := ih fun later mem => reads later (List.mem_cons_of_mem _ mem)
      simp [List.mapM_cons, rest, reads item List.mem_cons_self]

section Answer

variable {α β : Type} {head : List (Bytes × Bytes)} {objects : List α}
  {objectFields : α → List (Bytes × Bytes)} {shared : List β}
  {prefixFields : β → List (Bytes × Bytes)}

theorem passes_records {tag : Bytes} {names : List Bytes} {items : List α}
    {fields : α → List (Bytes × Bytes)} (known : ∀ item, AreFields names (fields item))
    (apart : Apart name (tag :: names)) :
    Passes name (items.flatMap fun item => element tag (record (fields item))) := by
  apply passes_flatMap
  intro item _
  apply apart.passes_element List.mem_cons_self
  exact (known item).passes (apart.mono (List.subset_cons_self _ _))

theorem parseListing_answerText (knownHead : AreFields pageNames head)
    (knownObjects : ∀ object, AreFields objectNames (objectFields object))
    (knownPrefixes : ∀ text, AreFields [ascii "Prefix"] (prefixFields text)) :
    parseListing (answerText head objects objectFields shared prefixFields) =
      ((objects.map fun object =>
        element (ascii "Contents") (record (objectFields object))).mapM parseContents).map
      fun objects =>
        { objects := objects
          commonPrefixes := shared.filterMap fun text => (prefixFields text).lookup (ascii "Prefix")
          isTruncated := head.lookup (ascii "IsTruncated") == some (ascii "true")
          continuationToken := head.lookup (ascii "NextContinuationToken")
          totalCount := none } := by
  have passesHead {tag : Bytes} (short : tag.length < 30) (apart : Apart tag pageNames) :
      Passes tag (declaration ++ record head) :=
    (passes_declaration apart.1 short).append (knownHead.passes apart)
  have closing {tag : Bytes} (apart : Apart tag [ascii "ListBucketResult"]) :=
    apart.passes_closeTag List.mem_cons_self
  have contents : elements (ascii "Contents")
      (answerText head objects objectFields shared prefixFields) = objects.map fun object =>
        element (ascii "Contents") (record (objectFields object)) := by
    rw [answerText, ← List.append_assoc]
    apply elements_records (fun object _ => knownObjects object) (by decide) (by decide)
    · exact passesHead (by decide) (by decide)
    · exact (passes_records knownPrefixes (by decide)).append (closing (by decide))
  have prefixes : elements (ascii "CommonPrefixes")
      (answerText head objects objectFields shared prefixFields) = shared.map fun text =>
        element (ascii "CommonPrefixes") (record (prefixFields text)) := by
    rw [answerText, ← List.append_assoc, ← List.append_assoc]
    apply elements_records (fun text _ => knownPrefixes text) (by decide) (by decide)
    · apply (passesHead (by decide) (by decide)).append
      exact passes_records knownObjects (by decide)
    · exact closing (by decide)
  have field (tag : Bytes) (short : tag.length < 30)
      (names : ∀ other ∈ pageNames, IsPlain other ∧ tag ≠ 0x2f :: other)
      (object : Apart tag (ascii "Contents" :: objectNames))
      (text : Apart tag [ascii "CommonPrefixes", ascii "Prefix"])
      (closes : Apart tag [ascii "ListBucketResult"]) :
      extractXmlElement (answerText head objects objectFields shared prefixFields) tag =
        head.lookup tag := by
    apply knownHead.extractXmlElement closes.1 names (passes_declaration closes.1 short)
    apply (passes_records knownObjects object).append
    exact (passes_records knownPrefixes text).append (closing closes)
  have shown : ((fun prefixXml => extractXmlElement prefixXml (ascii "Prefix")) ∘ fun text =>
      element (ascii "CommonPrefixes") (record (prefixFields text))) =
      fun text => (prefixFields text).lookup (ascii "Prefix") := by
    funext text
    exact extractPrefix_fields (knownPrefixes text)
  rw [parseListing, contents, prefixes, List.filterMap_map, shown,
    field (ascii "IsTruncated") (by decide) (by decide) (by decide) (by decide) (by decide),
    field (ascii "NextContinuationToken") (by decide) (by decide) (by decide) (by decide)
      (by decide)]

end Answer

/-! ### The pages of the server -/

theorem areFields_object (object : ListedObject) :
    AreFields objectNames (server.objectFields object) := by
  simp [AreFields, objectFields, objectNames, notMem_escape, notMem_timeText, notMem_decimal]

theorem areFields_prefix (shared : Bytes) :
    AreFields [ascii "Prefix"] (server.prefixFields shared) := by
  simp [AreFields, prefixFields, notMem_escape]

theorem areFields_page (page : ListPage) : AreFields pageNames (server.pageFields page) := by
  have yes : 0x3c ∉ ascii "true" := by decide
  have no : 0x3c ∉ ascii "false" := by decide
  cases next : page.next <;>
    simp [AreFields, pageFields, pageNames, next, notMem_escape, notMem_decimal, yes, no]

/-- What a client makes of an object of a listing. -/
def listed (server : ListServer) (object : ListedObject) : CloudObjectMetadata :=
  { CloudObjectMetadata.default with
    key := server.escape object.key
    size := object.size
    etag := server.escape object.etag
    lastModified := (getTime (timeText object.lastModified)).elim 0 fromTimeT }

/-- What a client reads from a page. -/
def read (server : ListServer) (page : ListPage) : ListObjectsResult where
  objects := (page.entries.filterMap ListEntry.object?).map server.listed
  commonPrefixes := (page.entries.filterMap ListEntry.prefix?).map server.escape
  isTruncated := page.next.isSome
  continuationToken := page.next.map fun next => server.escape (server.tokenOf next)
  totalCount := none

theorem render_eq (server : ListServer) (page : ListPage) : server.render page =
    answerText (server.pageFields page) (page.entries.filterMap ListEntry.object?)
      server.objectFields (page.entries.filterMap ListEntry.prefix?) server.prefixFields := by
  simp only [render, answerText, List.append_assoc]

theorem parseContents_element (object : ListedObject) :
    parseContents (element (ascii "Contents") (record (server.objectFields object))) =
      some (server.listed object) := by
  have key : (server.objectFields object).lookup (ascii "Key") =
      some (server.escape object.key) := rfl
  have time : (server.objectFields object).lookup (ascii "LastModified") =
      some (timeText object.lastModified) := rfl
  have etag : (server.objectFields object).lookup (ascii "ETag") =
      some (server.escape object.etag) := rfl
  have size : (server.objectFields object).lookup (ascii "Size") =
      some (decimal object.size.toNat) := rfl
  rw [parseContents_fields (areFields_object object), key, time, etag, size]
  simp only [stoull_decimal object.size, Option.map_some, Option.getD_some, Option.bind_some,
    listed]

theorem parseListing_render (page : ListPage) :
    parseListing (server.render page) = some (server.read page) := by
  have truncated : (server.pageFields page).lookup (ascii "IsTruncated") =
      some (if page.next.isSome then ascii "true" else ascii "false") := rfl
  have token : (server.pageFields page).lookup (ascii "NextContinuationToken") =
      page.next.map fun next => server.escape (server.tokenOf next) := by
    rw [pageFields]
    cases page.next <;> rfl
  have shared : (fun text => (server.prefixFields text).lookup (ascii "Prefix")) =
      fun text => some (server.escape text) := rfl
  have flag : ∀ more : Bool,
      (some (if more then ascii "true" else ascii "false") == some (ascii "true")) = more := by
    decide
  rw [render_eq, parseListing_answerText (areFields_page page) areFields_object areFields_prefix,
    mapM_map_eq_some fun object _ => parseContents_element object, truncated, token, shared, flag,
    List.filterMap_eq_map']
  rfl

/-! ## Answering a client -/

/-- The page that a client asks for. -/
def pageFor (server : ListServer) (options : ListObjectsOptions) : ListPage :=
  let startsWith := options.startsWith.getD []
  let all := server.entries startsWith options.delimiter
  let limit := if 0 < options.maxKeys then min server.pageLimit options.maxKeys
    else server.pageLimit
  let first := options.continuationToken.elim 0 server.position
  { startsWith := startsWith
    limit := limit
    entries := (all.drop first).take limit
    next := if first + limit < all.length then some (first + limit) else none }

theorem page_parameters (server : ListServer) (options : ListObjectsOptions) :
    server.page options.parameters = server.pageFor options := by
  rcases options with ⟨_ | startsWith, _ | delimiter, maxKeys, _ | token⟩ <;>
    by_cases positive : 0 < maxKeys <;>
    simp +decide [page, pageFor, ListObjectsOptions.parameters, positive, ofDigits_decimal]

theorem listObjects_answer (server : ListServer) (config : S3Config)
    (options : ListObjectsOptions) :
    S3Storage.listObjects ⟨config, true, server.answer⟩ options =
      some (.ok (server.read (server.pageFor options))) := by
  have body : parseListing (server.render (server.page (parseQuery options.query))) =
      some (server.read (server.pageFor options)) := by
    rw [ListObjectsOptions.query_eq_renderQuery, parseQuery_renderQuery, page_parameters,
      parseListing_render]
  simp [S3Storage.listObjects, answer, body]

/-! ## What a listing shows -/

@[simp]
theorem escape_tokenOf (server : ListServer) (number : Nat) :
    server.escape (server.tokenOf number) = server.tokenOf number :=
  flatMap_encode_eq_self (server.token_plain number)

theorem length_escape (server : ListServer) (text : Bytes) :
    text.length ≤ (server.escape text).length ∧
      ((server.escape text).length = text.length → server.escape text = text) := by
  rcases length_flatMap_encode server.longer text with ⟨longer, kept⟩
  exact ⟨longer, fun same => flatMap_encode_eq_self (kept same)⟩

theorem mem_matching {object : ListedObject} {startsWith : Bytes} :
    object ∈ server.matching startsWith ↔
      object ∈ server.objects ∧ startsWith <+: object.key := by
  rw [matching, List.mem_filter, mem_sortByKey, decide_eq_true_iff]

theorem nodup_matching (server : ListServer) (startsWith : Bytes) :
    (server.matching startsWith).Nodup := by
  have distinct : server.objects.Nodup := List.Nodup.of_map _ server.distinct
  exact (perm_sortByKey.nodup_iff.mpr distinct).filter _

theorem perm_entries (server : ListServer) (startsWith delimiter : Bytes) :
    ((server.entries startsWith (some delimiter)).filterMap ListEntry.object?).Perm
      ((server.matching startsWith).filter fun object =>
        upToDelimiter delimiter (object.key.drop startsWith.length) = none) := by
  have shown (object other : ListedObject) :
      (entryOf startsWith (some delimiter) other).object? = some object ↔
        other = object ∧ upToDelimiter delimiter (object.key.drop startsWith.length) = none := by
    unfold entryOf
    rw [Option.bind_some]
    cases cut : upToDelimiter delimiter (other.key.drop startsWith.length) with
    | some shared =>
        apply iff_of_false nofun
        rintro ⟨rfl, whole⟩
        rw [cut] at whole
        contradiction
    | none =>
        constructor
        · rintro ⟨rfl⟩
          exact ⟨rfl, cut⟩
        · rintro ⟨rfl, -⟩
          rfl
  rw [List.perm_ext_iff_of_nodup]
  · intro object
    rw [List.mem_filter, decide_eq_true_iff, List.mem_filterMap]
    constructor
    · rintro ⟨entry, mem, held⟩
      rcases List.mem_map.mp (List.mem_dedup.mp mem) with ⟨other, inside, rfl⟩
      rcases (shown object other).mp held with ⟨rfl, whole⟩
      exact ⟨inside, whole⟩
    · rintro ⟨inside, whole⟩
      refine ⟨_, List.mem_dedup.mpr (List.mem_map_of_mem inside), ?_⟩
      exact (shown object object).mpr ⟨rfl, whole⟩
  · apply List.Nodup.filterMap _ (List.nodup_dedup _)
    intro one two object first second
    cases one <;> cases two <;> simp_all [ListEntry.object?]
  · exact (server.nodup_matching startsWith).filter _

end ListServer

theorem upToDelimiter_eq_none_iff {byte : UInt8} {text : Bytes} :
    upToDelimiter [byte] text = none ↔ byte ∉ text := by
  rw [upToDelimiter, Option.map_eq_none_iff, find_byte_eq_none_iff]

end FileTrans.Cloud
