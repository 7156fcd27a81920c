import FileTrans.Cloud.ListServer
import FileTrans.Server.StorageListing
import FileTrans.Transition.Loop
import Mathlib.Algebra.Order.BigOperators.Group.List

/-!
# Listings of the cloud backend

The backend passes a listing on to its storage, whose default options group the
keys at the delimiter `/`, and takes the objects of the answer but not the common
prefixes.  A caller that asks page after page therefore does not see the keys with
a delimiter after the prefix; and it sees an escaped key as it was written.
-/

namespace FileTrans.Server

open FileTrans.Cloud
open FileTrans.Core
open FileTrans.Text
open FileTrans.Transition

/-- `cloud_storage_backend`, as far as it lists objects. -/
structure CloudLister where
  storage : S3Storage
  backendType : StorageBackendType

namespace CloudLister

/-- The options of the storage, which has its own default of the delimiter. -/
def cloudOptions (options : ListStorageOptions) : ListObjectsOptions :=
  { ListObjectsOptions.default with
    startsWith := options.keyPrefix
    maxKeys := options.maxResults.toNat
    continuationToken := options.continuationToken }

/-- The metadata of an object of the storage. -/
def storedMetadata (backendType : StorageBackendType) (object : CloudObjectMetadata) :
    StoredObjectMetadata where
  key := object.key
  size := object.size
  lastModified := object.lastModified
  contentHash := none
  backend := backendType
  tier := .hot
  etag := some object.etag
  contentType := some object.contentType
  customMetadata := object.customMetadata
  accessCount := 0
  lastAccessed := none

/-- `cloud_storage_backend::list`, unless it throws. -/
def list (backend : CloudLister) (options : ListStorageOptions) :
    Option (Result ListStorageResult) :=
  (backend.storage.listObjects (cloudOptions options)).map fun
    | .error failure =>
        .error ⟨.fileReadError, ascii "Cloud list failed: " ++ failure.message⟩
    | .ok listing =>
        .ok {
          objects := listing.objects.map (storedMetadata backend.backendType)
          isTruncated := listing.isTruncated
          continuationToken := listing.continuationToken
          totalCount := listing.totalCount }

/-- Ask for a page, and for the next one with the token that came back.  The state is the token
and what has been listed. -/
def nextPage (backend : CloudLister) (options : ListStorageOptions) :
    Body (Option Bytes × List StoredObjectMetadata) (Option (List StoredObjectMetadata)) :=
  fun (continuationToken, listed) =>
    match backend.list { options with continuationToken } with
    | some (.ok listing) =>
        if listing.isTruncated then .inr (listing.continuationToken, listed ++ listing.objects)
        else .inl (some (listed ++ listing.objects))
    | _ => .inl none

/-- All pages together list every stored key with the prefix once, as the local backend does
that has them as files and room for all of them. -/
def ListsEverything (backend : CloudLister) (options : ListStorageOptions)
    (stored : List Bytes) : Prop :=
  ∃ count objects, loop (backend.nextPage options) count (none, []) = some (some objects) ∧
    (objects.map StoredObjectMetadata.key).Perm
      (stored.filter fun key => options.HasPrefix key) ∧
    ∀ files : List StoredObjectMetadata, (files.map StoredObjectMetadata.key).Perm stored →
      ∀ local' : ListStorageOptions, local'.keyPrefix = options.keyPrefix →
        files.length < local'.maxResults.toNat →
        (objects.map StoredObjectMetadata.key).Perm
          ((listEntries local' [] files).objects.map StoredObjectMetadata.key)

/-! ## All pages -/

section

variable (server : ListServer) (config : S3Config) (backendType : StorageBackendType)
  (options : ListStorageOptions)

/-- The backend of a bucket that the server lists. -/
def ofServer : CloudLister where
  storage := ⟨config, true, server.answer⟩
  backendType := backendType

/-- The entries of the listing that the caller asks for. -/
def requestedEntries : List ListEntry :=
  server.entries (options.keyPrefix.getD []) (some (ascii "/"))

/-- How many entries a page has. -/
def pageSize : Nat :=
  if 0 < options.maxResults.toNat then min server.pageLimit options.maxResults.toNat
  else server.pageLimit

/-- What the caller sees of entries. -/
def seen (entries : List ListEntry) : List StoredObjectMetadata :=
  (entries.filterMap ListEntry.object?).map fun object =>
    storedMetadata backendType (server.listed object)

variable {server config backendType options}

theorem pageSize_pos : 0 < pageSize server options := by
  have limit := server.pageLimit_pos
  unfold pageSize
  split
  · exact lt_min limit ‹_›
  · exact limit

theorem nextPage_ofServer (continuationToken : Option Bytes) (listed : List StoredObjectMetadata) :
    let first := continuationToken.elim 0 server.position
    let all := requestedEntries server options
    let size := pageSize server options
    (ofServer server config backendType).nextPage options (continuationToken, listed) =
      if first + size < all.length then
        .inr (some (server.tokenOf (first + size)),
          listed ++ seen server backendType ((all.drop first).take size))
      else .inl (some (listed ++ seen server backendType ((all.drop first).take size))) := by
  intro first all size
  have answered := server.listObjects_answer config
    (cloudOptions { options with continuationToken })
  have page : server.pageFor (cloudOptions { options with continuationToken }) =
      { startsWith := options.keyPrefix.getD []
        limit := size
        entries := (all.drop first).take size
        next := if first + size < all.length then some (first + size) else none } := rfl
  rw [page] at answered
  by_cases more : first + size < all.length
  · rw [if_pos more] at answered ⊢
    simp [nextPage, list, ofServer, answered, ListServer.read, seen]
  · rw [if_neg more] at answered ⊢
    simp [nextPage, list, ofServer, answered, ListServer.read, seen]

theorem seen_append (first second : List ListEntry) :
    seen server backendType (first ++ second) =
      seen server backendType first ++ seen server backendType second := by
  simp [seen]

/-- Asking on from a position lists all entries from there.  Every page but the last has an
entry, so fewer are left after it. -/
theorem loop_nextPage {first : Nat} {continuationToken : Option Bytes}
    (named : continuationToken.elim 0 server.position = first)
    (listed : List StoredObjectMetadata) :
    ∃ count, loop ((ofServer server config backendType).nextPage options) count
      (continuationToken, listed) =
      some (some (listed ++
        seen server backendType ((requestedEntries server options).drop first))) := by
  induction left : (requestedEntries server options).length - first using
    Nat.strong_induction_on generalizing first continuationToken listed with
  | _ left' ih =>
      have page := @nextPage_ofServer server config backendType options continuationToken listed
      simp only [named] at page
      by_cases more : first + pageSize server options < (requestedEntries server options).length
      · rw [if_pos more] at page
        have size := @pageSize_pos server options
        have fewer : (requestedEntries server options).length -
            (first + pageSize server options) < left' := by
          omega
        have next : (some (server.tokenOf (first + pageSize server options))).elim 0
            server.position = first + pageSize server options :=
          server.position_tokenOf _
        rcases ih _ fewer next _ rfl with ⟨count, exits⟩
        refine ⟨count + 1, ?_⟩
        rw [loop_of_next page, exits, List.append_assoc, ← seen_append, ← List.drop_drop,
          List.take_append_drop]
      · rw [if_neg more] at page
        have whole : ((requestedEntries server options).drop first).take
            (pageSize server options) = (requestedEntries server options).drop first := by
          apply List.take_of_length_le
          rw [List.length_drop]
          omega
        refine ⟨1, ?_⟩
        rw [loop_of_exit page, whole]

theorem keys_seen :
    ((seen server backendType (requestedEntries server options)).map
      StoredObjectMetadata.key).Perm
      (((server.matching (options.keyPrefix.getD [])).filter fun object =>
        0x2f ∉ object.key.drop (options.keyPrefix.getD []).length).map fun object =>
          server.escape object.key) := by
  have shown := (server.perm_entries (options.keyPrefix.getD []) (ascii "/")).map
    fun object => server.escape object.key
  have slash : ascii "/" = [0x2f] := by decide
  rw [slash] at shown
  simp only [upToDelimiter_eq_none_iff] at shown
  rw [seen, List.map_map, requestedEntries, slash]
  exact shown

theorem hasPrefix_iff {key : Bytes} :
    options.HasPrefix key ↔ options.keyPrefix.getD [] <+: key := by
  cases wanted : options.keyPrefix <;> simp [ListStorageOptions.HasPrefix, wanted]

theorem filter_keys_perm :
    ((server.objects.map ListedObject.key).filter fun key => options.HasPrefix key).Perm
      ((server.matching (options.keyPrefix.getD [])).map ListedObject.key) := by
  have sorted : (server.objects).Perm (sortByKey ListedObject.key server.objects) :=
    perm_sortByKey.symm
  rw [List.filter_map]
  apply List.Perm.map
  simp only [ListServer.matching, Function.comp_def, hasPrefix_iff]
  exact sorted.filter _

theorem perm_keys_iff {objects : List ListedObject} {chosen : ListedObject → Prop}
    [DecidablePred chosen] :
    ((objects.filter fun object => chosen object).map fun object =>
        server.escape object.key).Perm (objects.map ListedObject.key) ↔
      ∀ object ∈ objects, chosen object ∧ server.escape object.key = object.key := by
  constructor
  · intro same
    have many : (objects.filter fun object => chosen object).length = objects.length := by
      have lengths := same.length_eq
      rwa [List.length_map, List.length_map] at lengths
    have all : ∀ object ∈ objects, chosen object := by
      simpa using List.length_filter_eq_length_iff.mp many
    have everything : (objects.filter fun object => chosen object) = objects := by
      simpa using all
    rw [everything] at same
    have total := (same.map List.length).sum_eq
    rw [List.map_map, List.map_map] at total
    intro object mem
    refine ⟨all object mem, ?_⟩
    by_contra differs
    have longer : object.key.length < (server.escape object.key).length := by
      apply lt_of_le_of_ne (server.length_escape object.key).1
      exact fun equal => differs ((server.length_escape object.key).2 equal.symm)
    apply (List.sum_lt_sum (fun object : ListedObject => object.key.length)
      (fun object => (server.escape object.key).length) _ ⟨object, mem, longer⟩).ne total.symm
    exact fun other _ => (server.length_escape other.key).1
  · intro whole
    have everything : (objects.filter fun object => chosen object) = objects := by
      simpa using fun object mem => (whole object mem).1
    rw [everything]
    apply List.Perm.of_eq
    apply List.map_congr_left
    exact fun object mem => (whole object mem).2

theorem keys_listEntries {files : List StoredObjectMetadata} {stored : List Bytes}
    {local' : ListStorageOptions} (same : (files.map StoredObjectMetadata.key).Perm stored)
    (alike : local'.keyPrefix = options.keyPrefix)
    (room : files.length < local'.maxResults.toNat) :
    ((listEntries local' [] files).objects.map StoredObjectMetadata.key).Perm
      (stored.filter fun key => options.HasPrefix key) := by
  have some_room : ([] : List StoredObjectMetadata).length < local'.maxResults.toNat :=
    Nat.zero_lt_of_lt room
  have wanted : local'.HasPrefix = options.HasPrefix := by
    unfold ListStorageOptions.HasPrefix
    rw [alike]
  have few : (files.filter fun file => local'.HasPrefix file.key).length ≤
      local'.maxResults.toNat :=
    (List.length_filter_le _ _).trans room.le
  have objects := (@StorageManager.listEntries_eq local' [] files some_room).1
  rw [objects, List.nil_append, List.take_of_length_le few]
  have filtered := same.filter fun key => options.HasPrefix key
  rw [List.filter_map] at filtered
  simp only [wanted]
  exact filtered

/-- Nothing of a key with the prefix keeps it from being listed: it has no delimiter after the
prefix, and it is written as it is. -/
def Plain (server : ListServer) (options : ListStorageOptions) : Prop :=
  ∀ object ∈ server.objects, options.HasPrefix object.key →
    0x2f ∉ object.key.drop (options.keyPrefix.getD []).length ∧
      server.escape object.key = object.key

theorem plain_iff : Plain server options ↔
    ∀ object ∈ server.matching (options.keyPrefix.getD []),
      0x2f ∉ object.key.drop (options.keyPrefix.getD []).length ∧
        server.escape object.key = object.key := by
  constructor
  · intro plain object mem
    rcases ListServer.mem_matching.mp mem with ⟨held, matches'⟩
    exact plain object held (hasPrefix_iff.mpr matches')
  · intro plain object held matches'
    exact plain object (ListServer.mem_matching.mpr ⟨held, hasPrefix_iff.mp matches'⟩)

theorem perm_seen_iff :
    ((seen server backendType (requestedEntries server options)).map
        StoredObjectMetadata.key).Perm
      ((server.objects.map ListedObject.key).filter fun key => options.HasPrefix key) ↔
      Plain server options := by
  rw [plain_iff, ← perm_keys_iff]
  constructor
  · intro same
    exact keys_seen.symm.trans (same.trans filter_keys_perm)
  · intro same
    exact keys_seen.trans (same.trans filter_keys_perm.symm)

theorem listsEverything_ofServer_iff :
    (ofServer server config backendType).ListsEverything options
        (server.objects.map ListedObject.key) ↔
      ((seen server backendType (requestedEntries server options)).map
        StoredObjectMetadata.key).Perm
        ((server.objects.map ListedObject.key).filter fun key => options.HasPrefix key) := by
  have start : (none : Option Bytes).elim 0 server.position = 0 := rfl
  rcases @loop_nextPage server config backendType options 0 none start [] with ⟨count, exits⟩
  rw [List.drop_zero, List.nil_append] at exits
  constructor
  · rintro ⟨other, objects, found, same, -⟩
    rw [Option.some.inj (loop_unique exits found)]
    exact same
  · intro same
    refine ⟨count, _, exits, same, ?_⟩
    intro files stored local' alike room
    exact same.trans (keys_listEntries stored alike room).symm

end

/-- The pages list everything exactly if no key with the prefix has a delimiter after it, and
every one is written as it is. -/
theorem listsEverything_iff (server : ListServer) (config : S3Config)
    (backendType : StorageBackendType) (options : ListStorageOptions) :
    (ofServer server config backendType).ListsEverything options
        (server.objects.map ListedObject.key) ↔
      ∀ object ∈ server.objects, options.HasPrefix object.key →
        0x2f ∉ object.key.drop (options.keyPrefix.getD []).length ∧
          server.escape object.key = object.key := by
  rw [listsEverything_ofServer_iff, perm_seen_iff, Plain]

/-! ## A key with a delimiter -/

namespace ListingSample

/-- How an XML writer writes a byte. -/
def escapeByte (byte : UInt8) : Bytes :=
  if byte = 0x26 then ascii "&amp;"
  else if byte = 0x3c then ascii "&lt;"
  else if byte = 0x3e then ascii "&gt;"
  else if byte = 0x22 then ascii "&quot;"
  else [byte]

def object (key : String) : ListedObject where
  key := ascii key
  size := 1
  etag := ascii "e"
  lastModified := ⟨2024, 1, 1, 0, 0, 0, Nat.le_of_ble_eq_true rfl, Nat.le_of_ble_eq_true rfl,
    Nat.le_of_ble_eq_true rfl, Nat.le_of_ble_eq_true rfl, Nat.le_of_ble_eq_true rfl,
    Nat.le_of_ble_eq_true rfl⟩
  storageClass := ascii "STANDARD"

/-- A server with these objects, whose tokens are numerals. -/
def server (objects : List ListedObject)
    (distinct : (objects.map ListedObject.key).Nodup) : ListServer where
  bucket := ascii "bucket"
  objects := objects
  escapeByte := escapeByte
  tokenOf := decimal
  position := ofDigits 10
  pageLimit := 1000
  distinct := distinct
  bracket := by
    intro byte
    unfold escapeByte
    split_ifs with amp less greater quote
    · decide
    · decide
    · decide
    · decide
    · simpa using Ne.symm less
  longer := by
    intro byte differs
    unfold escapeByte at differs ⊢
    split_ifs with amp less greater quote
    · decide
    · decide
    · decide
    · decide
    · simp [amp, less, greater, quote] at differs
  position_tokenOf := ofDigits_decimal
  token_plain := by
    intro number byte mem
    have digit := isDigit_of_mem_decimal mem
    have other (reserved : UInt8) (none : isDigit 10 reserved = false) : byte ≠ reserved := by
      rintro rfl
      rw [none] at digit
      contradiction
    simp [escapeByte, other 0x26 (by decide), other 0x3c (by decide), other 0x3e (by decide),
      other 0x22 (by decide)]
  pageLimit_pos := Nat.succ_pos 999

/-- A configuration of the client, which sends requests only to an endpoint of its own. -/
def config : S3Config where
  bucket := ascii "bucket"
  region := ascii "us-east-1"
  endpoint := some (ascii "http://localhost:9000")
  usePathStyle := true
  useSsl := false
  useTransferAcceleration := false

end ListingSample

open ListingSample in
/-- Of `docs/a` and `b` only `b` is listed; and `a&b` is listed under another name. -/
theorem listsEverything_not_nested :
    ¬ (ofServer (server [object "docs/a", object "b"] (by decide)) config
        .cloudS3).ListsEverything ⟨none, 1000, none, none, none⟩ [ascii "docs/a", ascii "b"] ∧
    ¬ (ofServer (server [object "a&b"] (by decide)) config
        .cloudS3).ListsEverything ⟨none, 1000, none, none, none⟩ [ascii "a&b"] := by
  constructor
  · intro everything
    have plain := perm_seen_iff.mp (listsEverything_ofServer_iff.mp everything)
    have whole := (plain (object "docs/a") (by decide) (by decide)).1
    exact absurd whole (by decide)
  · intro everything
    have plain := perm_seen_iff.mp (listsEverything_ofServer_iff.mp everything)
    have whole := (plain (object "a&b") (by decide) (by decide)).2
    exact absurd whole (by decide)

end CloudLister

end FileTrans.Server
