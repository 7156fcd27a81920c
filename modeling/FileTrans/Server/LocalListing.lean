import FileTrans.Server.StorageListing

/-!
# Listings of the local backend

`local_storage_backend::list` walks through a directory with one error code for
the iterator and for everything it asks of an entry.  An entry that answers
with an error is passed over or listed without its metadata; the next pass then
takes the error for one of the iterator and ends the walk.  Only the iterator's
constructor reports to the error code: where it cannot be advanced, past a directory
that cannot be opened, it throws out of the call.

The key of an entry is its canonical path relative to the base directory, so
that a symbolic link to a file has the key of that file.
-/

namespace FileTrans.Server

open FileTrans.Core

/-! ## The walk -/

/-- An entry and how the file system answers for it; `none` is an error.  `is_regular_file` and
`relative` follow symbolic links.  `advances` says whether the iterator gets past it. -/
structure LocalEntry where
  isRegularFile : Option Bool
  relativeKey : Option Bytes
  fileSize : Option UInt64
  lastModified : Option Int
  advances : Bool
  deriving DecidableEq

/-- The base directory: whether the iterator can open it, and its entries in the iterator's
order. -/
structure LocalDirectory where
  opens : Bool
  entries : List LocalEntry

namespace LocalEntry

/-- The metadata of a regular file. -/
def metadata (entry : LocalEntry) (key : Bytes) : StoredObjectMetadata where
  key
  size := entry.fileSize.getD 0xFFFFFFFFFFFFFFFF
  lastModified := if entry.fileSize.isSome then entry.lastModified.getD 0 else 0
  contentHash := none
  backend := .localStorage
  tier := .hot
  etag := none
  contentType := none
  customMetadata := []
  accessCount := 0
  lastAccessed := none

@[simp]
theorem metadata_key (entry : LocalEntry) (key : Bytes) : (entry.metadata key).key = key :=
  rfl

/-- The size or the time of the entry cannot be read. -/
def metadataFails (entry : LocalEntry) : Bool :=
  entry.fileSize.isNone || entry.lastModified.isNone

/-- The object of an entry, if it is a regular file and has a key. -/
def object? (entry : LocalEntry) : Option StoredObjectMetadata :=
  if entry.isRegularFile = some true then entry.relativeKey.map entry.metadata else none

/-- The key of an entry that is to be listed. -/
def key? (options : ListStorageOptions) (entry : LocalEntry) : Option Bytes :=
  if entry.isRegularFile = some true then
    entry.relativeKey.filter fun key => options.HasPrefix key
  else none

/-- A pass over the entry leaves the error code set. -/
def fails (options : ListStorageOptions) (entry : LocalEntry) : Bool :=
  match entry.isRegularFile, entry.relativeKey with
  | none, _ => true
  | some false, _ => false
  | some true, none => true
  | some true, some key => decide (options.HasPrefix key) && entry.metadataFails

end LocalEntry

/-- The step of the iterator at the end of a pass, and what comes after it; `none` is an
exception. -/
def LocalEntry.advance (entry : LocalEntry) (next : Option ListStorageResult) :
    Option ListStorageResult :=
  if entry.advances then next else none

/-- The loop of `local_storage_backend::list`, in the order of the iterator. -/
def walkEntries (options : ListStorageOptions) :
    List StoredObjectMetadata → List LocalEntry → Option ListStorageResult
  | found, [] => some { ListStorageResult.empty with objects := found }
  | found, entry :: rest =>
      match entry.isRegularFile, entry.relativeKey with
      -- The next pass, if there is one, finds the error code set and breaks.
      | none, _ => entry.advance (some { ListStorageResult.empty with objects := found })
      | some false, _ => entry.advance (walkEntries options found rest)
      | some true, none => entry.advance (some { ListStorageResult.empty with objects := found })
      | some true, some key =>
          if ¬ options.HasPrefix key then entry.advance (walkEntries options found rest)
          else if (found ++ [entry.metadata key]).length ≥ options.maxResults.toNat then
            some { ListStorageResult.empty with
              objects := found ++ [entry.metadata key]
              isTruncated := true }
          else if entry.metadataFails then
            entry.advance
              (some { ListStorageResult.empty with objects := found ++ [entry.metadata key] })
          else entry.advance (walkEntries options (found ++ [entry.metadata key]) rest)

/-- `local_storage_backend::list`, on the base directory if it exists; `none` is an exception. -/
def listLocal (options : ListStorageOptions) :
    Option LocalDirectory → Option (Result ListStorageResult)
  | none => some (.ok ListStorageResult.empty)
  | some directory =>
      if directory.opens then (walkEntries options [] directory.entries).map .ok
      else some (.ok ListStorageResult.empty)

/-! ## What the walk reaches -/

/-- The entries up to the first that fails, which is still looked at. -/
def reached (options : ListStorageOptions) : List LocalEntry → List LocalEntry
  | [] => []
  | entry :: rest =>
      if entry.fails options then [entry] else entry :: reached options rest

/-- The entries that the walk gets past with so many results left: not the match that fills the
listing, and none after an entry that fails. -/
def passed (options : ListStorageOptions) : Nat → List LocalEntry → List LocalEntry
  | _, [] => []
  | left, entry :: rest =>
      if (entry.key? options).isSome ∧ left ≤ 1 then []
      else if entry.fails options then [entry]
      else if (entry.key? options).isSome then entry :: passed options (left - 1) rest
      else entry :: passed options left rest

/-- The keys that the walk comes by. -/
def reachedKeys (options : ListStorageOptions) (entries : List LocalEntry) : List Bytes :=
  (reached options entries).filterMap (LocalEntry.key? options)

/-- The keys of all objects that match. -/
def matchingKeys (options : ListStorageOptions) (entries : List LocalEntry) : List Bytes :=
  entries.filterMap (LocalEntry.key? options)

def ListStorageResult.keys (listing : ListStorageResult) : List Bytes :=
  listing.objects.map StoredObjectMetadata.key

/-- A listing of the matching objects of a directory that says whether it left one out. -/
structure ListsDirectory (options : ListStorageOptions) (entries : List LocalEntry)
    (listing : ListStorageResult) : Prop where
  short : listing.objects.length ≤ options.maxResults.toNat
  matching : ∀ key ∈ listing.keys, options.HasPrefix key ∧ key ∈ matchingKeys options entries
  distinct : listing.keys.Nodup
  truncated_iff : listing.isTruncated = true ↔
    ∃ key ∈ matchingKeys options entries, key ∉ listing.keys

/-- Where the walk comes by fewer matching entries than asked for, or by none, they have
distinct keys and no others match.  Where it comes by as many or more, some were asked for, the
first of them have distinct keys, and further ones match. -/
def CountsFit (options : ListStorageOptions) (entries : List LocalEntry) : Prop :=
  let found := reachedKeys options entries
  let limit := options.maxResults.toNat
  if found.length < limit ∨ found = [] then
    found.Nodup ∧ ∀ key ∈ matchingKeys options entries, key ∈ found
  else
    0 < limit ∧ (found.take limit).Nodup ∧
      ∃ key ∈ matchingKeys options entries, key ∉ found.take limit

/-- What a listing needs: the iterator opens the directory and gets past the entries of the walk,
and the numbers of matching entries fit; or it cannot open it, and nothing matches. -/
def LocalDirectory.Fits (options : ListStorageOptions) (directory : LocalDirectory) : Prop :=
  if directory.opens then
    (∀ entry ∈ passed options options.maxResults.toNat directory.entries,
      entry.advances = true) ∧ CountsFit options directory.entries
  else matchingKeys options directory.entries = []

theorem lawfulBEq_bytes : LawfulBEq (List UInt8) :=
  inferInstance

instance (options : ListStorageOptions) (entries : List LocalEntry) :
    Decidable (CountsFit options entries) := by
  unfold CountsFit
  have := lawfulBEq_bytes
  infer_instance

section

variable {options : ListStorageOptions} {entries : List LocalEntry}
  {found : List StoredObjectMetadata}

theorem walkEntries_eq (options : ListStorageOptions) (found : List StoredObjectMetadata)
    (entries : List LocalEntry) :
    walkEntries options found entries =
      if ∀ entry ∈ passed options (options.maxResults.toNat - found.length) entries,
          entry.advances = true then
        some (listEntries options found ((reached options entries).filterMap LocalEntry.object?))
      else none := by
  induction entries generalizing found with
  | nil => simp [walkEntries, passed, reached, listEntries]
  | cons entry rest ih =>
      rw [walkEntries, reached, passed]
      rcases regular : entry.isRegularFile with _ | _ | _
      · simp [LocalEntry.fails, LocalEntry.key?, LocalEntry.object?, LocalEntry.advance, regular,
          listEntries]
      · cases advances : entry.advances <;>
          simp [LocalEntry.fails, LocalEntry.key?, LocalEntry.object?, LocalEntry.advance, regular,
            advances, ih]
      cases keyed : entry.relativeKey with
      | none =>
          simp [LocalEntry.fails, LocalEntry.key?, LocalEntry.object?, LocalEntry.advance, regular,
            keyed, listEntries]
      | some key =>
          by_cases wanted : options.HasPrefix key
          · have full_iff : options.maxResults.toNat - found.length ≤ 1 ↔
                options.maxResults.toNat ≤ found.length + 1 := by omega
            have left_eq : options.maxResults.toNat - found.length - 1 =
                options.maxResults.toNat - (found.length + 1) := by omega
            by_cases full : options.maxResults.toNat ≤ found.length + 1
            · cases broken : entry.metadataFails <;>
                simp [LocalEntry.fails, LocalEntry.key?, LocalEntry.object?, regular, keyed, wanted,
                  listEntries, full_iff, full, broken]
            · cases broken : entry.metadataFails <;> cases advances : entry.advances <;>
                simp [LocalEntry.fails, LocalEntry.key?, LocalEntry.object?, LocalEntry.advance,
                  regular, keyed, wanted, listEntries, full_iff, left_eq, full, broken, advances,
                  ih]
          · cases advances : entry.advances <;>
              simp [LocalEntry.fails, LocalEntry.key?, LocalEntry.object?, LocalEntry.advance,
                regular, keyed, wanted, listEntries, advances, ih]

/-- The listing of a walk that ends without an exception. -/
def listing (options : ListStorageOptions) (entries : List LocalEntry) : ListStorageResult :=
  listEntries options [] ((reached options entries).filterMap LocalEntry.object?)

theorem keys_filter_object (options : ListStorageOptions) (entries : List LocalEntry) :
    ((entries.filterMap LocalEntry.object?).filter fun object =>
        options.HasPrefix object.key).map StoredObjectMetadata.key =
      entries.filterMap (LocalEntry.key? options) := by
  induction entries with
  | nil => rfl
  | cons entry rest ih =>
      by_cases regular : entry.isRegularFile = some true
      · cases keyed : entry.relativeKey with
        | none => simpa [LocalEntry.object?, LocalEntry.key?, regular, keyed] using ih
        | some key =>
            by_cases wanted : options.HasPrefix key <;>
              simp [LocalEntry.object?, LocalEntry.key?, Option.filter_some, regular, keyed, wanted,
                ih]
      · simpa [LocalEntry.object?, LocalEntry.key?, regular] using ih

theorem keys_listing (some : 0 < options.maxResults.toNat) :
    (listing options entries).keys =
        (reachedKeys options entries).take options.maxResults.toNat ∧
      ((listing options entries).isTruncated = true ↔
        options.maxResults.toNat ≤ (reachedKeys options entries).length) := by
  have shape := @StorageManager.listEntries_eq options []
    ((reached options entries).filterMap LocalEntry.object?) some
  rw [List.nil_append] at shape
  obtain ⟨objects, truncated⟩ := shape
  have keys := keys_filter_object options (reached options entries)
  rw [listing, ListStorageResult.keys, objects, truncated, List.map_take, keys,
    reachedKeys, ← keys, List.length_map]
  exact ⟨rfl, Iff.rfl⟩

theorem listEntries_of_zero {objects : List StoredObjectMetadata}
    (zero : options.maxResults.toNat = 0) :
    (objects.filter (fun object => options.HasPrefix object.key) = [] →
      listEntries options [] objects = ListStorageResult.empty) ∧
    (objects.filter (fun object => options.HasPrefix object.key) ≠ [] →
      (listEntries options [] objects).objects.length = 1) := by
  induction objects with
  | nil => exact ⟨fun _ => rfl, fun some => absurd rfl some⟩
  | cons object rest ih =>
      rw [listEntries, List.filter_cons]
      by_cases wanted : options.HasPrefix object.key
      · rw [if_neg (not_not.mpr wanted), if_pos (decide_eq_true wanted), zero,
          if_pos (Nat.zero_le _)]
        exact ⟨fun none => absurd none (List.cons_ne_nil _ _), fun _ => rfl⟩
      · rw [if_pos wanted, if_neg (by simpa using wanted)]
        exact ih

theorem reachedKeys_subset {key : Bytes} (mem : key ∈ reachedKeys options entries) :
    key ∈ matchingKeys options entries := by
  obtain ⟨entry, present, keyed⟩ := List.mem_filterMap.mp mem
  refine List.mem_filterMap.mpr ⟨entry, ?_, keyed⟩
  clear mem keyed
  induction entries with
  | nil => exact present
  | cons first rest ih =>
      rw [reached] at present
      split at present
      · exact List.mem_cons.mpr (.inl (List.mem_singleton.mp present))
      · rcases List.mem_cons.mp present with rfl | later
        · exact List.mem_cons_self
        · exact List.mem_cons_of_mem _ (ih later)

theorem hasPrefix_of_matching {key : Bytes} (mem : key ∈ matchingKeys options entries) :
    options.HasPrefix key := by
  obtain ⟨entry, -, keyed⟩ := List.mem_filterMap.mp mem
  rw [LocalEntry.key?] at keyed
  split at keyed
  · exact of_decide_eq_true (Option.filter_eq_some_iff.mp keyed).2
  · contradiction

theorem matching_of_sublist {keys : List Bytes}
    (among : keys.Sublist (reachedKeys options entries)) :
    ∀ key ∈ keys, options.HasPrefix key ∧ key ∈ matchingKeys options entries := by
  intro key mem
  have matching := reachedKeys_subset (among.subset mem)
  exact ⟨hasPrefix_of_matching matching, matching⟩

theorem length_keys (listing : ListStorageResult) :
    listing.keys.length = listing.objects.length :=
  List.length_map _

theorem listsDirectory_iff_of_zero (zero : options.maxResults.toNat = 0) :
    ListsDirectory options entries (listing options entries) ↔
      CountsFit options entries := by
  obtain ⟨nothing, something⟩ := @listEntries_of_zero options
    ((reached options entries).filterMap LocalEntry.object?) zero
  have keys := keys_filter_object options (reached options entries)
  rw [listing]
  by_cases empty : reachedKeys options entries = []
  · have none : ((reached options entries).filterMap LocalEntry.object?).filter
        (fun object => options.HasPrefix object.key) = [] :=
      List.map_eq_nil_iff.mp (keys.trans empty)
    simp only [nothing none, CountsFit, empty, or_true, if_true]
    constructor
    · intro lists
      refine ⟨List.nodup_nil, fun key mem => ?_⟩
      exact absurd (lists.truncated_iff.mpr ⟨key, mem, List.not_mem_nil⟩) Bool.false_ne_true
    · rintro ⟨-, all⟩
      constructor
      · exact Nat.zero_le _
      · nofun
      · exact List.nodup_nil
      · exact iff_of_false Bool.false_ne_true fun ⟨key, mem, out⟩ => out (all key mem)
  · have some : ((reached options entries).filterMap LocalEntry.object?).filter
        (fun object => options.HasPrefix object.key) ≠ [] := by
      intro none
      rw [none] at keys
      exact empty keys.symm
    rw [CountsFit, zero, if_neg (by simp [empty])]
    refine iff_of_false (fun lists => ?_) fun fits => Nat.lt_irrefl 0 fits.1
    have short := lists.short
    rw [something some, zero] at short
    contradiction

theorem listsDirectory_iff (options : ListStorageOptions) (entries : List LocalEntry) :
    ListsDirectory options entries (listing options entries) ↔ CountsFit options entries := by
  rcases Nat.eq_zero_or_pos options.maxResults.toNat with zero | positive
  · exact listsDirectory_iff_of_zero zero
  obtain ⟨keys, truncated⟩ := @keys_listing options entries positive
  have short : (listing options entries).objects.length ≤ options.maxResults.toNat := by
    rw [← length_keys, keys]
    exact List.length_take_le _ _
  have matching : ∀ key ∈ (listing options entries).keys,
      options.HasPrefix key ∧ key ∈ matchingKeys options entries := by
    rw [keys]
    exact matching_of_sublist (List.take_sublist _ _)
  rw [CountsFit]
  by_cases few : (reachedKeys options entries).length < options.maxResults.toNat
  · have whole : (listing options entries).keys = reachedKeys options entries := by
      rw [keys, List.take_of_length_le few.le]
    have complete : (listing options entries).isTruncated ≠ true :=
      fun full => Nat.not_le.mpr few (truncated.mp full)
    rw [if_pos (.inl few)]
    constructor
    · intro lists
      refine ⟨whole ▸ lists.distinct, fun key mem => ?_⟩
      by_contra out
      exact complete (lists.truncated_iff.mpr ⟨key, mem, whole ▸ out⟩)
    · rintro ⟨distinct, all⟩
      refine ⟨short, matching, whole ▸ distinct, iff_of_false complete ?_⟩
      rintro ⟨key, mem, out⟩
      exact out (whole ▸ all key mem)
  · have full := truncated.mpr (Nat.not_lt.mp few)
    have some : reachedKeys options entries ≠ [] := by
      rintro empty
      rw [empty] at few
      exact few positive
    rw [if_neg (not_or.mpr ⟨few, some⟩), ← keys]
    constructor
    · intro lists
      exact ⟨positive, lists.distinct, lists.truncated_iff.mp full⟩
    · rintro ⟨-, distinct, out⟩
      exact ⟨short, matching, distinct, iff_of_true full out⟩

theorem listsDirectory_empty_iff (options : ListStorageOptions) (entries : List LocalEntry) :
    ListsDirectory options entries ListStorageResult.empty ↔ matchingKeys options entries = [] := by
  constructor
  · intro lists
    apply List.eq_nil_iff_forall_not_mem.mpr
    intro key mem
    exact absurd (lists.truncated_iff.mpr ⟨key, mem, List.not_mem_nil⟩) Bool.false_ne_true
  · intro none
    refine ⟨Nat.zero_le _, nofun, List.nodup_nil, iff_of_false Bool.false_ne_true ?_⟩
    rintro ⟨key, mem, -⟩
    rw [none] at mem
    contradiction

/-- The local backend returns a listing that keeps to the limit, has no object twice and says
whether it left one out, exactly if the directory fits. -/
theorem listLocal_iff (options : ListStorageOptions) (directory : LocalDirectory) :
    (∃ result, listLocal options (some directory) = some (.ok result) ∧
      ListsDirectory options directory.entries result) ↔ directory.Fits options := by
  rw [listLocal, LocalDirectory.Fits]
  cases directory.opens with
  | false =>
      rw [if_neg Bool.false_ne_true, if_neg Bool.false_ne_true, ← listsDirectory_empty_iff]
      constructor
      · rintro ⟨result, same, lists⟩
        rwa [Except.ok.inj (Option.some.inj same)]
      · exact fun lists => ⟨_, rfl, lists⟩
  | true =>
      rw [if_pos rfl, if_pos rfl, walkEntries_eq, ← listsDirectory_iff, List.length_nil,
        Nat.sub_zero]
      by_cases advances : ∀ entry ∈ passed options options.maxResults.toNat directory.entries,
          entry.advances = true
      · rw [if_pos advances, and_iff_right advances]
        constructor
        · rintro ⟨result, same, lists⟩
          rwa [← Except.ok.inj (Option.some.inj same)] at lists
        · exact fun lists => ⟨_, rfl, lists⟩
      · rw [if_neg advances]
        exact iff_of_false (fun ⟨_, threw, _⟩ => nomatch threw) fun fits => advances fits.1

end

/-! ## Directories of one file -/

/-- A regular file with a name of one letter. -/
def plainEntry (letter : UInt8) : LocalEntry :=
  ⟨some true, some [letter], some 1, some 0, true⟩

/-- A link that leads nowhere. -/
def danglingEntry : LocalEntry :=
  ⟨none, none, none, none, true⟩

/-- A directory that cannot be opened. -/
def closedEntry : LocalEntry :=
  ⟨some false, none, none, none, false⟩

/-- One matching file is reported as truncated if one was asked for, and listed if none was; a
dangling link before it hides it, a link to it gives it twice, and a directory that cannot be
opened ends the call with an exception. -/
theorem listLocal_breaks_promises :
    (¬ ∃ result, listLocal ⟨none, 1, none, none, none⟩ (some ⟨true, [plainEntry 0x61]⟩) =
        some (.ok result) ∧
      ListsDirectory ⟨none, 1, none, none, none⟩ [plainEntry 0x61] result) ∧
    (¬ ∃ result, listLocal ⟨none, 0, none, none, none⟩ (some ⟨true, [plainEntry 0x61]⟩) =
        some (.ok result) ∧
      ListsDirectory ⟨none, 0, none, none, none⟩ [plainEntry 0x61] result) ∧
    (¬ ∃ result, listLocal ⟨none, 9, none, none, none⟩
        (some ⟨true, [danglingEntry, plainEntry 0x61]⟩) = some (.ok result) ∧
      ListsDirectory ⟨none, 9, none, none, none⟩ [danglingEntry, plainEntry 0x61] result) ∧
    (¬ ∃ result, listLocal ⟨none, 9, none, none, none⟩
        (some ⟨true, [plainEntry 0x61, plainEntry 0x61]⟩) = some (.ok result) ∧
      ListsDirectory ⟨none, 9, none, none, none⟩ [plainEntry 0x61, plainEntry 0x61] result) ∧
    listLocal ⟨none, 9, none, none, none⟩ (some ⟨true, [closedEntry, plainEntry 0x61]⟩) =
      none := by
  refine ⟨?_, ?_, ?_, ?_, rfl⟩ <;> rintro ⟨result, same, lists⟩ <;>
    obtain rfl := Except.ok.inj (Option.some.inj same)
  · exact absurd lists.truncated_iff (by decide)
  · exact absurd lists.short (by decide)
  · exact absurd lists.truncated_iff (by decide)
  · exact absurd lists.distinct (by decide)

end FileTrans.Server
