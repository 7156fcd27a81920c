import FileTrans.Server.StorageManager
import FileTrans.Text.Order
import Mathlib.Data.Finset.Card

/-!
# Listings of hybrid storage

With hybrid storage the manager merges the listings of its two backends into
one map, sorts it by key and cuts it short.  A listing may itself have been
cut short by its backend, which the merge does not look at.
-/

namespace FileTrans.Server

open FileTrans.Core
open FileTrans.Text

/-! ## Listings -/

/-- `stored_object_metadata`.  Times are counts of the system clock. -/
structure StoredObjectMetadata where
  key : Bytes
  size : UInt64
  lastModified : Int
  contentHash : Option Bytes
  backend : StorageBackendType
  tier : StorageTier
  etag : Option Bytes
  contentType : Option Bytes
  customMetadata : List (Bytes × Bytes)
  accessCount : UInt64
  lastAccessed : Option Int
  deriving DecidableEq

structure ListStorageOptions where
  keyPrefix : Option Bytes
  maxResults : UInt64
  tierFilter : Option StorageTier
  backendFilter : Option StorageBackendType
  continuationToken : Option Bytes

structure ListStorageResult where
  objects : List StoredObjectMetadata
  isTruncated : Bool
  continuationToken : Option Bytes
  totalCount : Option UInt64

/-- The listing that a merge starts from. -/
def ListStorageResult.empty : ListStorageResult :=
  ⟨[], false, none, none⟩

/-- The key passes the prefix filter. -/
def ListStorageOptions.HasPrefix (options : ListStorageOptions) (key : Bytes) : Prop :=
  ∀ wanted ∈ options.keyPrefix, wanted <+: key

instance (options : ListStorageOptions) (key : Bytes) : Decidable (options.HasPrefix key) :=
  inferInstanceAs (Decidable (∀ wanted ∈ options.keyPrefix, wanted <+: key))

/-- The loop of `local_storage_backend::list` over the regular files of the directory, in the
order of the iterator. -/
def listEntries (options : ListStorageOptions) :
    List StoredObjectMetadata → List StoredObjectMetadata → ListStorageResult
  | found, [] => { ListStorageResult.empty with objects := found }
  | found, entry :: rest =>
      if ¬ options.HasPrefix entry.key then listEntries options found rest
      else if (found ++ [entry]).length ≥ options.maxResults.toNat then
        { ListStorageResult.empty with objects := found ++ [entry], isTruncated := true }
      else listEntries options (found ++ [entry]) rest

namespace StorageManager

/-- `objects_map[obj.key] = obj`; the map is the list of its values. -/
def assign (objectsMap : List StoredObjectMetadata) (object : StoredObjectMetadata) :
    List StoredObjectMetadata :=
  objectsMap.filter (fun other => other.key ≠ object.key) ++ [object]

/-- The same, unless the key is there. -/
def assignAbsent (objectsMap : List StoredObjectMetadata) (object : StoredObjectMetadata) :
    List StoredObjectMetadata :=
  if objectsMap.any (fun other => other.key = object.key) then objectsMap
  else assign objectsMap object

/-- The objects of a listing; an error counts as none. -/
def listed : Result ListStorageResult → List StoredObjectMetadata
  | .ok listing => listing.objects
  | .error _ => []

/-- The map of `list` after both listings. -/
def objectsMap (primary secondary : Result ListStorageResult) : List StoredObjectMetadata :=
  (listed secondary).foldl assignAbsent ((listed primary).foldl assign [])

/-- The merge of two listings. -/
def mergeListings (options : ListStorageOptions) (primary secondary : Result ListStorageResult) :
    ListStorageResult :=
  let objects := sortByKey StoredObjectMetadata.key (objectsMap primary secondary)
  if objects.length > options.maxResults.toNat then
    { ListStorageResult.empty with
      objects := objects.take options.maxResults.toNat
      isTruncated := true }
  else { ListStorageResult.empty with objects }

/-- `list`, with the answers of the two backends. -/
def list (manager : StorageManager) (options : ListStorageOptions)
    (primary secondary : Result ListStorageResult) : Result ListStorageResult :=
  if ¬ manager.initialized then notInitialized
  else if manager.config.hybridStorage ∧ manager.secondaryBackend.isSome then
    .ok (mergeListings options primary secondary)
  else primary

/-! ## The map -/

/-- No two objects have the same key. -/
def DistinctKeys (objects : List StoredObjectMetadata) : Prop :=
  (objects.map StoredObjectMetadata.key).Nodup

section

variable {found objects : List StoredObjectMetadata} {object : StoredObjectMetadata}

theorem keys_assign (object : StoredObjectMetadata) :
    ((assign found object).map StoredObjectMetadata.key) =
      (found.map StoredObjectMetadata.key).filter (fun key => key ≠ object.key) ++
        [object.key] := by
  rw [assign, List.map_append, List.filter_map]
  rfl

theorem DistinctKeys.assign (distinct : DistinctKeys found) (object : StoredObjectMetadata) :
    DistinctKeys (assign found object) := by
  unfold DistinctKeys
  rw [keys_assign]
  apply (List.Nodup.filter _ distinct).append (List.nodup_singleton _)
  simp

theorem DistinctKeys.assignAbsent (distinct : DistinctKeys found)
    (object : StoredObjectMetadata) : DistinctKeys (assignAbsent found object) := by
  unfold StorageManager.assignAbsent
  split
  · exact distinct
  · exact distinct.assign object

theorem distinctKeys_objectsMap (primary secondary : Result ListStorageResult) :
    DistinctKeys (objectsMap primary secondary) := by
  have first : DistinctKeys ((listed primary).foldl assign []) := by
    have none : DistinctKeys [] := List.nodup_nil
    apply List.foldlRecOn (motive := DistinctKeys) _ _ none
    intro found distinct object _
    exact distinct.assign object
  apply List.foldlRecOn (motive := DistinctKeys) _ _ first
  intro found distinct object _
  exact distinct.assignAbsent object

theorem assign_of_absent (absent : object.key ∉ found.map StoredObjectMetadata.key) :
    assign found object = found ++ [object] := by
  have same : found.filter (fun other => other.key ≠ object.key) = found := by
    apply List.filter_eq_self.mpr
    intro other mem
    exact decide_eq_true fun equal => absent (equal ▸ List.mem_map_of_mem mem)
  rw [assign, same]

theorem foldl_assign (apart : DistinctKeys (found ++ objects)) :
    objects.foldl assign found = found ++ objects := by
  induction objects generalizing found with
  | nil => exact (List.append_nil found).symm
  | cons object objects ih =>
      rw [List.append_cons] at apart ⊢
      have absent : object.key ∉ found.map StoredObjectMetadata.key := by
        simp only [DistinctKeys, List.map_append, List.nodup_append] at apart
        intro mem
        exact apart.1.2.2 _ mem _ (by simp) rfl
      rw [List.foldl_cons, assign_of_absent absent]
      exact ih apart

theorem assignAbsent_eq (found : List StoredObjectMetadata) (object : StoredObjectMetadata) :
    assignAbsent found object =
      if object.key ∈ found.map StoredObjectMetadata.key then found else found ++ [object] := by
  unfold assignAbsent
  by_cases present : object.key ∈ found.map StoredObjectMetadata.key
  · obtain ⟨other, mem, same⟩ := List.mem_map.mp present
    rw [if_pos present, if_pos (List.any_eq_true.mpr ⟨other, mem, decide_eq_true same⟩)]
  · rw [if_neg present, if_neg, assign_of_absent present]
    intro some
    obtain ⟨other, mem, same⟩ := List.any_eq_true.mp some
    exact present (List.mem_map.mpr ⟨other, mem, of_decide_eq_true same⟩)

theorem foldl_assignAbsent (distinct : DistinctKeys objects) :
    objects.foldl assignAbsent found =
      found ++ objects.filter fun object =>
        object.key ∉ found.map StoredObjectMetadata.key := by
  induction objects generalizing found with
  | nil => exact (List.append_nil found).symm
  | cons object objects ih =>
      obtain ⟨fresh, distinct⟩ := List.nodup_cons.mp distinct
      rw [List.foldl_cons, assignAbsent_eq]
      by_cases present : object.key ∈ found.map StoredObjectMetadata.key
      · rw [if_pos present, ih distinct, List.filter_cons, if_neg]
        simpa using present
      · rw [if_neg present, ih distinct, List.filter_cons, if_pos (by simpa using present),
          List.append_assoc, List.singleton_append]
        congr 2
        apply List.filter_congr
        intro later mem
        have other : later.key ≠ object.key :=
          fun same => fresh (same ▸ List.mem_map_of_mem mem)
        simp [other]

theorem mem_objectsMap {primary secondary : Result ListStorageResult}
    (first : DistinctKeys (listed primary)) (second : DistinctKeys (listed secondary)) :
    object ∈ objectsMap primary secondary ↔ object ∈ listed primary ∨
      object ∈ listed secondary ∧
        object.key ∉ (listed primary).map StoredObjectMetadata.key := by
  have primaryMap : (listed primary).foldl assign [] = listed primary :=
    foldl_assign (by rwa [List.nil_append])
  unfold objectsMap
  rw [primaryMap, foldl_assignAbsent second]
  simp

/-- The keys that the two listings give. -/
def listedKeys (primary secondary : Result ListStorageResult) : Finset Bytes :=
  ((listed primary ++ listed secondary).map StoredObjectMetadata.key).toFinset

theorem mem_listedKeys {primary secondary : Result ListStorageResult} {key : Bytes} :
    key ∈ listedKeys primary secondary ↔
      key ∈ (listed primary).map StoredObjectMetadata.key ∨
        key ∈ (listed secondary).map StoredObjectMetadata.key := by
  rw [listedKeys, List.mem_toFinset, List.map_append, List.mem_append]

section

variable {primary secondary : Result ListStorageResult}
  (first : DistinctKeys (listed primary)) (second : DistinctKeys (listed secondary))

include first second

theorem keys_objectsMap : ((objectsMap primary secondary).map StoredObjectMetadata.key).toFinset =
    listedKeys primary secondary := by
  ext key
  rw [List.mem_toFinset, mem_listedKeys]
  constructor
  · intro given
    obtain ⟨object, mem, rfl⟩ := List.mem_map.mp given
    rcases (mem_objectsMap first second).mp mem with early | ⟨late, -⟩
    · exact .inl (List.mem_map_of_mem early)
    · exact .inr (List.mem_map_of_mem late)
  · intro given
    by_cases early : key ∈ (listed primary).map StoredObjectMetadata.key
    · obtain ⟨object, mem, rfl⟩ := List.mem_map.mp early
      exact List.mem_map_of_mem ((mem_objectsMap first second).mpr (.inl mem))
    · obtain ⟨object, mem, rfl⟩ := List.mem_map.mp (given.resolve_left early)
      exact List.mem_map_of_mem ((mem_objectsMap first second).mpr (.inr ⟨mem, early⟩))

theorem length_objectsMap :
    (objectsMap primary secondary).length = (listedKeys primary secondary).card := by
  rw [← keys_objectsMap first second,
    List.toFinset_card_of_nodup (distinctKeys_objectsMap primary secondary), List.length_map]

theorem length_filter_objectsMap (key : Bytes) :
    ((objectsMap primary secondary).filter fun other => other.key < key).length =
      ((listedKeys primary secondary).filter (· < key)).card := by
  have distinct : ((objectsMap primary secondary).map StoredObjectMetadata.key).Nodup :=
    distinctKeys_objectsMap primary secondary
  have smaller : ((listedKeys primary secondary).filter (· < key)) =
      (((objectsMap primary secondary).map StoredObjectMetadata.key).filter
        fun other => other < key).toFinset := by
    ext other
    rw [← keys_objectsMap first second]
    simp
  rw [smaller, List.toFinset_card_of_nodup (distinct.filter _), List.filter_map,
    List.length_map]
  rfl

end

end

/-! ## The merged listing -/

theorem objects_mergeListings (options : ListStorageOptions)
    (primary secondary : Result ListStorageResult) :
    (mergeListings options primary secondary).objects =
      (sortByKey StoredObjectMetadata.key (objectsMap primary secondary)).take
        options.maxResults.toNat := by
  unfold mergeListings
  dsimp only
  split
  · rfl
  · rename_i fits
    exact (List.take_of_length_le (Nat.not_lt.mp fits)).symm

theorem isTruncated_mergeListings (options : ListStorageOptions)
    (primary secondary : Result ListStorageResult) :
    (mergeListings options primary secondary).isTruncated = true ↔
      options.maxResults.toNat < (objectsMap primary secondary).length := by
  unfold mergeListings
  dsimp only
  rw [perm_sortByKey.length_eq]
  split
  · exact iff_of_true rfl ‹_›
  · exact iff_of_false Bool.false_ne_true ‹_›

theorem pairwise_mergeListings (options : ListStorageOptions)
    (primary secondary : Result ListStorageResult) :
    (mergeListings options primary secondary).objects.Pairwise
      fun left right => left.key < right.key := by
  rw [objects_mergeListings]
  exact (pairwise_sortByKey (distinctKeys_objectsMap primary secondary)).take

theorem length_mergeListings (options : ListStorageOptions)
    (primary secondary : Result ListStorageResult) :
    (mergeListings options primary secondary).objects.length ≤ options.maxResults.toNat := by
  rw [objects_mergeListings]
  exact List.length_take_le _ _

theorem mem_mergeListings {options : ListStorageOptions}
    {primary secondary : Result ListStorageResult} {object : StoredObjectMetadata}
    (first : DistinctKeys (listed primary)) (second : DistinctKeys (listed secondary)) :
    object ∈ (mergeListings options primary secondary).objects ↔
      object ∈ objectsMap primary secondary ∧
        ((listedKeys primary secondary).filter (· < object.key)).card <
          options.maxResults.toNat := by
  have distinct := distinctKeys_objectsMap primary secondary
  rw [objects_mergeListings, mem_take_iff_of_pairwise (pairwise_sortByKey distinct),
    mem_sortByKey, (perm_sortByKey.filter _).length_eq,
    length_filter_objectsMap first second object.key]

/-! ## What a listing promises -/

/-- The objects of a backend with their metadata, by key. -/
abbrev Contents :=
  Bytes → Option StoredObjectMetadata

/-- A listing of some of the matching objects of a backend, which says whether it left one
out. -/
structure Lists (matching : StoredObjectMetadata → Prop) (options : ListStorageOptions)
    (contents : Contents) (listing : ListStorageResult) : Prop where
  held : ∀ object ∈ listing.objects, matching object ∧ contents object.key = some object
  distinct : DistinctKeys listing.objects
  short : listing.objects.length ≤ options.maxResults.toNat
  truncated_iff : listing.isTruncated = true ↔
    ∃ object, matching object ∧ contents object.key = some object ∧ object ∉ listing.objects

section

variable {options : ListStorageOptions} {found entries : List StoredObjectMetadata}

theorem listEntries_eq (room : found.length < options.maxResults.toNat) :
    let matched := found ++ entries.filter fun entry => options.HasPrefix entry.key
    (listEntries options found entries).objects = matched.take options.maxResults.toNat ∧
    ((listEntries options found entries).isTruncated = true ↔
      options.maxResults.toNat ≤ matched.length) := by
  induction entries generalizing found with
  | nil =>
      simp only [List.filter_nil, List.append_nil, listEntries]
      exact ⟨(List.take_of_length_le room.le).symm,
        iff_of_false Bool.false_ne_true (Nat.not_le.mpr room)⟩
  | cons entry rest ih =>
      rw [listEntries]
      by_cases wanted : options.HasPrefix entry.key
      · rw [if_neg (not_not.mpr wanted), List.filter_cons, if_pos (decide_eq_true wanted),
          List.append_cons]
        by_cases full : (found ++ [entry]).length ≥ options.maxResults.toNat
        · rw [if_pos full]
          have exact : (found ++ [entry]).length = options.maxResults.toNat := by
            simp only [List.length_append, List.length_singleton] at full ⊢
            omega
          refine ⟨(List.take_left' exact).symm, iff_of_true rfl ?_⟩
          exact full.trans (by simp)
        · rw [if_neg full]
          exact ih (Nat.not_le.mp full)
      · rw [if_pos wanted, List.filter_cons, if_neg (by simpa using wanted)]
        exact ih room

theorem find_eq_some_iff (distinct : DistinctKeys entries) {object : StoredObjectMetadata} :
    (entries.find? fun entry => entry.key = object.key) = some object ↔ object ∈ entries := by
  constructor
  · exact List.mem_of_find?_eq_some
  · intro mem
    have present : (entries.find? fun entry => entry.key = object.key).isSome = true :=
      List.find?_isSome.mpr ⟨object, mem, decide_eq_true rfl⟩
    obtain ⟨other, held⟩ := Option.isSome_iff_exists.mp present
    have same : other.key = object.key := by simpa using List.find?_some held
    rw [held, List.inj_on_of_nodup_map distinct (List.mem_of_find?_eq_some held) mem same]

theorem lists_listEntries (some : 0 < options.maxResults.toNat) (distinct : DistinctKeys entries)
    (other : (entries.filter fun entry => options.HasPrefix entry.key).length ≠
      options.maxResults.toNat) :
    Lists (fun object => options.HasPrefix object.key) options
      (fun key => entries.find? fun entry => entry.key = key)
      (listEntries options [] entries) := by
  have shape := @listEntries_eq options [] entries some
  rw [List.nil_append] at shape
  obtain ⟨objects, truncated⟩ := shape
  have matched (object : StoredObjectMetadata) :
      object ∈ entries.filter (fun entry => options.HasPrefix entry.key) ↔
        options.HasPrefix object.key ∧
          (entries.find? fun entry => entry.key = object.key) = Option.some object := by
    rw [List.mem_filter, find_eq_some_iff distinct, decide_eq_true_iff, and_comm]
  have unique : (entries.filter fun entry => options.HasPrefix entry.key).Nodup :=
    List.Nodup.filter _ (List.Nodup.of_map _ distinct)
  constructor
  · intro object mem
    rw [objects] at mem
    exact (matched object).mp (List.mem_of_mem_take mem)
  · rw [objects]
    exact List.Nodup.sublist
      (((List.take_sublist _ _).trans List.filter_sublist).map _) distinct
  · rw [objects]
    exact List.length_take_le _ _
  · rw [truncated]
    constructor
    · intro full
      have more : options.maxResults.toNat <
          (entries.filter fun entry => options.HasPrefix entry.key).length :=
        lt_of_le_of_ne full other.symm
      obtain ⟨object, later⟩ := List.exists_mem_of_ne_nil _
        (List.ne_nil_of_length_pos (by rw [List.length_drop]; omega) :
          (entries.filter fun entry => options.HasPrefix entry.key).drop
            options.maxResults.toNat ≠ [])
      obtain ⟨wanted, held⟩ := (matched object).mp (List.mem_of_mem_drop later)
      refine ⟨object, wanted, held, ?_⟩
      rw [objects]
      exact fun early => List.disjoint_take_drop unique le_rfl early later
    · rintro ⟨object, wanted, held, left⟩
      by_contra few
      rw [objects, List.take_of_length_le (Nat.le_of_not_le few)] at left
      exact left ((matched object).mpr ⟨wanted, held⟩)

end

/-- The backend answered. -/
def Reachable (answer : Result ListStorageResult) : Prop :=
  ∃ listing, answer = .ok listing

/-- The object is in a backend that answered. -/
def Held (primaryContents secondaryContents : Contents)
    (primary secondary : Result ListStorageResult) (object : StoredObjectMetadata) : Prop :=
  Reachable primary ∧ primaryContents object.key = some object ∨
    Reachable secondary ∧ secondaryContents object.key = some object

/-- The merged listing is sorted by distinct keys and short, gives the primary backend's
metadata where it has the object, and leaves nothing out unless it says so. -/
structure ListingLaw (matching : StoredObjectMetadata → Prop) (options : ListStorageOptions)
    (primaryContents secondaryContents : Contents)
    (primary secondary : Result ListStorageResult) (merged : ListStorageResult) : Prop where
  increasing : merged.objects.Pairwise fun left right => left.key < right.key
  short : merged.objects.length ≤ options.maxResults.toNat
  held : ∀ object ∈ merged.objects,
    (primaryContents object.key).or (secondaryContents object.key) = some object
  complete : merged.isTruncated = false → ∀ object, matching object →
    Held primaryContents secondaryContents primary secondary object →
      object.key ∈ merged.objects.map StoredObjectMetadata.key

/-- What one listing leaves out does no harm: an object of the primary backend that only the
secondary one listed comes after enough smaller keys; and if all listed keys fit, they are
the keys of all matching objects. -/
structure ListingsCover (matching : StoredObjectMetadata → Prop) (options : ListStorageOptions)
    (primaryContents secondaryContents : Contents)
    (primary secondary : Result ListStorageResult) : Prop where
  precedence : ∀ object ∈ listed secondary, ∀ other ≠ object,
    primaryContents object.key = some other →
      object.key ∉ (listed primary).map StoredObjectMetadata.key →
    options.maxResults.toNat ≤ ((listedKeys primary secondary).filter (· < object.key)).card
  covered : (listedKeys primary secondary).card ≤ options.maxResults.toNat →
    ∀ object, matching object →
      Held primaryContents secondaryContents primary secondary object →
      object.key ∈ listedKeys primary secondary

section

variable {matching : StoredObjectMetadata → Prop} {options : ListStorageOptions}
  {contents primaryContents secondaryContents : Contents}
  {answer primary secondary : Result ListStorageResult}

theorem Lists.distinctKeys
    (lists : ∀ listing, answer = .ok listing → Lists matching options contents listing) :
    DistinctKeys (listed answer) := by
  cases answer with
  | ok listing => exact (lists listing rfl).distinct
  | error failure => exact List.nodup_nil

theorem Lists.contents_of_listed
    (lists : ∀ listing, answer = .ok listing → Lists matching options contents listing)
    {object : StoredObjectMetadata} (mem : object ∈ listed answer) :
    contents object.key = some object := by
  cases answer with
  | ok listing => exact ((lists listing rfl).held object mem).2
  | error failure => contradiction

/-- The merged objects carry the primary backend's metadata, exactly if the precedence
condition holds. -/
theorem held_iff
    (first : ∀ listing, primary = .ok listing →
      Lists matching options primaryContents listing)
    (second : ∀ listing, secondary = .ok listing →
      Lists matching options secondaryContents listing) :
    (∀ object ∈ (mergeListings options primary secondary).objects,
      (primaryContents object.key).or (secondaryContents object.key) = some object) ↔
      ∀ object ∈ listed secondary, ∀ other ≠ object,
        primaryContents object.key = some other →
        object.key ∉ (listed primary).map StoredObjectMetadata.key →
        options.maxResults.toNat ≤
          ((listedKeys primary secondary).filter (· < object.key)).card := by
  have firstKeys := Lists.distinctKeys first
  have secondKeys := Lists.distinctKeys second
  constructor
  · intro held object mem other different shared unlisted
    by_contra few
    have mapped : object ∈ objectsMap primary secondary :=
      (mem_objectsMap firstKeys secondKeys).mpr (.inr ⟨mem, unlisted⟩)
    have same := held object
      ((mem_mergeListings firstKeys secondKeys).mpr ⟨mapped, Nat.not_le.mp few⟩)
    rw [shared, Option.some_or] at same
    exact different (Option.some.inj same)
  · intro precedence object mem
    obtain ⟨mapped, few⟩ := (mem_mergeListings firstKeys secondKeys).mp mem
    rcases (mem_objectsMap firstKeys secondKeys).mp mapped with early | ⟨late, unlisted⟩
    · rw [Lists.contents_of_listed first early, Option.some_or]
    · cases shared : primaryContents object.key with
      | none => rw [Option.none_or, Lists.contents_of_listed second late]
      | some other =>
          rw [Option.some_or]
          by_contra different
          have many := precedence object late other (fun same => different (congrArg some same))
            shared unlisted
          exact Nat.not_le.mpr few many

variable (matching options primaryContents secondaryContents) in
/-- A merge that is not cut short leaves nothing out, exactly if the listed keys cover the
matching objects. -/
theorem complete_iff
    (first : DistinctKeys (listed primary)) (second : DistinctKeys (listed secondary)) :
    ((mergeListings options primary secondary).isTruncated = false → ∀ object,
      matching object → Held primaryContents secondaryContents primary secondary object →
        object.key ∈
          (mergeListings options primary secondary).objects.map StoredObjectMetadata.key) ↔
      ((listedKeys primary secondary).card ≤ options.maxResults.toNat → ∀ object,
        matching object → Held primaryContents secondaryContents primary secondary object →
          object.key ∈ listedKeys primary secondary) := by
  have whole : (mergeListings options primary secondary).isTruncated = false ↔
      (listedKeys primary secondary).card ≤ options.maxResults.toNat := by
    rw [← Bool.not_eq_true, isTruncated_mergeListings, length_objectsMap first second,
      Nat.not_lt]
  rw [whole]
  apply forall_congr'
  intro fits
  have same (key : Bytes) :
      key ∈ (mergeListings options primary secondary).objects.map StoredObjectMetadata.key ↔
        key ∈ listedKeys primary secondary := by
    have everything : (mergeListings options primary secondary).objects =
        sortByKey StoredObjectMetadata.key (objectsMap primary secondary) := by
      rw [objects_mergeListings]
      apply List.take_of_length_le
      rwa [perm_sortByKey.length_eq, length_objectsMap first second]
    rw [everything, ← keys_objectsMap first second, List.mem_toFinset]
    exact (perm_sortByKey.map _).mem_iff
  simp only [same]

end

/-- The merged listing keeps its promises exactly if the two listings cover the contents. -/
theorem list_iff {manager : StorageManager} {matching : StoredObjectMetadata → Prop}
    {options : ListStorageOptions} {primaryContents secondaryContents : Contents}
    {primary secondary : Result ListStorageResult} (ready : manager.initialized = true)
    (hybrid : manager.config.hybridStorage = true)
    (configured : manager.secondaryBackend.isSome = true)
    (first : ∀ listing, primary = .ok listing →
      Lists matching options primaryContents listing)
    (second : ∀ listing, secondary = .ok listing →
      Lists matching options secondaryContents listing) :
    (∃ merged, manager.list options primary secondary = .ok merged ∧
      ListingLaw matching options primaryContents secondaryContents primary secondary merged) ↔
      ListingsCover matching options primaryContents secondaryContents primary secondary := by
  have answer : manager.list options primary secondary =
      .ok (mergeListings options primary secondary) := by
    rw [list, if_neg (not_not.mpr ready), if_pos ⟨hybrid, configured⟩]
  have held := held_iff first second
  have complete := complete_iff matching options primaryContents secondaryContents
    (Lists.distinctKeys first) (Lists.distinctKeys second)
  constructor
  · rintro ⟨merged, same, law⟩
    obtain rfl := Except.ok.inj (answer.symm.trans same)
    exact ⟨held.mp law.held, complete.mp law.complete⟩
  · intro cover
    refine ⟨_, answer, ?_⟩
    constructor
    · exact pairwise_mergeListings options primary secondary
    · exact length_mergeListings options primary secondary
    · exact held.mpr cover.precedence
    · exact complete.mpr cover.covered

/-! ## Listings that overlap -/

namespace ListingSample

def object (backend : StorageBackendType) (key : UInt8) : StoredObjectMetadata where
  key := [key]
  size := 1
  lastModified := 0
  contentHash := none
  backend := backend
  tier := .hot
  etag := none
  contentType := none
  customMetadata := []
  accessCount := 0
  lastAccessed := none

/-- No filter. -/
def options (maxResults : UInt64) : ListStorageOptions :=
  ⟨none, maxResults, none, none, none⟩

/-- A manager of hybrid storage. -/
def manager : StorageManager where
  config := ⟨true, true, true⟩
  primaryBackend := ⟨.localStorage, fun _ => none⟩
  secondaryBackend := some ⟨.cloudS3, fun _ => none⟩
  initialized := true
  stats := ⟨0, 0, 0, 0, 0, 0, 0, 0, 0, 0, 0⟩

/-- The objects of the primary backend. -/
def primaryObjects (keys : List UInt8) : List StoredObjectMetadata :=
  keys.map (object .localStorage)

/-- The objects of the secondary backend. -/
def secondaryObjects (keys : List UInt8) : List StoredObjectMetadata :=
  keys.map (object .cloudS3)

/-- Look an object up. -/
def contents (objects : List StoredObjectMetadata) : Contents :=
  fun key => objects.find? fun object => object.key = key

/-- The first objects. -/
def answer (maxResults : UInt64) (objects : List StoredObjectMetadata) :
    Result ListStorageResult :=
  .ok (listEntries (options maxResults) [] objects)

/-- The backends list as assumed. -/
def Assumed (maxResults : UInt64) (objects : List StoredObjectMetadata) : Prop :=
  ∀ listing, answer maxResults objects = .ok listing →
    Lists (fun object => (options maxResults).HasPrefix object.key) (options maxResults)
      (contents objects) listing

/-- The merged listing keeps its promises. -/
def Keeps (maxResults : UInt64) (primary secondary : List StoredObjectMetadata) : Prop :=
  ∃ merged, manager.list (options maxResults) (answer maxResults primary)
      (answer maxResults secondary) = .ok merged ∧
    ListingLaw (fun object => (options maxResults).HasPrefix object.key) (options maxResults)
      (contents primary) (contents secondary) (answer maxResults primary)
      (answer maxResults secondary) merged

theorem assumed_of_distinct {maxResults : UInt64} {objects : List StoredObjectMetadata}
    (some : 0 < maxResults.toNat)
    (distinct : (objects.map StoredObjectMetadata.key).Nodup)
    (other : objects.length ≠ maxResults.toNat) : Assumed maxResults objects := by
  intro listing same
  obtain rfl := Except.ok.inj same
  apply lists_listEntries some distinct
  have all : objects.filter (fun object => (options maxResults).HasPrefix object.key) =
      objects := by
    apply List.filter_eq_self.mpr
    intro object _
    simp [ListStorageOptions.HasPrefix, options]
  rwa [all]

end ListingSample

open ListingSample in
theorem list_keeps_promises :
    Keeps 4 (primaryObjects [0x62]) (secondaryObjects [0x63, 0x62, 0x61]) := by
  have first : Assumed 4 (primaryObjects [0x62]) :=
    assumed_of_distinct (by decide) (by decide) (by decide)
  have second : Assumed 4 (secondaryObjects [0x63, 0x62, 0x61]) :=
    assumed_of_distinct (by decide) (by decide) (by decide)
  apply (list_iff rfl rfl rfl first second).mpr
  constructor
  · intro object _ other _ held unlisted
    have mem := List.mem_of_find?_eq_some held
    have same : other.key = object.key := by simpa using List.find?_some held
    exact absurd (same ▸ List.mem_map_of_mem mem) unlisted
  · rintro _ object _ (⟨-, held⟩ | ⟨-, held⟩)
    · exact mem_listedKeys.mpr (.inl (List.mem_map_of_mem (List.mem_of_find?_eq_some held)))
    · exact mem_listedKeys.mpr (.inr (List.mem_map_of_mem (List.mem_of_find?_eq_some held)))

open ListingSample in
/-- Two truncated listings that overlap: the merge is not marked as truncated and leaves out
`c` and `d`.  A listing of the primary backend that leaves `a` out: the merge gives the
secondary backend's metadata. -/
theorem listings_break_promises :
    (Assumed 2 (primaryObjects [0x62, 0x61, 0x63]) ∧
      Assumed 2 (secondaryObjects [0x61, 0x62, 0x64]) ∧
      ¬ Keeps 2 (primaryObjects [0x62, 0x61, 0x63]) (secondaryObjects [0x61, 0x62, 0x64])) ∧
    Assumed 2 (primaryObjects [0x62, 0x63, 0x61]) ∧
    Assumed 2 (secondaryObjects [0x61]) ∧
    ¬ Keeps 2 (primaryObjects [0x62, 0x63, 0x61]) (secondaryObjects [0x61]) := by
  have assumed (objects : List StoredObjectMetadata) (distinct : (objects.map
      StoredObjectMetadata.key).Nodup) (other : objects.length ≠ 2) : Assumed 2 objects :=
    assumed_of_distinct (by decide) distinct other
  refine ⟨⟨assumed _ (by decide) (by decide), assumed _ (by decide) (by decide), ?_⟩,
    assumed _ (by decide) (by decide), assumed _ (by decide) (by decide), ?_⟩
  · rintro ⟨merged, same, law⟩
    obtain rfl := Except.ok.inj same
    have found := law.complete (by decide) (object .localStorage 0x63)
      (by simp [ListStorageOptions.HasPrefix, options]) (.inl ⟨⟨_, rfl⟩, rfl⟩)
    exact absurd found (by decide)
  · rintro ⟨merged, same, law⟩
    obtain rfl := Except.ok.inj same
    have held := law.held (object .cloudS3 0x61) (by decide)
    exact absurd held (by decide)

end StorageManager

end FileTrans.Server
