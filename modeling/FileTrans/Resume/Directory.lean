import FileTrans.Resume.Loading
import FileTrans.Resume.ResumeHandler

/-!
# The state directory

`list_resumable_transfers` and `cleanup_expired_states` load the state of every
file in the directory.  They skip a file that cannot be loaded, unless an exception
leaves `load_state`, which then leaves the loop as well.
-/

namespace FileTrans.Resume

open Core Text Storage

/-! ## Loading -/

namespace ResumeHandler

/-- What `load_state` returns. -/
def lookup (handler : ResumeHandler) (opens : Path → Bool) (id : TransferId) :
    Option (Result TransferState) :=
  (handler.loadState opens id).1

/-- The handlers agree on everything that is loaded. -/
def SameLookups (opens : Path → Bool) (first second : ResumeHandler) : Prop :=
  second.config = first.config ∧ second.files = first.files ∧
    ∀ id, second.lookup opens id = first.lookup opens id

variable (handler : ResumeHandler) (opens : Path → Bool)

variable {id other : TransferId} {first second : ResumeHandler}

theorem lookup_of_cached {state : TransferState} (cached : handler.cache id = some state) :
    handler.lookup opens id = some (.ok state) := by
  rw [lookup, loadState, cached]

theorem lookup_of_uncached (uncached : handler.cache id = none) :
    handler.lookup opens id = handler.readStateFile opens id := by
  rw [lookup, loadState, uncached]
  rcases handler.readStateFile opens id with _ | _ | _ <;> rfl

theorem lookup_insert_of_ne (distinct : other ≠ id) (state : TransferState) :
    (handler.insert id state).lookup opens other = handler.lookup opens other := by
  have kept : (handler.insert id state).cache other = handler.cache other :=
    Function.update_of_ne distinct _ _
  cases cached : handler.cache other with
  | some found =>
      rw [lookup_of_cached handler opens cached, lookup_of_cached _ opens (kept.trans cached)]
  | none =>
      rw [lookup_of_uncached handler opens cached,
        lookup_of_uncached _ opens (kept.trans cached)]
      rfl

theorem sameLookups_loadState (id : TransferId) :
    SameLookups opens handler (handler.loadState opens id).2 := by
  rw [loadState]
  split
  · exact ⟨rfl, rfl, fun _ => rfl⟩
  · rename_i uncached
    split
    · rename_i state read
      refine ⟨rfl, rfl, fun other => ?_⟩
      by_cases same : other = id
      · subst same
        rw [lookup_of_uncached handler opens uncached, read]
        exact lookup_of_cached _ opens (Function.update_self _ _ _)
      · exact lookup_insert_of_ne handler opens same state
    · exact ⟨rfl, rfl, fun _ => rfl⟩

variable {handler opens}

theorem SameLookups.trans {third : ResumeHandler} (front : SameLookups opens first second)
    (back : SameLookups opens second third) : SameLookups opens first third :=
  ⟨back.1.trans front.1, back.2.1.trans front.2.1, fun id => (back.2.2 id).trans (front.2.2 id)⟩

/-- The transfers that the directory entries belong to. -/
def entryIds (entries : List Bytes) : List TransferId :=
  entries.filterMap entryId

/-- A transfer and its state, if it can be loaded. -/
def loadable (handler : ResumeHandler) (opens : Path → Bool) (id : TransferId) :
    Option (TransferId × TransferState) :=
  match handler.lookup opens id with
  | some (.ok state) => some (id, state)
  | _ => none

theorem loadable_congr (same : SameLookups opens first second) :
    second.loadable opens = first.loadable opens := by
  funext id
  rw [loadable, loadable, same.2.2 id]

theorem loadEntries_spec (opens : Path → Bool) (handler : ResumeHandler) (entries : List Bytes) :
    SameLookups opens handler (loadEntries opens handler entries).2 ∧
      (loadEntries opens handler entries).1 =
        if ∀ id ∈ entryIds entries, (handler.lookup opens id).isSome = true then
          some ((entryIds entries).filterMap (handler.loadable opens))
        else none := by
  induction entries generalizing handler with
  | nil => exact ⟨⟨rfl, rfl, fun _ => rfl⟩, by simp [loadEntries, entryIds]⟩
  | cons name rest ih =>
      cases isEntry : entryId name with
      | none =>
          have ids : entryIds (name :: rest) = entryIds rest := by
            simp [entryIds, isEntry]
          simp only [loadEntries, isEntry, ids]
          exact ih handler
      | some id =>
          have ids : entryIds (name :: rest) = id :: entryIds rest := by
            simp [entryIds, isEntry]
          have same := sameLookups_loadState handler opens id
          have later := ih (handler.loadState opens id).2
          rw [loadable_congr same] at later
          simp only [same.2.2] at later
          have first : handler.lookup opens id = (handler.loadState opens id).1 := rfl
          simp only [loadEntries, isEntry, ids, List.forall_mem_cons, List.filterMap_cons]
          rcases loaded : handler.loadState opens id with ⟨result, next⟩
          rw [loaded] at same later first
          rcases result with _ | error | state
          · simp only [first, Option.isSome_none, Bool.false_eq_true, false_and, if_false]
            exact ⟨same, trivial⟩
          · have skipped : handler.loadable opens id = none := by rw [loadable, first]
            simp only [first, Option.isSome_some, true_and, skipped]
            exact ⟨same.trans later.1, later.2⟩
          · have found : handler.loadable opens id = some (id, state) := by rw [loadable, first]
            simp only [first, Option.isSome_some, true_and, found]
            refine ⟨same.trans later.1, ?_⟩
            rw [later.2]
            split <;> rfl

/-! ## Deleting -/

theorem stateFile_injective (handler : ResumeHandler) : Function.Injective handler.stateFile := by
  have named : ∀ id : TransferId, (id.toString ++ ascii ".json").head? ≠ some 0x2f := by
    intro id absolute
    have mem : 0x2f ∈ id.toString := by
      cases text : id.toString with
      | nil => exact absurd (dash_mem_toString id) (by rw [text]; exact List.not_mem_nil)
      | cons first rest =>
          rw [text, List.cons_append, List.head?_cons] at absolute
          cases absolute
          exact List.mem_cons_self
    exact toString_notMem (by decide) rfl mem
  intro first second same
  have texts : first.toString = second.toString := by
    simp only [stateFile, getStateFilePath, Path.append, if_neg (named _)] at same
    split at same
    · exact List.append_cancel_right (List.append_cancel_left same)
    · exact List.append_cancel_right (List.cons.inj (List.append_cancel_left same)).2
  have read := TransferId.fromString_toString first
  rw [texts, TransferId.fromString_toString] at read
  exact (Option.some.inj read).symm

variable (removes : Path → Bool) (message : Bytes)

theorem deleteState_config (handler : ResumeHandler) (removable : Bool) (id : TransferId) :
    (handler.deleteState removable message id).2.config = handler.config := by
  unfold deleteState
  split
  · split <;> rfl
  · rfl

theorem deleteState_self (handler : ResumeHandler) (removable : Bool) (id : TransferId) :
    (handler.deleteState removable message id).2.cache id = none ∧
      (removable = true →
        (handler.deleteState removable message id).2.files (handler.stateFile id) = none) := by
  unfold deleteState
  split
  · split
    · exact ⟨Function.update_self _ _ _, fun _ => FileSystem.remove_self _ _⟩
    · rename_i stays
      exact ⟨Function.update_self _ _ _, fun removed => absurd removed stays⟩
  · rename_i missing
    refine ⟨Function.update_self _ _ _, fun _ => ?_⟩
    rw [FileSystem.exist, Bool.not_eq_true, Option.isSome_eq_false_iff,
      Option.isNone_iff_eq_none] at missing
    exact missing

theorem deleteState_of_ne (handler : ResumeHandler) (removable : Bool) (distinct : other ≠ id) :
    (handler.deleteState removable message id).2.cache other = handler.cache other ∧
      (handler.deleteState removable message id).2.files (handler.stateFile other) =
        handler.files (handler.stateFile other) := by
  have files : handler.stateFile other ≠ handler.stateFile id := fun same =>
    distinct (handler.stateFile_injective same)
  unfold deleteState
  split
  · split
    · exact ⟨Function.update_of_ne distinct _ _, FileSystem.remove_of_ne _ files⟩
    · exact ⟨Function.update_of_ne distinct _ _, rfl⟩
  · exact ⟨Function.update_of_ne distinct _ _, rfl⟩

theorem deleteState_stateFile (handler : ResumeHandler) (removable : Bool) (id : TransferId) :
    (handler.deleteState removable message id).2.stateFile = handler.stateFile := by
  funext other
  rw [stateFile, stateFile, deleteState_config]

theorem deleteAll_of_notMem (handler : ResumeHandler) (ids : List TransferId)
    (absent : other ∉ ids) :
    (deleteAll removes message handler ids).2.config = handler.config ∧
      (deleteAll removes message handler ids).2.cache other = handler.cache other ∧
      (deleteAll removes message handler ids).2.files (handler.stateFile other) =
        handler.files (handler.stateFile other) := by
  induction ids generalizing handler with
  | nil => exact ⟨rfl, rfl, rfl⟩
  | cons id ids ih =>
      rw [List.mem_cons, not_or] at absent
      let deleted := (handler.deleteState (removes (handler.stateFile id)) message id).2
      obtain ⟨config, cache, files⟩ := ih deleted absent.2
      have first := deleteState_of_ne message handler (removes (handler.stateFile id)) absent.1
      rw [deleteState_stateFile] at files
      exact ⟨config.trans (deleteState_config _ _ _ _), cache.trans first.1,
        files.trans first.2⟩

theorem deleteAll_of_mem (handler : ResumeHandler) (ids : List TransferId) (mem : id ∈ ids) :
    (deleteAll removes message handler ids).2.cache id = none ∧
      (removes (handler.stateFile id) = true →
        (deleteAll removes message handler ids).2.files (handler.stateFile id) = none) := by
  induction ids generalizing handler with
  | nil => cases mem
  | cons first ids ih =>
      let deleted := (handler.deleteState (removes (handler.stateFile first)) message first).2
      by_cases later : id ∈ ids
      · have rest := ih deleted later
        rw [deleteState_stateFile] at rest
        exact rest
      · rcases List.mem_cons.mp mem with rfl | later'
        · have gone := deleteState_self message handler (removes (handler.stateFile id)) id
          obtain ⟨-, cache, files⟩ := deleteAll_of_notMem removes message deleted ids later
          rw [deleteState_stateFile] at files
          exact ⟨cache.trans gone.1, fun removed => files.trans (gone.2 removed)⟩
        · exact absurd later' later

/-! ## Every file is processed -/

theorem lookup_isSome (handler : ResumeHandler) (id : TransferId) :
    (handler.lookup opens id).isSome = true ↔
      (handler.cache id = none → ∀ content, handler.files (handler.stateFile id) = some content →
        opens (handler.stateFile id) = true → Tolerable content) := by
  cases cached : handler.cache id with
  | some state =>
      rw [lookup_of_cached handler opens cached]
      exact iff_of_true rfl fun uncached => by cases uncached
  | none =>
      rw [lookup_of_uncached handler opens cached, readStateFile]
      cases stored : handler.files (handler.stateFile id) with
      | none => simp
      | some content =>
          cases opened : opens (handler.stateFile id) with
          | false => simp
          | true => simpa using deserializeStateFromJson_isSome content

theorem wellSized_of_lookup {handler : ResumeHandler} {state : TransferState}
    (uncached : handler.cache id = none) (read : handler.lookup opens id = some (.ok state)) :
    state.WellSized := by
  rw [lookup_of_uncached handler opens uncached, readStateFile] at read
  split at read
  · cases read
  · split at read
    · exact wellSized_of_deserialize read
    · cases read

/-- The loops over the directory process every file: each one is loaded as a well-sized
state or with an error, all states are listed, and the clean-up removes exactly the
expired ones. -/
structure DirectoryHandled (handler : ResumeHandler) (opens removes : Path → Bool)
    (message : Bytes) (now : Int64) (entries : List Bytes) : Prop where
  loads : ∀ id ∈ entryIds entries, handler.cache id = none →
    ∃ result, handler.lookup opens id = some result ∧
      ∀ state, result = .ok state → state.WellSized
  lists : (handler.listResumableTransfers opens entries).1 =
    some (((entryIds entries).filterMap (handler.loadable opens)).map Prod.snd)
  cleans : ∃ removed after,
    handler.cleanupExpiredStates opens removes message now entries = (some removed, after) ∧
    ∀ id ∈ entryIds entries, ∀ state, handler.lookup opens id = some (.ok state) →
      if handler.expired now state then
        after.cache id = none ∧
          (removes (handler.stateFile id) = true → after.files (handler.stateFile id) = none)
      else after.lookup opens id = some (.ok state)

theorem expired_congr (same : second.config = first.config) : second.expired = first.expired := by
  funext now state
  rw [expired, expired, same]

theorem mem_filterMap_loadable {handler : ResumeHandler} {ids : List TransferId}
    {entry : TransferId × TransferState} :
    entry ∈ ids.filterMap (handler.loadable opens) ↔
      entry.1 ∈ ids ∧ handler.lookup opens entry.1 = some (.ok entry.2) := by
  rw [List.mem_filterMap]
  constructor
  · rintro ⟨id, mem, found⟩
    rw [loadable] at found
    split at found
    · rename_i state read
      cases found
      exact ⟨mem, read⟩
    · cases found
  · rintro ⟨mem, read⟩
    refine ⟨entry.1, mem, ?_⟩
    rw [loadable, read]

theorem lookup_congr (config : second.config = first.config)
    (cache : second.cache id = first.cache id)
    (files : second.files (first.stateFile id) = first.files (first.stateFile id)) :
    second.lookup opens id = first.lookup opens id := by
  have path : second.stateFile = first.stateFile := by
    funext other
    rw [stateFile, stateFile, config]
  cases cached : first.cache id with
  | some state =>
      rw [lookup_of_cached first opens cached, lookup_of_cached second opens (cache.trans cached)]
  | none =>
      rw [lookup_of_uncached first opens cached,
        lookup_of_uncached second opens (cache.trans cached), readStateFile, readStateFile, path,
        files]

/-- The loops process every file of the directory exactly when each file that has to
be read is tolerable. -/
theorem directoryHandled_iff (handler : ResumeHandler) (opens removes : Path → Bool)
    (message : Bytes) (now : Int64) (entries : List Bytes) :
    DirectoryHandled handler opens removes message now entries ↔
      ∀ id ∈ entryIds entries, handler.cache id = none →
        ∀ content, handler.files (handler.stateFile id) = some content →
          opens (handler.stateFile id) = true → Tolerable content := by
  constructor
  · intro handled id mem uncached content stored opened
    obtain ⟨result, read, -⟩ := handled.loads id mem uncached
    exact (lookup_isSome handler id).mp (by rw [read]; rfl) uncached content stored opened
  · intro tolerable
    have loads : ∀ id ∈ entryIds entries, (handler.lookup opens id).isSome = true :=
      fun id mem => (lookup_isSome handler id).mpr (tolerable id mem)
    have loop := loadEntries_spec opens handler entries
    rw [if_pos loads] at loop
    rcases loaded : loadEntries opens handler entries with ⟨result, next⟩
    rw [loaded] at loop
    obtain ⟨same, found⟩ := loop
    cases found
    refine ⟨?_, ?_, ?_⟩
    · intro id mem uncached
      obtain ⟨result, read⟩ := Option.isSome_iff_exists.mp (loads id mem)
      refine ⟨result, read, ?_⟩
      rintro state rfl
      exact wellSized_of_lookup uncached read
    · rw [listResumableTransfers, loaded]
      rfl
    · let states := (entryIds entries).filterMap (handler.loadable opens)
      let toRemove := (states.filter fun entry => next.expired now entry.2).map Prod.fst
      refine ⟨(deleteAll removes message next toRemove).1,
        (deleteAll removes message next toRemove).2, ?_, ?_⟩
      · rw [cleanupExpiredStates, loaded]
      intro id mem state read
      have listed : (id, state) ∈ states := mem_filterMap_loadable.mpr ⟨mem, read⟩
      have paths : next.stateFile = handler.stateFile := by
        funext other
        rw [stateFile, stateFile, same.1]
      split
      · rename_i old
        have removed : id ∈ toRemove := by
          refine List.mem_map.mpr ⟨(id, state), List.mem_filter.mpr ⟨listed, ?_⟩, rfl⟩
          rwa [expired_congr same.1]
        have gone := deleteAll_of_mem removes message next toRemove removed
        rwa [paths] at gone
      · rename_i young
        have kept : id ∉ toRemove := by
          intro removed
          obtain ⟨⟨_, other⟩, isOld, rfl⟩ := List.mem_map.mp removed
          obtain ⟨isListed, old⟩ := List.mem_filter.mp isOld
          have again := (mem_filterMap_loadable.mp isListed).2
          rw [read] at again
          cases again
          rw [expired_congr same.1] at old
          exact young old
        obtain ⟨config, cache, files⟩ := deleteAll_of_notMem removes message next toRemove kept
        rw [lookup_congr config cache files, same.2.2 id, read]

end ResumeHandler

/-! ## Files that break the loops -/

/-- A state file with the given file name and bitmap texts, of a transfer that ends
in the given digit. -/
def sampleFile (digit filename bitmap : String) : Bytes :=
  ascii "\x7b\"id\": \"00000000-0000-0000-0000-00000000000" ++ ascii digit ++
    ascii "\", \"filename\": \"" ++ ascii filename ++
    ascii "\", \"total_size\": 1, \"transferred_bytes\": 1, \"total_chunks\": 1, " ++
    ascii "\"chunk_bitmap\": \"" ++ ascii bitmap ++
    ascii "\", \"sha256\": \"\", \"started_at\": 1, \"last_activity\": 1\x7d"

/-- The names of two state files. -/
def sampleEntries : List Bytes :=
  [ascii "00000000-0000-0000-0000-000000000001.json",
    ascii "00000000-0000-0000-0000-000000000002.json"]

/-- A fresh handler over two state files, of which the first has the given texts. -/
def sampleDirectory (filename bitmap : String) : ResumeHandler :=
  .create ⟨ascii "states", 10, 86400⟩ fun path =>
    if path = ascii "states/00000000-0000-0000-0000-000000000001.json" then
      some (sampleFile "1" filename bitmap)
    else if path = ascii "states/00000000-0000-0000-0000-000000000002.json" then
      some (sampleFile "2" "good" "80")
    else none

theorem loadEntries_sampleDirectory {filename bitmap : String}
    (throws : deserializeStateFromJson (sampleFile "1" filename bitmap) = none) :
    ResumeHandler.loadEntries (fun _ => true) (sampleDirectory filename bitmap) sampleEntries =
      (none, sampleDirectory filename bitmap) := by
  have named : (entryId (ascii "00000000-0000-0000-0000-000000000001.json")).map
      (getStateFilePath (ascii "states")) =
        some (ascii "states/00000000-0000-0000-0000-000000000001.json") := by
    decide +kernel
  obtain ⟨id, entry, path⟩ := Option.map_eq_some_iff.mp named
  have file : (sampleDirectory filename bitmap).files
      ((sampleDirectory filename bitmap).stateFile id) =
        some (sampleFile "1" filename bitmap) := by
    unfold sampleDirectory ResumeHandler.create ResumeHandler.stateFile
    dsimp only
    rw [if_pos path]
  have read : (sampleDirectory filename bitmap).readStateFile (fun _ => true) id = none := by
    simp only [ResumeHandler.readStateFile, file, if_true, throws]
  have loads : (sampleDirectory filename bitmap).loadState (fun _ => true) id =
      (none, sampleDirectory filename bitmap) := by
    have missing : (sampleDirectory filename bitmap).cache id = none := rfl
    unfold ResumeHandler.loadState
    rw [missing, read]
  unfold sampleEntries ResumeHandler.loadEntries
  rw [entry]
  dsimp only
  rw [loads]

/-- Letters in a bitmap, or in a `\u` escape, and the good file after the bad one is
not listed and not cleaned up. -/
theorem corrupted_file_stops_listing :
    deserializeStateFromJson (sampleFile "1" "name" "zz") = none ∧
    deserializeStateFromJson (sampleFile "1" "\\uzzzz" "80") = none ∧
    ((sampleDirectory "name" "zz").listResumableTransfers (fun _ => true) sampleEntries).1 = none ∧
    ((sampleDirectory "name" "zz").cleanupExpiredStates (fun _ => true) (fun _ => true) [] 0
      sampleEntries).1 = none ∧
    ¬ (∀ (handler : ResumeHandler) (opens removes : Path → Bool) (message : Bytes) (now : Int64)
      (entries : List Bytes),
      handler.DirectoryHandled opens removes message now entries) := by
  have throws : deserializeStateFromJson (sampleFile "1" "name" "zz") = none :=
    Option.isNone_iff_eq_none.mp (by decide +kernel)
  have stops := loadEntries_sampleDirectory throws
  have listing : ((sampleDirectory "name" "zz").listResumableTransfers (fun _ => true)
      sampleEntries).1 = none := by
    unfold ResumeHandler.listResumableTransfers
    rw [stops]
    rfl
  have cleanup : ((sampleDirectory "name" "zz").cleanupExpiredStates (fun _ => true)
      (fun _ => true) [] 0 sampleEntries).1 = none := by
    unfold ResumeHandler.cleanupExpiredStates
    rw [stops]
  refine ⟨throws, Option.isNone_iff_eq_none.mp (by decide +kernel), listing, cleanup, ?_⟩
  intro handled
  have lists := (handled (sampleDirectory "name" "zz") (fun _ => true) (fun _ => true) [] 0
    sampleEntries).lists
  rw [listing] at lists
  cases lists

end FileTrans.Resume
