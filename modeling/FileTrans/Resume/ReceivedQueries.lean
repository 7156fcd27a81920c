import FileTrans.Resume.Directory
import FileTrans.Transition.Run

/-!
# The two queries for received chunks

`get_missing_chunks` loads the state of a transfer; `is_chunk_received` looks into
the cache only.  They disagree about a transfer that is not cached and whose file
records a received chunk.

Every operation but a deletion leaves the transfers that are not cached, and their
files, alone.  So a disagreement comes from a file that was there when the handler
was constructed, or from an entry that was erased while its file stayed.
-/

namespace FileTrans.Resume

open Core Storage
open FileTrans.Transition

/-! ## Histories of operations -/

/-- The operations of a handler, with what their environment does, and a restart of the
program that uses it. -/
inductive HandlerOperation
  | restart
  | saveState (disk : WriteOutcome) (state : TransferState)
  | loadState (opens : Path → Bool) (id : TransferId)
  | deleteState (removes : Bool) (message : Bytes) (id : TransferId)
  | markChunkReceived (opens : Path → Bool) (disk : WriteOutcome) (now : Int64)
      (id : TransferId) (chunkIndex : UInt32)
  | markChunksReceived (opens : Path → Bool) (disk : WriteOutcome) (now : Int64)
      (id : TransferId) (chunkIndices : List UInt32)
  | getMissingChunks (opens : Path → Bool) (id : TransferId)
  | updateTransferredBytes (opens : Path → Bool) (now : Int64) (id : TransferId)
      (bytes : UInt64)
  | listResumableTransfers (opens : Path → Bool) (entries : List Bytes)
  | cleanupExpiredStates (opens removes : Path → Bool) (message : Bytes) (now : Int64)
      (entries : List Bytes)

namespace ResumeHandler

/-- One operation.  What it returns plays no part here. -/
def operate : Step ResumeHandler HandlerOperation Unit := fun handler operation =>
  ((), match operation with
    | .restart => create handler.config handler.files
    | .saveState disk state => (handler.saveState disk state).2
    | .loadState opens id => (handler.loadState opens id).2
    | .deleteState removes message id => (handler.deleteState removes message id).2
    | .markChunkReceived opens disk now id chunkIndex =>
        (handler.markChunkReceived opens disk now id chunkIndex).2
    | .markChunksReceived opens disk now id chunkIndices =>
        (handler.markChunksReceived opens disk now id chunkIndices).2
    | .getMissingChunks opens id => (handler.getMissingChunks opens id).2
    | .updateTransferredBytes opens now id bytes =>
        (handler.updateTransferredBytes opens now id bytes).2
    | .listResumableTransfers opens entries => (handler.listResumableTransfers opens entries).2
    | .cleanupExpiredStates opens removes message now entries =>
        (handler.cleanupExpiredStates opens removes message now entries).2)

/-- The two queries agree on every chunk of every transfer whose state can be loaded. -/
def QueriesAgree (handler : ResumeHandler) : Prop :=
  ∀ opens id state missing, (handler.loadState opens id).1 = some (.ok state) →
    (handler.getMissingChunks opens id).1 = some (.ok missing) →
    ∀ index < state.totalChunks,
      handler.isChunkReceived id index = true ↔ index.toNat ∉ missing

/-- The state file of a transfer, if it can be read, records no received chunk. -/
def Unmarked (handler : ResumeHandler) (id : TransferId) : Prop :=
  ∀ content state, handler.files (handler.stateFile id) = some content →
    deserializeStateFromJson content = some (.ok state) →
    ∀ index < state.totalChunks, state.received index.toNat = false

/-- No file of a transfer that is not cached records a received chunk. -/
def UncachedUnmarked (handler : ResumeHandler) : Prop :=
  ∀ id, handler.cache id = none → handler.Unmarked id

theorem mem_missingChunks_iff {state : TransferState} {index : UInt32}
    (inside : index < state.totalChunks) :
    index.toNat ∈ state.missingChunks ↔ state.received index.toNat = false := by
  have bound : index.toNat < state.totalChunks.toNat := UInt32.lt_iff_toNat_lt.mp inside
  simp [TransferState.missingChunks, bound]

theorem getMissingChunks_of_loaded {handler : ResumeHandler} {opens : Path → Bool}
    {id : TransferId} {state : TransferState}
    (loaded : (handler.loadState opens id).1 = some (.ok state)) :
    (handler.getMissingChunks opens id).1 = some (.ok state.missingChunks) := by
  unfold getMissingChunks withState
  rcases load : handler.loadState opens id with ⟨result, next⟩
  rw [load] at loaded
  cases loaded
  rfl

theorem queriesAgree_iff_uncachedUnmarked (handler : ResumeHandler) :
    handler.QueriesAgree ↔ handler.UncachedUnmarked := by
  constructor
  · intro agree id uncached content state stored read index inside
    have loaded : (handler.loadState (fun _ => true) id).1 = some (.ok state) := by
      have found := lookup_of_uncached handler (fun _ => true) uncached
      simpa [lookup, readStateFile, stored, read] using found
    have unknown : handler.isChunkReceived id index = false := by
      simp [isChunkReceived, uncached]
    have missing := agree _ id state _ loaded (getMissingChunks_of_loaded loaded) index inside
    rw [unknown, mem_missingChunks_iff inside] at missing
    simpa using missing
  · intro unmarked opens id state missing loaded listed index inside
    cases (getMissingChunks_of_loaded loaded).symm.trans listed
    rw [mem_missingChunks_iff inside]
    cases cached : handler.cache id with
    | some entry =>
        have same := (lookup_of_cached handler opens cached).symm.trans loaded
        cases same
        simp [isChunkReceived, cached, inside]
    | none =>
        have read := (lookup_of_uncached handler opens cached).symm.trans loaded
        have fresh : state.received index.toNat = false := by
          unfold readStateFile at read
          cases stored : handler.files (handler.stateFile id) with
          | none =>
              rw [stored] at read
              cases read
          | some content =>
              simp only [stored] at read
              split at read
              · exact unmarked id cached content state stored read index inside
              · cases read
        simp [isChunkReceived, cached, fresh]

/-! ## Operations that delete nothing -/

/-- What was not cached and still is not has kept its file. -/
structure Extends (before after : ResumeHandler) : Prop where
  config : after.config = before.config
  uncached : ∀ id, after.cache id = none → before.cache id = none ∧
    after.files (before.stateFile id) = before.files (before.stateFile id)

theorem stateFile_of_config {first second : ResumeHandler}
    (config : second.config = first.config) : second.stateFile = first.stateFile := by
  funext id
  rw [stateFile, stateFile, config]

theorem Extends.refl (handler : ResumeHandler) : Extends handler handler :=
  ⟨rfl, fun _ uncached => ⟨uncached, rfl⟩⟩

theorem Extends.trans {first second third : ResumeHandler} (front : Extends first second)
    (back : Extends second third) : Extends first third := by
  refine ⟨back.config.trans front.config, fun id uncached => ?_⟩
  have later := back.uncached id uncached
  have earlier := front.uncached id later.1
  rw [stateFile_of_config front.config] at later
  exact ⟨earlier.1, later.2.trans earlier.2⟩

theorem unmarked_congr {first second : ResumeHandler} {id : TransferId}
    (config : second.config = first.config)
    (file : second.files (first.stateFile id) = first.files (first.stateFile id)) :
    second.Unmarked id ↔ first.Unmarked id := by
  rw [Unmarked, Unmarked, stateFile_of_config config, file]

theorem Extends.uncachedUnmarked {before after : ResumeHandler} (extends' : Extends before after)
    (unmarked : before.UncachedUnmarked) : after.UncachedUnmarked := by
  intro id uncached
  have earlier := extends'.uncached id uncached
  exact (unmarked_congr extends'.config earlier.2).mpr (unmarked id earlier.1)

variable (handler : ResumeHandler)

theorem extends_insert (id : TransferId) (state : TransferState) (count : UInt32) :
    Extends handler { handler.insert id state with chunksSinceCheckpoint := count } := by
  refine ⟨rfl, fun other uncached => ?_⟩
  by_cases same : other = id
  · subst same
    simp [insert] at uncached
  · simpa [insert, same] using uncached

theorem extends_saveState (disk : WriteOutcome) (state : TransferState) :
    Extends handler (handler.saveState disk state).2 := by
  have opened : ∀ text, Extends handler { handler.insert state.id state with
      files := handler.files.put (handler.stateFile state.id) text } := by
    refine fun text => ⟨rfl, fun other uncached => ?_⟩
    by_cases same : other = state.id
    · subst same
      simp [insert] at uncached
    · have distinct : handler.stateFile other ≠ handler.stateFile state.id :=
        fun equal => same (handler.stateFile_injective equal)
      exact ⟨by simpa [insert, same] using uncached, Function.update_of_ne distinct _ _⟩
  unfold saveState
  dsimp only
  split
  · split <;> exact opened _
  · exact extends_insert handler state.id state _

theorem extends_loadState (opens : Path → Bool) (id : TransferId) :
    Extends handler (handler.loadState opens id).2 := by
  unfold loadState
  split
  · exact Extends.refl handler
  · split
    · exact extends_insert handler id _ _
    · exact Extends.refl handler

theorem extends_withState {α : Type} (opens : Path → Bool) (id : TransferId)
    {body : ResumeHandler → TransferState → Result α × ResumeHandler}
    (kept : ∀ loaded state, Extends loaded (body loaded state).2) :
    Extends handler (handler.withState opens id body).2 := by
  have loads := extends_loadState handler opens id
  unfold withState
  rcases load : handler.loadState opens id with ⟨_ | _ | state, loaded⟩ <;> rw [load] at loads
  · exact loads
  · exact loads
  · exact loads.trans (kept loaded state)

theorem extends_markCached (disk : WriteOutcome) (now : Int64) (id : TransferId)
    (state : TransferState) (chunkIndex : UInt32) :
    Extends handler (handler.markCached disk now id state chunkIndex).2 := by
  unfold markCached
  dsimp only
  split
  · exact Extends.refl handler
  · split
    · exact (extends_insert handler id _ 0).trans (extends_saveState _ disk _)
    · exact extends_insert handler id _ _

theorem extends_markAllCached (disk : WriteOutcome) (now : Int64) (id : TransferId)
    (state : TransferState) (chunkIndices : List UInt32) :
    Extends handler (handler.markAllCached disk now id state chunkIndices).2 := by
  unfold markAllCached
  dsimp only
  split
  · exact (extends_insert handler id _ _).trans (extends_saveState _ disk _)
  · exact extends_insert handler id _ _

theorem extends_loadEntries (opens : Path → Bool) (entries : List Bytes) :
    Extends handler (loadEntries opens handler entries).2 := by
  induction entries generalizing handler with
  | nil => exact Extends.refl handler
  | cons name rest ih =>
      unfold loadEntries
      split
      · exact ih handler
      · rename_i id _
        have loads := extends_loadState handler opens id
        rcases load : handler.loadState opens id with ⟨_ | _ | state, loaded⟩ <;>
          rw [load] at loads
        · exact loads
        · exact loads.trans (ih loaded)
        · exact loads.trans (ih loaded)

/-! ## Deletions -/

variable (removes : Path → Bool) (message : Bytes)

theorem deleteState_file_of_stays (id other : TransferId) :
    (handler.deleteState false message id).2.files (handler.stateFile other) =
      handler.files (handler.stateFile other) := by
  unfold deleteState
  split <;> rfl

theorem deleteAll_file_of_stays {handler : ResumeHandler} {other : TransferId}
    (stays : removes (handler.stateFile other) = false) (ids : List TransferId) :
    (deleteAll removes message handler ids).2.files (handler.stateFile other) =
      handler.files (handler.stateFile other) := by
  induction ids generalizing handler with
  | nil => rfl
  | cons id ids ih =>
      have path := deleteState_stateFile message handler (removes (handler.stateFile id)) id
      have later := @ih (handler.deleteState (removes (handler.stateFile id)) message id).2
      rw [path] at later
      apply (later stays).trans
      by_cases same : other = id
      · subst same
        rw [stays]
        exact deleteState_file_of_stays handler message other other
      · exact (deleteState_of_ne message handler _ same).2

theorem deleteAll_config (handler : ResumeHandler) (ids : List TransferId) :
    (deleteAll removes message handler ids).2.config = handler.config := by
  induction ids generalizing handler with
  | nil => rfl
  | cons id ids ih => exact (ih _).trans (deleteState_config _ _ _ _)

/-- After deletions the queries disagree about the transfers whose files could not be removed
and record a chunk. -/
theorem deleteAll_uncachedUnmarked_iff {handler : ResumeHandler}
    (unmarked : handler.UncachedUnmarked) (ids : List TransferId) :
    (deleteAll removes message handler ids).2.UncachedUnmarked ↔
      ∀ id ∈ ids, removes (handler.stateFile id) = false → handler.Unmarked id := by
  have config := deleteAll_config removes message handler ids
  constructor
  · intro after id mem stays
    have kept := deleteAll_file_of_stays removes message stays ids
    exact (unmarked_congr config kept).mp
      (after id (deleteAll_of_mem removes message handler ids mem).1)
  · intro stays id uncached
    by_cases mem : id ∈ ids
    · cases removed : removes (handler.stateFile id) with
      | true =>
          have gone := (deleteAll_of_mem removes message handler ids mem).2 removed
          intro content state stored
          rw [stateFile_of_config config, gone] at stored
          cases stored
      | false =>
          have kept := deleteAll_file_of_stays removes message removed ids
          exact (unmarked_congr config kept).mpr (stays id mem removed)
    · obtain ⟨-, cache, kept⟩ := deleteAll_of_notMem removes message handler ids mem
      exact (unmarked_congr config kept).mpr (unmarked id (cache.symm.trans uncached))

/-! ## Histories -/

/-- The transfers that `cleanup_expired_states` deletes. -/
def expiredIds (opens : Path → Bool) (now : Int64) (entries : List Bytes) : List TransferId :=
  (((loadEntries opens handler entries).1.getD []).filter fun entry =>
    handler.expired now entry.2).map Prod.fst

/-- The files that stay while their entries are erased record no received chunk. -/
def ErasesUnmarked (handler : ResumeHandler) : HandlerOperation → Prop
  | .restart => ∀ id, handler.Unmarked id
  | .deleteState removes _ id => removes = false → handler.Unmarked id
  | .cleanupExpiredStates opens removes _ now entries =>
      ∀ id ∈ handler.expiredIds opens now entries,
        removes (handler.stateFile id) = false → handler.Unmarked id
  | _ => True

theorem create_uncachedUnmarked_iff (config : ResumeHandlerConfig) (files : FileSystem) :
    (create config files).UncachedUnmarked ↔ ∀ id, (create config files).Unmarked id := by
  simp [UncachedUnmarked, create]

theorem cleanupExpiredStates_snd (opens : Path → Bool) (now : Int64) (entries : List Bytes) :
    (handler.cleanupExpiredStates opens removes message now entries).2 =
      (deleteAll removes message (loadEntries opens handler entries).2
        (handler.expiredIds opens now entries)).2 := by
  have config := (extends_loadEntries handler opens entries).config
  unfold cleanupExpiredStates expiredIds
  rcases found : loadEntries opens handler entries with ⟨_ | entries, loaded⟩
  · rfl
  · rw [found] at config
    dsimp only at config ⊢
    rw [expired_congr config]
    rfl

theorem operate_uncachedUnmarked_iff {handler : ResumeHandler}
    (unmarked : handler.UncachedUnmarked) (operation : HandlerOperation) :
    (operate handler operation).2.UncachedUnmarked ↔ handler.ErasesUnmarked operation := by
  have extending : ∀ after, Extends handler after → (after.UncachedUnmarked ↔ True) :=
    fun after extends' => iff_true_intro (extends'.uncachedUnmarked unmarked)
  cases operation with
  | restart =>
      exact (create_uncachedUnmarked_iff handler.config handler.files).trans Iff.rfl
  | saveState disk state => exact extending _ (extends_saveState handler disk state)
  | loadState opens id => exact extending _ (extends_loadState handler opens id)
  | deleteState removes message id =>
      apply (deleteAll_uncachedUnmarked_iff (fun _ => removes) message unmarked [id]).trans
      simp [ErasesUnmarked]
  | markChunkReceived opens disk now id chunkIndex =>
      exact extending _ (extends_withState handler opens id fun loaded state =>
        extends_markCached loaded disk now id state chunkIndex)
  | markChunksReceived opens disk now id chunkIndices =>
      exact extending _ (extends_withState handler opens id fun loaded state =>
        extends_markAllCached loaded disk now id state chunkIndices)
  | getMissingChunks opens id =>
      exact extending _ (extends_withState handler opens id fun loaded _ => Extends.refl loaded)
  | updateTransferredBytes opens now id bytes =>
      exact extending _ (extends_withState handler opens id fun loaded _ =>
        extends_insert loaded id _ _)
  | listResumableTransfers opens entries =>
      exact extending _ (extends_loadEntries handler opens entries)
  | cleanupExpiredStates opens removes message now entries =>
      have same := (loadEntries_spec opens handler entries).1
      have loaded := (extends_loadEntries handler opens entries).uncachedUnmarked unmarked
      have deleted := deleteAll_uncachedUnmarked_iff removes message loaded
        (handler.expiredIds opens now entries)
      rw [← cleanupExpiredStates_snd] at deleted
      apply deleted.trans
      rw [stateFile_of_config same.1]
      refine forall_congr' fun id => imp_congr_right fun _ => imp_congr_right fun _ => ?_
      exact unmarked_congr same.1 (congrFun same.2.1 _)

/-- The queries agree throughout a history exactly when no file records a chunk at the start,
and none of a transfer whose entry is erased later while the file stays. -/
theorem queriesAgree_throughout_iff (config : ResumeHandlerConfig) (files : FileSystem)
    (operations : List HandlerOperation) :
    (∀ first rest, operations = first ++ rest →
      (final operate (create config files) first).QueriesAgree) ↔
      (∀ id, (create config files).Unmarked id) ∧
        Guarded operate ErasesUnmarked (create config files) operations := by
  have kept_iff := fun handler operation unmarked =>
    @operate_uncachedUnmarked_iff handler unmarked operation
  simp only [queriesAgree_iff_uncachedUnmarked, ← create_uncachedUnmarked_iff]
  constructor
  · intro every
    have initial := every [] operations rfl
    exact ⟨initial, (forall_prefix_iff_guarded kept_iff initial operations).mp every⟩
  · rintro ⟨initial, guarded⟩
    exact (forall_prefix_iff_guarded kept_iff initial operations).mpr guarded

/-- A program restarts on the file of a transfer with received chunks: nothing is missing of
chunk 0, and `is_chunk_received` denies it. -/
theorem queriesAgree_not_restart :
    ¬ ∀ (config : ResumeHandlerConfig) (files : FileSystem) (operations : List HandlerOperation),
      (final operate (create config files) operations).QueriesAgree := by
  intro every
  let state := sampleState (Text.ascii "a\"b\\c\n.txt")
  let config : ResumeHandlerConfig := ⟨Text.ascii "states", 10, 86400⟩
  let files : FileSystem := FileSystem.put (fun _ => none)
    (getStateFilePath config.stateDirectory state.id) (serializeStateToJson state)
  have agree := (queriesAgree_iff_uncachedUnmarked _).mp (every config files [])
  have stored : (create config files).files ((create config files).stateFile state.id) =
      some (serializeStateToJson state) := by
    simp [files, create, stateFile]
  have fresh := agree state.id rfl _ _ stored deserialize_serialize_quoted_name 0 (by decide)
  exact absurd fresh (by decide)

end ResumeHandler

end FileTrans.Resume
