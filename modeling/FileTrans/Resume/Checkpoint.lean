import FileTrans.Resume.Directory
import FileTrans.Transition.Run

/-!
# Marks that a crash loses

`mark_chunk_received` saves a transfer on every `checkpoint_interval`-th mark, but
it counts the marks of all transfers together, and saves only the one it marks.  A
ledger records, next to the handler, which state of each transfer was saved last
and which chunks were marked since.
-/

namespace FileTrans.Resume

open Core Text Storage Transition

/-- A handler, the last saved state of each transfer, and its marks since then. -/
structure Ledger where
  handler : ResumeHandler
  saved : TransferId → Option TransferState
  pending : TransferId → Finset Nat

/-- A call, with the time of the clock. -/
inductive CheckpointCall
  | saveState (state : TransferState)
  | markChunkReceived (now : Int64) (id : TransferId) (chunkIndex : UInt32)

namespace Ledger

/-- A fresh handler. -/
def start (config : ResumeHandlerConfig) (files : FileSystem) : Ledger where
  handler := .create config files
  saved := fun _ => none
  pending := fun _ => ∅

/-- A state was saved: its marks are no longer pending. -/
def save (ledger : Ledger) (handler : ResumeHandler) (id : TransferId)
    (state : Option TransferState) : Ledger where
  handler := handler
  saved := Function.update ledger.saved id state
  pending := Function.update ledger.pending id ∅

/-- The next mark is a checkpoint. -/
def checkpointDue (ledger : Ledger) : Bool :=
  ledger.handler.config.checkpointInterval ≤ ledger.handler.chunksSinceCheckpoint + 1

/-- One call, on a disk without failures. -/
def record : Step Ledger CheckpointCall (Option (Result Unit)) := fun ledger call =>
  match call with
  | .saveState state =>
      let called := ledger.handler.saveState .success state
      (some called.1, ledger.save called.2 state.id (some state))
  | .markChunkReceived now id chunkIndex =>
      let called := ledger.handler.markChunkReceived (fun _ => true) .success now id chunkIndex
      match called.1 with
      | some (.ok ()) =>
          if ledger.checkpointDue then
            (some (.ok ()), ledger.save called.2 id (called.2.cache id))
          else
            (some (.ok ()), { ledger with
              handler := called.2
              pending := Function.update ledger.pending id
                (insert chunkIndex.toNat (ledger.pending id)) })
      | failed => (failed, { ledger with handler := called.2 })

/-- The chunks marked since the last save that are missing from the saved state. -/
def missing (ledger : Ledger) (id : TransferId) : Finset Nat :=
  match ledger.saved id with
  | none => ∅
  | some saved => (ledger.pending id).filter fun index => saved.received index = false

/-- A checkpoint happens only when no other transfer has a mark to lose. -/
def CheckpointAlone (ledger : Ledger) : CheckpointCall → Prop
  | .saveState _ => True
  | .markChunkReceived _ id _ =>
      ledger.checkpointDue = true → ∀ other, other ≠ id → ledger.missing other = ∅

/-- Every state file holds the last saved state, and fewer marks than the interval
are missing from it. -/
def LosesFew (interval : Nat) (ledger : Ledger) : Prop :=
  ∀ id saved, ledger.saved id = some saved →
    ledger.handler.files (ledger.handler.stateFile id) = some (serializeStateToJson saved) ∧
      (ledger.missing id).card < interval

end Ledger

/-! ## Single calls -/

namespace ResumeHandler

theorem saveState_success (handler : ResumeHandler) (state : TransferState) :
    handler.saveState .success state = (.ok (), { handler.insert state.id state with
      files := handler.files.put (handler.stateFile state.id) (serializeStateToJson state) }) :=
  rfl

theorem markChunkReceived_of_cached {handler : ResumeHandler} {id : TransferId}
    {state : TransferState} (cached : handler.cache id = some state) (opens : Path → Bool)
    (disk : WriteOutcome) (now : Int64) (chunkIndex : UInt32) :
    handler.markChunkReceived opens disk now id chunkIndex =
      let called := handler.markCached disk now id state chunkIndex
      (some called.1, called.2) := by
  simp only [markChunkReceived, withState, loadState, cached]

theorem markChunkReceived_of_unknown {handler : ResumeHandler} {id : TransferId}
    (uncached : handler.cache id = none) (unsaved : handler.files (handler.stateFile id) = none)
    (opens : Path → Bool) (disk : WriteOutcome) (now : Int64) (chunkIndex : UInt32) :
    handler.markChunkReceived opens disk now id chunkIndex =
      (some (unexpected .fileNotFound "state file not found"), handler) := by
  simp only [markChunkReceived, withState, loadState, uncached, readStateFile, unsaved, unexpected]

end ResumeHandler

/-! ## The invariant -/

namespace Ledger

/-- The ledger agrees with the cache and the files, and no transfer misses more marks
than the counter counts. -/
structure Consistent (ledger : Ledger) : Prop where
  keyed : ∀ id state, ledger.handler.cache id = some state → state.id = id
  unsaved : ∀ id, ledger.handler.cache id = none →
    ledger.handler.files (ledger.handler.stateFile id) = none
  stored : ∀ id saved, ledger.saved id = some saved →
    ledger.handler.files (ledger.handler.stateFile id) = some (serializeStateToJson saved)
  counts : ledger.handler.chunksSinceCheckpoint < ledger.handler.config.checkpointInterval
  few : ∀ id, (ledger.missing id).card ≤ ledger.handler.chunksSinceCheckpoint.toNat

variable {ledger : Ledger} {id : TransferId} {state : TransferState}

theorem missing_of_pending (none : ledger.pending id = ∅) : ledger.missing id = ∅ := by
  rw [missing, none]
  split <;> rfl

theorem missing_save_self (ledger : Ledger) (handler : ResumeHandler) (id : TransferId)
    (state : Option TransferState) : (ledger.save handler id state).missing id = ∅ :=
  missing_of_pending (Function.update_self _ _ _)

theorem missing_save_of_ne (ledger : Ledger) (handler : ResumeHandler) {other : TransferId}
    (distinct : other ≠ id) (state : Option TransferState) :
    (ledger.save handler id state).missing other = ledger.missing other := by
  simp [missing, save, distinct]

theorem Consistent.save (consistent : ledger.Consistent) {handler : ResumeHandler}
    (config : handler.config = ledger.handler.config)
    (cache : handler.cache = Function.update ledger.handler.cache state.id (some state))
    (files : handler.files = ledger.handler.files.put (ledger.handler.stateFile state.id)
      (serializeStateToJson state))
    (counts : handler.chunksSinceCheckpoint < handler.config.checkpointInterval)
    (few : ∀ other, other ≠ state.id →
      (ledger.missing other).card ≤ handler.chunksSinceCheckpoint.toNat) :
    (ledger.save handler state.id (some state)).Consistent := by
  have paths : handler.stateFile = ledger.handler.stateFile := by
    funext other
    rw [ResumeHandler.stateFile, ResumeHandler.stateFile, config]
  have otherFile {other : TransferId} (distinct : other ≠ state.id) :
      handler.files (handler.stateFile other) =
        ledger.handler.files (ledger.handler.stateFile other) := by
    rw [files, paths]
    exact FileSystem.put_of_ne _ (fun same =>
      distinct (ledger.handler.stateFile_injective same)) _
  constructor
  · intro id found cached
    simp only [Ledger.save, cache] at cached
    by_cases same : id = state.id
    · subst same
      rw [Function.update_self] at cached
      cases cached
      rfl
    · rw [Function.update_of_ne same] at cached
      exact consistent.keyed id found cached
  · intro id uncached
    simp only [Ledger.save, cache] at uncached
    by_cases same : id = state.id
    · subst same
      rw [Function.update_self] at uncached
      cases uncached
    · rw [Function.update_of_ne same] at uncached
      exact (otherFile same).trans (consistent.unsaved id uncached)
  · intro id saved isSaved
    by_cases same : id = state.id
    · subst same
      simp only [Ledger.save, Function.update_self] at isSaved
      cases isSaved
      simp only [Ledger.save, files, paths]
      exact FileSystem.put_self _ _ _
    · simp only [Ledger.save, Function.update_of_ne same] at isSaved
      exact (otherFile same).trans (consistent.stored id saved isSaved)
  · exact counts
  · intro id
    by_cases same : id = state.id
    · subst same
      rw [missing_save_self, Finset.card_empty]
      exact Nat.zero_le _
    · rw [missing_save_of_ne _ _ same]
      exact few id same

theorem start_consistent (config : ResumeHandlerConfig) (files : FileSystem)
    (positive : 0 < config.checkpointInterval)
    (fresh : ∀ id, files (getStateFilePath config.stateDirectory id) = none) :
    (start config files).Consistent := by
  constructor
  · intro id state cached
    cases cached
  · intro id _
    exact fresh id
  · intro id saved isSaved
    cases isSaved
  · exact positive
  · intro id
    exact Nat.zero_le _

/-- The handler after a mark that does not save. -/
def markedHandler (handler : ResumeHandler) (id : TransferId) (marked : TransferState) :
    ResumeHandler :=
  { handler.insert id marked with chunksSinceCheckpoint := handler.chunksSinceCheckpoint + 1 }

/-- The handler after a mark that saves. -/
def checkpointedHandler (handler : ResumeHandler) (id : TransferId) (marked : TransferState) :
    ResumeHandler :=
  { handler.insert id marked with
    chunksSinceCheckpoint := 0
    files := handler.files.put (handler.stateFile id) (serializeStateToJson marked) }

/-- The state after a mark. -/
def markedState (state : TransferState) (now : Int64) (chunkIndex : UInt32) : TransferState :=
  { state.setReceived chunkIndex with lastActivity := now }

/-- The ledger after a mark that does not save. -/
def pend (ledger : Ledger) (id : TransferId) (marked : TransferState) (index : Nat) : Ledger :=
  { ledger with
    handler := markedHandler ledger.handler id marked
    pending := Function.update ledger.pending id (insert index (ledger.pending id)) }

theorem record_mark_early (cached : ledger.handler.cache id = some state)
    (early : ¬ ledger.checkpointDue = true) (now : Int64) {chunkIndex : UInt32}
    (bounded : ¬ state.totalChunks ≤ chunkIndex) :
    (record ledger (.markChunkReceived now id chunkIndex)).2 =
      ledger.pend id (markedState state now chunkIndex) chunkIndex.toNat := by
  have called := ResumeHandler.markChunkReceived_of_cached cached (fun _ => true) .success now
    chunkIndex
  have notReached : ¬ ledger.handler.config.checkpointInterval ≤
      ledger.handler.chunksSinceCheckpoint + 1 := fun reached => early (decide_eq_true reached)
  simp only [record, called, ResumeHandler.markCached, if_neg bounded, if_neg notReached,
    if_neg early, markedHandler, pend, markedState]

theorem record_mark_due (cached : ledger.handler.cache id = some state) (keyed : state.id = id)
    (due : ledger.checkpointDue = true) (now : Int64) {chunkIndex : UInt32}
    (bounded : ¬ state.totalChunks ≤ chunkIndex) :
    (record ledger (.markChunkReceived now id chunkIndex)).2 =
      ledger.save (checkpointedHandler ledger.handler id (markedState state now chunkIndex)) id
        (some (markedState state now chunkIndex)) := by
  have called := ResumeHandler.markChunkReceived_of_cached cached (fun _ => true) .success now
    chunkIndex
  have reached : ledger.handler.config.checkpointInterval ≤
      ledger.handler.chunksSinceCheckpoint + 1 := of_decide_eq_true due
  subst keyed
  simp only [record, called, ResumeHandler.markCached, if_neg bounded, if_pos reached,
    if_pos due, ResumeHandler.saveState_success]
  simp [checkpointedHandler, markedState, ResumeHandler.insert, TransferState.setReceived,
    ResumeHandler.stateFile]

theorem record_mark_cases (consistent : ledger.Consistent) (now : Int64) (id : TransferId)
    (chunkIndex : UInt32) :
    (record ledger (.markChunkReceived now id chunkIndex)).2 = ledger ∨
    ∃ marked : TransferState, marked.id = id ∧
      if ledger.checkpointDue then
        (record ledger (.markChunkReceived now id chunkIndex)).2 =
          ledger.save (checkpointedHandler ledger.handler id marked) id (some marked)
      else
        (record ledger (.markChunkReceived now id chunkIndex)).2 =
          ledger.pend id marked chunkIndex.toNat := by
  cases cached : ledger.handler.cache id with
  | none =>
      left
      rw [record, ResumeHandler.markChunkReceived_of_unknown cached (consistent.unsaved id cached)]
      rfl
  | some state =>
      by_cases bounded : state.totalChunks ≤ chunkIndex
      · left
        have called := ResumeHandler.markChunkReceived_of_cached cached (fun _ => true) .success
          now chunkIndex
        simp only [record, called, ResumeHandler.markCached, if_pos bounded, outOfRange,
          unexpected]
      · right
        have keyed := consistent.keyed id state cached
        refine ⟨markedState state now chunkIndex, keyed, ?_⟩
        by_cases due : ledger.checkpointDue = true
        · rw [if_pos due]
          exact record_mark_due cached keyed due now bounded
        · rw [if_neg due]
          exact record_mark_early cached due now bounded

private theorem succ_lt_of_not_due (consistent : ledger.Consistent)
    (early : ¬ ledger.checkpointDue = true) :
    (ledger.handler.chunksSinceCheckpoint + 1).toNat =
        ledger.handler.chunksSinceCheckpoint.toNat + 1 ∧
      ledger.handler.chunksSinceCheckpoint + 1 < ledger.handler.config.checkpointInterval := by
  have below := UInt32.lt_iff_toNat_lt.mp consistent.counts
  have small := ledger.handler.config.checkpointInterval.toNat_lt
  have sum : (ledger.handler.chunksSinceCheckpoint + 1).toNat =
      ledger.handler.chunksSinceCheckpoint.toNat + 1 := by
    rw [UInt32.toNat_add, UInt32.toNat_one]
    omega
  refine ⟨sum, ?_⟩
  have notLe : ¬ ledger.handler.config.checkpointInterval ≤
      ledger.handler.chunksSinceCheckpoint + 1 := fun reached => early (decide_eq_true reached)
  exact UInt32.not_le.mp notLe

theorem card_missing_pend_le (ledger : Ledger) (id other : TransferId) (marked : TransferState)
    (index : Nat) :
    ((ledger.pend id marked index).missing other).card ≤ (ledger.missing other).card + 1 := by
  by_cases same : other = id
  · subst same
    simp only [missing, pend, Function.update_self]
    cases ledger.saved other with
    | none => exact Nat.zero_le _
    | some saved =>
        simp only [Finset.filter_insert]
        split
        · exact Finset.card_insert_le _ _
        · exact Nat.le_succ _
  · simp only [missing, pend, Function.update_of_ne same]
    exact Nat.le_succ _

theorem Consistent.pend (consistent : ledger.Consistent) (early : ¬ ledger.checkpointDue = true)
    {marked : TransferState} (keyed : marked.id = id) (index : Nat) :
    (ledger.pend id marked index).Consistent := by
  obtain ⟨sum, below⟩ := succ_lt_of_not_due consistent early
  constructor
  · intro other found cached
    simp only [Ledger.pend, markedHandler, ResumeHandler.insert] at cached
    by_cases same : other = id
    · subst same
      rw [Function.update_self] at cached
      cases cached
      exact keyed
    · rw [Function.update_of_ne same] at cached
      exact consistent.keyed other found cached
  · intro other uncached
    simp only [Ledger.pend, markedHandler, ResumeHandler.insert] at uncached
    by_cases same : other = id
    · subst same
      rw [Function.update_self] at uncached
      cases uncached
    · rw [Function.update_of_ne same] at uncached
      exact consistent.unsaved other uncached
  · exact consistent.stored
  · exact below
  · intro other
    have more := card_missing_pend_le ledger id other marked index
    have before := consistent.few other
    have counted : (ledger.pend id marked index).handler.chunksSinceCheckpoint.toNat =
        ledger.handler.chunksSinceCheckpoint.toNat + 1 := sum
    rw [counted]
    omega

theorem Consistent.record (consistent : ledger.Consistent) {call : CheckpointCall}
    (alone : ledger.CheckpointAlone call) : (record ledger call).2.Consistent := by
  cases call with
  | saveState state =>
      exact consistent.save rfl rfl rfl consistent.counts fun other _ => consistent.few other
  | markChunkReceived now id chunkIndex =>
      rcases record_mark_cases consistent now id chunkIndex with same | ⟨marked, keyed, result⟩
      · rw [same]
        exact consistent
      · by_cases due : ledger.checkpointDue = true
        · rw [if_pos due] at result
          rw [result]
          subst keyed
          have positive : 0 < ledger.handler.config.checkpointInterval :=
            UInt32.lt_of_le_of_lt (UInt32.zero_le) consistent.counts
          refine consistent.save rfl rfl rfl positive fun other distinct => ?_
          rw [alone due other distinct, Finset.card_empty]
          exact Nat.zero_le _
        · rw [if_neg due] at result
          rw [result]
          exact consistent.pend due keyed chunkIndex.toNat

theorem record_config (consistent : ledger.Consistent) (call : CheckpointCall) :
    (Ledger.record ledger call).2.handler.config = ledger.handler.config := by
  cases call with
  | saveState state => rfl
  | markChunkReceived now id chunkIndex =>
      rcases record_mark_cases consistent now id chunkIndex with same | ⟨marked, -, result⟩
      · rw [same]
      · split at result <;> rw [result] <;> rfl

/-! ## Whole runs -/

/-- If checkpoints happen only when no other transfer has a mark to lose, every state
file holds the last saved state, and fewer marks than the interval are missing. -/
theorem losesFew_of_checkpointAlone (config : ResumeHandlerConfig) (files : FileSystem)
    (positive : 0 < config.checkpointInterval)
    (fresh : ∀ id, files (getStateFilePath config.stateDirectory id) = none)
    (calls : List CheckpointCall)
    (alone : Guarded Ledger.record CheckpointAlone (start config files) calls) :
    (final Ledger.record (start config files) calls).LosesFew config.checkpointInterval.toNat := by
  have invariant := alone.invariant
    (fun ledger => ledger.Consistent ∧ ledger.handler.config = config)
    (fun ledger call before guard =>
      ⟨before.1.record guard, (record_config before.1 call).trans before.2⟩)
    ⟨start_consistent config files positive fresh, rfl⟩
  obtain ⟨consistent, sameConfig⟩ := invariant
  have counts := UInt32.lt_iff_toNat_lt.mp consistent.counts
  rw [sameConfig] at counts
  intro id saved isSaved
  exact ⟨consistent.stored id saved isSaved, (consistent.few id).trans_lt counts⟩

/-! ## The condition is needed -/

theorem card_missing_pend_new {saved : TransferState} (isSaved : ledger.saved id = some saved)
    (marked : TransferState) {index : Nat} (notPending : index ∉ ledger.pending id)
    (notSaved : saved.received index = false) :
    ((ledger.pend id marked index).missing id).card = (ledger.missing id).card + 1 := by
  have fresh : index ∉ (ledger.pending id).filter fun index => saved.received index = false :=
    fun mem => notPending (Finset.mem_filter.mp mem).1
  simp only [missing, pend, isSaved, Function.update_self, Finset.filter_insert, notSaved, if_true]
  exact Finset.card_insert_of_notMem fresh

theorem card_missing_of_marks {saved : TransferState}
    (cached : ledger.handler.cache id = some state) (isSaved : ledger.saved id = some saved)
    (now : Int64) (chunks : List UInt32) (distinct : chunks.Nodup)
    (bounded : ∀ index ∈ chunks, index < state.totalChunks)
    (new : ∀ index ∈ chunks, index.toNat ∉ ledger.pending id ∧ saved.received index.toNat = false)
    (room : ledger.handler.chunksSinceCheckpoint.toNat + chunks.length <
      ledger.handler.config.checkpointInterval.toNat) :
    let after := final Ledger.record ledger (chunks.map (.markChunkReceived now id))
    (after.missing id).card = (ledger.missing id).card + chunks.length ∧
      after.saved id = some saved ∧ after.handler.files = ledger.handler.files ∧
      after.handler.stateFile = ledger.handler.stateFile := by
  induction chunks generalizing ledger state with
  | nil => exact ⟨rfl, isSaved, rfl, rfl⟩
  | cons index chunks ih =>
      rw [List.nodup_cons] at distinct
      rw [List.length_cons] at room
      have small := ledger.handler.config.checkpointInterval.toNat_lt
      have sum : (ledger.handler.chunksSinceCheckpoint + 1).toNat =
          ledger.handler.chunksSinceCheckpoint.toNat + 1 := by
        rw [UInt32.toNat_add, UInt32.toNat_one]
        omega
      have early : ¬ ledger.checkpointDue = true := by
        intro due
        have reached := UInt32.le_iff_toNat_le.mp (of_decide_eq_true due)
        omega
      have inRange : ¬ state.totalChunks ≤ index :=
        UInt32.not_le.mpr (bounded index List.mem_cons_self)
      have step := record_mark_early cached early now inRange
      obtain ⟨notPending, notSaved⟩ := new index List.mem_cons_self
      have one := card_missing_pend_new isSaved (markedState state now index) notPending notSaved
      have laterNew : ∀ other ∈ chunks,
          other.toNat ∉ (ledger.pend id (markedState state now index) index.toNat).pending id ∧
            saved.received other.toNat = false := by
        intro other mem
        obtain ⟨otherNotPending, otherNotSaved⟩ := new other (List.mem_cons_of_mem _ mem)
        refine ⟨?_, otherNotSaved⟩
        simp only [pend, Function.update_self, Finset.mem_insert, not_or]
        refine ⟨fun same => distinct.1 ?_, otherNotPending⟩
        rw [← UInt32.toNat_inj.mp same]
        exact mem
      have laterRoom : (ledger.handler.chunksSinceCheckpoint + 1).toNat + chunks.length <
          ledger.handler.config.checkpointInterval.toNat := by omega
      have later := @ih (ledger.pend id (markedState state now index) index.toNat)
        (markedState state now index) (Function.update_self _ _ _) isSaved distinct.2
        (fun other mem => bounded other (List.mem_cons_of_mem _ mem)) laterNew laterRoom
      rw [List.map_cons, final_cons, step]
      refine ⟨?_, later.2⟩
      rw [later.1, one, List.length_cons]
      omega

theorem losesMany_of_checkpoint_elsewhere {ledger : Ledger} (consistent : ledger.Consistent)
    {id other : TransferId} {state otherState saved : TransferState} (distinct : other ≠ id)
    (cached : ledger.handler.cache id = some state) (due : ledger.checkpointDue = true)
    {chunkIndex : UInt32} (bounded : chunkIndex < state.totalChunks)
    (otherCached : ledger.handler.cache other = some otherState)
    (isSaved : ledger.saved other = some saved) (loses : ledger.missing other ≠ ∅)
    (now : Int64) (chunks : List UInt32) (nodup : chunks.Nodup)
    (enough : chunks.length + 1 = ledger.handler.config.checkpointInterval.toNat)
    (inRange : ∀ index ∈ chunks, index < otherState.totalChunks)
    (new : ∀ index ∈ chunks,
      index.toNat ∉ ledger.pending other ∧ saved.received index.toNat = false) :
    let after := final Ledger.record ledger (.markChunkReceived now id chunkIndex ::
      chunks.map (.markChunkReceived now other))
    after.saved other = some saved ∧
      after.handler.files (after.handler.stateFile other) = some (serializeStateToJson saved) ∧
      ledger.handler.config.checkpointInterval.toNat ≤ (after.missing other).card := by
  have step := record_mark_due cached (consistent.keyed id state cached) due now
    (UInt32.not_le.mpr bounded)
  let saving := ledger.save (checkpointedHandler ledger.handler id
    (markedState state now chunkIndex)) id (some (markedState state now chunkIndex))
  have kept : saving.saved other = some saved :=
    (Function.update_of_ne distinct _ _).trans isSaved
  have pendingKept : saving.pending other = ledger.pending other :=
    Function.update_of_ne distinct _ _
  have cachedKept : saving.handler.cache other = some otherState :=
    (Function.update_of_ne distinct _ _).trans otherCached
  have fileKept : saving.handler.files (saving.handler.stateFile other) =
      some (serializeStateToJson saved) := by
    have apart : ledger.handler.stateFile other ≠ ledger.handler.stateFile id :=
      fun same => distinct (ledger.handler.stateFile_injective same)
    exact (FileSystem.put_of_ne _ apart _).trans (consistent.stored other saved isSaved)
  have room : saving.handler.chunksSinceCheckpoint.toNat + chunks.length <
      saving.handler.config.checkpointInterval.toNat := by
    have zero : saving.handler.chunksSinceCheckpoint.toNat = 0 := rfl
    have same : saving.handler.config = ledger.handler.config := rfl
    rw [zero, same]
    omega
  obtain ⟨count, stillSaved, files, paths⟩ := card_missing_of_marks cachedKept kept now chunks
    nodup inRange
    (fun index mem => by
      rw [pendingKept]
      exact new index mem) room
  have before : saving.missing other = ledger.missing other :=
    missing_save_of_ne _ _ distinct _
  have positive : 0 < (ledger.missing other).card :=
    Finset.card_pos.mpr (Finset.nonempty_iff_ne_empty.mpr loses)
  dsimp only
  rw [final_cons, step]
  refine ⟨stillSaved, ?_, ?_⟩
  · rw [files, paths]
    exact fileKept
  · rw [count, before]
    omega

/-- A state of two chunks for the transfer whose bytes are all the given one. -/
def twoChunkState (byte : UInt8) : TransferState where
  id := ⟨List.replicate 16 byte, rfl⟩
  filename := ascii "file"
  totalSize := 2
  transferredBytes := 0
  totalChunks := 2
  chunkBitmap := [false, false]
  sha256 := []
  startedAt := 0
  lastActivity := 0

/-- The first transfer loses a chunk when the second is saved, and then another one. -/
theorem losesMany_two_transfers :
    let after := final Ledger.record (final Ledger.record
        (start ⟨ascii "states", 2, 86400⟩ fun _ => none)
        [.saveState (twoChunkState 1), .saveState (twoChunkState 2),
          .markChunkReceived 1 (twoChunkState 1).id 0])
      [.markChunkReceived 2 (twoChunkState 2).id 0, .markChunkReceived 2 (twoChunkState 1).id 1]
    after.saved (twoChunkState 1).id = some (twoChunkState 1) ∧
      after.handler.files (after.handler.stateFile (twoChunkState 1).id) =
        some (serializeStateToJson (twoChunkState 1)) ∧
      2 ≤ (after.missing (twoChunkState 1).id).card := by
  have started := start_consistent ⟨ascii "states", 2, 86400⟩ (fun _ => none) (by decide)
    fun _ => rfl
  have one := @Consistent.record _ started (.saveState (twoChunkState 1)) trivial
  have both := @Consistent.record _ one (.saveState (twoChunkState 2)) trivial
  have marked := @Consistent.record _ both (.markChunkReceived 1 (twoChunkState 1).id 0)
    fun due => absurd due (by decide +kernel)
  exact losesMany_of_checkpoint_elsewhere marked (by decide) rfl (by decide +kernel) (by decide) rfl
    rfl (by decide +kernel) 2 [1] (by decide) rfl (by decide) (by decide)

/-- Two transfers, one after the other, with a checkpoint on every second mark. -/
theorem losesFew_one_after_other :
    (final Ledger.record (start ⟨ascii "states", 2, 86400⟩ fun _ => none)
      [.saveState (twoChunkState 1), .saveState (twoChunkState 2),
        .markChunkReceived 1 (twoChunkState 1).id 0, .markChunkReceived 2 (twoChunkState 1).id 1,
        .markChunkReceived 3 (twoChunkState 2).id 0]).LosesFew 2 := by
  apply losesFew_of_checkpointAlone ⟨ascii "states", 2, 86400⟩ (fun _ => none) (by decide)
    (fun _ => rfl)
  refine ⟨trivial, trivial, fun due => absurd due (by decide +kernel), fun _ => ?_,
    fun due => absurd due (by decide +kernel), trivial⟩
  intro other distinct
  have nothing : Function.update (fun _ => (∅ : Finset Nat)) (twoChunkState 1).id ∅ = fun _ => ∅ :=
    Function.update_eq_self _ _
  apply missing_of_pending
  change Function.update (Function.update (Function.update (fun _ => (∅ : Finset Nat))
    (twoChunkState 1).id ∅) (twoChunkState 2).id ∅) (twoChunkState 1).id _ other = ∅
  rw [Function.update_of_ne distinct, nothing, Function.update_eq_self (twoChunkState 2).id]

/-- Two transfers in turn: the checkpoint saves the second, and both chunks of the
first are missing from its file. -/
theorem interleaved_marks_lost :
    ¬ (final Ledger.record (start ⟨ascii "states", 2, 86400⟩ fun _ => none)
      [.saveState (twoChunkState 1), .saveState (twoChunkState 2),
        .markChunkReceived 1 (twoChunkState 1).id 0, .markChunkReceived 2 (twoChunkState 2).id 0,
        .markChunkReceived 3 (twoChunkState 1).id 1]).LosesFew 2 := by
  intro few
  have lost := (few (twoChunkState 1).id (twoChunkState 1) rfl).2
  exact absurd lost (by decide +kernel)

end Ledger

end FileTrans.Resume
