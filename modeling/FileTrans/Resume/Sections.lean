import FileTrans.Resume.Loading
import FileTrans.Resume.Threads

/-!
# What the sections of an operation do

Used by one thread, an operation is its sections in sequence: a load, the
section that finds the state in the cache, and for the operations that save a
`save_state` of the entry that this section left.
-/

namespace FileTrans.Resume

open Core Storage

/-! ## Saves -/

namespace WriteOutcome

/-- The disk takes the text whole. -/
def Whole (disk : WriteOutcome) : Prop :=
  disk.opens = true ∧ disk.reaches = none

/-- What a save leaves of its file. -/
def leaves (disk : WriteOutcome) (text : Bytes) (old : Option Bytes) : Option Bytes :=
  if disk.opens then some (disk.reached text) else old

theorem Whole.leaves {disk : WriteOutcome} (whole : disk.Whole) (text : Bytes)
    (old : Option Bytes) : disk.leaves text old = some text := by
  unfold WriteOutcome.leaves reached
  rw [if_pos whole.1, whole.2]

end WriteOutcome

namespace ResumeHandler

theorem saveState_fst (handler : ResumeHandler) (disk : WriteOutcome) (state : TransferState) :
    (handler.saveState disk state).1 = disk.result := by
  unfold saveState WriteOutcome.result
  dsimp only
  split
  · split <;> rfl
  · rfl

theorem saveState_snd (handler : ResumeHandler) (disk : WriteOutcome) (state : TransferState) :
    (handler.saveState disk state).2 = { handler.insert state.id state with
      files := Function.update handler.files (handler.stateFile state.id)
        (disk.leaves (serializeStateToJson state)
          (handler.files (handler.stateFile state.id))) } := by
  unfold saveState WriteOutcome.leaves
  dsimp only
  by_cases opens : disk.opens = true
  · rw [if_pos opens, if_pos opens]
    split <;> rfl
  · rw [if_neg opens, if_neg opens, Function.update_eq_self]
    rfl

variable {handler : ResumeHandler} {state : TransferState} {call : LoadingCall}
  {fates : CallFates}

theorem insert_eq_self {id : TransferId} (cached : handler.cache id = some state) :
    handler.insert id state = handler := by
  unfold insert
  rw [Function.update_eq_self_iff.mpr cached.symm]

theorem saveState_cached (cached : handler.cache state.id = some state) (disk : WriteOutcome) :
    (handler.saveState disk state).2 = { handler with
      files := Function.update handler.files (handler.stateFile state.id)
        (disk.leaves (serializeStateToJson state)
          (handler.files (handler.stateFile state.id))) } := by
  rw [saveState_snd, insert_eq_self cached]

/-! ## Sections -/

/-- The answer of a section, if it returns, the entry that it leaves, and the count of marks
since the last checkpoint. -/
def sectionResult (config : ResumeHandlerConfig) (count : UInt32) (now : Int64)
    (state : TransferState) : LoadingCall → Option HandlerAnswer × TransferState × UInt32
  | .loadState _ => (some (.loaded (some (.ok state))), state, count)
  | .getMissingChunks _ => (some (.missing (some (.ok state.missingChunks))), state, count)
  | .markChunkReceived _ chunkIndex =>
      if state.totalChunks ≤ chunkIndex then (some (.marked (some outOfRange)), state, count)
      else
        let marked := { state.setReceived chunkIndex with lastActivity := now }
        if config.checkpointInterval ≤ count + 1 then (none, marked, 0)
        else (some (.marked (some (.ok ()))), marked, count + 1)
  | .markChunksReceived _ chunkIndices =>
      let marked := state.setAllReceived chunkIndices
      if marked.1 then (none, { marked.2 with lastActivity := now }, count)
      else (some (.marked (some outOfRange)), marked.2, count)

/-- The handler with another entry and another count of marks. -/
def withEntry (handler : ResumeHandler) (id : TransferId) (entry : TransferState)
    (count : UInt32) : ResumeHandler :=
  { handler.insert id entry with chunksSinceCheckpoint := count }

@[simp]
theorem withEntry_cache_self (handler : ResumeHandler) (id : TransferId) (entry : TransferState)
    (count : UInt32) : (handler.withEntry id entry count).cache id = some entry :=
  Function.update_self id _ _

theorem withEntry_cache_of_ne (handler : ResumeHandler) {id other : TransferId}
    (distinct : other ≠ id) (entry : TransferState) (count : UInt32) :
    (handler.withEntry id entry count).cache other = handler.cache other :=
  Function.update_of_ne distinct _ _

theorem cachedSection_eq (cached : handler.cache call.id = some state) (now : Int64) :
    handler.cachedSection now state call =
      ((sectionResult handler.config handler.chunksSinceCheckpoint now state call).1,
        handler.withEntry call.id
          (sectionResult handler.config handler.chunksSinceCheckpoint now state call).2.1
          (sectionResult handler.config handler.chunksSinceCheckpoint now state call).2.2) := by
  have unchanged : handler.withEntry call.id state handler.chunksSinceCheckpoint = handler := by
    unfold withEntry
    rw [insert_eq_self cached]
  cases call with
  | loadState id =>
      unfold cachedSection sectionResult
      exact Prod.ext rfl unchanged.symm
  | getMissingChunks id =>
      unfold cachedSection sectionResult
      exact Prod.ext rfl unchanged.symm
  | markChunkReceived id chunkIndex =>
      unfold cachedSection sectionResult
      dsimp only
      split
      · exact Prod.ext rfl unchanged.symm
      · split <;> rfl
  | markChunksReceived id chunkIndices =>
      unfold cachedSection sectionResult
      dsimp only
      split <;> rfl

theorem call_loading {loaded : ResumeHandler}
    (load : handler.loadState (fun _ => fates.opens) call.id = (some (.ok state), loaded)) :
    handler.call (.loading call, fates) =
      match (sectionResult loaded.config loaded.chunksSinceCheckpoint fates.now state call).1 with
      | some answer => (answer, (loaded.cachedSection fates.now state call).2)
      | none => answering (fun result => .marked (some result))
          ((loaded.cachedSection fates.now state call).2.saveState fates.disk
            (sectionResult loaded.config loaded.chunksSinceCheckpoint fates.now state
              call).2.1) := by
  cases call with
  | loadState id =>
      exact congrArg (answering .loaded) load
  | getMissingChunks id =>
      dsimp only [LoadingCall.id] at load
      dsimp only [ResumeHandler.call, getMissingChunks, withState]
      rw [load]
      rfl
  | markChunkReceived id chunkIndex =>
      dsimp only [LoadingCall.id] at load
      dsimp only [ResumeHandler.call, markChunkReceived, withState]
      rw [load]
      dsimp only [markCached, cachedSection, sectionResult, LoadingCall.id]
      by_cases range : state.totalChunks ≤ chunkIndex
      · rw [if_pos range, if_pos range, if_pos range]
        rfl
      · rw [if_neg range, if_neg range, if_neg range]
        by_cases due : loaded.config.checkpointInterval ≤ loaded.chunksSinceCheckpoint + 1
        · rw [if_pos due, if_pos due, if_pos due]
          rfl
        · rw [if_neg due, if_neg due, if_neg due]
          rfl
  | markChunksReceived id chunkIndices =>
      dsimp only [LoadingCall.id] at load
      dsimp only [ResumeHandler.call, markChunksReceived, withState]
      rw [load]
      dsimp only [markAllCached, cachedSection, sectionResult, LoadingCall.id]
      by_cases every : (state.setAllReceived chunkIndices).1 = true
      · rw [if_pos every, if_pos every, if_pos every]
        rfl
      · rw [if_neg every, if_neg every, if_neg every]
        rfl

/-- A call that one thread alone makes, of a state with one bit per chunk or on an entry that
it saves under the identifier of the call. -/
def Orderly (handler : ResumeHandler) (input : HandlerCall × CallFates) : Prop :=
  match input.1 with
  | .saveState state => state.WellSized
  | .deleteState _ => True
  | .loading call => ∀ state loaded,
      handler.loadState (fun _ => input.2.opens) call.id = (some (.ok state), loaded) →
      (sectionResult loaded.config loaded.chunksSinceCheckpoint input.2.now state call).1 =
        none → state.id = call.id

theorem orderly_of_loaded {loaded : ResumeHandler}
    (load : handler.loadState (fun _ => fates.opens) call.id = (some (.ok state), loaded))
    (own : (sectionResult loaded.config loaded.chunksSinceCheckpoint fates.now state call).1 =
      none → state.id = call.id) : handler.Orderly (.loading call, fates) := by
  intro other otherLoaded otherLoad saves
  obtain ⟨same, rfl⟩ := Prod.mk.inj (load.symm.trans otherLoad)
  obtain rfl : state = other := Except.ok.inj (Option.some.inj same)
  exact own saves

theorem orderly_of_failed {failure : Option Error}
    (load : handler.loadState (fun _ => fates.opens) call.id = (failure.map .error, handler)) :
    handler.Orderly (.loading call, fates) := by
  intro state loaded otherLoad
  have same := (Prod.mk.inj (load.symm.trans otherLoad)).1
  cases failure <;> cases same

theorem call_failed {failure : Option Error}
    (load : handler.loadState (fun _ => fates.opens) call.id = (failure.map .error, handler)) :
    handler.call (.loading call, fates) = (call.failure failure, handler) := by
  cases call with
  | loadState id => exact congrArg (answering .loaded) load
  | _ =>
      dsimp only [ResumeHandler.call, getMissingChunks, markChunkReceived, markChunksReceived,
        withState]
      dsimp only [LoadingCall.id] at load
      rw [load]
      cases failure <;> rfl

end ResumeHandler

/-! ## Entries -/

namespace TransferState

theorem setAllReceived_id (state : TransferState) (indices : List UInt32) :
    (state.setAllReceived indices).2.id = state.id := by
  induction indices generalizing state with
  | nil => rfl
  | cons index rest ih =>
      unfold setAllReceived
      split
      · rfl
      · exact ih (state.setReceived index)

variable {state : TransferState}

theorem wellSized_setReceived (sized : state.WellSized) (index : UInt32) :
    (state.setReceived index).WellSized := by
  unfold WellSized setReceived
  rw [List.length_set]
  exact sized

theorem wellSized_setAllReceived (sized : state.WellSized) (indices : List UInt32) :
    (state.setAllReceived indices).2.WellSized := by
  induction indices generalizing state with
  | nil => exact sized
  | cons index rest ih =>
      unfold setAllReceived
      split
      · exact sized
      · exact ih (wellSized_setReceived sized index)

theorem received_setReceived {index : Nat} (received : state.received index = true)
    (other : UInt32) : (state.setReceived other).received index = true := by
  unfold TransferState.received setReceived at *
  dsimp only
  rw [List.getD_eq_getElem?_getD, List.getElem?_set]
  split
  · split
    · rfl
    · rename_i same outside
      rw [List.getD_eq_getElem?_getD, List.getElem?_eq_none (by omega)] at received
      contradiction
  · rwa [← List.getD_eq_getElem?_getD]

theorem received_setAllReceived {index : Nat} (received : state.received index = true)
    (indices : List UInt32) : (state.setAllReceived indices).2.received index = true := by
  induction indices generalizing state with
  | nil => exact received
  | cons first rest ih =>
      unfold setAllReceived
      split
      · exact received
      · exact ih (received_setReceived received first)

theorem received_setReceived_self (sized : state.WellSized) {index : UInt32}
    (inside : ¬ state.totalChunks ≤ index) :
    (state.setReceived index).received index.toNat = true := by
  unfold TransferState.received setReceived
  dsimp only
  rw [List.getD_eq_getElem?_getD, List.getElem?_set, if_pos rfl, if_pos]
  · rfl
  · rw [sized]
    exact UInt32.lt_iff_toNat_lt.mp (UInt32.not_le.mp inside)

theorem received_of_setAllReceived (sized : state.WellSized) {indices : List UInt32}
    (every : (state.setAllReceived indices).1 = true) {index : UInt32} (mem : index ∈ indices) :
    (state.setAllReceived indices).2.received index.toNat = true := by
  induction indices generalizing state with
  | nil => contradiction
  | cons first rest ih =>
      unfold setAllReceived at every ⊢
      by_cases range : state.totalChunks ≤ first
      · rw [if_pos range] at every
        contradiction
      · rw [if_neg range] at every ⊢
        rcases List.mem_cons.mp mem with rfl | later
        · exact received_setAllReceived (received_setReceived_self sized range) rest
        · exact ih (wellSized_setReceived sized first) every later

end TransferState

section

variable {config : ResumeHandlerConfig} {count : UInt32} {now : Int64} {state : TransferState}
variable {call : LoadingCall}

theorem sectionResult_id :
    (ResumeHandler.sectionResult config count now state call).2.1.id = state.id := by
  cases call with
  | markChunkReceived id chunkIndex =>
      unfold ResumeHandler.sectionResult
      dsimp only
      split
      · rfl
      · split <;> rfl
  | markChunksReceived id chunkIndices =>
      unfold ResumeHandler.sectionResult
      dsimp only
      split <;> exact state.setAllReceived_id chunkIndices
  | _ => rfl

theorem sectionResult_wellSized (sized : state.WellSized) :
    (ResumeHandler.sectionResult config count now state call).2.1.WellSized := by
  cases call with
  | markChunkReceived id chunkIndex =>
      unfold ResumeHandler.sectionResult
      dsimp only
      split
      · exact sized
      · split <;> exact TransferState.wellSized_setReceived sized chunkIndex
  | markChunksReceived id chunkIndices =>
      unfold ResumeHandler.sectionResult
      dsimp only
      split <;> exact TransferState.wellSized_setAllReceived sized chunkIndices
  | _ => exact sized

theorem sectionResult_received {index : Nat} (received : state.received index = true) :
    (ResumeHandler.sectionResult config count now state call).2.1.received index = true := by
  cases call with
  | markChunkReceived id chunkIndex =>
      unfold ResumeHandler.sectionResult
      dsimp only
      split
      · exact received
      · split <;> exact TransferState.received_setReceived received chunkIndex
  | markChunksReceived id chunkIndices =>
      unfold ResumeHandler.sectionResult
      dsimp only
      split <;> exact TransferState.received_setAllReceived received chunkIndices
  | _ => exact received

end

end FileTrans.Resume
