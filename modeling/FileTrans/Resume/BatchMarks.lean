import FileTrans.Resume.ReceivedQueries
import FileTrans.Resume.Sections

/-!
# Marks of several chunks at once

`mark_chunks_received` checks an index and sets its bit in the same turn of its loop.
An index out of range stops the loop, and the bits of the indices before it stay set
in the entry of the cache.
-/

namespace FileTrans.Resume

open Core Text Storage
open FileTrans.Transition

namespace TransferState

/-- The state with the listed chunks received. -/
def withReceived (state : TransferState) (indices : List UInt32) : TransferState :=
  { state with
    chunkBitmap := state.chunkBitmap.mapIdx fun position bit =>
      bit || indices.any fun index => index.toNat == position }

@[simp]
theorem withReceived_nil (state : TransferState) : state.withReceived [] = state := by
  have same : state.chunkBitmap.mapIdx (fun _ bit => bit) = state.chunkBitmap := by
    apply List.ext_getElem <;> simp
  simp [withReceived, same]

theorem withReceived_setReceived (state : TransferState) (index : UInt32) (rest : List UInt32) :
    (state.setReceived index).withReceived rest = state.withReceived (index :: rest) := by
  unfold withReceived setReceived
  congr 1
  apply List.ext_getElem
  · simp
  · intro position _ _
    by_cases same : index.toNat = position
    · simp [same]
    · have other : (index.toNat == position) = false := beq_false_of_ne same
      simp [same, other]

theorem setAllReceived_snd (state : TransferState) (indices : List UInt32) :
    (state.setAllReceived indices).2 =
      state.withReceived (indices.takeWhile fun index => index < state.totalChunks) := by
  induction indices generalizing state with
  | nil => exact state.withReceived_nil.symm
  | cons index rest ih =>
      unfold setAllReceived
      by_cases outside : state.totalChunks ≤ index
      · simp [outside]
      · have inside : index < state.totalChunks := UInt32.not_le.mp outside
        rw [if_neg outside, ih, List.takeWhile_cons_of_pos (by simpa using inside)]
        exact withReceived_setReceived state index _

theorem setAllReceived_fst (state : TransferState) (indices : List UInt32) :
    (state.setAllReceived indices).1 = true ↔ ∀ index ∈ indices, index < state.totalChunks := by
  induction indices generalizing state with
  | nil => simp [setAllReceived]
  | cons index rest ih =>
      unfold setAllReceived
      by_cases outside : state.totalChunks ≤ index
      · simp [outside]
      · rw [if_neg outside, ih, List.forall_mem_cons]
        exact (and_iff_right (UInt32.not_le.mp outside)).symm

theorem setAllReceived_of_inside {state : TransferState} {indices : List UInt32}
    (inside : ∀ index ∈ indices, index < state.totalChunks) :
    state.setAllReceived indices = (true, state.withReceived indices) := by
  apply Prod.ext
  · exact (state.setAllReceived_fst indices).mpr inside
  · rw [setAllReceived_snd, List.takeWhile_eq_self_iff.mpr (by simpa using inside)]

theorem received_withReceived (state : TransferState) (indices : List UInt32) (position : Nat) :
    (state.withReceived indices).received position = true ↔
      state.received position = true ∨
        position < state.chunkBitmap.length ∧ ∃ index ∈ indices, index.toNat = position := by
  unfold received withReceived
  by_cases bit : position < state.chunkBitmap.length
  · simp [bit]
  · simp [bit]

theorem received_withReceived_iff (state : TransferState) (indices : List UInt32) :
    (∀ position, (state.withReceived indices).received position = true ↔
      state.received position = true ∨ ∃ index ∈ indices, index.toNat = position) ↔
      ∀ index ∈ indices, index.toNat < state.chunkBitmap.length := by
  simp only [received_withReceived]
  constructor
  · intro added index mem
    rcases (added index.toNat).mpr (.inr ⟨index, mem, rfl⟩) with received | ⟨bit, -⟩
    · by_contra outside
      simp [TransferState.received, List.getElem?_eq_none (Nat.not_lt.mp outside)] at received
    · exact bit
  · intro bits position
    apply or_congr_right
    constructor
    · exact And.right
    · rintro ⟨index, mem, rfl⟩
      exact ⟨bits index mem, index, mem, rfl⟩

theorem withReceived_eq_self_iff (state : TransferState) (indices : List UInt32) :
    state.withReceived indices = state ↔
      ∀ index ∈ indices, index.toNat < state.chunkBitmap.length →
        state.received index.toNat = true := by
  constructor
  · intro same index mem bit
    rw [← same]
    exact (received_withReceived state indices index.toNat).mpr
      (.inr ⟨bit, index, mem, rfl⟩)
  · intro received
    have same : (state.chunkBitmap.mapIdx fun position bit =>
        bit || indices.any fun index => index.toNat == position) = state.chunkBitmap := by
      apply List.ext_getElem
      · simp
      · intro position _ bit
        cases set : state.chunkBitmap[position] with
        | true => simp [set]
        | false =>
            have absent : ∀ index ∈ indices, index.toNat ≠ position := by
              rintro index mem rfl
              have bitSet := received index mem bit
              simp [TransferState.received, bit, set] at bitSet
            simpa [set] using absent
    exact congrArg (fun bitmap => { state with chunkBitmap := bitmap }) same

end TransferState

namespace ResumeHandler

/-- No later operation tells the handlers apart: every state that is loaded, every query for a
chunk and every file that is written are the same. -/
def SameLater (first second : ResumeHandler) : Prop :=
  ∀ operations,
    (∀ opens id, (final operate second operations).lookup opens id =
      (final operate first operations).lookup opens id) ∧
    (∀ id index, (final operate second operations).isChunkReceived id index =
      (final operate first operations).isChunkReceived id index) ∧
    (final operate second operations).files = (final operate first operations).files

/-- The marks are made together or not at all: a call with an index out of range does nothing but
load the state, and a call that succeeds adds exactly the listed chunks and writes the file. -/
structure MarksTogether (handler : ResumeHandler) (opens : Path → Bool) (disk : WriteOutcome)
    (now : Int64) (id : TransferId) (chunkIndices : List UInt32) : Prop where
  rejected : (handler.markChunksReceived opens disk now id chunkIndices).1 = some outOfRange →
    SameLater (handler.loadState opens id).2
      (handler.markChunksReceived opens disk now id chunkIndices).2
  accepted : ∀ state, (handler.loadState opens id).1 = some (.ok state) →
    (handler.markChunksReceived opens disk now id chunkIndices).1 = some (.ok ()) →
    ∃ marked,
      (handler.markChunksReceived opens disk now id chunkIndices).2.cache id = some marked ∧
      (∀ position, marked.received position = true ↔
        state.received position = true ∨ ∃ index ∈ chunkIndices, index.toNat = position) ∧
      (handler.markChunksReceived opens disk now id chunkIndices).2.files
        (handler.stateFile id) = some (serializeStateToJson marked)

/-- The file of a transfer holds the text of a state after a save that reports success: the
state is that of the transfer and the disk takes the text whole, or the file held it before. -/
def Persists (handler : ResumeHandler) (disk : WriteOutcome) (id : TransferId)
    (state : TransferState) : Prop :=
  if state.id = id then disk.reached (serializeStateToJson state) = serializeStateToJson state
  else handler.files (handler.stateFile id) = some (serializeStateToJson state)

/-- Where an index is out of range, the chunks listed before it were received.  Where none is
and the save reports success, every listed chunk has a bit and the file is written whole. -/
def MarksInTurn (handler : ResumeHandler) (disk : WriteOutcome) (now : Int64) (id : TransferId)
    (chunkIndices : List UInt32) (state : TransferState) : Prop :=
  ((∀ index ∈ chunkIndices, index < state.totalChunks) →
    disk.opens = true → disk.noticed = false →
      (∀ index ∈ chunkIndices, index.toNat < state.chunkBitmap.length) ∧
        handler.Persists disk id { state.withReceived chunkIndices with lastActivity := now }) ∧
  ((¬ ∀ index ∈ chunkIndices, index < state.totalChunks) →
    ∀ index ∈ chunkIndices.takeWhile fun index => index < state.totalChunks,
      index.toNat < state.chunkBitmap.length → state.received index.toNat = true)

variable {handler : ResumeHandler} {opens : Path → Bool} {disk : WriteOutcome} {now : Int64}
variable {id : TransferId} {chunkIndices : List UInt32} {state : TransferState}

theorem markChunksReceived_of_loaded
    (loaded : (handler.loadState opens id).1 = some (.ok state)) :
    handler.markChunksReceived opens disk now id chunkIndices =
      (some ((handler.loadState opens id).2.markAllCached disk now id state chunkIndices).1,
        ((handler.loadState opens id).2.markAllCached disk now id state chunkIndices).2) := by
  unfold markChunksReceived withState
  rcases load : handler.loadState opens id with ⟨result, next⟩
  rw [load] at loaded
  cases loaded
  rfl

theorem markChunksReceived_of_failed
    (failed : ∀ state, (handler.loadState opens id).1 ≠ some (.ok state)) :
    (handler.markChunksReceived opens disk now id chunkIndices).2 =
      (handler.loadState opens id).2 := by
  unfold markChunksReceived withState
  rcases load : handler.loadState opens id with ⟨_ | _ | state, next⟩
  · rfl
  · rfl
  · exact absurd (congrArg Prod.fst load) (failed state)

theorem cache_of_loaded (loaded : (handler.loadState opens id).1 = some (.ok state)) :
    (handler.loadState opens id).2.cache id = some state := by
  unfold loadState at loaded ⊢
  cases cached : handler.cache id with
  | some entry =>
      rw [cached] at loaded
      cases loaded
      exact cached
  | none =>
      simp only [cached] at loaded ⊢
      rcases read : handler.readStateFile opens id with _ | _ | entry <;> rw [read] at loaded <;>
        cases loaded
      exact Function.update_self _ _ _

theorem result_eq_ok_iff (disk : WriteOutcome) :
    disk.result = .ok () ↔ disk.opens = true ∧ disk.noticed = false := by
  rcases disk with ⟨_ | _, reaches, _ | _⟩ <;> simp [WriteOutcome.result, unexpected]

theorem result_ne_outOfRange (disk : WriteOutcome) : disk.result ≠ outOfRange := by
  rcases disk with ⟨_ | _, reaches, _ | _⟩ <;>
    simp [WriteOutcome.result, outOfRange, unexpected]

theorem sameLater_insert_iff {entry : TransferState} (cached : handler.cache id = some state) :
    SameLater handler (handler.insert id entry) ↔ entry = state := by
  constructor
  · intro same
    have first := (same []).1 (fun _ => true) id
    rw [final_nil, final_nil, lookup_of_cached handler _ cached,
      lookup_of_cached (handler.insert id entry) _ (Function.update_self _ _ _)] at first
    exact Except.ok.inj (Option.some.inj first)
  · rintro rfl operations
    rw [insert_eq_self cached]
    exact ⟨fun _ _ => rfl, fun _ _ => rfl, rfl⟩

theorem saveState_persists_iff {marked : TransferState}
    (opened : disk.opens = true) :
    ((handler.insert id marked).saveState disk marked).2.files (handler.stateFile id) =
      some (serializeStateToJson marked) ↔ handler.Persists disk id marked := by
  have path : (handler.insert id marked).stateFile = handler.stateFile := rfl
  rw [saveState_snd, path, Persists]
  dsimp only
  by_cases own : marked.id = id
  · subst own
    simp [WriteOutcome.leaves, opened]
  · have distinct : handler.stateFile id ≠ handler.stateFile marked.id :=
      fun equal => own (handler.stateFile_injective equal).symm
    rw [if_neg own, Function.update_of_ne distinct]
    rfl

theorem saveState_cache {marked : TransferState} :
    ((handler.insert id marked).saveState disk marked).2.cache id = some marked := by
  rw [saveState_snd]
  by_cases own : marked.id = id
  · subst own
    exact Function.update_self _ _ _
  · simp [insert, Function.update_of_ne (Ne.symm own)]

theorem persists_loaded (entry : TransferState) :
    (handler.loadState opens id).2.Persists disk id entry ↔ handler.Persists disk id entry := by
  have same := sameLookups_loadState handler opens id
  rw [Persists, Persists, stateFile_of_config same.1, same.2.1]

theorem marksInTurn_of_inside (inside : ∀ index ∈ chunkIndices, index < state.totalChunks) :
    handler.MarksInTurn disk now id chunkIndices state ↔
      (disk.opens = true → disk.noticed = false →
        (∀ index ∈ chunkIndices, index.toNat < state.chunkBitmap.length) ∧
          handler.Persists disk id
            { state.withReceived chunkIndices with lastActivity := now }) := by
  constructor
  · exact fun inTurn => inTurn.1 inside
  · exact fun whole => ⟨fun _ => whole, fun outside => absurd inside outside⟩

theorem marksInTurn_of_outside (outside : ¬ ∀ index ∈ chunkIndices, index < state.totalChunks) :
    handler.MarksInTurn disk now id chunkIndices state ↔
      ∀ index ∈ chunkIndices.takeWhile fun index => index < state.totalChunks,
        index.toNat < state.chunkBitmap.length → state.received index.toNat = true := by
  constructor
  · exact fun inTurn => inTurn.2 outside
  · exact fun received => ⟨fun inside => absurd inside outside, fun _ => received⟩

/-- The marks of a call are made together exactly if the state cannot be loaded, or the loop
meets no index out of range after a chunk that was missing and the save is whole. -/
theorem marksTogether_iff (handler : ResumeHandler) (opens : Path → Bool) (disk : WriteOutcome)
    (now : Int64) (id : TransferId) (chunkIndices : List UInt32) :
    handler.MarksTogether opens disk now id chunkIndices ↔
      ∀ state, (handler.loadState opens id).1 = some (.ok state) →
        handler.MarksInTurn disk now id chunkIndices state := by
  by_cases loads : ∃ state, (handler.loadState opens id).1 = some (.ok state)
  · obtain ⟨state, loaded⟩ := loads
    have cached := cache_of_loaded loaded
    have path := stateFile_of_config (sameLookups_loadState handler opens id).1
    have call := @markChunksReceived_of_loaded handler opens disk now id chunkIndices state loaded
    have only : (∀ other, (handler.loadState opens id).1 = some (.ok other) →
        handler.MarksInTurn disk now id chunkIndices other) ↔
        handler.MarksInTurn disk now id chunkIndices state := by
      constructor
      · exact fun every => every state loaded
      · rintro holds other found
        cases loaded.symm.trans found
        exact holds
    rw [only]
    by_cases inside : ∀ index ∈ chunkIndices, index < state.totalChunks
    · let marked := { state.withReceived chunkIndices with lastActivity := now }
      have saves : (handler.loadState opens id).2.markAllCached disk now id state chunkIndices =
          ((handler.loadState opens id).2.insert id marked).saveState disk marked := by
        simp only [markAllCached, TransferState.setAllReceived_of_inside inside, if_true]
        rfl
      rw [saves, saveState_fst] at call
      rw [marksInTurn_of_inside inside]
      constructor
      · rintro ⟨-, accepted⟩ opened unnoticed
        have success := (result_eq_ok_iff disk).mpr ⟨opened, unnoticed⟩
        obtain ⟨entry, held, added, file⟩ := accepted state loaded (by rw [call, success])
        rw [call] at held file
        cases saveState_cache.symm.trans held
        rw [← path] at file
        exact ⟨(state.received_withReceived_iff chunkIndices).mp added,
          (persists_loaded marked).mp ((saveState_persists_iff opened).mp file)⟩
      · intro whole
        refine ⟨fun refused => ?_, fun other found succeeded => ?_⟩
        · rw [call] at refused
          exact absurd (Option.some.inj refused) (result_ne_outOfRange disk)
        · cases loaded.symm.trans found
          rw [call] at succeeded
          have success := (result_eq_ok_iff disk).mp (Option.some.inj succeeded)
          obtain ⟨bits, persists⟩ := whole success.1 success.2
          refine ⟨marked, ?_, (state.received_withReceived_iff chunkIndices).mpr bits, ?_⟩
          · rw [call]
            exact saveState_cache
          · rw [call, ← path]
            exact (saveState_persists_iff success.1).mpr ((persists_loaded marked).mpr persists)
    · have stops : ¬ (state.setAllReceived chunkIndices).1 = true := by
        rwa [TransferState.setAllReceived_fst]
      have left : (handler.loadState opens id).2.markAllCached disk now id state chunkIndices =
          (outOfRange, (handler.loadState opens id).2.insert id
            (state.setAllReceived chunkIndices).2) := by
        simp only [markAllCached, stops]
        rfl
      rw [left] at call
      rw [marksInTurn_of_outside inside, ← TransferState.withReceived_eq_self_iff,
        ← TransferState.setAllReceived_snd, ← sameLater_insert_iff cached]
      constructor
      · rintro ⟨rejected, -⟩
        have same := rejected (by rw [call])
        rwa [call] at same
      · intro same
        refine ⟨fun _ => by rwa [call], fun other _ succeeded => ?_⟩
        rw [call] at succeeded
        cases succeeded
  · have failed := not_exists.mp loads
    refine iff_of_true ⟨fun _ => ?_, fun state loaded => absurd loaded (failed state)⟩
      fun state loaded => absurd loaded (failed state)
    rw [markChunksReceived_of_failed failed]
    exact fun _ => ⟨fun _ _ => rfl, fun _ _ => rfl, rfl⟩

/-- Chunk 0 stays marked when the call is refused for chunk 5 of two. -/
theorem marksTogether_not_out_of_range :
    ¬ ∀ (handler : ResumeHandler) (opens : Path → Bool) (disk : WriteOutcome) (now : Int64)
      (id : TransferId) (chunkIndices : List UInt32),
      handler.MarksTogether opens disk now id chunkIndices := by
  intro every
  let state : TransferState := ⟨.zero, ascii "file", 2, 0, 2, [false, false], [], 0, 0⟩
  let handler := (create ⟨ascii "states", 10, 86400⟩ fun _ => none).insert .zero state
  have together := every handler (fun _ => true) .success 7 .zero [0, 5]
  have same := (together.rejected rfl []).2.1 .zero 0
  exact absurd same (by decide)

end ResumeHandler

end FileTrans.Resume
