import FileTrans.Resume.Interleaving

/-!
# Received chunks and deleted transfers

Used by one thread, the handler does not report a chunk as missing that it
marked, and does not bring back a transfer that it deleted, until the transfer
is saved anew.
-/

namespace FileTrans.Resume

open Core Storage
open FileTrans.Transition

def HandlerCall.Marks (id : TransferId) (index : UInt32) : HandlerCall → Prop
  | .loading (.markChunkReceived other chunkIndex) => other = id ∧ chunkIndex = index
  | .loading (.markChunksReceived other chunkIndices) => other = id ∧ index ∈ chunkIndices
  | _ => False

/-- The call saves a state of the transfer, or deletes it. -/
def HandlerCall.Renews (id : TransferId) : HandlerCall → Prop
  | .saveState state => state.id = id
  | .deleteState other => other = id
  | .loading _ => False

namespace ResumeHandler

variable {handler : ResumeHandler} {id : TransferId} {index : UInt32}

/-- Every state in the cache has one bit per chunk. -/
def Sized (handler : ResumeHandler) : Prop :=
  ∀ id state, handler.cache id = some state → state.WellSized

/-- The state in the cache has the chunk as received. -/
def Holds (id : TransferId) (index : UInt32) (handler : ResumeHandler) : Prop :=
  ∃ state, handler.cache id = some state ∧ state.received index.toNat = true

/-- The transfer is neither in the cache nor in a file. -/
def Absent (id : TransferId) (handler : ResumeHandler) : Prop :=
  handler.cache id = none ∧ handler.files (handler.stateFile id) = none

theorem loadState_cases (handler : ResumeHandler) (opens : Path → Bool) (id : TransferId) :
    (∃ state, handler.cache id = some state ∧
      handler.loadState opens id = (some (.ok state), handler)) ∨
    (∃ state, handler.cache id = none ∧ handler.readStateFile opens id = some (.ok state) ∧
      handler.loadState opens id = (some (.ok state), handler.insert id state)) ∨
    ∃ failure, handler.cache id = none ∧
      handler.loadState opens id = (Option.map Except.error failure, handler) := by
  unfold loadState
  cases cached : handler.cache id with
  | some state => exact .inl ⟨state, rfl, rfl⟩
  | none =>
      right
      cases read : handler.readStateFile opens id with
      | none => exact .inr ⟨none, rfl, rfl⟩
      | some result =>
          cases result with
          | error error => exact .inr ⟨some error, rfl, rfl⟩
          | ok state => exact .inl ⟨state, rfl, rfl, rfl⟩

theorem insert_withEntry (handler : ResumeHandler) (id : TransferId)
    (state entry : TransferState) (count : UInt32) :
    (handler.insert id state).withEntry id entry count = handler.withEntry id entry count := by
  unfold withEntry insert
  rw [Function.update_idem]

/-- What an operation that loaded the state leaves. -/
def sectionLeft (handler : ResumeHandler) (call : LoadingCall) (fates : CallFates)
    (state : TransferState) : Option HandlerAnswer × TransferState × UInt32 :=
  sectionResult handler.config handler.chunksSinceCheckpoint fates.now state call

/-- The handler after an operation on the state: the entry is new, and perhaps the file. -/
def Loaded (handler : ResumeHandler) (call : LoadingCall) (fates : CallFates)
    (state : TransferState) : Prop :=
  ∃ files : FileSystem, (∀ path, path ≠ handler.stateFile call.id →
      files path = handler.files path) ∧
    handler.call (.loading call, fates) =
      ((handler.sectionLeft call fates state).1.getD (.marked (some fates.disk.result)),
        { handler.withEntry call.id (handler.sectionLeft call fates state).2.1
            (handler.sectionLeft call fates state).2.2 with files := files })

variable {call : LoadingCall} {fates : CallFates} {input : HandlerCall × CallFates}

theorem loaded_of_load {loaded : ResumeHandler} {state : TransferState}
    (load : handler.loadState (fun _ => fates.opens) call.id = (some (.ok state), loaded))
    (cached : loaded.cache call.id = some state)
    (same : loaded = handler ∨ loaded = handler.insert call.id state)
    (own : (handler.sectionLeft call fates state).1 = none → state.id = call.id) :
    handler.Loaded call fates state := by
  have called := call_loading load
  have config : loaded.config = handler.config := by
    rcases same with rfl | rfl <;> rfl
  have marks : loaded.chunksSinceCheckpoint = handler.chunksSinceCheckpoint := by
    rcases same with rfl | rfl <;> rfl
  have entries (entry : TransferState) (count : UInt32) :
      loaded.withEntry call.id entry count = handler.withEntry call.id entry count := by
    rcases same with rfl | rfl
    · rfl
    · exact insert_withEntry handler call.id state entry count
  have entryId : (handler.sectionLeft call fates state).2.1.id = state.id := sectionResult_id
  rw [cachedSection_eq cached, config, marks, entries] at called
  unfold Loaded
  unfold sectionLeft at own entryId ⊢
  generalize sectionResult handler.config handler.chunksSinceCheckpoint fates.now state call =
    left at *
  obtain ⟨returned, entry, newCount⟩ := left
  cases returned with
  | some answer => exact ⟨handler.files, fun _ _ => rfl, called⟩
  | none =>
      have named : entry.id = call.id := entryId.trans (own rfl)
      have kept : (handler.withEntry call.id entry newCount).cache entry.id = some entry := by
        rw [named]
        exact withEntry_cache_self handler call.id entry newCount
      have saved := saveState_cached kept fates.disk
      have answered := saveState_fst (handler.withEntry call.id entry newCount) fates.disk entry
      refine ⟨_, ?_, called.trans (Prod.ext ?_ saved)⟩
      · intro path distinct
        rw [named]
        exact Function.update_of_ne distinct _ _
      · exact congrArg (HandlerAnswer.marked ∘ some) answered

theorem loading_cases (orderly : handler.Orderly (.loading call, fates)) :
    (∃ failure, handler.cache call.id = none ∧
      handler.call (.loading call, fates) = (call.failure failure, handler)) ∨
    ∃ state, (handler.cache call.id = some state ∨ handler.cache call.id = none ∧
        handler.readStateFile (fun _ => fates.opens) call.id = some (.ok state)) ∧
      handler.Loaded call fates state := by
  rcases handler.loadState_cases (fun _ => fates.opens) call.id with
    ⟨state, cached, load⟩ | ⟨state, uncached, read, load⟩ | ⟨failure, uncached, load⟩
  · exact .inr ⟨state, .inl cached, loaded_of_load load cached (.inl rfl)
      (orderly state handler load)⟩
  · exact .inr ⟨state, .inr ⟨uncached, read⟩, loaded_of_load load
      (Function.update_self _ _ _) (.inr rfl)
      (orderly state (handler.insert call.id state) load)⟩
  · exact .inl ⟨failure, uncached, call_failed load⟩

section

variable {call : LoadingCall} {fates : CallFates} {state : TransferState}

theorem Loaded.cache_self (loaded : handler.Loaded call fates state) :
    (handler.call (.loading call, fates)).2.cache call.id =
      some (handler.sectionLeft call fates state).2.1 := by
  obtain ⟨files, -, called⟩ := loaded
  rw [called]
  exact withEntry_cache_self handler call.id _ (handler.sectionLeft call fates state).2.2

theorem Loaded.cache_of_ne (loaded : handler.Loaded call fates state) {other : TransferId}
    (distinct : other ≠ call.id) :
    (handler.call (.loading call, fates)).2.cache other = handler.cache other := by
  obtain ⟨files, -, called⟩ := loaded
  rw [called]
  exact withEntry_cache_of_ne handler distinct _ (handler.sectionLeft call fates state).2.2

theorem Loaded.files_of_ne (loaded : handler.Loaded call fates state) {other : TransferId}
    (distinct : other ≠ call.id) :
    (handler.call (.loading call, fates)).2.files (handler.stateFile other) =
      handler.files (handler.stateFile other) := by
  obtain ⟨files, kept, called⟩ := loaded
  rw [called]
  exact kept _ fun equal => distinct (handler.stateFile_injective equal)

end

theorem call_stateFile (orderly : handler.Orderly input) :
    (handler.call input).2.stateFile = handler.stateFile := by
  obtain ⟨call, fates⟩ := input
  cases call with
  | saveState state =>
      have called : (handler.call (.saveState state, fates)).2 = _ :=
        handler.saveState_snd fates.disk state
      rw [called]
      rfl
  | deleteState id =>
      exact deleteState_stateFile fates.message handler fates.removes id
  | loading call =>
      rcases loading_cases orderly with ⟨failure, -, failed⟩ | ⟨state, -, files, -, called⟩
      · rw [failed]
      · rw [called]
        rfl

theorem call_sized (sized : handler.Sized) (orderly : handler.Orderly input) :
    (handler.call input).2.Sized := by
  obtain ⟨call, fates⟩ := input
  intro other entry cached
  cases call with
  | saveState state =>
      have saved : (handler.call (.saveState state, fates)).2.cache other =
          (handler.insert state.id state).cache other :=
        congrFun (congrArg cache (handler.saveState_snd fates.disk state)) other
      rw [saved] at cached
      by_cases same : other = state.id
      · subst same
        have inserted : (handler.insert state.id state).cache state.id = some state :=
          Function.update_self _ _ _
        obtain rfl := Option.some.inj (inserted.symm.trans cached)
        exact orderly
      · exact sized other entry ((Function.update_of_ne same _ _).symm.trans cached)
  | deleteState id =>
      by_cases same : other = id
      · subst same
        have gone := (deleteState_self fates.message handler fates.removes other).1
        have none : none = some entry := gone.symm.trans cached
        contradiction
      · have kept := (deleteState_of_ne fates.message handler fates.removes same).1
        exact sized other entry (kept.symm.trans cached)
  | loading call =>
      rcases loading_cases orderly with ⟨failure, -, failed⟩ | ⟨state, found, loaded⟩
      · rw [failed] at cached
        exact sized other entry cached
      · by_cases same : other = call.id
        · subst same
          rw [loaded.cache_self] at cached
          obtain rfl := Option.some.inj cached
          apply sectionResult_wellSized
          rcases found with cached | ⟨-, read⟩
          · exact sized call.id state cached
          · exact SharedHandler.readStateFile_wellSized read
        · rw [loaded.cache_of_ne same] at cached
          exact sized other entry cached

theorem call_holds (holds : handler.Holds id index) (orderly : handler.Orderly input)
    (other : ¬ input.1.Renews id) : (handler.call input).2.Holds id index := by
  obtain ⟨call, fates⟩ := input
  obtain ⟨entry, cached, received⟩ := holds
  cases call with
  | saveState state =>
      have saved : (handler.call (.saveState state, fates)).2.cache id =
          (handler.insert state.id state).cache id :=
        congrFun (congrArg cache (handler.saveState_snd fates.disk state)) id
      have kept : (handler.insert state.id state).cache id = handler.cache id :=
        Function.update_of_ne (Ne.symm other) _ _
      exact ⟨entry, saved.trans (kept.trans cached), received⟩
  | deleteState deleted =>
      have kept := (deleteState_of_ne fates.message handler fates.removes (Ne.symm other)).1
      exact ⟨entry, kept.trans cached, received⟩
  | loading call =>
      rcases loading_cases orderly with ⟨failure, -, failed⟩ | ⟨state, found, loaded⟩
      · rw [failed]
        exact ⟨entry, cached, received⟩
      · by_cases same : id = call.id
        · subst same
          rcases found with found | ⟨uncached, -⟩
          · obtain rfl : entry = state := Option.some.inj (cached.symm.trans found)
            exact ⟨_, loaded.cache_self, sectionResult_received received⟩
          · rw [uncached] at cached
            contradiction
        · exact ⟨entry, (loaded.cache_of_ne same).trans cached, received⟩

theorem sectionResult_marks {config : ResumeHandlerConfig} {count : UInt32} {now : Int64}
    {state : TransferState} (sized : state.WellSized)
    (marks : HandlerCall.Marks id index (.loading call))
    (inside : (sectionResult config count now state call).1 ≠ some (.marked (some outOfRange))) :
    (sectionResult config count now state call).2.1.received index.toNat = true := by
  cases call with
  | loadState => exact marks.elim
  | getMissingChunks => exact marks.elim
  | markChunkReceived other chunkIndex =>
      obtain ⟨-, rfl⟩ := marks
      unfold sectionResult at inside ⊢
      dsimp only at inside ⊢
      by_cases range : state.totalChunks ≤ chunkIndex
      · rw [if_pos range] at inside
        exact absurd rfl inside
      · rw [if_neg range]
        split <;> exact TransferState.received_setReceived_self sized range
  | markChunksReceived other chunkIndices =>
      unfold sectionResult at inside ⊢
      dsimp only at inside ⊢
      by_cases every : (state.setAllReceived chunkIndices).1 = true
      · rw [if_pos every]
        exact TransferState.received_of_setAllReceived sized every marks.2
      · rw [if_neg every] at inside
        exact absurd rfl inside

theorem call_marks {call : HandlerCall} (sized : handler.Sized)
    (orderly : handler.Orderly (call, fates)) (marks : call.Marks id index)
    (done : (handler.call (call, fates)).1 = .marked (some (.ok ()))) :
    (handler.call (call, fates)).2.Holds id index := by
  cases call with
  | saveState => exact marks.elim
  | deleteState => exact marks.elim
  | loading call =>
      have named : call.id = id := by
        cases call with
        | loadState => exact marks.elim
        | getMissingChunks => exact marks.elim
        | markChunkReceived => exact marks.1
        | markChunksReceived => exact marks.1
      rcases loading_cases orderly with ⟨failure, -, failed⟩ | ⟨state, found, loaded⟩
      · rw [failed] at done
        cases call <;> cases failure <;> cases done
      · have wellSized : state.WellSized := by
          rcases found with cached | ⟨-, read⟩
          · exact sized call.id state cached
          · exact SharedHandler.readStateFile_wellSized read
        have cached := loaded.cache_self
        rw [named] at cached
        refine ⟨_, cached, sectionResult_marks wellSized marks ?_⟩
        intro outside
        obtain ⟨files, -, called⟩ := loaded
        rw [called] at done
        dsimp only [sectionLeft] at done
        rw [outside] at done
        cases done

theorem call_missing (holds : handler.Holds id index) {missing : List Nat}
    (reported : (handler.call (.loading (.getMissingChunks id), fates)).1 =
      .missing (some (.ok missing))) : index.toNat ∉ missing := by
  obtain ⟨state, cached, received⟩ := holds
  have load : handler.loadState (fun _ => fates.opens) id = (some (.ok state), handler) := by
    unfold loadState
    rw [cached]
  have called : handler.call (.loading (.getMissingChunks id), fates) = _ := call_loading load
  rw [called] at reported
  obtain rfl : state.missingChunks = missing := by
    cases reported
    rfl
  intro mem
  have lost := (List.mem_filter.mp mem).2
  rw [received] at lost
  contradiction

theorem deleteState_missing {removes : Bool} {message : Bytes}
    (missing : handler.files (handler.stateFile id) = none) :
    (handler.deleteState removes message id).2.files (handler.stateFile id) = none := by
  unfold deleteState
  have gone : ¬ handler.files.exist (handler.stateFile id) = true := by
    rw [FileSystem.exist, missing]
    exact Bool.false_ne_true
  rw [if_neg gone]
  exact missing

theorem call_deletes (done : (handler.call (.deleteState id, fates)).1 = .done (.ok ())) :
    (handler.call (.deleteState id, fates)).2.Absent id := by
  have removed := deleteState_self fates.message handler fates.removes id
  refine ⟨removed.1, ?_⟩
  have stays := deleteState_stateFile fates.message handler fates.removes id
  refine (congrArg _ (congrFun stays id)).trans ?_
  by_cases removes : fates.removes = true
  · exact removed.2 removes
  · apply deleteState_missing
    by_contra present
    have found : handler.files.exist (handler.stateFile id) = true :=
      Option.isSome_iff_ne_none.mpr present
    have failed : (handler.deleteState fates.removes fates.message id).1 ≠ .ok () := by
      unfold deleteState
      rw [if_pos found, if_neg removes]
      exact nofun
    exact failed (HandlerAnswer.done.inj done)

theorem call_absent (absent : handler.Absent id) (orderly : handler.Orderly input)
    (other : ∀ state, input.1 = .saveState state → state.id ≠ id) :
    (handler.call input).2.Absent id := by
  have path := congrFun (call_stateFile orderly) id
  obtain ⟨uncached, missing⟩ := absent
  unfold Absent
  rw [path]
  obtain ⟨call, fates⟩ := input
  cases call with
  | saveState state =>
      have distinct : id ≠ state.id := Ne.symm (other state rfl)
      have called : (handler.call (.saveState state, fates)).2 = _ :=
        handler.saveState_snd fates.disk state
      rw [called]
      refine ⟨(Function.update_of_ne distinct _ _).trans uncached, ?_⟩
      have paths : handler.stateFile id ≠ handler.stateFile state.id :=
        fun equal => distinct (handler.stateFile_injective equal)
      exact (Function.update_of_ne paths _ _).trans missing
  | deleteState deleted =>
      by_cases same : id = deleted
      · subst same
        exact ⟨(deleteState_self fates.message handler fates.removes id).1,
          deleteState_missing missing⟩
      · have kept := deleteState_of_ne fates.message handler fates.removes same
        exact ⟨kept.1.trans uncached, kept.2.trans missing⟩
  | loading call =>
      rcases loading_cases orderly with ⟨failure, -, failed⟩ | ⟨state, found, loaded⟩
      · rw [failed]
        exact ⟨uncached, missing⟩
      · have distinct : id ≠ call.id := by
          rintro rfl
          rcases found with cached | ⟨-, read⟩
          · rw [uncached] at cached
            contradiction
          · unfold readStateFile at read
            rw [missing] at read
            cases read
        exact ⟨(loaded.cache_of_ne distinct).trans uncached,
          (loaded.files_of_ne distinct).trans missing⟩

end ResumeHandler

end FileTrans.Resume
