import FileTrans.Resume.Interleaving

/-!
# Undisturbed interleavings are sequential

Each undisturbed step of the threads is no step, or one whole operation, of the
handler that one thread alone would use.  An operation takes effect in the
section that finds the state in the cache, in the load of a `load_state` or
`get_missing_chunks`, or where its load fails.
-/

namespace FileTrans.Resume

open Core Storage
open FileTrans.Transition
open FileTrans.Concurrency

/-! ## Phases -/

/-- Where a thread is in its call, if it does not hold the mutex. -/
def Stage.phase : Stage → Phase HandlerCall HandlerAnswer
  | .idle => .idle
  | .looking call _ => .invoked (.loading call)
  | .checking call _ => .invoked (.loading call)
  | .reading call _ => .invoked (.loading call)
  | .inserting call _ _ => .invoked (.loading call)
  | .relocking call _ => .invoked (.loading call)
  | .awaiting fates _ _ => .answered (.marked (some fates.disk.result))

@[simp]
theorem afterMiss_phase (call : LoadingCall) (fates : CallFates) :
    (call.afterMiss fates).phase = .invoked (.loading call) := by
  cases call <;> rfl

@[simp]
theorem afterMiss_not_owes (call : LoadingCall) (fates : CallFates) :
    ¬ (call.afterMiss fates).Owes := by
  cases call <;> exact id

namespace SharedHandler

variable {Thread : Type} [DecidableEq Thread]

/-- Where a thread is in its call. -/
def phase (shared : SharedHandler Thread) (thread : Thread) : Phase HandlerCall HandlerAnswer :=
  match shared.writer with
  | some (owner, save) =>
      if owner = thread then .answered save.answer else (shared.stage thread).phase
  | none => (shared.stage thread).phase

section

variable {shared : SharedHandler Thread} {alone : ResumeHandler} {thread other : Thread}
variable {stage : Stage}

theorem phase_of_free (free : shared.writer = none) (thread : Thread) :
    shared.phase thread = (shared.stage thread).phase := by
  unfold phase
  rw [free]

variable {save : OpenSave}

theorem phase_of_holds (holds : shared.writer = some (thread, save)) :
    shared.phase thread = .answered save.answer := by
  unfold phase
  rw [holds]
  exact if_pos rfl

theorem phase_of_not_holds {owner : Thread} (holds : shared.writer = some (owner, save))
    (distinct : owner ≠ thread) : shared.phase thread = (shared.stage thread).phase := by
  unfold phase
  rw [holds]
  exact if_neg distinct

theorem phase_setStage_of_ne (distinct : other ≠ thread) :
    (shared.setStage thread stage).phase other = shared.phase other := by
  unfold phase
  rw [setStage_stage_of_ne distinct]
  rfl

omit [DecidableEq Thread] in
theorem Related.not_owner (related : shared.Related alone)
    (busy : shared.writer = none ∨ shared.stage thread ≠ .idle) {owner : Thread}
    (holds : shared.writer = some (owner, save)) : owner ≠ thread := by
  rintro rfl
  rcases busy with free | working
  · rw [free] at holds
    contradiction
  · exact working (related.writing owner save holds).1

theorem Related.phase_eq (related : shared.Related alone)
    (busy : shared.writer = none ∨ shared.stage thread ≠ .idle) :
    shared.phase thread = (shared.stage thread).phase := by
  cases holds : shared.writer with
  | none => exact phase_of_free holds thread
  | some held =>
      obtain ⟨owner, save⟩ := held
      exact phase_of_not_holds holds (related.not_owner busy holds)

theorem Related.phase_setStage (related : shared.Related alone)
    (busy : shared.writer = none ∨ shared.stage thread ≠ .idle) (stage : Stage) :
    (shared.setStage thread stage).phase thread = stage.phase := by
  have self : (shared.setStage thread stage).stage thread = stage := setStage_stage_self
  rw [← congrArg Stage.phase self]
  cases holds : shared.writer with
  | none =>
      have free : (shared.setStage thread stage).writer = none := holds
      exact phase_of_free free thread
  | some held =>
      obtain ⟨owner, save⟩ := held
      have held : (shared.setStage thread stage).writer = some (owner, save) := holds
      exact phase_of_not_holds held (related.not_owner busy holds)

end

/-! ## Steps that a sequential order allows -/

/-- The events of a step are those of the handler that one thread alone would use, and the
handlers are related again. -/
def Matched (before : Thread → Phase HandlerCall HandlerAnswer) (alone : ResumeHandler)
    (result : List (HandlerEvent Thread) × SharedHandler Thread) : Prop :=
  ∃ alone', Linearized ResumeHandler.call ResumeHandler.Orderly alone before result.1 alone'
      result.2.phase ∧
    result.2.Related alone'

section

variable {shared : SharedHandler Thread} {alone : ResumeHandler} {thread : Thread}
variable {call : LoadingCall} {fates : CallFates} {state : TransferState}

variable {phases : Thread → Phase HandlerCall HandlerAnswer}

theorem Related.passes (related : shared.Related alone) {stage : Stage}
    (busy : shared.writer = none ∨ shared.stage thread ≠ .idle)
    (before : ¬ (shared.stage thread).Owes) (after : ¬ stage.Owes)
    (relocking : ∀ call fates, shared.stage thread ≠ .relocking call fates)
    (own : phases thread = stage.phase)
    (others : ∀ other, other ≠ thread → phases other = shared.phase other) :
    Matched phases alone ([], shared.setStage thread stage) := by
  refine ⟨alone, .of_silent (fun _ mem => nomatch mem) ?_, related.setStage busy before after ?_⟩
  · intro other
    by_cases same : other = thread
    · subst same
      exact own.trans (related.phase_setStage busy _).symm
    · exact (others other same).trans (phase_setStage_of_ne same).symm
  · intro other otherFates found
    exact absurd found (relocking other otherFates)

theorem Related.enters (related : shared.Related alone) (free : shared.writer = none)
    (before : ¬ (shared.stage thread).Owes)
    (relocking : ∀ other fates, shared.stage thread = .relocking other fates → other.id = call.id)
    (cached : shared.handler.cache call.id = some state)
    (safe : shared.SectionSafe call fates state)
    (invoked : phases thread = .invoked (.loading call))
    (others : ∀ other, other ≠ thread → phases other = shared.phase other) :
    Matched phases alone (shared.enter thread call fates state) := by
  obtain ⟨loaded, load, found, relatedLoaded⟩ := related.load_cached cached
  have called : alone.call (.loading call, { fates with opens := true }) = _ :=
    ResumeHandler.call_loading load
  rw [ResumeHandler.cachedSection_eq found, relatedLoaded.config, relatedLoaded.count] at called
  have sized := related.wellSized call.id state cached
  unfold SectionSafe at safe
  unfold enter
  rw [ResumeHandler.cachedSection_eq cached] at safe ⊢
  dsimp only at called safe ⊢
  generalize result : ResumeHandler.sectionResult shared.handler.config
    shared.handler.chunksSinceCheckpoint fates.now state call = left at *
  have sizedAfter : left.2.1.WellSized := by
    rw [← result]
    exact sectionResult_wellSized sized
  have idAfter : left.2.1.id = state.id := by
    rw [← result]
    exact sectionResult_id
  obtain ⟨returned, entry, count⟩ := left
  cases returned with
  | some answer =>
      have kept : shared.handler.cache call.id = some entry ∨ shared.NoneAwaits call.id := by
        rcases safe with same | none
        · rw [ResumeHandler.withEntry_cache_self] at same
          exact .inl (cached.trans same.symm)
        · exact .inr none
      have both := relatedLoaded.withEntry free kept sizedAfter count
      have permitted : alone.Orderly (.loading call, { fates with opens := true }) := by
        apply ResumeHandler.orderly_of_loaded load
        rw [relatedLoaded.config, relatedLoaded.count, result]
        exact nofun
      refine ⟨_, .completed invoked (both.phase_setStage (.inl free) _) ?_ permitted called,
        both.setStage (.inl free) before id ?_⟩
      · intro other distinct
        exact (phase_setStage_of_ne distinct).trans (others other distinct).symm
      · intro other otherFates stage
        rw [relocking other otherFates stage]
        exact (ResumeHandler.withEntry_cache_self _ _ _ _).trans
          (ResumeHandler.withEntry_cache_self _ _ _ _).symm
  | none =>
      obtain ⟨own, whole⟩ := safe
      have owing := relatedLoaded.owe free before relocking (idAfter.trans own) whole sizedAfter
        count
      have permitted : alone.Orderly (.loading call, { fates with opens := true }) :=
        ResumeHandler.orderly_of_loaded load fun _ => own
      refine ⟨_, .effect invoked ?_ ?_ permitted ?_, owing⟩
      · exact related.phase_setStage (.inl free) _
      · intro other distinct
        exact (phase_setStage_of_ne distinct).trans (others other distinct).symm
      · refine called.trans (Prod.ext ?_ rfl)
        exact congrArg (HandlerAnswer.marked ∘ some) (ResumeHandler.saveState_fst _ _ _)

theorem Related.fails (related : shared.Related alone)
    (busy : shared.writer = none ∨ shared.stage thread ≠ .idle)
    (before : ¬ (shared.stage thread).Owes)
    (relocking : ∀ call fates, shared.stage thread ≠ .relocking call fates)
    (invoked : shared.phase thread = .invoked (.loading call)) {failure : Option Error}
    (load : alone.loadState (fun _ => fates.opens) call.id = (failure.map .error, alone)) :
    Matched shared.phase alone (shared.fail thread call fates failure) := by
  refine ⟨alone, .completed invoked (related.phase_setStage busy _) ?_
    (ResumeHandler.orderly_of_failed load) (ResumeHandler.call_failed load),
    related.setStage busy before id ?_⟩
  · exact fun other distinct => phase_setStage_of_ne distinct
  · intro other otherFates stage
    exact absurd stage (relocking other otherFates)

theorem Related.fills (related : shared.Related alone) (free : shared.writer = none)
    (inserting : shared.stage thread = .inserting call fates state)
    (current : shared.Current call.id state) :
    Matched shared.phase alone (shared.fill thread call fates state) := by
  have invoked : shared.phase thread = .invoked (.loading call) := by
    rw [phase_of_free free, inserting]
    rfl
  unfold SharedHandler.fill
  cases copied : call.fromCopy state with
  | some answer =>
      obtain ⟨loaded, load, -, relatedLoaded⟩ := related.load_current free current
      have called : alone.call (.loading call, { fates with opens := true }) = _ :=
        ResumeHandler.call_loading load
      have returned : alone.call (.loading call, { fates with opens := true }) =
          (answer, loaded) := by
        cases call with
        | loadState id =>
            obtain rfl := Option.some.inj copied
            exact called
        | getMissingChunks id =>
            obtain rfl := Option.some.inj copied
            exact called
        | markChunkReceived => contradiction
        | markChunksReceived => contradiction
      have permitted : alone.Orderly (.loading call, { fates with opens := true }) := by
        apply ResumeHandler.orderly_of_loaded load
        cases call with
        | markChunkReceived => contradiction
        | markChunksReceived => contradiction
        | _ => exact nofun
      refine ⟨loaded, .completed invoked (related.phase_setStage (.inl free) _) ?_ permitted
        returned, relatedLoaded.setStage (.inl free) ?_ id ?_⟩
      · exact fun other distinct => phase_setStage_of_ne distinct
      · intro owes
        rw [inserting] at owes
        exact owes
      · intro other otherFates stage
        rw [inserting] at stage
        contradiction
  | none =>
      dsimp only
      refine ⟨alone, .of_silent (fun _ mem => nomatch mem) ?_,
        related.fill free inserting current⟩
      have relocks : (shared.setStage thread (.relocking call fates)).phase thread =
          .invoked (.loading call) := related.phase_setStage (.inl free) _
      intro other
      by_cases same : other = thread
      · subst same
        exact invoked.trans relocks.symm
      · exact (phase_setStage_of_ne same).symm

omit [DecidableEq Thread] in
theorem Related.load_missing (related : shared.Related alone)
    (uncached : shared.handler.cache call.id = none)
    (missing : ¬ shared.handler.files.exist (shared.handler.stateFile call.id) = true)
    (opens : Path → Bool) :
    alone.loadState opens call.id =
      ((some ⟨.fileNotFound, Text.ascii "state file not found"⟩ : Option Error).map .error,
        alone) := by
  have none : shared.handler.files (shared.handler.stateFile call.id) = none :=
    Option.not_isSome_iff_eq_none.mp missing
  apply related.load_unread uncached
  unfold ResumeHandler.readStateFile
  simp only [none]
  rfl

theorem Related.checks (related : shared.Related alone)
    (checking : shared.stage thread = .checking call fates)
    (safe : shared.StageSafe (.checking call fates)) :
    Matched shared.phase alone (shared.advance thread) := by
  have busy : shared.stage thread ≠ .idle := by
    rw [checking]
    exact nofun
  have before : ¬ (shared.stage thread).Owes := by
    rw [checking]
    exact id
  have relocking : ∀ call fates, shared.stage thread ≠ .relocking call fates := by
    rw [checking]
    intro other otherFates found
    contradiction
  have invoked : shared.phase thread = .invoked (.loading call) := by
    rw [related.phase_eq (.inr busy), checking]
    rfl
  unfold SharedHandler.advance
  rw [checking]
  dsimp only
  split
  · exact related.passes (.inr busy) before id relocking invoked fun _ _ => rfl
  · rename_i missing
    have uncached := safe (Bool.not_eq_true _ ▸ missing)
    exact related.fails (.inr busy) before relocking invoked
      (related.load_missing uncached missing _)

theorem Related.reads (related : shared.Related alone)
    (reading : shared.stage thread = .reading call fates)
    (safe : shared.StageSafe (.reading call fates)) :
    Matched shared.phase alone (shared.advance thread) := by
  have busy : shared.stage thread ≠ .idle := by
    rw [reading]
    exact nofun
  have before : ¬ (shared.stage thread).Owes := by
    rw [reading]
    exact id
  have relocking : ∀ call fates, shared.stage thread ≠ .relocking call fates := by
    rw [reading]
    intro other otherFates found
    contradiction
  have invoked : shared.phase thread = .invoked (.loading call) := by
    rw [related.phase_eq (.inr busy), reading]
    rfl
  unfold SharedHandler.advance
  rw [reading]
  dsimp only
  unfold SharedHandler.read
  by_cases found : shared.handler.files.exist (shared.handler.stateFile call.id) = true
  · rw [if_pos found]
    cases read : shared.handler.readStateFile (fun _ => fates.opens) call.id with
    | none =>
        have uncached := (safe fun state success => nomatch read.symm.trans success).1
        exact related.fails (.inr busy) before relocking invoked
          (related.load_unread uncached none read)
    | some result =>
        cases result with
        | error error =>
            have uncached := (safe fun state success => nomatch read.symm.trans success).1
            exact related.fails (.inr busy) before relocking invoked
              (related.load_unread uncached (some error) read)
        | ok state =>
            exact related.passes (.inr busy) before id relocking invoked fun _ _ => rfl
  · have gone : shared.handler.files (shared.handler.stateFile call.id) = none :=
      Option.not_isSome_iff_eq_none.mp found
    have unread : ∀ state,
        shared.handler.readStateFile (fun _ => fates.opens) call.id ≠ some (.ok state) := by
      intro state
      unfold ResumeHandler.readStateFile
      rw [gone]
      exact nofun
    exact absurd (safe unread).2 found

/-! ## Sections that hold the mutex -/

theorem beginSave_linearized (free : shared.writer = none) (disk : WriteOutcome)
    (state : TransferState) {answer : HandlerAnswer} (answered : phases thread = .answered answer)
    (others : ∀ other, other ≠ thread → phases other = shared.phase other) :
    Linearized ResumeHandler.call ResumeHandler.Orderly alone phases
      (shared.beginSave thread disk state answer).1 alone
      (shared.beginSave thread disk state answer).2.phase := by
  unfold SharedHandler.beginSave
  dsimp only
  split
  · refine .of_silent (fun _ mem => nomatch mem) ?_
    intro other
    dsimp only
    by_cases same : other = thread
    · subst same
      rw [answered, phase_of_holds rfl]
      rfl
    · have idle : (shared.setStage thread .idle).stage other = shared.stage other :=
        setStage_stage_of_ne same
      rw [others other same, phase_of_free free, phase_of_not_holds rfl (Ne.symm same), idle]
      rfl
  · have dropped : (shared.setStage thread .idle).writer = none := free
    have idle : (shared.setStage thread .idle).stage thread = .idle := setStage_stage_self
    refine .respond answered ?_ ?_
    · exact (phase_of_free dropped thread).trans (congrArg Stage.phase idle)
    · exact fun other distinct => (phase_setStage_of_ne distinct).trans (others other distinct).symm

theorem Related.savesState (related : shared.Related alone) (free : shared.writer = none)
    (idle : shared.stage thread = .idle) (safe : shared.CallSafe fates (.saveState state)) :
    Matched (Function.update shared.phase thread (.invoked (.saveState state))) alone
      (shared.invoke thread fates (.saveState state)) := by
  obtain ⟨sized, whole⟩ := safe
  have saved := related.save free idle sized whole (.done fates.disk.result)
  have called : alone.call (.saveState state, fates) =
      (.done fates.disk.result, (alone.saveState fates.disk state).2) :=
    Prod.ext (congrArg HandlerAnswer.done (alone.saveState_fst fates.disk state)) rfl
  have first : Linearized ResumeHandler.call ResumeHandler.Orderly alone
      (Function.update shared.phase thread (.invoked (.saveState state)))
      [.effect thread (.saveState state) fates (.done fates.disk.result)]
      (alone.saveState fates.disk state).2
      (Function.update shared.phase thread (.answered (.done fates.disk.result))) := by
    refine .effect (Function.update_self _ _ _) (Function.update_self _ _ _) ?_ sized called
    intro other distinct
    rw [Function.update_of_ne distinct, Function.update_of_ne distinct]
  refine ⟨_, first.append (beginSave_linearized free fates.disk state ?_ ?_), saved⟩
  · exact Function.update_self _ _ _
  · exact fun other distinct => Function.update_of_ne distinct _ _

theorem Related.deletesState (related : shared.Related alone) (free : shared.writer = none)
    (idle : shared.stage thread = .idle) {id : TransferId}
    (safe : shared.CallSafe fates (.deleteState id)) :
    Matched (Function.update shared.phase thread (.invoked (.deleteState id))) alone
      (shared.invoke thread fates (.deleteState id)) := by
  obtain ⟨answered, deleted⟩ := related.delete free safe fates.removes fates.message
  refine ⟨_, .completed (Function.update_self _ _ _) ?_ ?_ trivial ?_, deleted⟩
  · exact (phase_of_free free thread).trans (congrArg Stage.phase idle)
  · exact fun other distinct => (Function.update_of_ne distinct _ _).symm
  · exact Prod.ext (congrArg HandlerAnswer.done answered) rfl

theorem Related.looksUp (related : shared.Related alone) (free : shared.writer = none)
    (idle : shared.stage thread = .idle) (safe : shared.CallSafe fates (.loading call)) :
    Matched (Function.update shared.phase thread (.invoked (.loading call))) alone
      (shared.invoke thread fates (.loading call)) := by
  have before : ¬ (shared.stage thread).Owes := by
    rw [idle]
    exact id
  have invoked : Function.update shared.phase thread (.invoked (.loading call)) thread =
      .invoked (.loading call) := Function.update_self _ _ _
  unfold SharedHandler.invoke
  dsimp only
  cases cached : shared.handler.cache call.id with
  | some state =>
      refine related.enters free before ?_ cached (safe state cached) invoked ?_
      · intro other otherFates stage
        rw [idle] at stage
        contradiction
      · exact fun other distinct => Function.update_of_ne distinct _ _
  | none =>
      refine related.passes (.inl free) before (afterMiss_not_owes call fates) ?_ ?_ ?_
      · intro other otherFates found
        rw [idle] at found
        contradiction
      · rw [invoked, afterMiss_phase]
      · exact fun other distinct => Function.update_of_ne distinct _ _

theorem Related.calls (related : shared.Related alone) (thread : Thread) (call : HandlerCall)
    (fates : CallFates) (safe : shared.Undisturbed (.call thread call fates)) :
    Matched shared.phase alone (step shared (.call thread call fates)) := by
  have stays : Matched shared.phase alone ([], shared) :=
    ⟨alone, .nil alone shared.phase, related⟩
  unfold SharedHandler.step
  dsimp only
  split
  · rename_i idle free
    have allowed := safe idle free
    have ready : shared.phase thread = .idle := by
      rw [phase_of_free free, idle]
      rfl
    have begins : Matched (Function.update shared.phase thread (.invoked call)) alone
        (shared.invoke thread fates call) := by
      cases call with
      | saveState state => exact related.savesState free idle allowed
      | deleteState id => exact related.deletesState free idle allowed
      | loading call => exact related.looksUp free idle allowed
    obtain ⟨alone', linearized, after⟩ := begins
    exact ⟨alone', linearized.invoked ready, after⟩
  · exact stays

theorem Related.locks (related : shared.Related alone) (free : shared.writer = none)
    (safe : shared.StageSafe (shared.stage thread)) :
    Matched shared.phase alone (shared.lockedStep thread (shared.stage thread)) := by
  have phase := phase_of_free free thread
  cases stage : shared.stage thread with
  | looking call fates =>
      refine related.passes (.inl free) ?_ ?_ ?_ ?_ fun _ _ => rfl
      · rw [stage]
        exact id
      · split <;> exact id
      · intro other otherFates found
        rw [stage] at found
        contradiction
      · rw [phase, stage]
        split <;> rfl
  | inserting call fates state =>
      rw [stage] at safe
      exact related.fills free stage (safe free)
  | relocking call fates =>
      rw [stage] at safe phase
      obtain ⟨state, cached, allowed⟩ := safe free
      unfold SharedHandler.lockedStep
      dsimp only
      rw [cached]
      refine related.enters free ?_ ?_ cached allowed phase fun _ _ => rfl
      · rw [stage]
        exact id
      · intro other otherFates found
        rw [stage] at found
        obtain ⟨rfl, -⟩ := Stage.relocking.inj found
        rfl
  | awaiting fates id generation =>
      rw [stage] at phase
      obtain ⟨good, entry, cached, -⟩ := related.awaiting thread fates id generation stage
      unfold SharedHandler.lockedStep
      dsimp only
      rw [if_pos good, cached]
      exact ⟨alone, beginSave_linearized free fates.disk entry phase fun _ _ => rfl,
        related.beginSave free stage cached _⟩
  | _ => exact ⟨alone, .nil alone shared.phase, related⟩

theorem Related.finishes (related : shared.Related alone) {save : OpenSave}
    (writer : shared.writer = some (thread, save)) :
    Matched shared.phase alone (shared.finishSave thread save) := by
  obtain ⟨idle, -⟩ := related.writing thread save writer
  have written := related.withFile writer (some (save.disk.reached save.text))
  refine ⟨alone, .respond (phase_of_holds writer) ?_ ?_,
    written.release writer (Function.update_self _ _ _)⟩
  · exact (phase_of_free rfl thread).trans (congrArg Stage.phase idle)
  · intro other distinct
    exact (phase_of_free rfl other).trans (phase_of_not_holds writer (Ne.symm distinct)).symm

theorem advance_mutex (checking : ∀ call fates, shared.stage thread ≠ .checking call fates)
    (reading : ∀ call fates, shared.stage thread ≠ .reading call fates) :
    shared.advance thread =
      match shared.writer with
      | none => shared.lockedStep thread (shared.stage thread)
      | some (owner, save) =>
          if owner = thread then shared.finishSave owner save else ([], shared) := by
  unfold SharedHandler.advance
  cases stage : shared.stage thread with
  | checking call fates => exact absurd stage (checking call fates)
  | reading call fates => exact absurd stage (reading call fates)
  | _ => cases shared.writer <;> rfl

theorem Related.advances (related : shared.Related alone) (thread : Thread)
    (safe : shared.StageSafe (shared.stage thread)) :
    Matched shared.phase alone (shared.advance thread) := by
  by_cases checking : ∃ call fates, shared.stage thread = .checking call fates
  · obtain ⟨call, fates, stage⟩ := checking
    rw [stage] at safe
    exact related.checks stage safe
  by_cases reading : ∃ call fates, shared.stage thread = .reading call fates
  · obtain ⟨call, fates, stage⟩ := reading
    rw [stage] at safe
    exact related.reads stage safe
  rw [advance_mutex (fun call fates stage => checking ⟨call, fates, stage⟩)
    (fun call fates stage => reading ⟨call, fates, stage⟩)]
  cases writer : shared.writer with
  | none => exact related.locks writer safe
  | some held =>
      obtain ⟨owner, save⟩ := held
      dsimp only
      split
      · rename_i own
        subst own
        exact related.finishes writer
      · exact ⟨alone, .nil alone shared.phase, related⟩

theorem Related.flushes (related : shared.Related alone) (count : Nat) :
    Matched shared.phase alone (step shared (.flush count)) := by
  unfold SharedHandler.step
  dsimp only
  split
  · exact ⟨alone, .nil alone shared.phase, related⟩
  · rename_i owner save writer
    have flushed := related.withFile writer (some (save.text.take count))
    exact ⟨alone, .nil alone shared.phase, flushed⟩

theorem simulated :
    Simulated (step : Step (SharedHandler Thread) (ThreadInput Thread) _) Undisturbed
      ResumeHandler.call ResumeHandler.Orderly Related phase := by
  intro shared alone input related safe
  cases input with
  | call thread call fates => exact related.calls thread call fates safe
  | advance thread => exact related.advances thread safe
  | flush count => exact related.flushes count

end

end SharedHandler

end FileTrans.Resume
