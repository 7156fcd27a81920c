import FileTrans.Resume.OneThread
import FileTrans.Resume.Simulation

/-!
# Histories of the resume handler

An undisturbed interleaving is a sequential order, so it loses no mark and
brings no deleted transfer back.  A load that another operation disturbs does
both.
-/

namespace FileTrans.Resume

open Core Storage
open FileTrans.Transition
open FileTrans.Concurrency

/-! ## Events -/

section

variable {Thread : Type}

/-- A mark of the chunk succeeds. -/
def Marked (id : TransferId) (index : UInt32) (event : HandlerEvent Thread) : Prop :=
  ∃ thread call fates, event = .effect thread call fates (.marked (some (.ok ()))) ∧
    call.Marks id index

/-- The chunk is reported as missing. -/
def ReportedMissing (id : TransferId) (index : UInt32) (event : HandlerEvent Thread) : Prop :=
  ∃ thread fates missing, event = .effect thread (.loading (.getMissingChunks id)) fates
    (.missing (some (.ok missing))) ∧ index.toNat ∈ missing

/-- The transfer is saved or deleted. -/
def Renewed (id : TransferId) (event : HandlerEvent Thread) : Prop :=
  ∃ thread call fates answer, event = .effect thread call fates answer ∧ call.Renews id

/-- A deletion of the transfer succeeds. -/
def Deleted (id : TransferId) (event : HandlerEvent Thread) : Prop :=
  ∃ thread fates, event = .effect thread (.deleteState id) fates (.done (.ok ()))

/-- A call that saves a state of the transfer begins. -/
def SaveBegins (id : TransferId) (event : HandlerEvent Thread) : Prop :=
  ∃ thread state, event = .invoke thread (.saveState state) ∧ state.id = id

/-- Each `save_state` takes effect as soon as it begins. -/
def Prompt (events : List (HandlerEvent Thread)) : Prop :=
  ∀ earlier thread state fates answer later,
    events = earlier ++ .effect thread (.saveState state) fates answer :: later →
      ∃ first, earlier = first ++ [.invoke thread (.saveState state)]

/-- The event is not the effect of a `save_state`. -/
def NoSave (event : HandlerEvent Thread) : Prop :=
  ∀ thread state fates answer, event ≠ .effect thread (.saveState state) fates answer

theorem prompt_of_noSave {events : List (HandlerEvent Thread)}
    (every : ∀ event ∈ events, NoSave event) : Prompt events := by
  rintro earlier thread state fates answer later rfl
  exact absurd rfl (every _ (List.mem_append_right _ List.mem_cons_self) thread state fates answer)

theorem Prompt.append {first second : List (HandlerEvent Thread)} (left : Prompt first)
    (right : Prompt second) : Prompt (first ++ second) := by
  intro earlier thread state fates answer later split
  rcases List.append_eq_append_iff.mp split with ⟨between, rfl, rest⟩ | ⟨between, same, rest⟩
  · obtain ⟨begun, rfl⟩ := right between thread state fates answer later rest
    exact ⟨first ++ begun, List.append_assoc first begun _ ▸ rfl⟩
  · cases between with
    | nil =>
        rw [List.append_nil] at same
        obtain ⟨begun, none⟩ := right [] thread state fates answer later rest.symm
        cases begun <;> cases none
    | cons event between =>
        obtain ⟨rfl, rfl⟩ := List.cons.inj rest
        exact left earlier thread state fates answer between same

theorem Prompt.begins {before after : List (HandlerEvent Thread)} {deletion : HandlerEvent Thread}
    {thread : Thread} {state : TransferState} {fates : CallFates} {answer : HandlerAnswer}
    (prompt : Prompt (before ++ deletion :: after))
    (other : deletion ≠ .invoke thread (.saveState state))
    (mem : .effect thread (.saveState state) fates answer ∈ after) :
    .invoke thread (.saveState state) ∈ after := by
  obtain ⟨between, later, rfl⟩ := List.append_of_mem mem
  obtain ⟨first, same⟩ := prompt (before ++ deletion :: between) thread state fates answer later
    (by rw [List.append_assoc]; rfl)
  rcases List.eq_nil_or_concat between with rfl | ⟨between, last, rfl⟩
  · have equal := (List.append_inj' same rfl).2
    exact absurd (List.cons.inj equal).1 other
  · rw [List.concat_eq_append, ← List.cons_append, ← List.append_assoc] at same
    obtain rfl := (List.cons.inj (List.append_inj' same rfl).2).1
    rw [List.concat_eq_append, List.append_assoc]
    exact List.mem_append_right between List.mem_cons_self

end

namespace SharedHandler

variable {Thread : Type} [DecidableEq Thread]

/-! ## What a step emits -/

section

variable {shared : SharedHandler Thread} {thread : Thread} {fates : CallFates}

variable {call : LoadingCall} {state : TransferState}

theorem enter_noSave : ∀ event ∈ (shared.enter thread call fates state).1, NoSave event := by
  unfold SharedHandler.enter
  dsimp only
  split <;> simp [NoSave]

theorem beginSave_noSave {disk : WriteOutcome} {answer : HandlerAnswer} :
    ∀ event ∈ (shared.beginSave thread disk state answer).1, NoSave event := by
  unfold SharedHandler.beginSave
  dsimp only
  split <;> simp [NoSave]

theorem fail_noSave {error : Option Error} :
    ∀ event ∈ (shared.fail thread call fates error).1, NoSave event := by
  simp [SharedHandler.fail, NoSave]

theorem fill_noSave : ∀ event ∈ (shared.fill thread call fates state).1, NoSave event := by
  unfold SharedHandler.fill
  dsimp only
  split <;> simp [NoSave]

theorem read_noSave : ∀ event ∈ (shared.read thread call fates).1, NoSave event := by
  unfold SharedHandler.read
  split
  · split
    · simp
    · exact fail_noSave
    · exact fail_noSave
  · exact fail_noSave

theorem lockedStep_noSave {stage : Stage} :
    ∀ event ∈ (shared.lockedStep thread stage).1, NoSave event := by
  cases stage with
  | inserting call fates state => exact fill_noSave
  | relocking call fates =>
      unfold SharedHandler.lockedStep
      dsimp only
      split
      · exact enter_noSave
      · exact fail_noSave
  | awaiting fates id generation => exact beginSave_noSave
  | _ => simp [SharedHandler.lockedStep]

theorem advance_noSave : ∀ event ∈ (shared.advance thread).1, NoSave event := by
  unfold SharedHandler.advance
  split
  · split
    · simp
    · exact fail_noSave
  · exact read_noSave
  · exact lockedStep_noSave
  · split
    · simp [SharedHandler.finishSave, NoSave]
    · simp

theorem invoke_prompt {call : HandlerCall} :
    Prompt (.invoke thread call :: (shared.invoke thread fates call).1) := by
  cases call with
  | saveState state =>
      have pair : Prompt [.invoke thread (.saveState state),
          .effect thread (.saveState state) fates (.done fates.disk.result)] := by
        intro earlier other saved otherFates answer later split
        cases earlier with
        | nil => cases split
        | cons first rest =>
            cases rest with
            | nil =>
                cases split
                exact ⟨[], rfl⟩
            | cons second rest =>
                have lengths := congrArg List.length split
                simp at lengths
      exact pair.append (prompt_of_noSave beginSave_noSave)
  | deleteState id =>
      apply prompt_of_noSave
      simp [SharedHandler.invoke, NoSave]
  | loading call =>
      apply prompt_of_noSave
      rw [List.forall_mem_cons]
      constructor
      · intro other state otherFates answer same
        contradiction
      unfold SharedHandler.invoke
      dsimp only
      split
      · exact enter_noSave
      · simp

theorem step_prompt (shared : SharedHandler Thread) (input : ThreadInput Thread) :
    Prompt (step shared input).1 := by
  cases input with
  | call thread call fates =>
      unfold SharedHandler.step
      dsimp only
      split
      · exact invoke_prompt
      · exact prompt_of_noSave (by simp)
  | advance thread => exact prompt_of_noSave advance_noSave
  | flush count =>
      apply prompt_of_noSave
      unfold SharedHandler.step
      dsimp only
      split <;> simp

theorem outputs_prompt (shared : SharedHandler Thread) (inputs : List (ThreadInput Thread)) :
    Prompt (outputs step shared inputs).flatten := by
  induction inputs generalizing shared with
  | nil => exact prompt_of_noSave (by simp)
  | cons input rest ih => exact (step_prompt shared input).append (ih (step shared input).2)

end

/-! ## Undisturbed runs -/

/-- No operation is in progress. -/
def Quiet (shared : SharedHandler Thread) : Prop :=
  shared.writer = none ∧ ∀ thread, shared.stage thread = .idle

/-- The state that a run from an empty cache reaches. -/
def reached (config : ResumeHandlerConfig) (files : FileSystem)
    (inputs : List (ThreadInput Thread)) : SharedHandler Thread :=
  final step (start (.create config files)) inputs

/-- The events of a run from an empty cache. -/
def history (config : ResumeHandlerConfig) (files : FileSystem)
    (inputs : List (ThreadInput Thread)) : List (HandlerEvent Thread) :=
  (outputs step (start (.create config files)) inputs).flatten

/-- What the operations promise: they take effect in a sequential order, a chunk that was
marked is not reported as missing until its transfer is saved or deleted, and a transfer that
was deleted is there again only if a save of it began since. -/
structure Consistent (config : ResumeHandlerConfig) (files : FileSystem)
    (inputs : List (ThreadInput Thread)) : Prop where
  sequential : ∃ alone, Linearized ResumeHandler.call (fun _ _ => True) (.create config files)
      (fun _ => .idle) (history config files inputs) alone (reached config files inputs).phase ∧
    ((reached config files inputs).Quiet → alone = (reached config files inputs).handler)
  kept : ∀ id index before marked between reported after,
    history config files inputs = before ++ marked :: (between ++ reported :: after) →
    Marked id index marked → ReportedMissing id index reported →
      ∃ event ∈ between, Renewed id event
  deleted : ∀ id before deletion after,
    history config files inputs = before ++ deletion :: after → Deleted id deletion →
    (reached config files inputs).handler.hasState id = true →
      ∃ event ∈ after, SaveBegins id event

section

variable {shared : SharedHandler Thread} {alone : ResumeHandler}

omit [DecidableEq Thread] in
theorem Related.eq_of_quiet (related : shared.Related alone) (quiet : shared.Quiet) :
    alone = shared.handler := by
  obtain ⟨free, idle⟩ := quiet
  have cache : alone.cache = shared.handler.cache := by
    funext id
    by_contra different
    obtain ⟨thread, call, fates, stage, -⟩ := related.loaded id different
    rw [idle thread] at stage
    contradiction
  have settled : ∀ id, shared.Settled id := by
    intro id
    constructor
    · rintro thread fates ⟨generation, stage⟩
      rw [idle thread] at stage
      contradiction
    · intro owner save writer
      rw [free] at writer
      contradiction
  have files : alone.files = shared.handler.files :=
    funext fun path => related.files path fun id _ => settled id
  have config := related.config
  have count := related.count
  cases alone
  cases found : shared.handler
  rw [found] at cache files config count
  dsimp only at cache files config count
  rw [cache, files, config, count]

omit [DecidableEq Thread] in
theorem Related.hasState_of_absent (related : shared.Related alone) {id : TransferId}
    (absent : alone.Absent id) : shared.handler.hasState id = false := by
  obtain ⟨uncached, missing⟩ := absent
  have gone : shared.handler.cache id = none := by
    by_contra present
    have different : alone.cache id ≠ shared.handler.cache id :=
      fun same => present (same.symm.trans uncached)
    have file := related.file (related.settled_of_ne different)
    rcases related.cached id with same | ⟨-, state, -, read⟩
    · exact different same
    · unfold ResumeHandler.readStateFile at read
      rw [← file, missing] at read
      cases read
  have file := related.file (related.settled_of_uncached gone)
  unfold ResumeHandler.hasState FileSystem.exist
  rw [gone, ← file, missing]
  rfl

end

omit [DecidableEq Thread] in
theorem renewed_of_reported {initial reached : ResumeHandler}
    {phases after : Thread → Phase HandlerCall HandlerAnswer}
    {before between later : List (HandlerEvent Thread)} {marked reported : HandlerEvent Thread}
    {id : TransferId} {index : UInt32} (sized : initial.Sized)
    (linearized : Linearized ResumeHandler.call ResumeHandler.Orderly initial phases
      (before ++ marked :: (between ++ reported :: later)) reached after)
    (marks : Marked id index marked) (reports : ReportedMissing id index reported) :
    ∃ event ∈ between, Renewed id event := by
  by_contra kept
  obtain ⟨thread, call, fates, rfl, chunk⟩ := marks
  obtain ⟨reporter, reportFates, missing, rfl, mem⟩ := reports
  have done := linearized.answer_eq
  have guarded := linearized.guarded
  rw [calls_append, guarded_append_iff] at guarded
  obtain ⟨first, orderly, second⟩ := guarded
  have sizedThere := first.invariant ResumeHandler.Sized
    (fun handler input holds allowed => ResumeHandler.call_sized holds allowed) sized
  have holds := ResumeHandler.call_marks sizedThere orderly chunk done
  have others : ∀ input ∈ calls between, ¬ input.1.Renews id := by
    rintro ⟨other, otherFates⟩ found renews
    obtain ⟨renewer, answer, event⟩ := mem_calls_iff.mp found
    exact kept ⟨_, event, renewer, other, otherFates, answer, rfl, renews⟩
  rw [List.filterMap_append] at second
  have holdsThere := (second.firstPart.and_mem others).invariant
    (ResumeHandler.Holds id index)
    (fun handler input held allowed => ResumeHandler.call_holds held allowed.1 allowed.2) holds
  have regrouped : before ++ .effect thread call fates (.marked (some (.ok ()))) ::
      (between ++ .effect reporter (.loading (.getMissingChunks id)) reportFates
        (.missing (some (.ok missing))) :: later) =
      (before ++ .effect thread call fates (.marked (some (.ok ()))) :: between) ++
        .effect reporter (.loading (.getMissingChunks id)) reportFates
          (.missing (some (.ok missing))) :: later := by
    rw [List.append_assoc]
    rfl
  rw [regrouped] at linearized
  have answered := linearized.answer_eq
  rw [calls_append, final_append] at answered
  exact ResumeHandler.call_missing holdsThere answered mem

omit [DecidableEq Thread] in
theorem absent_of_deleted {initial reached : ResumeHandler}
    {phases after : Thread → Phase HandlerCall HandlerAnswer}
    {before later : List (HandlerEvent Thread)} {deletion : HandlerEvent Thread}
    {id : TransferId}
    (linearized : Linearized ResumeHandler.call ResumeHandler.Orderly initial phases
      (before ++ deletion :: later) reached after) (deleted : Deleted id deletion)
    (unsaved : ∀ thread state fates answer,
      .effect thread (.saveState state) fates answer ∈ later → state.id ≠ id) :
    reached.Absent id := by
  obtain ⟨thread, fates, rfl⟩ := deleted
  have done := linearized.answer_eq
  have guarded := linearized.guarded
  have reaches := linearized.reached
  rw [calls_append, guarded_append_iff] at guarded
  rw [calls_append, final_append] at reaches
  obtain ⟨-, -, rest⟩ := guarded
  have others : ∀ input ∈ calls later, ∀ state, input.1 = .saveState state → state.id ≠ id := by
    rintro ⟨call, saveFates⟩ found state rfl
    obtain ⟨saver, answer, event⟩ := mem_calls_iff.mp found
    exact unsaved saver state saveFates answer event
  have absent := (rest.and_mem others).invariant (ResumeHandler.Absent id)
    (fun handler input gone allowed => ResumeHandler.call_absent gone allowed.1 allowed.2)
    (ResumeHandler.call_deletes done)
  exact reaches ▸ absent

/-- A run that is not disturbed keeps the promises. -/
theorem consistent_of_undisturbed (config : ResumeHandlerConfig) (files : FileSystem)
    (inputs : List (ThreadInput Thread))
    (undisturbed : Guarded step Undisturbed (start (.create config files)) inputs) :
    Consistent config files inputs := by
  have empty : ∀ id state, (ResumeHandler.create config files).cache id = some state →
      state.WellSized := fun _ _ cached => nomatch cached
  obtain ⟨alone, linearized, related⟩ :=
    simulated.linearized (related_start (.create config files) empty) undisturbed
  constructor
  · exact ⟨alone, linearized.imp fun _ _ _ => trivial, related.eq_of_quiet⟩
  · intro id index before marked between reported after split marks reports
    unfold history at split
    rw [split] at linearized
    exact renewed_of_reported empty linearized marks reports
  · intro id before deletion after split deleted present
    by_contra unsaved
    unfold history at split
    have prompt := outputs_prompt (start (.create config files)) inputs
    rw [split] at linearized prompt
    have absent := absent_of_deleted linearized deleted (by
      rintro thread state fates answer mem rfl
      have other : deletion ≠ .invoke thread (.saveState state) := by
        obtain ⟨_, _, rfl⟩ := deleted
        intro same
        contradiction
      exact unsaved ⟨_, prompt.begins other mem, thread, state, rfl, rfl⟩)
    have gone := related.hasState_of_absent absent
    unfold reached at present
    rw [gone] at present
    contradiction

/-! ## Runs of two threads -/

namespace InterleavingSample

/-- A transfer of two chunks, with none received. -/
def stored : TransferState :=
  ⟨.zero, Text.ascii "file", 2, 0, 2, [false, false], [], 0, 0⟩

def config : ResumeHandlerConfig :=
  ⟨Text.ascii "states", 10, 86400⟩

/-- The state file of the transfer is there. -/
def files : FileSystem := fun path =>
  if path = getStateFilePath config.stateDirectory .zero then some (serializeStateToJson stored)
  else none

/-- Nothing fails. -/
def fates : CallFates :=
  ⟨true, .success, 0, true, [], stored⟩

/-- A thread saves the state, marks a chunk and reads the missing ones, then the other one
deletes the transfer. -/
def orderly : List (ThreadInput Bool) :=
  [.call false (.saveState stored) fates, .advance false,
    .call false (.loading (.markChunkReceived .zero 0)) fates,
    .call true (.loading (.getMissingChunks .zero)) fates, .call true (.deleteState .zero) fates]

/-- A thread begins to mark a chunk, and reads the state from the file. -/
def marking (thread : Bool) (index : UInt32) : List (ThreadInput Bool) :=
  [.call thread (.loading (.markChunkReceived .zero index)) fates, .advance thread,
    .advance thread, .advance thread]

/-- Both threads read the state, and one puts it into the cache after the other has marked its
chunk there. -/
def lostMark : List (ThreadInput Bool) :=
  marking false 0 ++ marking true 1 ++
    [.advance true, .advance true, .advance false, .advance false,
      .call true (.loading (.getMissingChunks .zero)) fates]

/-- A thread reads the state, and puts it into the cache after the other has deleted it. -/
def revived : List (ThreadInput Bool) :=
  [.call false (.loading (.loadState .zero)) fates, .advance false, .advance false,
    .call true (.deleteState .zero) fates, .advance false]

/-- The events of a mark that succeeds. -/
def markEvents (thread : Bool) (index : UInt32) : List (HandlerEvent Bool) :=
  [.effect thread (.loading (.markChunkReceived .zero index)) fates (.marked (some (.ok ()))),
    .respond thread (.marked (some (.ok ())))]

/-- What the run that loses a mark shows. -/
def lostMarkEvents : List (HandlerEvent Bool) :=
  [.invoke false (.loading (.markChunkReceived .zero 0)),
    .invoke true (.loading (.markChunkReceived .zero 1))] ++
    markEvents true 1 ++ markEvents false 0 ++
    [.invoke true (.loading (.getMissingChunks .zero)),
      .effect true (.loading (.getMissingChunks .zero)) fates (.missing (some (.ok [1]))),
      .respond true (.missing (some (.ok [1])))]

/-- What the run that brings a transfer back shows. -/
def revivedEvents : List (HandlerEvent Bool) :=
  [.invoke false (.loading (.loadState .zero)), .invoke true (.deleteState .zero),
    .effect true (.deleteState .zero) fates (.done (.ok ())), .respond true (.done (.ok ())),
    .effect false (.loading (.loadState .zero)) fates (.loaded (some (.ok stored))),
    .respond false (.loaded (some (.ok stored)))]

theorem history_lostMark : history config files lostMark = lostMarkEvents := by
  decide +kernel

theorem history_revived : history config files revived = revivedEvents := by
  decide +kernel

theorem hasState_revived : (reached config files revived).handler.hasState .zero = true := by
  decide +kernel

end InterleavingSample

open InterleavingSample

/-- One thread saves and marks, another reads and deletes. -/
theorem consistent_orderly : Consistent config files orderly := by
  have noneAwaits {shared : SharedHandler Bool} (idle : ∀ thread, shared.stage thread = .idle)
      (id : TransferId) : shared.NoneAwaits id := by
    rintro thread fates ⟨generation, stage⟩
    rw [idle thread] at stage
    contradiction
  have untouched {shared : SharedHandler Bool} (idle : ∀ thread, shared.stage thread = .idle)
      {call : LoadingCall} {state : TransferState}
      (returns : (shared.handler.cachedSection fates.now state call).1.isSome = true) :
      shared.SectionSafe call fates state := by
    unfold SectionSafe
    split
    · rename_i same
      rw [same] at returns
      contradiction
    · exact .inr (noneAwaits idle call.id)
  apply consistent_of_undisturbed
  refine ⟨?_, trivial, ?_, ?_, ?_, trivial⟩
  · rintro - -
    refine ⟨rfl, ?_⟩
    rintro thread fates ⟨generation, stage⟩
    contradiction
  · rintro - - state cached
    obtain rfl : stored = state := Option.some.inj cached
    apply untouched
    · intro thread
      cases thread <;> rfl
    · decide +kernel
  · rintro - - state cached
    apply untouched
    · intro thread
      cases thread <;> rfl
    · rfl
  · rintro - -
    apply noneAwaits
    intro thread
    cases thread <;> rfl

/-- A chunk is reported as missing after it was marked, and a deleted transfer is there
again. -/
theorem disturbed_runs_break_promises :
    history config files lostMark = lostMarkEvents ∧
    history config files revived = revivedEvents ∧
    (reached config files revived).handler.hasState .zero = true ∧
    ¬ Consistent config files lostMark ∧ ¬ Consistent config files revived ∧
    ¬ (∀ (config : ResumeHandlerConfig) (files : FileSystem) (inputs : List (ThreadInput Bool)),
      Consistent config files inputs) := by
  have lost : ¬ Consistent config files lostMark := by
    intro consistent
    obtain ⟨event, mem, thread, call, fates, answer, rfl, renews⟩ :=
      consistent.kept .zero 1
        [.invoke false (.loading (.markChunkReceived .zero 0)),
          .invoke true (.loading (.markChunkReceived .zero 1))] _
        (.respond true (.marked (some (.ok ()))) ::
          (markEvents false 0).append [.invoke true (.loading (.getMissingChunks .zero))]) _ _
        history_lostMark ⟨_, _, _, rfl, rfl, rfl⟩ ⟨_, _, _, rfl, List.mem_singleton.mpr rfl⟩
    simp [markEvents] at mem
    obtain ⟨-, rfl, -⟩ := mem
    exact renews
  have back : ¬ Consistent config files revived := by
    intro consistent
    obtain ⟨event, mem, thread, state, rfl, -⟩ :=
      consistent.deleted .zero (revivedEvents.take 2) _ _ history_revived ⟨_, _, rfl⟩
        hasState_revived
    simp at mem
  exact ⟨history_lostMark, history_revived, hasState_revived, lost, back,
    fun every => lost (every config files lostMark)⟩

end SharedHandler

end FileTrans.Resume
