import FileTrans.Resume.Directory
import FileTrans.Resume.Sections

/-!
# Interleaved operations and a sequential order

An interleaving is undisturbed if no section of an operation meets a state that
another thread changed since the section before it, in a way that matters to it.
The handler of an undisturbed interleaving is related to the handler that one
thread alone would use: they agree on the cache, up to entries that an operation
loaded but has not marked yet, and on the files, up to those with a save that an
operation still owes.
-/

namespace FileTrans.Resume

open Core Storage
open FileTrans.Transition
open FileTrans.Concurrency

/-- The operation changed an entry and has not saved it. -/
def Stage.Owes : Stage → Prop
  | .awaiting _ _ _ => True
  | _ => False

namespace SharedHandler

variable {Thread : Type}

/-! ## Undisturbed steps -/

section

variable (shared : SharedHandler Thread)

/-- An operation of the thread changed the entry of the transfer and has not saved it yet. -/
def Awaits (id : TransferId) (thread : Thread) (fates : CallFates) : Prop :=
  ∃ generation, shared.stage thread = .awaiting fates id generation

/-- No operation owes a save of the transfer. -/
def NoneAwaits (id : TransferId) : Prop :=
  ∀ thread fates, ¬ shared.Awaits id thread fates

/-- If operations owe saves of the transfer, the disk takes these and the given one whole. -/
def SavesWhole (id : TransferId) (disk : WriteOutcome) : Prop :=
  ∀ thread fates, shared.Awaits id thread fates → disk.Whole ∧ fates.disk.Whole

/-- The state is the one in the cache or, without one, the one in the file. -/
def Current (id : TransferId) (state : TransferState) : Prop :=
  shared.handler.cache id = some state ∨
    (shared.handler.cache id = none ∧
      shared.handler.readStateFile (fun _ => true) id = some (.ok state))

/-- A section that goes on to save works on an entry with its own identifier, and saves whole
if other saves are owed; a section that returns leaves the entry alone if a save is owed. -/
def SectionSafe (call : LoadingCall) (fates : CallFates) (state : TransferState) : Prop :=
  match shared.handler.cachedSection fates.now state call with
  | (none, _) => state.id = call.id ∧ shared.SavesWhole call.id fates.disk
  | (some _, after) => after.cache call.id = some state ∨ shared.NoneAwaits call.id

/-- The first section of a call is not disturbed. -/
def CallSafe (fates : CallFates) : HandlerCall → Prop
  | .saveState state => state.WellSized ∧ shared.SavesWhole state.id fates.disk
  | .deleteState id => shared.NoneAwaits id
  | .loading call =>
      ∀ state, shared.handler.cache call.id = some state → shared.SectionSafe call fates state

/-- The next step of a thread is not disturbed: a load that fails at a file operation fails as
it would now, a load fills the cache with the current state, and the operation that called it
finds the state there. -/
def StageSafe : Stage → Prop
  | .checking call _ =>
      shared.handler.files.exist (shared.handler.stateFile call.id) = false →
        shared.handler.cache call.id = none
  | .reading call fates =>
      (∀ state, shared.handler.readStateFile (fun _ => fates.opens) call.id ≠ some (.ok state)) →
        shared.handler.cache call.id = none ∧
          shared.handler.files.exist (shared.handler.stateFile call.id) = true
  | .inserting call _ state => shared.writer = none → shared.Current call.id state
  | .relocking call fates => shared.writer = none →
      ∃ state, shared.handler.cache call.id = some state ∧ shared.SectionSafe call fates state
  | _ => True

/-- The step is not disturbed by what other threads did. -/
def Undisturbed : ThreadInput Thread → Prop
  | .call thread call fates =>
      shared.stage thread = .idle → shared.writer = none → shared.CallSafe fates call
  | .advance thread => shared.StageSafe (shared.stage thread)
  | .flush _ => True

end

/-! ## The handler of one thread alone -/

/-- No save of the transfer is owed or under way. -/
def Settled (shared : SharedHandler Thread) (id : TransferId) : Prop :=
  shared.NoneAwaits id ∧ ∀ owner save, shared.writer = some (owner, save) → save.id ≠ id

/-- The shared handler and the handler that one thread alone would use. -/
structure Related (shared : SharedHandler Thread) (alone : ResumeHandler) : Prop where
  config : alone.config = shared.handler.config
  count : alone.chunksSinceCheckpoint = shared.handler.chunksSinceCheckpoint
  cached : ∀ id, alone.cache id = shared.handler.cache id ∨ (alone.cache id = none ∧
    ∃ state, shared.handler.cache id = some state ∧
      shared.handler.readStateFile (fun _ => true) id = some (.ok state))
  loaded : ∀ id, alone.cache id ≠ shared.handler.cache id →
    ∃ thread call fates, shared.stage thread = .relocking call fates ∧ call.id = id
  files : ∀ path, (∀ id, shared.handler.stateFile id = path → shared.Settled id) →
    alone.files path = shared.handler.files path
  awaiting : ∀ thread fates id generation,
    shared.stage thread = .awaiting fates id generation →
      shared.erasures id = generation ∧ ∃ entry, shared.handler.cache id = some entry ∧
        alone.cache id = some entry ∧ entry.id = id ∧
        alone.files (shared.handler.stateFile id) =
          fates.disk.leaves (serializeStateToJson entry)
            (shared.handler.files (shared.handler.stateFile id))
  apart : ∀ thread other id fates otherFates, thread ≠ other → shared.Awaits id thread fates →
    shared.Awaits id other otherFates → fates.disk.Whole
  writing : ∀ owner save, shared.writer = some (owner, save) →
    shared.stage owner = .idle ∧ (∃ entry, shared.handler.cache save.id = some entry ∧
      alone.cache save.id = some entry) ∧
    alone.files (shared.handler.stateFile save.id) = some (save.disk.reached save.text) ∧
    ∀ thread fates, shared.Awaits save.id thread fates → fates.disk.Whole
  wellSized : ∀ id state, shared.handler.cache id = some state → state.WellSized

theorem related_start (handler : ResumeHandler)
    (wellSized : ∀ id state, handler.cache id = some state → state.WellSized) :
    (start handler : SharedHandler Thread).Related handler where
  config := rfl
  count := rfl
  cached _ := .inl rfl
  loaded _ different := absurd rfl different
  files _ _ := rfl
  awaiting _ _ _ _ stage := nomatch stage
  apart _ _ _ _ _ _ awaits _ := nomatch awaits.choose_spec
  writing _ _ writer := nomatch writer
  wellSized := wellSized

section

variable {shared : SharedHandler Thread} {alone : ResumeHandler} {id : TransferId}

theorem Related.stateFile (related : shared.Related alone) :
    alone.stateFile = shared.handler.stateFile := by
  funext id
  unfold ResumeHandler.stateFile
  rw [related.config]

theorem Related.settled_of_ne (related : shared.Related alone)
    (different : alone.cache id ≠ shared.handler.cache id) : shared.Settled id := by
  constructor
  · rintro thread fates ⟨generation, stage⟩
    obtain ⟨-, entry, here, there, -⟩ := related.awaiting thread fates id generation stage
    exact different (there.trans here.symm)
  · rintro owner save writer rfl
    obtain ⟨-, ⟨entry, here, there⟩, -⟩ := related.writing owner save writer
    exact different (there.trans here.symm)

theorem Related.settled_of_uncached (related : shared.Related alone)
    (uncached : shared.handler.cache id = none) : shared.Settled id := by
  constructor
  · rintro thread fates ⟨generation, stage⟩
    obtain ⟨-, entry, here, -⟩ := related.awaiting thread fates id generation stage
    rw [uncached] at here
    contradiction
  · rintro owner save writer rfl
    obtain ⟨-, ⟨entry, here, -⟩, -⟩ := related.writing owner save writer
    rw [uncached] at here
    contradiction

theorem Related.uncached (related : shared.Related alone)
    (uncached : shared.handler.cache id = none) : alone.cache id = none := by
  rcases related.cached id with same | ⟨none, -⟩
  · rw [same, uncached]
  · exact none

theorem Related.file (related : shared.Related alone) (settled : shared.Settled id) :
    alone.files (alone.stateFile id) = shared.handler.files (shared.handler.stateFile id) := by
  rw [related.stateFile]
  apply related.files
  intro other same
  rw [shared.handler.stateFile_injective same]
  exact settled

theorem Related.readStateFile (related : shared.Related alone) (settled : shared.Settled id)
    (opens : Path → Bool) :
    alone.readStateFile opens id = shared.handler.readStateFile opens id := by
  unfold ResumeHandler.readStateFile
  rw [related.file settled, related.stateFile]

variable {state : TransferState}

theorem Related.insert_alone (related : shared.Related alone) (settled : shared.Settled id)
    (cached : shared.handler.cache id = some state) : shared.Related (alone.insert id state) := by
  have other_cache {other : TransferId} (distinct : other ≠ id) :
      (alone.insert id state).cache other = alone.cache other :=
    Function.update_of_ne distinct _ _
  have self_cache : (alone.insert id state).cache id = shared.handler.cache id := by
    rw [cached]
    exact Function.update_self id _ _
  constructor
  case config => exact related.config
  case count => exact related.count
  case cached =>
    intro other
    by_cases same : other = id
    · subst same
      exact .inl self_cache
    · rw [other_cache same]
      exact related.cached other
  case loaded =>
    intro other different
    by_cases same : other = id
    · subst same
      exact absurd self_cache different
    · rw [other_cache same] at different
      exact related.loaded other different
  case files => exact related.files
  case awaiting =>
    intro thread fates other generation stage
    have distinct : other ≠ id := by
      rintro rfl
      exact settled.1 thread fates ⟨generation, stage⟩
    rw [other_cache distinct]
    exact related.awaiting thread fates other generation stage
  case apart => exact related.apart
  case writing =>
    intro owner save writer
    rw [other_cache (settled.2 owner save writer)]
    exact related.writing owner save writer
  case wellSized => exact related.wellSized

theorem Related.load_cached (related : shared.Related alone)
    (cached : shared.handler.cache id = some state) :
    ∃ loaded, alone.loadState (fun _ => true) id = (some (.ok state), loaded) ∧
      loaded.cache id = some state ∧ shared.Related loaded := by
  by_cases same : alone.cache id = shared.handler.cache id
  · refine ⟨alone, ?_, same.trans cached, related⟩
    unfold ResumeHandler.loadState
    rw [same, cached]
  · have settled := related.settled_of_ne same
    rcases related.cached id with equal | ⟨none, other, found, read⟩
    · exact absurd equal same
    · obtain rfl : state = other := Option.some.inj (cached.symm.trans found)
      refine ⟨alone.insert id state, ?_, Function.update_self id _ _,
        related.insert_alone settled cached⟩
      unfold ResumeHandler.loadState
      rw [none]
      dsimp only
      rw [related.readStateFile settled, read]

theorem Related.load_uncached (related : shared.Related alone)
    (uncached : shared.handler.cache id = none) {opens : Path → Bool}
    (read : shared.handler.readStateFile opens id = some (.ok state)) :
    alone.loadState opens id = (some (.ok state), alone.insert id state) := by
  unfold ResumeHandler.loadState
  simp only [related.uncached uncached,
    related.readStateFile (related.settled_of_uncached uncached), read]

theorem Related.load_unread (related : shared.Related alone)
    (uncached : shared.handler.cache id = none) {opens : Path → Bool} (failure : Option Error)
    (read : shared.handler.readStateFile opens id = failure.map .error) :
    alone.loadState opens id = (failure.map .error, alone) := by
  unfold ResumeHandler.loadState
  cases failure with
  | none =>
      simp only [related.uncached uncached,
        related.readStateFile (related.settled_of_uncached uncached), read, Option.map]
  | some error =>
      simp only [related.uncached uncached,
        related.readStateFile (related.settled_of_uncached uncached), read, Option.map]

end

/-! ## Threads between sections -/

section

variable [DecidableEq Thread] {shared : SharedHandler Thread} {alone : ResumeHandler}
    {thread : Thread}
variable {stage : Stage}

theorem setStage_stage_of_ne {other : Thread} (distinct : other ≠ thread) :
    (shared.setStage thread stage).stage other = shared.stage other :=
  Function.update_of_ne distinct _ _

theorem setStage_stage_self : (shared.setStage thread stage).stage thread = stage :=
  Function.update_self thread _ _

theorem awaits_setStage_iff (before : ¬ (shared.stage thread).Owes) (after : ¬ stage.Owes)
    (id : TransferId) (other : Thread) (fates : CallFates) :
    (shared.setStage thread stage).Awaits id other fates ↔ shared.Awaits id other fates := by
  unfold Awaits
  by_cases same : other = thread
  · subst same
    rw [setStage_stage_self]
    constructor
    · rintro ⟨generation, rfl⟩
      exact absurd trivial after
    · rintro ⟨generation, found⟩
      rw [found] at before
      exact absurd trivial before
  · rw [setStage_stage_of_ne same]

theorem Related.setStage (related : shared.Related alone)
    (busy : shared.writer = none ∨ shared.stage thread ≠ .idle)
    (before : ¬ (shared.stage thread).Owes) (after : ¬ stage.Owes)
    (relocking : ∀ call fates, shared.stage thread = .relocking call fates →
      alone.cache call.id = shared.handler.cache call.id) :
    (shared.setStage thread stage).Related alone := by
  have awaits := awaits_setStage_iff before after
  have owner_ne {owner : Thread} {save : OpenSave} (writer : shared.writer = some (owner, save)) :
      owner ≠ thread := by
    rintro rfl
    rcases busy with free | working
    · rw [free] at writer
      contradiction
    · exact working (related.writing owner save writer).1
  constructor
  case config => exact related.config
  case count => exact related.count
  case cached => exact related.cached
  case loaded =>
    intro id different
    obtain ⟨other, call, fates, found, rfl⟩ := related.loaded id different
    have distinct : other ≠ thread := by
      rintro rfl
      exact different (relocking call fates found)
    refine ⟨other, call, fates, ?_, rfl⟩
    rw [setStage_stage_of_ne distinct]
    exact found
  case files =>
    intro path settled
    apply related.files
    intro id same
    constructor
    · intro other fates owes
      exact (settled id same).1 other fates ((awaits id other fates).mpr owes)
    · exact (settled id same).2
  case awaiting =>
    intro other fates id generation found
    obtain ⟨generation', here⟩ := (awaits id other fates).mp ⟨generation, found⟩
    have distinct : other ≠ thread := by
      rintro rfl
      rw [here] at before
      exact before trivial
    rw [setStage_stage_of_ne distinct] at found
    exact related.awaiting other fates id generation found
  case apart =>
    intro first second id fates otherFates distinct left right
    exact related.apart first second id fates otherFates distinct ((awaits _ _ _).mp left)
      ((awaits _ _ _).mp right)
  case writing =>
    intro owner save writer
    obtain ⟨idle, entry, file, whole⟩ := related.writing owner save writer
    refine ⟨?_, entry, file, ?_⟩
    · rw [setStage_stage_of_ne (owner_ne writer)]
      exact idle
    · intro other fates owes
      exact whole other fates ((awaits _ _ _).mp owes)
  case wellSized => exact related.wellSized

variable {id : TransferId} {entry state : TransferState} {fates : CallFates} {generation : Nat}

omit [DecidableEq Thread] in
theorem Related.withEntry (related : shared.Related alone) (free : shared.writer = none)
    (kept : shared.handler.cache id = some entry ∨ shared.NoneAwaits id) (sized : entry.WellSized)
    (count : UInt32) :
    ({ shared with handler := shared.handler.withEntry id entry count } :
      SharedHandler Thread).Related (alone.withEntry id entry count) := by
  have other_caches {other : TransferId} (distinct : other ≠ id) :
      (alone.withEntry id entry count).cache other = alone.cache other ∧
        (shared.handler.withEntry id entry count).cache other = shared.handler.cache other :=
    ⟨ResumeHandler.withEntry_cache_of_ne _ distinct _ _,
      ResumeHandler.withEntry_cache_of_ne _ distinct _ _⟩
  constructor
  case config => exact related.config
  case count => rfl
  case cached =>
    intro other
    by_cases same : other = id
    · subst same
      left
      rw [ResumeHandler.withEntry_cache_self, ResumeHandler.withEntry_cache_self]
    · rw [(other_caches same).1, (other_caches same).2]
      exact related.cached other
  case loaded =>
    intro other different
    by_cases same : other = id
    · subst same
      rw [ResumeHandler.withEntry_cache_self, ResumeHandler.withEntry_cache_self] at different
      contradiction
    · rw [(other_caches same).1, (other_caches same).2] at different
      exact related.loaded other different
  case files => exact related.files
  case awaiting =>
    intro waiting fates other generation found
    by_cases same : other = id
    · subst same
      rcases kept with here | noneAwaits
      · obtain ⟨good, entry', cached, -, rest⟩ :=
          related.awaiting waiting fates other generation found
        obtain rfl : entry = entry' := Option.some.inj (here.symm.trans cached)
        exact ⟨good, entry, ResumeHandler.withEntry_cache_self _ _ _ _,
          ResumeHandler.withEntry_cache_self _ _ _ _, rest⟩
      · exact absurd ⟨generation, found⟩ (noneAwaits waiting fates)
    · rw [(other_caches same).1, (other_caches same).2]
      exact related.awaiting waiting fates other generation found
  case apart => exact related.apart
  case writing =>
    intro owner save writer
    rw [free] at writer
    contradiction
  case wellSized =>
    intro other found cached
    by_cases same : other = id
    · subst same
      rw [ResumeHandler.withEntry_cache_self] at cached
      obtain rfl := Option.some.inj cached
      exact sized
    · rw [(other_caches same).2] at cached
      exact related.wellSized other found cached

theorem awaits_awaiting_iff (fates : CallFates) (id : TransferId) (generation : Nat)
    (before : ¬ (shared.stage thread).Owes) (other : TransferId) (waiting : Thread)
    (otherFates : CallFates) :
    (shared.setStage thread (.awaiting fates id generation)).Awaits other waiting otherFates ↔
      (waiting = thread ∧ other = id ∧ otherFates = fates) ∨
        (waiting ≠ thread ∧ shared.Awaits other waiting otherFates) := by
  unfold Awaits
  by_cases same : waiting = thread
  · subst same
    rw [setStage_stage_self]
    constructor
    · rintro ⟨_, found⟩
      obtain ⟨rfl, rfl, -⟩ := Stage.awaiting.inj found
      exact .inl ⟨rfl, rfl, rfl⟩
    · rintro (⟨-, rfl, rfl⟩ | ⟨different, -⟩)
      · exact ⟨generation, rfl⟩
      · contradiction
  · rw [setStage_stage_of_ne same]
    constructor
    · exact fun found => .inr ⟨same, found⟩
    · rintro (⟨equal, -⟩ | ⟨-, found⟩)
      · contradiction
      · exact found

/-- A section leaves an entry that its operation is going to save; one thread alone has saved
it already. -/
theorem Related.owe (related : shared.Related alone) (free : shared.writer = none)
    (before : ¬ (shared.stage thread).Owes)
    (relocking : ∀ call fates, shared.stage thread = .relocking call fates → call.id = id)
    (own : entry.id = id) (whole : shared.SavesWhole id fates.disk) (sized : entry.WellSized)
    (count : UInt32) :
    ({ shared.setStage thread (.awaiting fates id (shared.erasures id)) with
        handler := shared.handler.withEntry id entry count } : SharedHandler Thread).Related
      ((alone.withEntry id entry count).saveState fates.disk entry).2 := by
  subst own
  have awaits := awaits_awaiting_iff fates entry.id (shared.erasures entry.id) before
  rw [ResumeHandler.saveState_cached (ResumeHandler.withEntry_cache_self _ _ _ _)]
  have path_eq : (alone.withEntry entry.id entry count).stateFile =
      shared.handler.stateFile := related.stateFile
  rw [path_eq]
  have here : (shared.handler.withEntry entry.id entry count).cache entry.id = some entry :=
    ResumeHandler.withEntry_cache_self _ _ _ _
  have there : (alone.withEntry entry.id entry count).cache entry.id = some entry :=
    ResumeHandler.withEntry_cache_self _ _ _ _
  have other_caches {other : TransferId} (distinct : other ≠ entry.id) :
      (alone.withEntry entry.id entry count).cache other = alone.cache other ∧
        (shared.handler.withEntry entry.id entry count).cache other =
          shared.handler.cache other :=
    ⟨ResumeHandler.withEntry_cache_of_ne _ distinct _ _,
      ResumeHandler.withEntry_cache_of_ne _ distinct _ _⟩
  have written : ∀ old, Function.update alone.files (shared.handler.stateFile entry.id)
      (fates.disk.leaves (serializeStateToJson entry) old)
      (shared.handler.stateFile entry.id) =
        fates.disk.leaves (serializeStateToJson entry) old :=
    fun old => Function.update_self _ _ _
  constructor
  case config => exact related.config
  case count => rfl
  case cached =>
    intro other
    by_cases same : other = entry.id
    · subst same
      left
      exact there.trans here.symm
    · have old := related.cached other
      rw [← (other_caches same).1, ← (other_caches same).2] at old
      exact old
  case loaded =>
    intro other different
    have distinct : other ≠ entry.id := by
      rintro rfl
      exact different (there.trans here.symm)
    have old : alone.cache other ≠ shared.handler.cache other := by
      rw [← (other_caches distinct).1, ← (other_caches distinct).2]
      exact different
    obtain ⟨loading, call, callFates, found, named⟩ := related.loaded other old
    refine ⟨loading, call, callFates, ?_, named⟩
    have notSelf : loading ≠ thread := by
      rintro rfl
      exact distinct (named.symm.trans (relocking call callFates found))
    exact (setStage_stage_of_ne notSelf).trans found
  case files =>
    intro path settled
    have distinct : path ≠ shared.handler.stateFile entry.id := by
      rintro rfl
      exact (settled entry.id rfl).1 thread fates ((awaits _ _ _).mpr (.inl ⟨rfl, rfl, rfl⟩))
    refine (Function.update_of_ne distinct _ _).trans (related.files path ?_)
    intro other named
    refine ⟨?_, (settled other named).2⟩
    intro waiting otherFates owes
    have notSelf : waiting ≠ thread := by
      rintro rfl
      obtain ⟨generation, found⟩ := owes
      rw [found] at before
      exact before trivial
    exact (settled other named).1 waiting otherFates ((awaits _ _ _).mpr (.inr ⟨notSelf, owes⟩))
  case awaiting =>
    intro waiting otherFates other generation found
    by_cases self : waiting = thread
    · subst self
      obtain ⟨rfl, rfl, rfl⟩ := Stage.awaiting.inj (setStage_stage_self.symm.trans found)
      refine ⟨rfl, entry, here, there, rfl, (written _).trans ?_⟩
      by_cases alone' : shared.NoneAwaits entry.id
      · have settled : shared.Settled entry.id := by
          refine ⟨alone', ?_⟩
          intro owner save writer
          rw [free] at writer
          contradiction
        have same := related.file settled
        rw [related.stateFile] at same
        exact congrArg _ same
      · obtain ⟨waiting, others⟩ := not_forall.mp alone'
        obtain ⟨otherFates, owes⟩ := not_forall.mp others
        have wholly := (whole waiting otherFates (not_not.mp owes)).1
        rw [wholly.leaves, wholly.leaves]
    · have owes : shared.Awaits other waiting otherFates :=
        ⟨generation, (setStage_stage_of_ne self).symm.trans found⟩
      obtain ⟨good, cachedEntry, kept, keptAlone, named, file⟩ := related.awaiting waiting
        otherFates other generation ((setStage_stage_of_ne self).symm.trans found)
      refine ⟨good, ?_⟩
      by_cases same : other = entry.id
      · subst same
        have wholly := whole waiting otherFates owes
        refine ⟨entry, here, there, rfl, (written _).trans ?_⟩
        rw [wholly.1.leaves, wholly.2.leaves]
      · have distinct : shared.handler.stateFile other ≠ shared.handler.stateFile entry.id :=
          fun equal => same (shared.handler.stateFile_injective equal)
        exact ⟨cachedEntry, (other_caches same).2.trans kept,
          (other_caches same).1.trans keptAlone, named,
          (Function.update_of_ne distinct _ _).trans file⟩
  case apart =>
    intro first second other firstFates secondFates distinct left right
    rcases (awaits _ _ _).mp left with ⟨rfl, rfl, rfl⟩ | ⟨notFirst, owes⟩
    · rcases (awaits _ _ _).mp right with ⟨rfl, -⟩ | ⟨-, owes⟩
      · contradiction
      · exact (whole second secondFates owes).1
    · rcases (awaits _ _ _).mp right with ⟨rfl, rfl, rfl⟩ | ⟨-, others⟩
      · exact (whole first firstFates owes).2
      · exact related.apart first second other firstFates secondFates distinct owes others
  case writing =>
    intro owner save writer
    have writer' : shared.writer = some (owner, save) := writer
    rw [free] at writer'
    contradiction
  case wellSized =>
    intro other found cached
    by_cases same : other = entry.id
    · subst same
      obtain rfl := Option.some.inj (here.symm.trans cached)
      exact sized
    · exact related.wellSized other found ((other_caches same).2.symm.trans cached)

/-! ## Writing the file -/

theorem awaits_dropped_iff (id : TransferId) (other : Thread) (fates : CallFates) :
    (shared.setStage thread .idle).Awaits id other fates ↔
      other ≠ thread ∧ shared.Awaits id other fates := by
  unfold Awaits
  by_cases same : other = thread
  · subst same
    rw [setStage_stage_self]
    constructor
    · rintro ⟨generation, found⟩
      contradiction
    · rintro ⟨different, -⟩
      contradiction
  · rw [setStage_stage_of_ne same]
    exact ⟨fun found => ⟨same, found⟩, And.right⟩

theorem awaiting_of_dropped {waiting : Thread}
    (found : (shared.setStage thread .idle).stage waiting = .awaiting fates id generation) :
    shared.stage waiting = .awaiting fates id generation := by
  have notSelf : waiting ≠ thread := by
    rintro rfl
    have idle : Stage.idle = .awaiting fates id generation := setStage_stage_self.symm.trans found
    contradiction
  exact (setStage_stage_of_ne notSelf).symm.trans found

theorem Related.loaded_dropped (related : shared.Related alone)
    (owing : shared.stage thread = .awaiting fates id generation) {other : TransferId}
    (different : alone.cache other ≠ shared.handler.cache other) :
    ∃ loading call callFates,
      (shared.setStage thread .idle).stage loading = .relocking call callFates ∧
        call.id = other := by
  obtain ⟨loading, call, callFates, found, named⟩ := related.loaded other different
  have notSelf : loading ≠ thread := by
    rintro rfl
    rw [owing] at found
    contradiction
  exact ⟨loading, call, callFates, (setStage_stage_of_ne notSelf).trans found, named⟩

theorem readStateFile_of_ne {handler : ResumeHandler} {other : TransferId} (distinct : other ≠ id)
    (content : Option Bytes) (opens : Path → Bool) :
    ({ handler with files := Function.update handler.files (handler.stateFile id) content } :
      ResumeHandler).readStateFile opens other = handler.readStateFile opens other := by
  have path_ne : handler.stateFile other ≠ handler.stateFile id :=
    fun equal => distinct (handler.stateFile_injective equal)
  have same : Function.update handler.files (handler.stateFile id) content
      (handler.stateFile other) = handler.files (handler.stateFile other) :=
    Function.update_of_ne path_ne _ _
  unfold ResumeHandler.readStateFile
  rw [← same]
  rfl

omit [DecidableEq Thread] in
theorem Related.withFile (related : shared.Related alone) {owner : Thread} {save : OpenSave}
    (writer : shared.writer = some (owner, save)) (content : Option Bytes) :
    ({ shared with handler := { shared.handler with
        files := Function.update shared.handler.files (shared.handler.stateFile save.id)
          content } } : SharedHandler Thread).Related alone := by
  obtain ⟨idle, ⟨entry, here, there⟩, file, whole⟩ := related.writing owner save writer
  constructor
  case config => exact related.config
  case count => exact related.count
  case cached =>
    intro other
    by_cases same : other = save.id
    · subst same
      exact .inl (there.trans here.symm)
    · rcases related.cached other with equal | ⟨none, state, found, read⟩
      · exact .inl equal
      · exact .inr ⟨none, state, found, (readStateFile_of_ne same content _).trans read⟩
  case loaded => exact related.loaded
  case files =>
    intro path settled
    have distinct : path ≠ shared.handler.stateFile save.id := by
      rintro rfl
      exact (settled save.id rfl).2 owner save writer rfl
    exact (related.files path settled).trans (Function.update_of_ne distinct _ _).symm
  case awaiting =>
    intro waiting fates id generation found
    obtain ⟨good, cachedEntry, kept, keptAlone, named, left⟩ :=
      related.awaiting waiting fates id generation found
    refine ⟨good, cachedEntry, kept, keptAlone, named, ?_⟩
    by_cases same : id = save.id
    · subst same
      have wholly := whole waiting fates ⟨generation, found⟩
      rw [wholly.leaves] at left
      exact left.trans (wholly.leaves _ _).symm
    · have distinct : shared.handler.stateFile id ≠ shared.handler.stateFile save.id :=
        fun equal => same (shared.handler.stateFile_injective equal)
      refine left.trans (congrArg _ ?_)
      exact (Function.update_of_ne distinct _ _).symm
  case apart => exact related.apart
  case writing => exact related.writing
  case wellSized => exact related.wellSized

omit [DecidableEq Thread] in
theorem Related.release (related : shared.Related alone) {owner : Thread} {save : OpenSave}
    (writer : shared.writer = some (owner, save))
    (written : shared.handler.files (shared.handler.stateFile save.id) =
      some (save.disk.reached save.text)) :
    ({ shared with writer := none } : SharedHandler Thread).Related alone := by
  obtain ⟨-, -, file, -⟩ := related.writing owner save writer
  constructor
  case config => exact related.config
  case count => exact related.count
  case cached => exact related.cached
  case loaded => exact related.loaded
  case files =>
    intro path settled
    by_cases same : path = shared.handler.stateFile save.id
    · subst same
      exact file.trans written.symm
    · apply related.files
      intro id named
      refine ⟨(settled id named).1, ?_⟩
      rintro other otherSave found rfl
      rw [writer] at found
      obtain ⟨rfl, rfl⟩ := Prod.mk.inj (Option.some.inj found)
      exact same named.symm
  case awaiting => exact related.awaiting
  case apart => exact related.apart
  case writing =>
    intro _ _ found
    contradiction
  case wellSized => exact related.wellSized

theorem Related.hold (related : shared.Related alone) (free : shared.writer = none)
    (owing : shared.stage thread = .awaiting fates id generation)
    (cached : shared.handler.cache id = some entry) (opens : fates.disk.opens = true)
    (answer : HandlerAnswer) :
    ({ shared.setStage thread .idle with
        writer := some (thread, ⟨id, serializeStateToJson entry, fates.disk, answer⟩) } :
      SharedHandler Thread).Related alone := by
  obtain ⟨-, entry', here, there, -, file⟩ := related.awaiting thread fates id generation owing
  obtain rfl : entry = entry' := Option.some.inj (cached.symm.trans here)
  constructor
  case config => exact related.config
  case count => exact related.count
  case cached => exact related.cached
  case loaded =>
    intro other different
    exact related.loaded_dropped owing different
  case files =>
    intro path settled
    apply related.files
    intro other named
    have distinct : id ≠ other := (settled other named).2 thread _ rfl
    constructor
    · intro waiting otherFates owes
      have notSelf : waiting ≠ thread := by
        rintro rfl
        obtain ⟨_, found⟩ := owes
        exact distinct (Stage.awaiting.inj (owing.symm.trans found)).2.1
      exact (settled other named).1 waiting otherFates
        ((awaits_dropped_iff _ _ _).mpr ⟨notSelf, owes⟩)
    · intro owner save writer
      rw [free] at writer
      contradiction
  case awaiting =>
    intro waiting otherFates other otherGeneration found
    exact related.awaiting waiting otherFates other otherGeneration (awaiting_of_dropped found)
  case apart =>
    intro first second other firstFates secondFates distinct left right
    exact related.apart first second other firstFates secondFates distinct
      ((awaits_dropped_iff _ _ _).mp left).2 ((awaits_dropped_iff _ _ _).mp right).2
  case writing =>
    intro owner save writer
    obtain ⟨rfl, rfl⟩ := Prod.mk.inj (Option.some.inj writer)
    refine ⟨setStage_stage_self, ⟨entry, here, there⟩, ?_, ?_⟩
    · unfold WriteOutcome.leaves at file
      rwa [if_pos opens] at file
    · intro waiting otherFates owes
      obtain ⟨notSelf, others⟩ := (awaits_dropped_iff _ _ _).mp owes
      exact related.apart waiting _ id otherFates fates notSelf others ⟨generation, owing⟩
  case wellSized => exact related.wellSized

theorem Related.drop (related : shared.Related alone) (free : shared.writer = none)
    (owing : shared.stage thread = .awaiting fates id generation)
    (closed : ¬ fates.disk.opens = true) : (shared.setStage thread .idle).Related alone := by
  obtain ⟨-, entry, here, there, -, file⟩ := related.awaiting thread fates id generation owing
  unfold WriteOutcome.leaves at file
  rw [if_neg closed] at file
  constructor
  case config => exact related.config
  case count => exact related.count
  case cached => exact related.cached
  case loaded =>
    intro other different
    exact related.loaded_dropped owing different
  case files =>
    intro path settled
    by_cases same : shared.handler.stateFile id = path
    · subst same
      exact file
    · apply related.files
      intro other named
      constructor
      · intro waiting otherFates owes
        have notSelf : waiting ≠ thread := by
          rintro rfl
          obtain ⟨_, found⟩ := owes
          have equal := (Stage.awaiting.inj (owing.symm.trans found)).2.1
          exact same (equal ▸ named)
        exact (settled other named).1 waiting otherFates
          ((awaits_dropped_iff _ _ _).mpr ⟨notSelf, owes⟩)
      · exact (settled other named).2
  case awaiting =>
    intro waiting otherFates other otherGeneration found
    exact related.awaiting waiting otherFates other otherGeneration (awaiting_of_dropped found)
  case apart =>
    intro first second other firstFates secondFates distinct left right
    exact related.apart first second other firstFates secondFates distinct
      ((awaits_dropped_iff _ _ _).mp left).2 ((awaits_dropped_iff _ _ _).mp right).2
  case writing =>
    intro owner save writer
    have writer' : shared.writer = some (owner, save) := writer
    rw [free] at writer'
    contradiction
  case wellSized => exact related.wellSized

theorem Related.beginSave (related : shared.Related alone) (free : shared.writer = none)
    (owing : shared.stage thread = .awaiting fates id generation)
    (cached : shared.handler.cache id = some entry) (answer : HandlerAnswer) :
    (shared.beginSave thread fates.disk entry answer).2.Related alone := by
  obtain ⟨-, entry', here, -, named, -⟩ := related.awaiting thread fates id generation owing
  obtain rfl : entry = entry' := Option.some.inj (cached.symm.trans here)
  subst named
  unfold SharedHandler.beginSave
  rw [ResumeHandler.insert_eq_self cached]
  dsimp only
  split
  · rename_i opens
    exact (related.hold free owing cached opens answer).withFile rfl (some [])
  · rename_i closed
    exact related.drop free owing closed

theorem withEntry_count (handler : ResumeHandler) (id : TransferId) (state : TransferState) :
    handler.withEntry id state handler.chunksSinceCheckpoint = handler.insert id state :=
  rfl

theorem Related.save (related : shared.Related alone) (free : shared.writer = none)
    (idle : shared.stage thread = .idle) (sized : state.WellSized)
    (whole : shared.SavesWhole state.id fates.disk) (answer : HandlerAnswer) :
    (shared.beginSave thread fates.disk state answer).2.Related
      (alone.saveState fates.disk state).2 := by
  have before : ¬ (shared.stage thread).Owes := by
    rw [idle]
    exact id
  have owing := related.owe free before
    (fun call fates found => by rw [idle] at found; contradiction) rfl whole sized
    shared.handler.chunksSinceCheckpoint
  rw [← related.count, withEntry_count, related.count, withEntry_count] at owing
  have begun := owing.beginSave free setStage_stage_self
    (ResumeHandler.withEntry_cache_self shared.handler _ _ shared.handler.chunksSinceCheckpoint)
    answer
  have twice (handler : ResumeHandler) :
      (handler.insert state.id state).insert state.id state = handler.insert state.id state :=
    ResumeHandler.insert_eq_self (Function.update_self _ _ _)
  have sameAlone : ((alone.insert state.id state).saveState fates.disk state).2 =
      (alone.saveState fates.disk state).2 := by
    rw [ResumeHandler.saveState_snd, ResumeHandler.saveState_snd, twice]
    rfl
  rw [sameAlone] at begun
  unfold SharedHandler.beginSave at begun ⊢
  dsimp only at begun ⊢
  rw [twice] at begun
  unfold SharedHandler.setStage at begun ⊢
  dsimp only at begun ⊢
  rw [Function.update_idem] at begun
  exact begun

/-! ## Filling the cache -/

theorem readStateFile_wellSized {handler : ResumeHandler} {opens : Path → Bool}
    (read : handler.readStateFile opens id = some (.ok state)) : state.WellSized := by
  unfold ResumeHandler.readStateFile at read
  split at read
  · cases read
  · split at read
    · exact wellSized_of_deserialize read
    · cases read

theorem Related.fill (related : shared.Related alone) (free : shared.writer = none)
    {call : LoadingCall} (inserting : shared.stage thread = .inserting call fates state)
    (current : shared.Current call.id state) :
    ({ shared.setStage thread (.relocking call fates) with
        handler := shared.handler.insert call.id state } : SharedHandler Thread).Related alone := by
  have passed : (shared.setStage thread (.relocking call fates)).Related alone := by
    apply related.setStage (.inl free)
    · rw [inserting]
      exact id
    · exact id
    · intro other otherFates found
      rw [inserting] at found
      contradiction
  rcases current with cached | ⟨uncached, read⟩
  · rw [ResumeHandler.insert_eq_self cached]
    exact passed
  · have unknown : alone.cache call.id = none := related.uncached uncached
    have self_cache : (shared.handler.insert call.id state).cache call.id = some state :=
      Function.update_self _ _ _
    have other_cache {other : TransferId} (distinct : other ≠ call.id) :
        (shared.handler.insert call.id state).cache other = shared.handler.cache other :=
      Function.update_of_ne distinct _ _
    constructor
    case config => exact passed.config
    case count => exact passed.count
    case cached =>
      intro other
      by_cases same : other = call.id
      · subst same
        exact .inr ⟨unknown, state, self_cache, read⟩
      · have old := related.cached other
        rw [← other_cache same] at old
        exact old
    case loaded =>
      intro other different
      by_cases same : other = call.id
      · exact ⟨thread, call, fates, setStage_stage_self, same.symm⟩
      · have old : alone.cache other ≠ shared.handler.cache other := by
          rw [← other_cache same]
          exact different
        exact passed.loaded other old
    case files => exact passed.files
    case awaiting =>
      intro waiting otherFates other generation found
      obtain ⟨good, entry, here, there, rest⟩ :=
        passed.awaiting waiting otherFates other generation found
      have distinct : other ≠ call.id := by
        rintro rfl
        rw [unknown] at there
        contradiction
      exact ⟨good, entry, (other_cache distinct).trans here, there, rest⟩
    case apart => exact passed.apart
    case writing =>
      intro owner save writer
      have writer' : shared.writer = some (owner, save) := writer
      rw [free] at writer'
      contradiction
    case wellSized =>
      intro other found cached
      by_cases same : other = call.id
      · subst same
        obtain rfl := Option.some.inj (self_cache.symm.trans cached)
        exact readStateFile_wellSized read
      · exact related.wellSized other found ((other_cache same).symm.trans cached)

omit [DecidableEq Thread] in
theorem Related.load_current (related : shared.Related alone) (free : shared.writer = none)
    (current : shared.Current id state) :
    ∃ loaded, alone.loadState (fun _ => true) id = (some (.ok state), loaded) ∧
      loaded.cache id = some state ∧
      ({ shared with handler := shared.handler.insert id state } :
        SharedHandler Thread).Related loaded := by
  rcases current with cached | ⟨uncached, read⟩
  · rw [ResumeHandler.insert_eq_self cached]
    exact related.load_cached cached
  · refine ⟨alone.insert id state, ?_, Function.update_self _ _ _, ?_⟩
    · exact related.load_uncached uncached read
    · have both := related.withEntry free (.inr (related.settled_of_uncached uncached).1)
        (readStateFile_wellSized read) shared.handler.chunksSinceCheckpoint
      rw [← related.count, withEntry_count, related.count, withEntry_count] at both
      exact both

/-! ## Deleting -/

omit [DecidableEq Thread] in
theorem Related.erase (related : shared.Related alone) (free : shared.writer = none)
    (noneAwaits : shared.NoneAwaits id) {filesAlone files : FileSystem}
    (self : filesAlone (shared.handler.stateFile id) = files (shared.handler.stateFile id))
    (others : ∀ path, path ≠ shared.handler.stateFile id →
      filesAlone path = alone.files path ∧ files path = shared.handler.files path) :
    ({ shared with
        handler := { shared.handler with
          cache := Function.update shared.handler.cache id none, files }
        erasures := Function.update shared.erasures id (shared.erasures id + 1) } :
      SharedHandler Thread).Related
      { alone with cache := Function.update alone.cache id none, files := filesAlone } := by
  have caches {other : TransferId} (distinct : other ≠ id) :
      Function.update alone.cache id none other = alone.cache other ∧
        Function.update shared.handler.cache id none other = shared.handler.cache other :=
    ⟨Function.update_of_ne distinct _ _, Function.update_of_ne distinct _ _⟩
  have erased : Function.update alone.cache id none id =
      Function.update shared.handler.cache id none id := by
    rw [Function.update_self, Function.update_self]
  have paths {other : TransferId} (distinct : other ≠ id) :
      shared.handler.stateFile other ≠ shared.handler.stateFile id :=
    fun equal => distinct (shared.handler.stateFile_injective equal)
  constructor
  case config => exact related.config
  case count => exact related.count
  case cached =>
    intro other
    by_cases same : other = id
    · subst same
      exact .inl erased
    · dsimp only
      rw [(caches same).1, (caches same).2]
      rcases related.cached other with equal | ⟨none, state, found, read⟩
      · exact .inl equal
      · refine .inr ⟨none, state, found, ?_⟩
        unfold ResumeHandler.readStateFile at read ⊢
        rw [← (others _ (paths same)).2] at read
        exact read
  case loaded =>
    intro other different
    have distinct : other ≠ id := by
      rintro rfl
      exact different erased
    have old : alone.cache other ≠ shared.handler.cache other := by
      rw [← (caches distinct).1, ← (caches distinct).2]
      exact different
    exact related.loaded other old
  case files =>
    intro path settled
    by_cases same : path = shared.handler.stateFile id
    · subst same
      exact self
    · refine (others path same).1.trans (.trans ?_ (others path same).2.symm)
      exact related.files path settled
  case awaiting =>
    intro waiting fates other generation found
    obtain ⟨good, entry, here, there, named, file⟩ :=
      related.awaiting waiting fates other generation found
    have distinct : other ≠ id := by
      rintro rfl
      exact noneAwaits waiting fates ⟨generation, found⟩
    refine ⟨(Function.update_of_ne distinct _ _).trans good, entry,
      (caches distinct).2.trans here, (caches distinct).1.trans there, named, ?_⟩
    refine (others _ (paths distinct)).1.trans (file.trans (congrArg _ ?_))
    exact (others _ (paths distinct)).2.symm
  case apart => exact related.apart
  case writing =>
    intro owner save writer
    have writer' : shared.writer = some (owner, save) := writer
    rw [free] at writer'
    contradiction
  case wellSized =>
    intro other state cached
    by_cases same : other = id
    · subst same
      have none : Function.update shared.handler.cache other none other = some state := cached
      rw [Function.update_self] at none
      contradiction
    · exact related.wellSized other state ((caches same).2.symm.trans cached)

omit [DecidableEq Thread] in
theorem Related.delete (related : shared.Related alone) (free : shared.writer = none)
    (noneAwaits : shared.NoneAwaits id) (removes : Bool) (message : Bytes) :
    (alone.deleteState removes message id).1 =
      (shared.handler.deleteState removes message id).1 ∧
    ({ shared with
        handler := (shared.handler.deleteState removes message id).2
        erasures := Function.update shared.erasures id (shared.erasures id + 1) } :
      SharedHandler Thread).Related (alone.deleteState removes message id).2 := by
  have settled : shared.Settled id := by
    refine ⟨noneAwaits, ?_⟩
    intro owner save writer
    rw [free] at writer
    contradiction
  have file := related.file settled
  rw [related.stateFile] at file
  have exists_eq : alone.files.exist (shared.handler.stateFile id) =
      shared.handler.files.exist (shared.handler.stateFile id) := congrArg Option.isSome file
  unfold ResumeHandler.deleteState
  rw [related.stateFile, exists_eq]
  dsimp only
  split
  · split
    · refine ⟨rfl, related.erase free noneAwaits ?_ ?_⟩
      · rw [FileSystem.remove_self, FileSystem.remove_self]
      · intro path distinct
        exact ⟨FileSystem.remove_of_ne _ distinct, FileSystem.remove_of_ne _ distinct⟩
    · exact ⟨rfl, related.erase free noneAwaits file fun _ _ => ⟨rfl, rfl⟩⟩
  · exact ⟨rfl, related.erase free noneAwaits file fun _ _ => ⟨rfl, rfl⟩⟩

end

end SharedHandler

end FileTrans.Resume
