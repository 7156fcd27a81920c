import FileTrans.Transition.Run
import FileTrans.Transport.MigrationOutcome

/-!
# Cancelling a migration

`migrate_to_path` and `cancel_migration` run on two threads and share the state of the
manager.  The cancellation looks at the state and sets it to idle; the migration sets
the state at every stage and never looks at it.
-/

namespace FileTrans.Transport

open FileTrans.Core FileTrans.Transition

/-! ## The two threads -/

/-- What `migrate_to_path` does next. -/
inductive MigrationPoint
  | begin (path : NetworkPath)
  | announce (path : NetworkPath)
  | beginProbe (path : NetworkPath)
  | probe (path : NetworkPath)
  | beginValidation (path : NetworkPath)
  | validate (path : NetworkPath)
  | fail (path : NetworkPath) (message : Bytes) (mayFallBack : Bool)
  | reportFailure (path : NetworkPath) (message : Bytes) (mayFallBack : Bool)
  | fallBack
  | search (paths : List NetworkPath)
  | storeOldPath (path : NetworkPath)
  | switch (path : NetworkPath)
  | complete (oldPath path : NetworkPath)
  | announceCompletion (oldPath path : NetworkPath)
  | record (result : MigrationResult)
  | finish (result : MigrationResult)
  | returned (result : Result MigrationResult)

/-- What `cancel_migration` does next: it compares the state with each of these states, reading
it anew, and sets it to idle once one is found. -/
inductive CancelPoint
  | check (states : List MigrationState)
  | setIdle
  | announce
  | returned (found : Bool)
  deriving DecidableEq

/-- The manager with the two calls. -/
structure MigrationRace where
  manager : MigrationManager
  migration : MigrationPoint
  cancellation : CancelPoint

inductive RaceThread
  | migration
  | cancellation

/-- A step of the migration. -/
def advanceMigration (env : Enumerations) (manager : MigrationManager) :
    MigrationPoint → MigrationManager × MigrationPoint
  | .begin path => (manager.setState .migrating, .announce path)
  | .announce path =>
      (manager.emit {
        event := .migrationStarted, oldPath := manager.currentPath, newPath := some path },
        .beginProbe path)
  | .beginProbe path =>
      if manager.config.enablePathProbing then (manager.setState .probing, .probe path)
      else (manager, .beginValidation path)
  | .probe path =>
      let probe := probePath env manager path
      (probe.2, if probe.1 then .beginValidation path
        else .fail path (Text.ascii "Path probe failed") false)
  | .beginValidation path => (manager.setState .validating, .validate path)
  | .validate path =>
      let validation := validatePath env manager path
      (validation.2, if validation.1 then .storeOldPath path
        else .fail path (Text.ascii "Path validation failed") true)
  | .fail path message mayFallBack =>
      (manager.setState .failed, .reportFailure path message mayFallBack)
  | .reportFailure path message mayFallBack =>
      let manager := manager.emit {
        event := .migrationFailed
        oldPath := manager.currentPath
        newPath := some path
        errorMessage := message }
      let result := MigrationResult.failed (manager.currentPath.getD .empty) message
      let manager := manager.updateStats result
      (manager, if mayFallBack ∧ canFallBack manager then .fallBack else .returned (.ok result))
  | .fallBack =>
      match manager.previousPaths with
      | [] => (manager, .returned (unexpected .internalError "No previous paths available"))
      | first :: rest =>
          (manager.emit {
            event := .fallbackTriggered, oldPath := manager.currentPath, newPath := some first },
            .search (first :: rest))
  | .search [] => (manager, .returned (unexpected .internalError "All fallback paths failed"))
  | .search (path :: rest) =>
      let probe := probePath env manager path
      (probe.2, if probe.1 then .begin path else .search rest)
  | .storeOldPath path => (storeOldPath manager, .switch path)
  | .switch path => (switchTo manager path, .complete (manager.currentPath.getD .empty) path)
  | .complete oldPath path => (manager.setState .completed, .announceCompletion oldPath path)
  | .announceCompletion oldPath path =>
      (announceCompletion manager oldPath path, .record (.succeeded oldPath path))
  | .record result => (manager.updateStats result, .finish result)
  | .finish result => (manager.setState .idle, .returned (.ok result))
  | .returned result => (manager, .returned result)

/-- A step of the cancellation. -/
def advanceCancellation (manager : MigrationManager) :
    CancelPoint → MigrationManager × CancelPoint
  | .check [] => (manager, .returned false)
  | .check (state :: states) =>
      (manager, if manager.state = state then .setIdle else .check states)
  | .setIdle => (manager.setState .idle, .announce)
  | .announce =>
      (manager.emit {
        event := .migrationFailed, errorMessage := Text.ascii "Migration cancelled" },
        .returned true)
  | .returned found => (manager, .returned found)

namespace MigrationRace

def step (env : Enumerations) : Step MigrationRace RaceThread Unit := fun race thread =>
  match thread with
  | .migration =>
      let next := advanceMigration env race.manager race.migration
      ((), { race with manager := next.1, migration := next.2 })
  | .cancellation =>
      let next := advanceCancellation race.manager race.cancellation
      ((), { race with manager := next.1, cancellation := next.2 })

/-- Both calls are about to begin. -/
def start (manager : MigrationManager) (path : NetworkPath) : MigrationRace :=
  ⟨manager, .begin path, .check [.migrating, .probing, .validating]⟩

/-- The events that report a completed migration. -/
def completions (manager : MigrationManager) : List MigrationEventData :=
  manager.events.filter fun event => event.event = .migrationCompleted

/-- From the cancellation on the current path stays, and no migration is reported to be
completed. -/
structure Respected (cancelled later : MigrationRace) : Prop where
  currentPath : later.manager.currentPath = cancelled.manager.currentPath
  events : completions later.manager = completions cancelled.manager
  result : ∀ result, later.migration = .returned result → ¬ Succeeds result

/-- However the two threads are interleaved, a cancellation that has returned and found a
migration is respected. -/
def RespectsCancellation (env : Enumerations) (manager : MigrationManager) (path : NetworkPath) :
    Prop :=
  ∀ before after : List RaceThread,
    (final (step env) (start manager path) before).cancellation = .returned true →
      (final (step env) (start manager path) before).Respected
        (final (step env) (start manager path) (before ++ after))

/-- The migration, in some round, finds its path up both times that it looks. -/
def Accepts (env : Enumerations) (manager : MigrationManager) (path : NetworkPath) : Prop :=
  ∃ count enumerated target,
    passes (rounds env manager) count (manager.enumerated, path) = some (enumerated, target) ∧
      failsProbe manager.config env enumerated target = false ∧
      isUp (env (validationAt manager.config enumerated)) target = true

/-! ## Migrations that accept no path -/

section

variable {env : Enumerations} {base : MigrationManager} {path : NetworkPath}

/-- The rounds of a migration come to this path, after so many enumerations. -/
def Reached (env : Enumerations) (base : MigrationManager) (path : NetworkPath)
    (enumerated : Nat) (target : NetworkPath) : Prop :=
  ∃ count, passes (rounds env base) count (base.enumerated, path) = some (enumerated, target)

/-- The rounds come to this path, and it fails the validation. -/
structure FailsValidation (env : Enumerations) (base : MigrationManager) (path : NetworkPath)
    (enumerated : Nat) (target : NetworkPath) : Prop where
  reached : Reached env base path enumerated target
  probed : failsProbe base.config env enumerated target = false
  down : isUp (env (validationAt base.config enumerated)) target = false

/-- Where a migration can be that accepts no path, after so many enumerations. -/
def OnTrack (env : Enumerations) (base : MigrationManager) (path : NetworkPath)
    (enumerated : Nat) : MigrationPoint → Prop
  | .begin target => Reached env base path enumerated target
  | .announce target => Reached env base path enumerated target
  | .beginProbe target => Reached env base path enumerated target
  | .probe target =>
      Reached env base path enumerated target ∧ base.config.enablePathProbing = true
  | .beginValidation target =>
      ∃ before, Reached env base path before target ∧
        failsProbe base.config env before target = false ∧
        enumerated = validationAt base.config before
  | .validate target =>
      ∃ before, Reached env base path before target ∧
        failsProbe base.config env before target = false ∧
        enumerated = validationAt base.config before
  | .fail target _ mayFallBack =>
      mayFallBack = true → ∃ before, FailsValidation env base path before target ∧
        enumerated = validationAt base.config before + 1
  | .reportFailure target _ mayFallBack =>
      mayFallBack = true → ∃ before, FailsValidation env base path before target ∧
        enumerated = validationAt base.config before + 1
  | .fallBack =>
      canFallBack base ∧ ∃ before target, FailsValidation env base path before target ∧
        enumerated = validationAt base.config before + 1
  | .search paths =>
      canFallBack base ∧ ∃ before target, FailsValidation env base path before target ∧
        firstUp env enumerated paths =
          firstUp env (validationAt base.config before + 1) base.previousPaths
  | .returned result => ¬ Succeeds result
  | _ => False

/-- The path is left alone so far, and the migration is on its track. -/
structure Tracked (env : Enumerations) (base : MigrationManager) (path : NetworkPath)
    (race : MigrationRace) : Prop where
  paths : race.manager.paths = base.paths
  events : completions race.manager = completions base
  track : OnTrack env base path race.manager.enumerated race.migration

theorem completions_emit {manager : MigrationManager} {event : MigrationEventData}
    (other : event.event ≠ .migrationCompleted) :
    completions (manager.emit event) = completions manager := by
  simp [completions, MigrationManager.emit, other]

theorem completions_probePath (manager : MigrationManager) (target : NetworkPath) :
    completions (probePath env manager target).2 = completions manager := by
  cases up : isUp (env manager.enumerated) target with
  | false => simp [probePath, up, completions, MigrationManager.emit]
  | true => simp [probePath, up, completions, MigrationManager.emit]

theorem completions_validatePath (manager : MigrationManager) (target : NetworkPath) :
    completions (validatePath env manager target).2 = completions manager := by
  cases up : isUp (env manager.enumerated) target with
  | false => simp [validatePath, up, completions]
  | true => simp [validatePath, up, completions, MigrationManager.emit]

theorem reached_of_firstUp {before next : Nat} {target previous : NetworkPath}
    (fallback : canFallBack base) (failed : FailsValidation env base path before target)
    (found : firstUp env (validationAt base.config before + 1) base.previousPaths =
      (some previous, next)) : Reached env base path next previous := by
  rcases failed with ⟨⟨count, reached⟩, probed, down⟩
  have round : rounds env base (before, target) = .inr (next, previous) := by
    have possible : base.config.enableFallback = true ∧ base.previousPaths ≠ [] := fallback
    simp [rounds, migrationRound, probed, down, possible, found]
  exact ⟨count + 1, passes_concat reached round⟩

theorem advanceCancellation_spec (manager : MigrationManager) (point : CancelPoint) :
    (advanceCancellation manager point).1.paths = manager.paths ∧
      (advanceCancellation manager point).1.enumerated = manager.enumerated ∧
      completions (advanceCancellation manager point).1 = completions manager := by
  cases point with
  | check states => cases states <;> exact ⟨rfl, rfl, rfl⟩
  | setIdle => exact ⟨rfl, rfl, rfl⟩
  | announce => exact ⟨rfl, rfl, completions_emit (by decide)⟩
  | returned found => exact ⟨rfl, rfl, rfl⟩

/-- Where the migration goes from a point on its track, if it accepts no path. -/
structure StaysOnTrack (env : Enumerations) (base : MigrationManager) (path : NetworkPath)
    (manager : MigrationManager) (point : MigrationPoint) : Prop where
  paths : (advanceMigration env manager point).1.paths = manager.paths
  events : completions (advanceMigration env manager point).1 = completions manager
  track : OnTrack env base path (advanceMigration env manager point).1.enumerated
    (advanceMigration env manager point).2

theorem canFallBack_of_paths {first second : MigrationManager}
    (paths : first.paths = second.paths) : canFallBack first ↔ canFallBack second := by
  have config : first.config = second.config := congrArg MigrationPaths.config paths
  have previous : first.previousPaths = second.previousPaths :=
    congrArg MigrationPaths.previousPaths paths
  rw [canFallBack, canFallBack, config, previous]

section

variable {manager : MigrationManager} {target : NetworkPath}

theorem staysOnTrack_beginProbe (paths : manager.paths = base.paths)
    (reached : Reached env base path manager.enumerated target) :
    StaysOnTrack env base path manager (.beginProbe target) := by
  have config : manager.config = base.config := congrArg MigrationPaths.config paths
  by_cases probes : manager.config.enablePathProbing = true
  · constructor
    · simp [advanceMigration, probes]
    · simp [advanceMigration, probes, completions, MigrationManager.setState]
    · simp only [advanceMigration, probes, if_true]
      exact ⟨reached, config ▸ probes⟩
  · have off : base.config.enablePathProbing = false := by
      rw [← config]
      exact Bool.not_eq_true _ ▸ probes
    constructor
    · simp [advanceMigration, probes]
    · simp [advanceMigration, probes]
    · simp only [advanceMigration, probes]
      exact ⟨_, reached, by simp [failsProbe, off], by simp [validationAt, off]⟩

theorem staysOnTrack_probe (reached : Reached env base path manager.enumerated target)
    (probes : base.config.enablePathProbing = true) :
    StaysOnTrack env base path manager (.probe target) := by
  rcases probePath_snd env manager target with ⟨same, next⟩
  refine ⟨same, completions_probePath manager target, ?_⟩
  simp only [advanceMigration, next, probePath_fst]
  cases up : isUp (env manager.enumerated) target with
  | true => exact ⟨_, reached, by simp [failsProbe, up], by simp [validationAt, probes]⟩
  | false => exact fun mayFallBack => absurd mayFallBack (by simp)

variable {before : Nat}

theorem staysOnTrack_validate (rejects : ¬ Accepts env base path)
    (reached : Reached env base path before target)
    (probed : failsProbe base.config env before target = false)
    (count : manager.enumerated = validationAt base.config before) :
    StaysOnTrack env base path manager (.validate target) := by
  rcases validatePath_snd env manager target with ⟨same, next⟩
  refine ⟨same, completions_validatePath manager target, ?_⟩
  simp only [advanceMigration, next, validatePath_fst, count]
  cases up : isUp (env (validationAt base.config before)) target with
  | true =>
      rcases reached with ⟨passed, reached⟩
      exact absurd ⟨passed, before, target, reached, probed, up⟩ rejects
  | false => exact fun _ => ⟨before, ⟨reached, probed, up⟩, rfl⟩

theorem staysOnTrack_reportFailure (paths : manager.paths = base.paths) {message : Bytes}
    {mayFallBack : Bool}
    (failed : mayFallBack = true → ∃ before, FailsValidation env base path before target ∧
      manager.enumerated = validationAt base.config before + 1) :
    StaysOnTrack env base path manager (.reportFailure target message mayFallBack) := by
  refine ⟨rfl, completions_emit (by simp), ?_⟩
  simp only [advanceMigration]
  split
  · rename_i goes
    rcases failed goes.1 with ⟨before, fails, count⟩
    exact ⟨(canFallBack_of_paths paths).mp goes.2, before, target, fails, count⟩
  · rintro ⟨report, same, success⟩
    cases Except.ok.inj same
    contradiction

theorem staysOnTrack_fallBack (paths : manager.paths = base.paths) (fallback : canFallBack base)
    (failed : FailsValidation env base path before target)
    (count : manager.enumerated = validationAt base.config before + 1) :
    StaysOnTrack env base path manager .fallBack := by
  have previous : manager.previousPaths = base.previousPaths :=
    congrArg MigrationPaths.previousPaths paths
  cases list : manager.previousPaths with
  | nil => exact absurd (previous.symm.trans list) fallback.2
  | cons first rest =>
      constructor
      · simp [advanceMigration, list]
      · simp only [advanceMigration, list]
        exact completions_emit (by simp)
      · simp only [advanceMigration, list, MigrationManager.enumerated_emit]
        exact ⟨fallback, before, target, failed, by rw [count, ← previous, list]⟩

theorem staysOnTrack_search (fallback : canFallBack base) {list : List NetworkPath}
    (failed : FailsValidation env base path before target)
    (same : firstUp env manager.enumerated list =
      firstUp env (validationAt base.config before + 1) base.previousPaths) :
    StaysOnTrack env base path manager (.search list) := by
  cases list with
  | nil => exact ⟨rfl, rfl, not_succeeds_error _ _⟩
  | cons first rest =>
      rcases probePath_snd env manager first with ⟨kept, next⟩
      refine ⟨kept, completions_probePath manager first, ?_⟩
      simp only [advanceMigration, next, probePath_fst]
      rw [firstUp] at same
      cases up : isUp (env manager.enumerated) first with
      | true =>
          rw [up] at same
          exact reached_of_firstUp fallback failed same.symm
      | false =>
          rw [up] at same
          exact ⟨fallback, before, target, failed, same⟩

end

theorem staysOnTrack (rejects : ¬ Accepts env base path) {manager : MigrationManager}
    (paths : manager.paths = base.paths) {point : MigrationPoint}
    (track : OnTrack env base path manager.enumerated point) :
    StaysOnTrack env base path manager point := by
  cases point with
  | begin target => exact ⟨rfl, rfl, track⟩
  | announce target => exact ⟨rfl, completions_emit (by simp), track⟩
  | beginProbe target => exact staysOnTrack_beginProbe paths track
  | probe target => exact staysOnTrack_probe track.1 track.2
  | beginValidation target => exact ⟨rfl, rfl, track⟩
  | validate target =>
      rcases track with ⟨before, reached, probed, count⟩
      exact staysOnTrack_validate rejects reached probed count
  | fail target message mayFallBack => exact ⟨rfl, rfl, track⟩
  | reportFailure target message mayFallBack => exact staysOnTrack_reportFailure paths track
  | fallBack =>
      rcases track with ⟨fallback, before, target, failed, count⟩
      exact staysOnTrack_fallBack paths fallback failed count
  | search list =>
      rcases track with ⟨fallback, before, target, failed, same⟩
      exact staysOnTrack_search fallback failed same
  | returned result => exact ⟨rfl, rfl, track⟩
  | storeOldPath target => contradiction
  | switch target => contradiction
  | complete oldPath target => contradiction
  | announceCompletion oldPath target => contradiction
  | record result => contradiction
  | finish result => contradiction

theorem Tracked.step (rejects : ¬ Accepts env base path) {race : MigrationRace}
    (tracked : Tracked env base path race) (thread : RaceThread) :
    Tracked env base path (MigrationRace.step env race thread).2 := by
  cases thread with
  | migration =>
      have stays := staysOnTrack rejects tracked.paths tracked.track
      exact ⟨stays.paths.trans tracked.paths, stays.events.trans tracked.events, stays.track⟩
  | cancellation =>
      rcases advanceCancellation_spec race.manager race.cancellation with ⟨paths, count, events⟩
      refine ⟨paths.trans tracked.paths, events.trans tracked.events, ?_⟩
      have track := tracked.track
      rwa [← count] at track

theorem respects_of_rejects (rejects : ¬ Accepts env base path) :
    RespectsCancellation env base path := by
  have initial : Tracked env base path (start base path) := ⟨rfl, rfl, 0, rfl⟩
  have tracked (threads : List RaceThread) :
      Tracked env base path (final (MigrationRace.step env) (start base path) threads) :=
    final_invariant (Tracked env base path)
      (fun _ thread kept => kept.step rejects thread) initial threads
  intro before after _
  have earlier := tracked before
  have later := tracked (before ++ after)
  constructor
  · exact congrArg MigrationPaths.currentPath (later.paths.trans earlier.paths.symm)
  · exact later.events.trans earlier.events.symm
  · intro result returned
    have track := later.track
    rwa [returned] at track

end

/-! ## Migrations that accept a path -/

/-- The migration on its own comes to report success. -/
def Completes (env : Enumerations) (manager : MigrationManager) (point : MigrationPoint)
    (cancellation : CancelPoint) : Prop :=
  ∃ count result,
    (final (step env) ⟨manager, point, cancellation⟩
      (List.replicate count .migration)).migration = .returned result ∧ Succeeds result

section

variable {env : Enumerations} {manager next : MigrationManager} {point following : MigrationPoint}
  {cancellation : CancelPoint} {target : NetworkPath}

theorem Completes.of_step (goes : advanceMigration env manager point = (next, following))
    (completes : Completes env next following cancellation) :
    Completes env manager point cancellation := by
  rcases completes with ⟨count, result, returned, success⟩
  refine ⟨count + 1, result, ?_, success⟩
  have first : (step env ⟨manager, point, cancellation⟩ .migration).2 =
      ⟨next, following, cancellation⟩ := by
    simp [step, goes]
  rw [List.replicate_succ, final_cons, first]
  exact returned

theorem completes_storeOldPath : Completes env manager (.storeOldPath target) cancellation := by
  apply Completes.of_step rfl
  apply Completes.of_step rfl
  apply Completes.of_step rfl
  apply Completes.of_step rfl
  apply Completes.of_step rfl
  apply Completes.of_step rfl
  exact ⟨0, _, rfl, _, rfl, rfl⟩

theorem completes_validate (up : isUp (env manager.enumerated) target = true) :
    Completes env manager (.validate target) cancellation := by
  have goes : advanceMigration env manager (.validate target) =
      ((validatePath env manager target).2, .storeOldPath target) := by
    simp [advanceMigration, validatePath_fst, up]
  exact completes_storeOldPath.of_step goes

theorem completes_announce
    (probed : failsProbe manager.config env manager.enumerated target = false)
    (rest : ∀ later : MigrationManager, later.paths = manager.paths →
      later.enumerated = validationAt manager.config manager.enumerated →
      Completes env later (.validate target) cancellation) :
    Completes env manager (.announce target) cancellation := by
  have announces : advanceMigration env manager (.announce target) =
      (manager.emit {
        event := .migrationStarted, oldPath := manager.currentPath, newPath := some target },
        .beginProbe target) := rfl
  apply Completes.of_step announces
  generalize announced : manager.emit _ = begun
  have paths : begun.paths = manager.paths := by
    rw [← announced, MigrationManager.paths_emit]
  have count : begun.enumerated = manager.enumerated := by
    rw [← announced, MigrationManager.enumerated_emit]
  have config : begun.config = manager.config := congrArg MigrationPaths.config paths
  rw [failsProbe] at probed
  rw [validationAt] at rest
  cases probes : manager.config.enablePathProbing with
  | false =>
      have skips : advanceMigration env begun (.beginProbe target) =
          (begun, .beginValidation target) := by
        simp [advanceMigration, config, probes]
      rw [probes] at rest
      apply Completes.of_step skips
      apply Completes.of_step rfl
      exact rest _ paths count
  | true =>
      have begins : advanceMigration env begun (.beginProbe target) =
          (begun.setState .probing, .probe target) := by
        simp [advanceMigration, config, probes]
      have up : isUp (env begun.enumerated) target = true := by
        rw [count]
        simpa [probes] using probed
      have passes : advanceMigration env (begun.setState .probing) (.probe target) =
          ((probePath env (begun.setState .probing) target).2, .beginValidation target) := by
        simp [advanceMigration, probePath_fst, up]
      rcases probePath_snd env (begun.setState .probing) target with ⟨kept, next⟩
      rw [probes] at rest
      apply Completes.of_step begins
      apply Completes.of_step passes
      apply Completes.of_step rfl
      exact rest _ (kept.trans paths) (next.trans (congrArg (· + 1) count))

variable {previous : NetworkPath} {reached : Nat}

theorem completes_search {list : List NetworkPath}
    (found : firstUp env manager.enumerated list = (some previous, reached))
    (rest : ∀ later : MigrationManager, later.paths = manager.paths →
      later.enumerated = reached → Completes env later (.begin previous) cancellation) :
    Completes env manager (.search list) cancellation := by
  induction list generalizing manager with
  | nil => cases found
  | cons first others ih =>
      rcases probePath_snd env manager first with ⟨paths, count⟩
      rw [firstUp] at found
      cases up : isUp (env manager.enumerated) first with
      | true =>
          rw [up] at found
          cases found
          have goes : advanceMigration env manager (.search (previous :: others)) =
              ((probePath env manager previous).2, .begin previous) := by
            simp [advanceMigration, probePath_fst, up]
          exact (rest _ paths count).of_step goes
      | false =>
          rw [up] at found
          have goes : advanceMigration env manager (.search (first :: others)) =
              ((probePath env manager first).2, .search others) := by
            simp [advanceMigration, probePath_fst, up]
          apply Completes.of_step goes
          apply ih
          · rw [count]
            exact found
          · intro later same
            exact rest later (same.trans paths)

theorem completes_failed (fallback : canFallBack manager)
    (down : isUp (env manager.enumerated) target = false)
    (found : firstUp env (manager.enumerated + 1) manager.previousPaths =
      (some previous, reached))
    (rest : ∀ later : MigrationManager, later.paths = manager.paths →
      later.enumerated = reached → Completes env later (.begin previous) cancellation) :
    Completes env manager (.validate target) cancellation := by
  rcases validatePath_snd env manager target with ⟨paths, count⟩
  have fails : advanceMigration env manager (.validate target) =
      ((validatePath env manager target).2,
        .fail target (Text.ascii "Path validation failed") true) := by
    simp [advanceMigration, validatePath_fst, down]
  apply Completes.of_step fails
  apply Completes.of_step rfl
  generalize failed : MigrationManager.setState _ .failed = after
  have kept : after.paths = manager.paths := by
    rw [← failed, MigrationManager.paths_setState, paths]
  have next : after.enumerated = manager.enumerated + 1 := by
    rw [← failed, MigrationManager.enumerated_setState, count]
  generalize reported : (advanceMigration env after
    (.reportFailure target (Text.ascii "Path validation failed") true)).1 = report
  have reportPaths : report.paths = manager.paths := by
    rw [← reported]
    exact kept
  have reportCount : report.enumerated = manager.enumerated + 1 := by
    rw [← reported]
    exact next
  have reports : advanceMigration env after
      (.reportFailure target (Text.ascii "Path validation failed") true) =
      (report, .fallBack) := by
    have possible : canFallBack report := (canFallBack_of_paths reportPaths).mpr fallback
    rw [← reported] at possible ⊢
    refine Prod.ext rfl ?_
    exact if_pos ⟨rfl, possible⟩
  apply Completes.of_step reports
  have list : report.previousPaths = manager.previousPaths :=
    congrArg MigrationPaths.previousPaths reportPaths
  cases previousPaths : manager.previousPaths with
  | nil => exact absurd previousPaths fallback.2
  | cons first others =>
      have falls : advanceMigration env report .fallBack =
          (report.emit {
            event := .fallbackTriggered, oldPath := report.currentPath, newPath := some first },
            .search (first :: others)) := by
        simp [advanceMigration, list, previousPaths]
      apply Completes.of_step falls
      apply completes_search
      · rw [MigrationManager.enumerated_emit, reportCount, ← previousPaths]
        exact found
      · intro later same
        exact rest later (same.trans reportPaths)

theorem round_next {enumerated : Nat} {path : NetworkPath}
    (goes : rounds env manager (enumerated, path) = .inr (reached, previous)) :
    failsProbe manager.config env enumerated path = false ∧
      isUp (env (validationAt manager.config enumerated)) path = false ∧ canFallBack manager ∧
      firstUp env (validationAt manager.config enumerated + 1) manager.previousPaths =
        (some previous, reached) := by
  simp only [rounds, migrationRound] at goes
  split at goes
  · contradiction
  · rename_i probed
    split at goes
    · contradiction
    · rename_i down
      split at goes
      · rename_i fallback
        split at goes
        · rename_i found
          cases Sum.inr.inj goes
          exact ⟨Bool.not_eq_true _ ▸ probed, Bool.not_eq_true _ ▸ down, fallback, found⟩
        · contradiction
      · contradiction

theorem completes_of_passes {count enumerated : Nat} {path : NetworkPath}
    (reached : passes (rounds env manager) count (manager.enumerated, path) =
      some (enumerated, target))
    (probed : failsProbe manager.config env enumerated target = false)
    (up : isUp (env (validationAt manager.config enumerated)) target = true) :
    Completes env manager (.announce path) cancellation := by
  induction count generalizing manager path with
  | zero =>
      cases Option.some.inj reached
      apply completes_announce probed
      intro later _ counted
      apply completes_validate
      rwa [counted]
  | succ count ih =>
      rw [passes] at reached
      cases round : rounds env manager (manager.enumerated, path) with
      | inl ending =>
          rw [round] at reached
          contradiction
      | inr following =>
          rw [round] at reached
          rcases following with ⟨reachedAt, previous⟩
          rcases round_next round with ⟨passed, down, fallback, found⟩
          apply completes_announce passed
          intro validating paths counted
          have list : validating.previousPaths = manager.previousPaths :=
            congrArg MigrationPaths.previousPaths paths
          rw [← counted] at down found
          rw [← list] at found
          apply completes_failed ((canFallBack_of_paths paths).mpr fallback) down found
          intro later samePaths counted'
          have all := samePaths.trans paths
          have config : later.config = manager.config := congrArg MigrationPaths.config all
          have previousPaths : later.previousPaths = manager.previousPaths :=
            congrArg MigrationPaths.previousPaths all
          apply Completes.of_step rfl
          apply ih
          · change passes (migrationRound later.config later.previousPaths env) count
              (later.enumerated, previous) = _
            rwa [config, previousPaths, counted']
          · change failsProbe later.config env enumerated target = false
            rwa [config]
          · change isUp (env (validationAt later.config enumerated)) target = true
            rwa [config]

end

/-- A cancellation is respected in every interleaving exactly if the migration accepts no path
anyway. -/
theorem respectsCancellation_iff (env : Enumerations) (manager : MigrationManager)
    (path : NetworkPath) :
    RespectsCancellation env manager path ↔ ¬ Accepts env manager path := by
  constructor
  · rintro respects ⟨count, enumerated, target, reached, probed, up⟩
    -- the cancellation comes right after the first state of the migration
    let before : List RaceThread := [.migration, .cancellation, .cancellation, .cancellation]
    let cancelled := (manager.setState .migrating).setState .idle |>.emit {
      event := .migrationFailed, errorMessage := Text.ascii "Migration cancelled" }
    have middle : final (step env) (start manager path) before =
        ⟨cancelled, .announce path, .returned true⟩ := rfl
    have completes : Completes env cancelled (.announce path) (.returned true) :=
      completes_of_passes reached probed up
    rcases completes with ⟨rest, result, returned, success⟩
    have respected := respects before (List.replicate rest .migration) (by rw [middle])
    rw [final_append, middle] at respected
    exact respected.result result returned success
  · exact respects_of_rejects

open MigrationSample in
/-- A migration that was cancelled in its first state switches to the new path. -/
theorem cancellation_ignored :
    ¬ RespectsCancellation (fun _ => [⟨[2], true⟩]) (onPath (pathFrom [1]) []) (pathFrom [2]) := by
  intro respects
  have stays := (respects [.migration, .cancellation, .cancellation, .cancellation]
    (List.replicate 8 .migration) rfl).currentPath
  exact absurd stays (by decide)

end MigrationRace

end FileTrans.Transport
