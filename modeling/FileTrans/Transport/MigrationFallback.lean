import FileTrans.Transition.Loop
import FileTrans.Transport.ConnectionMigration

/-!
# Falling back

A migration and the fallbacks it leads to are rounds of one loop.  A round goes
on to another where the path passes its probe and fails its validation, and a
previous path is up when it is probed for the fallback; the list of the
previous paths stays the same until the loop ends.
-/

namespace FileTrans.Transport

open FileTrans.Core FileTrans.Transition

/-! ## What a migration depends on -/

/-- The configuration and the paths of a manager. -/
structure MigrationPaths where
  config : MigrationConfig
  currentPath : Option NetworkPath
  previousPaths : List NetworkPath

/-- The history when the current path is left. -/
def MigrationPaths.left (paths : MigrationPaths) : List NetworkPath :=
  match paths.currentPath with
  | some path =>
      if paths.config.keepPreviousPaths then pushPath paths.config path paths.previousPaths
      else paths.previousPaths
  | none => paths.previousPaths

/-- The paths after a switch. -/
def MigrationPaths.switch (paths : MigrationPaths) (path : NetworkPath) : MigrationPaths :=
  ⟨paths.config, some { path with validated := true }, paths.left⟩

def MigrationManager.paths (manager : MigrationManager) : MigrationPaths :=
  ⟨manager.config, manager.currentPath, manager.previousPaths⟩

namespace MigrationManager

variable (manager : MigrationManager)

@[simp]
theorem paths_setState (state : MigrationState) : (manager.setState state).paths = manager.paths :=
  rfl

@[simp]
theorem paths_emit (event : MigrationEventData) : (manager.emit event).paths = manager.paths :=
  rfl

@[simp]
theorem enumerated_setState (state : MigrationState) :
    (manager.setState state).enumerated = manager.enumerated :=
  rfl

@[simp]
theorem enumerated_emit (event : MigrationEventData) :
    (manager.emit event).enumerated = manager.enumerated :=
  rfl

end MigrationManager

/-! ## The rounds -/

inductive MigrationEnd
  | failed
  | switched (path : NetworkPath)

/-- The first of the paths that is up when it is asked for, and how often the interfaces were
enumerated then. -/
def firstUp (env : Enumerations) (enumerated : Nat) :
    List NetworkPath → Option NetworkPath × Nat
  | [] => (none, enumerated)
  | path :: rest =>
      if isUp (env enumerated) path then (some path, enumerated + 1)
      else firstUp env (enumerated + 1) rest

/-- The path is probed and is down. -/
def failsProbe (config : MigrationConfig) (env : Enumerations) (enumerated : Nat)
    (path : NetworkPath) : Bool :=
  config.enablePathProbing && !isUp (env enumerated) path

/-- The enumeration that a validation asks for, after the one of the probe. -/
def validationAt (config : MigrationConfig) (enumerated : Nat) : Nat :=
  if config.enablePathProbing then enumerated + 1 else enumerated

theorem validationAt_of_failsProbe {config : MigrationConfig} {env : Enumerations}
    {enumerated : Nat} {path : NetworkPath}
    (fails : failsProbe config env enumerated path = true) :
    validationAt config enumerated = enumerated + 1 := by
  rw [failsProbe, Bool.and_eq_true] at fails
  rw [validationAt, if_pos fails.1]

/-- A round: the path is probed and validated, and if the validation fails the first previous
path that is up is next. -/
def migrationRound (config : MigrationConfig) (previousPaths : List NetworkPath)
    (env : Enumerations) : Body (Nat × NetworkPath) (MigrationEnd × Nat) :=
  fun (enumerated, path) =>
    let validated := validationAt config enumerated
    if failsProbe config env enumerated path then .inl (.failed, enumerated + 1)
    else if isUp (env validated) path then .inl (.switched path, validated + 1)
    else if config.enableFallback = true ∧ previousPaths ≠ [] then
      match firstUp env (validated + 1) previousPaths with
      | (some previous, next) => .inr (next, previous)
      | (none, next) => .inl (.failed, next)
    else .inl (.failed, validated + 1)

/-! ## A migration is its rounds -/

section

variable (env : Enumerations) (manager : MigrationManager) (path : NetworkPath)

theorem probePath_fst : (probePath env manager path).1 = isUp (env manager.enumerated) path := by
  cases up : isUp (env manager.enumerated) path with
  | false => simp [probePath, up]
  | true => simp [probePath, up]

theorem probePath_snd :
    (probePath env manager path).2.paths = manager.paths ∧
      (probePath env manager path).2.enumerated = manager.enumerated + 1 := by
  cases up : isUp (env manager.enumerated) path with
  | false => simp [probePath, up, MigrationManager.paths, MigrationManager.emit]
  | true => simp [probePath, up, MigrationManager.paths, MigrationManager.emit]

theorem validatePath_fst :
    (validatePath env manager path).1 = isUp (env manager.enumerated) path := by
  cases up : isUp (env manager.enumerated) path with
  | false => simp [validatePath, up]
  | true => simp [validatePath, up]

theorem validatePath_snd :
    (validatePath env manager path).2.paths = manager.paths ∧
      (validatePath env manager path).2.enumerated = manager.enumerated + 1 := by
  cases up : isUp (env manager.enumerated) path with
  | false => simp [validatePath, up, MigrationManager.paths]
  | true => simp [validatePath, up, MigrationManager.paths, MigrationManager.emit]

theorem probeFirst_fst :
    (probeFirst env manager path).1 = !failsProbe manager.config env manager.enumerated path := by
  rw [probeFirst, failsProbe]
  cases manager.config.enablePathProbing with
  | false => rfl
  | true => exact (probePath_fst env (manager.setState .probing) path).trans (Bool.not_not _).symm

theorem probeFirst_snd :
    (probeFirst env manager path).2.paths = manager.paths ∧
      (probeFirst env manager path).2.enumerated =
        validationAt manager.config manager.enumerated := by
  rw [probeFirst, validationAt]
  cases manager.config.enablePathProbing with
  | false => exact ⟨rfl, rfl⟩
  | true => exact probePath_snd env (manager.setState .probing) path

theorem firstProbed_spec (list : List NetworkPath) :
    (firstProbed env manager list).1 = (firstUp env manager.enumerated list).1 ∧
      (firstProbed env manager list).2.paths = manager.paths ∧
      (firstProbed env manager list).2.enumerated = (firstUp env manager.enumerated list).2 := by
  induction list generalizing manager with
  | nil => exact ⟨rfl, rfl, rfl⟩
  | cons path rest ih =>
      rcases probePath_snd env manager path with ⟨paths, count⟩
      rw [firstProbed, firstUp, probePath_fst]
      cases isUp (env manager.enumerated) path with
      | true => exact ⟨rfl, paths, count⟩
      | false =>
          have later := ih (probePath env manager path).2
          rw [paths, count] at later
          exact later

theorem storeOldPath_spec :
    (storeOldPath manager).paths = { manager.paths with previousPaths := manager.paths.left } ∧
      (storeOldPath manager).enumerated = manager.enumerated := by
  rcases manager with ⟨config, state, currentPath, previousPaths, stats, events, enumerated⟩
  cases currentPath with
  | none => exact ⟨rfl, rfl⟩
  | some current =>
      cases keep : config.keepPreviousPaths with
      | false => simp [storeOldPath, MigrationPaths.left, MigrationManager.paths, keep]
      | true =>
          simp [storeOldPath, MigrationPaths.left, MigrationManager.paths, keep,
            MigrationManager.addPreviousPath]

theorem completeMigration_spec :
    (completeMigration manager path).1 =
        .succeeded (manager.currentPath.getD .empty) path ∧
      (completeMigration manager path).2.paths = manager.paths.switch path ∧
      (completeMigration manager path).2.enumerated = manager.enumerated := by
  rcases storeOldPath_spec manager with ⟨paths, count⟩
  have config : (storeOldPath manager).config = manager.config :=
    congrArg MigrationPaths.config paths
  have current : (storeOldPath manager).currentPath = manager.currentPath :=
    congrArg MigrationPaths.currentPath paths
  have previous : (storeOldPath manager).previousPaths = manager.paths.left :=
    congrArg MigrationPaths.previousPaths paths
  refine ⟨?_, ?_, count⟩
  · rw [completeMigration, current]
  · calc
      (completeMigration manager path).2.paths =
          ⟨(storeOldPath manager).config, some { path with validated := true },
            (storeOldPath manager).previousPaths⟩ := rfl
      _ = manager.paths.switch path := by
          rw [config, previous]
          rfl

/-- The call reports a migration that was completed. -/
def Succeeds (result : Result MigrationResult) : Prop :=
  ∃ report, result = .ok report ∧ report.success = true

/-- What a call returns and leaves behind, when its rounds end so. -/
def EndsWith (paths : MigrationPaths) (result : Result MigrationResult)
    (after : MigrationManager) (ending : MigrationEnd × Nat) : Prop :=
  after.enumerated = ending.2 ∧
    match ending.1 with
    | .failed => ¬ Succeeds result ∧ after.paths = paths
    | .switched path =>
        result = .ok (.succeeded (paths.currentPath.getD .empty) path) ∧
          after.paths = paths.switch path

/-- The manager when the new path was probed. -/
def probed : MigrationManager :=
  (probeFirst env (beginMigration manager path) path).2

/-- The manager when the new path was validated. -/
def validated : MigrationManager :=
  (validatePath env ((probed env manager path).setState .validating) path).2

theorem probed_spec :
    (probed env manager path).paths = manager.paths ∧
      (probed env manager path).enumerated = validationAt manager.config manager.enumerated :=
  probeFirst_snd env (beginMigration manager path) path

theorem validated_spec :
    (validated env manager path).paths = manager.paths ∧
      (validated env manager path).enumerated =
        validationAt manager.config manager.enumerated + 1 := by
  rcases probed_spec env manager path with ⟨paths, count⟩
  rcases validatePath_snd env ((probed env manager path).setState .validating) path with
    ⟨kept, next⟩
  exact ⟨kept.trans paths, next.trans (congrArg (· + 1) count)⟩

/-- A migration that fails the validation. -/
def invalid : MigrationResult × MigrationManager :=
  failMigration (validated env manager path) path (Text.ascii "Path validation failed")

theorem canFallBack_invalid :
    canFallBack (invalid env manager path).2 ↔
      manager.config.enableFallback = true ∧ manager.previousPaths ≠ [] := by
  have paths : (invalid env manager path).2.paths = manager.paths :=
    (validated_spec env manager path).1
  have config : (invalid env manager path).2.config = manager.config :=
    congrArg MigrationPaths.config paths
  have previous : (invalid env manager path).2.previousPaths = manager.previousPaths :=
    congrArg MigrationPaths.previousPaths paths
  rw [canFallBack, config, previous]

theorem migrateToPath_succ (depth : Nat) :
    migrateToPath env (depth + 1) manager path =
      if failsProbe manager.config env manager.enumerated path then
        let failure := failMigration (probed env manager path) path
          (Text.ascii "Path probe failed")
        some (.ok failure.1, failure.2)
      else if isUp (env (validationAt manager.config manager.enumerated)) path then
        let completion := completeMigration (validated env manager path) path
        some (.ok completion.1, completion.2)
      else if manager.config.enableFallback = true ∧ manager.previousPaths ≠ [] then
        fallbackToPrevious env (migrateToPath env depth) (invalid env manager path).2
      else some (.ok (invalid env manager path).1, (invalid env manager path).2) := by
  have probe : (probeFirst env (beginMigration manager path) path).1 =
      !failsProbe manager.config env manager.enumerated path :=
    probeFirst_fst env (beginMigration manager path) path
  have validate : (validatePath env ((probed env manager path).setState .validating) path).1 =
      isUp (env (validationAt manager.config manager.enumerated)) path := by
    rw [validatePath_fst, MigrationManager.enumerated_setState, (probed_spec env manager path).2]
  have unfolded : migrateToPath env (depth + 1) manager path =
      if ¬ (probeFirst env (beginMigration manager path) path).1 then
        let failure := failMigration (probed env manager path) path
          (Text.ascii "Path probe failed")
        some (.ok failure.1, failure.2)
      else if ¬ (validatePath env ((probed env manager path).setState .validating) path).1 then
        if canFallBack (invalid env manager path).2 then
          fallbackToPrevious env (migrateToPath env depth) (invalid env manager path).2
        else some (.ok (invalid env manager path).1, (invalid env manager path).2)
      else
        let completion := completeMigration (validated env manager path) path
        some (.ok completion.1, completion.2) :=
    rfl
  rw [unfolded, probe, validate]
  simp only [canFallBack_invalid]
  cases failsProbe manager.config env manager.enumerated path with
  | true => rfl
  | false =>
      cases isUp (env (validationAt manager.config manager.enumerated)) path with
      | true => rfl
      | false => rfl

theorem fallbackToPrevious_cases
    (migrate : MigrationManager → NetworkPath → Option (Result MigrationResult × MigrationManager))
    (nonempty : manager.previousPaths ≠ []) :
    ∃ after : MigrationManager, after.paths = manager.paths ∧
      after.enumerated = (firstUp env manager.enumerated manager.previousPaths).2 ∧
      fallbackToPrevious env migrate manager =
        match (firstUp env manager.enumerated manager.previousPaths).1 with
        | some previous => migrate after previous
        | none => some (unexpected .internalError "All fallback paths failed", after) := by
  rw [fallbackToPrevious]
  cases list : manager.previousPaths with
  | nil => exact absurd list nonempty
  | cons first rest =>
      dsimp only
      generalize trigger : manager.emit _ = triggered
      have emitted : triggered.paths = manager.paths ∧
          triggered.enumerated = manager.enumerated := by
        rw [← trigger]
        exact ⟨rfl, rfl⟩
      have spec := firstProbed_spec env triggered (first :: rest)
      rw [emitted.1, emitted.2] at spec
      generalize firstProbed env triggered (first :: rest) = probed at spec ⊢
      rcases probed with ⟨_ | previous, after⟩
      · rw [← spec.1]
        exact ⟨after, spec.2.1, spec.2.2, rfl⟩
      · rw [← spec.1]
        exact ⟨after, spec.2.1, spec.2.2, rfl⟩

theorem not_succeeds_failMigration (message : Bytes) :
    ¬ Succeeds (.ok (failMigration manager path message).1) := by
  rintro ⟨report, same, success⟩
  cases Except.ok.inj same
  contradiction

theorem not_succeeds_error (code : ErrorCode) (message : String) :
    ¬ Succeeds (unexpected code message) := by
  rintro ⟨report, same, -⟩
  contradiction

theorem migrateToPath_rounds (depth : Nat) :
    Option.Rel (fun returned => EndsWith manager.paths returned.1 returned.2)
      (migrateToPath env depth manager path)
      (loop (migrationRound manager.config manager.previousPaths env) depth
        (manager.enumerated, path)) := by
  induction depth generalizing manager path with
  | zero => exact .none
  | succ depth ih =>
      rcases validated_spec env manager path with ⟨kept, count⟩
      rw [migrateToPath_succ, loop, migrationRound]
      dsimp only
      by_cases down : failsProbe manager.config env manager.enumerated path = true
      · rw [if_pos down, if_pos down]
        refine .some ⟨?_, not_succeeds_failMigration _ _ _, (probed_spec env manager path).1⟩
        exact (probed_spec env manager path).2.trans (validationAt_of_failsProbe down)
      · rw [if_neg down, if_neg down]
        by_cases up : isUp (env (validationAt manager.config manager.enumerated)) path = true
        · rw [if_pos up, if_pos up]
          rcases completeMigration_spec (validated env manager path) path with
            ⟨result, switched, same⟩
          have current : (validated env manager path).currentPath = manager.currentPath :=
            congrArg MigrationPaths.currentPath kept
          rw [current] at result
          rw [kept] at switched
          exact .some ⟨same.trans count, congrArg Except.ok result, switched⟩
        · rw [if_neg up, if_neg up]
          have failed : (invalid env manager path).2.paths = manager.paths := kept
          have asked : (invalid env manager path).2.enumerated =
              validationAt manager.config manager.enumerated + 1 := count
          by_cases fallback : manager.config.enableFallback = true ∧ manager.previousPaths ≠ []
          · rw [if_pos fallback, if_pos fallback]
            have list : (invalid env manager path).2.previousPaths = manager.previousPaths :=
              congrArg MigrationPaths.previousPaths failed
            rcases fallbackToPrevious_cases env (invalid env manager path).2
              (migrateToPath env depth)
              (list ▸ fallback.2) with ⟨after, paths, next, same⟩
            rw [failed] at paths
            rw [asked, list] at next same
            rw [same]
            generalize firstUp env (validationAt manager.config manager.enumerated + 1)
              manager.previousPaths = found at next ⊢
            rcases found with ⟨_ | previous, reached⟩
            · exact .some ⟨next, not_succeeds_error _ _, paths⟩
            · have config : after.config = manager.config := congrArg MigrationPaths.config paths
              have previousPaths : after.previousPaths = manager.previousPaths :=
                congrArg MigrationPaths.previousPaths paths
              have rest := ih after previous
              rw [paths, config, previousPaths, next] at rest
              exact rest
          · rw [if_neg fallback, if_neg fallback]
            exact .some ⟨asked, not_succeeds_failMigration _ _ _, failed⟩

end

end FileTrans.Transport
