import FileTrans.Core.Types

/-!
# Connection migration

A migration probes and validates the new path and then switches to it; where
the validation fails it falls back to a previous path, which is a migration of
its own.  Probing and validating both ask the system for its interfaces; what
they find may be different every time.  Times and durations are left out.
-/

namespace FileTrans.Transport

open FileTrans.Core

structure NetworkPath where
  localAddress : Bytes
  localPort : UInt16
  remoteAddress : Bytes
  remotePort : UInt16
  interfaceName : Bytes
  validated : Bool
  deriving DecidableEq

/-- `network_path{}`. -/
def NetworkPath.empty : NetworkPath :=
  ⟨[], 0, [], 0, [], false⟩

/-- `network_path::operator==`. -/
def NetworkPath.same (path other : NetworkPath) : Prop :=
  path.localAddress = other.localAddress ∧ path.localPort = other.localPort ∧
    path.remoteAddress = other.remoteAddress ∧ path.remotePort = other.remotePort

instance (path other : NetworkPath) : Decidable (path.same other) :=
  inferInstanceAs (Decidable (_ ∧ _))

/-- `network_interface`, as far as a migration reads it. -/
structure NetworkInterface where
  address : Bytes
  isUp : Bool

inductive MigrationState
  | idle
  | detecting
  | probing
  | validating
  | migrating
  | completed
  | failed
  deriving DecidableEq

inductive MigrationEvent
  | networkChangeDetected
  | pathProbeStarted
  | pathProbeSucceeded
  | pathProbeFailed
  | migrationStarted
  | migrationCompleted
  | migrationFailed
  | pathValidated
  | pathDegraded
  | fallbackTriggered
  deriving DecidableEq

structure MigrationEventData where
  event : MigrationEvent
  oldPath : Option NetworkPath := none
  newPath : Option NetworkPath := none
  errorMessage : Bytes := []
  deriving DecidableEq

structure MigrationResult where
  success : Bool
  oldPath : NetworkPath
  newPath : NetworkPath
  errorMessage : Bytes
  deriving DecidableEq

def MigrationResult.succeeded (oldPath newPath : NetworkPath) : MigrationResult :=
  ⟨true, oldPath, newPath, []⟩

def MigrationResult.failed (oldPath : NetworkPath) (message : Bytes) : MigrationResult :=
  ⟨false, oldPath, .empty, message⟩

structure MigrationStatistics where
  totalMigrations : UInt64
  successfulMigrations : UInt64
  failedMigrations : UInt64
  pathProbes : UInt64
  deriving DecidableEq

/-- `migration_config`, as far as a migration reads it. -/
structure MigrationConfig where
  enablePathProbing : Bool
  enableFallback : Bool
  keepPreviousPaths : Bool
  maxPreviousPaths : UInt64
  deriving DecidableEq

/-- The default of `migration_config`. -/
def MigrationConfig.default : MigrationConfig where
  enablePathProbing := true
  enableFallback := true
  keepPreviousPaths := true
  maxPreviousPaths := 3

/-- What each enumeration of the interfaces finds. -/
abbrev Enumerations := Nat → List NetworkInterface

/-- `connection_migration_manager`, with the events that it emitted and the number of times that
it enumerated the interfaces. -/
structure MigrationManager where
  config : MigrationConfig
  state : MigrationState
  currentPath : Option NetworkPath
  previousPaths : List NetworkPath
  stats : MigrationStatistics
  events : List MigrationEventData
  enumerated : Nat

/-- The loop of `probe_path` and of `validate_path` over the interfaces. -/
def isUp (interfaces : List NetworkInterface) (path : NetworkPath) : Bool :=
  interfaces.any fun interface => interface.address = path.localAddress && interface.isUp

/-- What becomes of the history when a path is left: it is moved to the front, and what is over
the limit is cut off. -/
def pushPath (config : MigrationConfig) (path : NetworkPath) (previousPaths : List NetworkPath) :
    List NetworkPath :=
  let moved := path :: previousPaths.filter fun previous => ¬ previous.same path
  if config.maxPreviousPaths.toNat < moved.length then moved.take config.maxPreviousPaths.toNat
  else moved

namespace MigrationManager

def create (config : MigrationConfig) : MigrationManager :=
  ⟨config, .idle, none, [], ⟨0, 0, 0, 0⟩, [], 0⟩

def setState (manager : MigrationManager) (state : MigrationState) : MigrationManager :=
  { manager with state }

/-- `emit_event`. -/
def emit (manager : MigrationManager) (event : MigrationEventData) : MigrationManager :=
  { manager with events := manager.events ++ [event] }

def updateStats (manager : MigrationManager) (result : MigrationResult) : MigrationManager :=
  let stats := { manager.stats with totalMigrations := manager.stats.totalMigrations + 1 }
  { manager with
    stats :=
      if result.success then
        { stats with successfulMigrations := stats.successfulMigrations + 1 }
      else { stats with failedMigrations := stats.failedMigrations + 1 } }

def addPreviousPath (manager : MigrationManager) (path : NetworkPath) : MigrationManager :=
  { manager with previousPaths := pushPath manager.config path manager.previousPaths }

def setCurrentPath (manager : MigrationManager) (path : NetworkPath) : MigrationManager :=
  { manager with currentPath := some path }

def setConfig (manager : MigrationManager) (config : MigrationConfig) : MigrationManager :=
  { manager with config }

end MigrationManager

/-! ## Probing and validating -/

section

variable (env : Enumerations)

def probePath (manager : MigrationManager) (path : NetworkPath) : Bool × MigrationManager :=
  let manager := manager.emit { event := .pathProbeStarted, newPath := some path }
  let manager := { manager with
    stats := { manager.stats with pathProbes := manager.stats.pathProbes + 1 } }
  let found := isUp (env manager.enumerated) path
  let manager := { manager with enumerated := manager.enumerated + 1 }
  if found then (true, manager.emit { event := .pathProbeSucceeded, newPath := some path })
  else (false, manager.emit {
    event := .pathProbeFailed
    newPath := some path
    errorMessage := Text.ascii "Interface not found or down" })

def validatePath (manager : MigrationManager) (path : NetworkPath) : Bool × MigrationManager :=
  let valid := isUp (env manager.enumerated) path
  let manager := { manager with enumerated := manager.enumerated + 1 }
  if valid then (true, manager.emit { event := .pathValidated, newPath := some path })
  else (false, manager)

/-! ## Migrating -/

/-- The event and the state when a migration begins. -/
def beginMigration (manager : MigrationManager) (newPath : NetworkPath) : MigrationManager :=
  let manager := manager.setState .migrating
  manager.emit {
    event := .migrationStarted, oldPath := manager.currentPath, newPath := some newPath }

/-- The check of the probe; without probing it is passed. -/
def probeFirst (manager : MigrationManager) (newPath : NetworkPath) : Bool × MigrationManager :=
  if manager.config.enablePathProbing then probePath env (manager.setState .probing) newPath
  else (true, manager)

/-- What a failed migration reports. -/
def failMigration (manager : MigrationManager) (newPath : NetworkPath) (message : Bytes) :
    MigrationResult × MigrationManager :=
  let manager := manager.setState .failed
  let manager := manager.emit {
    event := .migrationFailed
    oldPath := manager.currentPath
    newPath := some newPath
    errorMessage := message }
  let result := MigrationResult.failed (manager.currentPath.getD .empty) message
  (result, manager.updateStats result)

/-- The path that is left goes into the history. -/
def storeOldPath (manager : MigrationManager) : MigrationManager :=
  match manager.currentPath with
  | some path => if manager.config.keepPreviousPaths then manager.addPreviousPath path else manager
  | none => manager

/-- The switch to the new path. -/
def switchTo (manager : MigrationManager) (newPath : NetworkPath) : MigrationManager :=
  { manager with currentPath := some { newPath with validated := true } }

/-- The event of a completed migration. -/
def announceCompletion (manager : MigrationManager) (oldPath newPath : NetworkPath) :
    MigrationManager :=
  manager.emit { event := .migrationCompleted, oldPath := some oldPath, newPath := some newPath }

/-- The switch to the new path, and what a completed migration reports. -/
def completeMigration (manager : MigrationManager) (newPath : NetworkPath) :
    MigrationResult × MigrationManager :=
  let manager := storeOldPath manager
  let oldPath := manager.currentPath.getD .empty
  let manager := (switchTo manager newPath).setState .completed
  let manager := announceCompletion manager oldPath newPath
  let result := MigrationResult.succeeded oldPath newPath
  (result, (manager.updateStats result).setState .idle)

/-- The loop of `fallback_to_previous`: the first path whose probe succeeds. -/
def firstProbed (manager : MigrationManager) :
    List NetworkPath → Option NetworkPath × MigrationManager
  | [] => (none, manager)
  | path :: rest =>
      let probe := probePath env manager path
      if probe.1 then (some path, probe.2) else firstProbed probe.2 rest

/-- A failed validation leads to a fallback. -/
def canFallBack (manager : MigrationManager) : Prop :=
  manager.config.enableFallback = true ∧ manager.previousPaths ≠ []

instance (manager : MigrationManager) : Decidable (canFallBack manager) :=
  inferInstanceAs (Decidable (_ ∧ _))

/-- `fallback_to_previous`, with the migration to the path that it finds. -/
def fallbackToPrevious
    (migrate : MigrationManager → NetworkPath → Option (Result MigrationResult × MigrationManager))
    (manager : MigrationManager) : Option (Result MigrationResult × MigrationManager) :=
  match manager.previousPaths with
  | [] => some (unexpected .internalError "No previous paths available", manager)
  | first :: rest =>
      let manager := manager.emit {
        event := .fallbackTriggered, oldPath := manager.currentPath, newPath := some first }
      match firstProbed env manager (first :: rest) with
      | (some path, manager) => migrate manager path
      | (none, manager) => some (unexpected .internalError "All fallback paths failed", manager)

/-- `migrate_to_path`, if it returns within so many migrations. -/
def migrateToPath :
    Nat → MigrationManager → NetworkPath → Option (Result MigrationResult × MigrationManager)
  | 0, _, _ => none
  | depth + 1, manager, newPath =>
      let manager := beginMigration manager newPath
      let (probed, manager) := probeFirst env manager newPath
      if ¬ probed then
        let (result, manager) := failMigration manager newPath (Text.ascii "Path probe failed")
        some (.ok result, manager)
      else
        let (valid, manager) := validatePath env (manager.setState .validating) newPath
        if ¬ valid then
          let (result, manager) :=
            failMigration manager newPath (Text.ascii "Path validation failed")
          if canFallBack manager then fallbackToPrevious env (migrateToPath depth) manager
          else some (.ok result, manager)
        else
          let (result, manager) := completeMigration manager newPath
          some (.ok result, manager)

end

end FileTrans.Transport
