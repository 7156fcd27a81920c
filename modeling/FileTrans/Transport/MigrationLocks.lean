import FileTrans.Concurrency.Locks
import FileTrans.Transition.Run

/-!
# The locks of a migration

`migration_mutex` belongs to the transport, the other mutexes to its migration manager.
The manager emits its events under `callback_mutex`, and the forwarding that
`set_migration_manager` installs locks `migration_mutex` in the callback.
`stop_network_monitoring` joins the monitor thread under `migration_mutex`.

An operation is the sequence of its commands on the path that it takes.  The monitor
thread goes through iterations of its loop as long as the flag is set.
-/

namespace FileTrans.Transport

open FileTrans.Concurrency FileTrans.Transition

/-- The mutexes of a transport and its migration manager. -/
inductive MigrationMutex
  | migration
  | callback
  | path
  | stats
  deriving DecidableEq

/-- What concerns the monitor thread. -/
inductive MonitorAction
  /-- `monitoring.exchange(false)`; if the flag was set, the thread is joined next. -/
  | exchange
  /-- `monitor_thread.join()`. -/
  | join
  /-- `start_monitoring`: nothing if the flag is set, else it is set and the thread begins. -/
  | spawn
  deriving DecidableEq

abbrev MigrationCommand := Command MigrationMutex MonitorAction

/-! ## What each operation does -/

/-- `emit_event`, with the forwarding to the transport. -/
def emitEventLocks : List MigrationCommand :=
  guarding .callback (guarding .migration [])

/-- `emit_network_change`. -/
def emitNetworkChangeLocks : List MigrationCommand :=
  guarding .callback []

/-- `update_stats`, and the other changes of the statistics. -/
def updateStatsLocks : List MigrationCommand :=
  guarding .stats []

/-- A scope under `path_mutex`: `add_previous_path`, `current_path`, `set_current_path`, and the
accesses in `migrate_to_path` and `fallback_to_previous`. -/
def pathLocks : List MigrationCommand :=
  guarding .path []

/-- `probe_path`. -/
def probePathLocks : List MigrationCommand :=
  emitEventLocks ++ updateStatsLocks ++ emitEventLocks

/-- How a call of `migrate_to_path` goes, with the fallback that it may lead to; `probing` is
`enable_path_probing`. -/
inductive MigrationCourse
  | probeFailed
  | validationFailed (probing : Bool)
  /-- `fallback_to_previous` finds the list empty. -/
  | nonePrevious (probing : Bool)
  /-- No previous path passes its probe. -/
  | noneUp (probing : Bool) (failed : Nat)
  /-- A previous path passes its probe after some others failed theirs. -/
  | fellBack (probing : Bool) (failed : Nat) (next : MigrationCourse)
  | completed (probing keepsPrevious : Bool)

/-- `migrate_to_path` up to the validation. -/
def beginMigrationLocks (probing : Bool) : List MigrationCommand :=
  emitEventLocks ++ if probing then probePathLocks else []

/-- The event and the statistics of a migration that fails. -/
def failMigrationLocks : List MigrationCommand :=
  emitEventLocks ++ updateStatsLocks

/-- The probes of the previous paths. -/
def probesLocks (count : Nat) : List MigrationCommand :=
  (List.replicate count ()).flatMap fun _ => probePathLocks

/-- `migrate_to_path`. -/
def migrateToPathLocks : MigrationCourse → List MigrationCommand
  | .probeFailed => beginMigrationLocks true ++ failMigrationLocks
  | .validationFailed probing => beginMigrationLocks probing ++ failMigrationLocks
  | .nonePrevious probing => beginMigrationLocks probing ++ failMigrationLocks ++ pathLocks
  | .noneUp probing failed =>
      beginMigrationLocks probing ++ failMigrationLocks ++ pathLocks ++ emitEventLocks ++
        probesLocks failed
  | .fellBack probing failed next =>
      beginMigrationLocks probing ++ failMigrationLocks ++ pathLocks ++ emitEventLocks ++
        probesLocks (failed + 1) ++ migrateToPathLocks next
  | .completed probing keepsPrevious =>
      beginMigrationLocks probing ++ emitEventLocks ++
        (if keepsPrevious then pathLocks else []) ++ pathLocks ++ emitEventLocks ++
        updateStatsLocks

/-- An operation of a transport that has a migration manager, with the path that it takes. -/
inductive MigrationOperation
  /-- `migrate_to`; without a course, the transport is not connected. -/
  | migrateTo (course : Option MigrationCourse)
  | currentNetworkPath
  | getMigrationState
  | startNetworkMonitoring (setsPath : Bool)
  | stopNetworkMonitoring
  | onMigrationEvent

def MigrationOperation.locks : MigrationOperation → List MigrationCommand
  | migrateTo none => []
  | migrateTo (some course) => guarding .migration (migrateToPathLocks course)
  | currentNetworkPath => guarding .migration pathLocks
  | getMigrationState => guarding .migration []
  | startNetworkMonitoring setsPath =>
      guarding .migration ((if setsPath then pathLocks else []) ++ [.act .spawn])
  | stopNetworkMonitoring => guarding .migration [.act .exchange]
  | onMigrationEvent => guarding .migration []

/-- An iteration of the monitor thread: a change, if there is one, with the migrations that it leads
to. -/
def iterationLocks : Option (List MigrationCourse) → List MigrationCommand
  | none => []
  | some courses =>
      updateStatsLocks ++ emitEventLocks ++ emitNetworkChangeLocks ++
        courses.flatMap migrateToPathLocks

/-! ## Steps -/

/-- The threads. -/
inductive Agent (Thread : Type)
  | user (thread : Thread)
  | monitor
  deriving DecidableEq

/-- What the threads still have to do, and who owns the mutexes. -/
structure MonitoredTransport (Thread : Type) where
  rest : Agent Thread → List MigrationCommand
  owner : MigrationMutex → Option (Agent Thread)
  monitoring : Bool
  /-- The monitor thread has begun and not ended. -/
  alive : Bool

/-- A thread calls an operation, the monitor thread looks at the flag, or a thread goes on. -/
inductive MonitorInput (Thread : Type)
  | call (thread : Thread) (operation : MigrationOperation)
  | check (changes : Option (List MigrationCourse))
  | advance (agent : Agent Thread)

namespace MonitoredTransport

variable {Thread : Type} [DecidableEq Thread]

/-- No thread has called anything. -/
def start : MonitoredTransport Thread :=
  ⟨fun _ => [], fun _ => none, false, false⟩

/-- Replace what a thread has to do. -/
def setRest (state : MonitoredTransport Thread) (agent : Agent Thread)
    (rest : List MigrationCommand) : MonitoredTransport Thread :=
  { state with rest := Function.update state.rest agent rest }

/-- The next command of a thread, if it can be executed. -/
def advance (state : MonitoredTransport Thread) (agent : Agent Thread) :
    MonitoredTransport Thread :=
  match state.rest agent with
  | [] => state
  | .lock (.acquire mutex) :: rest =>
      if state.owner mutex = none then
        { state.setRest agent rest with
          owner := Function.update state.owner mutex (some agent) }
      else state
  | .lock (.release mutex) :: rest =>
      if state.owner mutex = some agent then
        { state.setRest agent rest with owner := Function.update state.owner mutex none }
      else state
  | .act .exchange :: rest =>
      if state.monitoring then
        { state.setRest agent (.act .join :: rest) with monitoring := false }
      else state.setRest agent rest
  | .act .join :: rest => if state.alive then state else state.setRest agent rest
  | .act .spawn :: rest =>
      if state.monitoring then state.setRest agent rest
      -- A thread that is assigned to before it was joined ends the program.
      else if state.alive then state
      else { state.setRest agent rest with monitoring := true, alive := true }

/-- One step.  A step that cannot be taken does nothing. -/
def step : Step (MonitoredTransport Thread) (MonitorInput Thread) Unit := fun state input =>
  ((), match input with
    | .call thread operation =>
        if state.rest (.user thread) = [] then state.setRest (.user thread) operation.locks
        else state
    | .check changes =>
        if state.alive ∧ state.rest .monitor = [] then
          if state.monitoring then state.setRest .monitor (iterationLocks changes)
          else { state with alive := false }
        else state
    | .advance agent => state.advance agent)

/-- A thread wants a mutex that the other one owns, or joins it. -/
def WaitsFor (state : MonitoredTransport Thread) (agent other : Agent Thread) : Prop :=
  (∃ mutex rest, state.rest agent = .lock (.acquire mutex) :: rest ∧
    state.owner mutex = some other) ∨
  (∃ rest, state.rest agent = .act .join :: rest ∧ state.alive = true ∧ other = .monitor)

/-- The thread waits, through other threads, for itself. -/
def OnCycle (state : MonitoredTransport Thread) (agent : Agent Thread) : Prop :=
  Relation.TransGen state.WaitsFor agent agent

/-- Some threads wait for each other in a circle. -/
def Deadlocked (state : MonitoredTransport Thread) : Prop :=
  ∃ agent, state.OnCycle agent

/-- No migration begins on a connected transport, and the monitor thread has no event to emit any
more when the flag is taken back. -/
def Harmless (state : MonitoredTransport Thread) : MonitorInput Thread → Prop
  | .call thread (.migrateTo (some _)) => state.rest (.user thread) ≠ []
  | .advance agent => ∀ rest, state.rest agent = .act .exchange :: rest →
      state.monitoring = true → .lock (.acquire .migration) ∉ state.rest .monitor
  | _ => True

end MonitoredTransport

/-! ## What is allowed -/

/-- The operations acquire `migration_mutex` first, then `path_mutex`, and act on the monitor
thread under the former. -/
def userAllowed (held : Finset MigrationMutex) : MigrationCommand → Prop
  | .lock (.acquire mutex) =>
      held = ∅ ∧ mutex = .migration ∨ held = {.migration} ∧ mutex = .path
  | .lock (.release mutex) => mutex ∈ held
  | .act _ => held = {.migration}

/-- The monitor thread acquires one mutex at a time, but for `migration_mutex` under
`callback_mutex`. -/
def monitorAllowed (held : Finset MigrationMutex) : MigrationCommand → Prop
  | .lock (.acquire mutex) =>
      held = ∅ ∧ mutex ≠ .migration ∨ held = {.callback} ∧ mutex = .migration
  | .lock (.release mutex) => mutex ∈ held
  | .act _ => False

theorem obeys_single {mutex : MigrationMutex} (other : mutex ≠ .migration) :
    Obeys monitorAllowed ∅ (guarding mutex []) ∅ :=
  Obeys.guarding (Finset.notMem_empty _) (Or.inl ⟨rfl, other⟩) (obeys_nil _)
    (Finset.mem_insert_self _ _)

theorem obeys_emitEvent : Obeys monitorAllowed ∅ emitEventLocks ∅ := by
  apply Obeys.guarding (Finset.notMem_empty _) (Or.inl ⟨rfl, by simp⟩) _
    (Finset.mem_insert_self _ _)
  exact Obeys.guarding (by decide) (Or.inr ⟨by decide, rfl⟩) (obeys_nil _)
    (by simp [monitorAllowed])

theorem obeys_probePath : Obeys monitorAllowed ∅ probePathLocks ∅ :=
  (obeys_emitEvent.append (obeys_single (by simp))).append obeys_emitEvent

theorem obeys_beginMigration (probing : Bool) :
    Obeys monitorAllowed ∅ (beginMigrationLocks probing) ∅ := by
  apply obeys_emitEvent.append
  cases probing with
  | true => exact obeys_probePath
  | false => rfl

theorem obeys_failMigration : Obeys monitorAllowed ∅ failMigrationLocks ∅ :=
  obeys_emitEvent.append (obeys_single (by simp))

theorem obeys_path : Obeys monitorAllowed ∅ pathLocks ∅ :=
  obeys_single (by simp)

theorem obeys_probes (count : Nat) : Obeys monitorAllowed ∅ (probesLocks count) ∅ :=
  obeys_flatMap fun _ _ => obeys_probePath

theorem obeys_migrateToPath (course : MigrationCourse) :
    Obeys monitorAllowed ∅ (migrateToPathLocks course) ∅ := by
  have failing : ∀ probing,
      Obeys monitorAllowed ∅ (beginMigrationLocks probing ++ failMigrationLocks) ∅ :=
    fun probing => (obeys_beginMigration probing).append obeys_failMigration
  induction course with
  | probeFailed => exact failing true
  | validationFailed probing => exact failing probing
  | nonePrevious probing => exact (failing probing).append obeys_path
  | noneUp probing failed =>
      exact (((failing probing).append obeys_path).append obeys_emitEvent).append
        (obeys_probes failed)
  | fellBack probing failed next ih =>
      exact ((((failing probing).append obeys_path).append obeys_emitEvent).append
        (obeys_probes (failed + 1))).append ih
  | completed probing keepsPrevious =>
      have kept : Obeys monitorAllowed ∅ (if keepsPrevious then pathLocks else []) ∅ := by
        cases keepsPrevious with
        | true => exact obeys_path
        | false => rfl
      exact (((((obeys_beginMigration probing).append obeys_emitEvent).append kept).append
        obeys_path).append obeys_emitEvent).append (obeys_single (by simp))

theorem obeys_iteration (changes : Option (List MigrationCourse)) :
    Obeys monitorAllowed ∅ (iterationLocks changes) ∅ := by
  cases changes with
  | none => rfl
  | some courses =>
      exact (((obeys_single (by simp)).append obeys_emitEvent).append
        (obeys_single (by simp))).append (obeys_flatMap fun course _ => obeys_migrateToPath course)

theorem obeys_operation {operation : MigrationOperation}
    (other : ∀ course, operation ≠ .migrateTo (some course)) :
    Obeys userAllowed ∅ operation.locks ∅ ∧ .act .join ∉ operation.locks := by
  have guarded : ∀ {scope : List MigrationCommand},
      Obeys userAllowed {.migration} scope {.migration} →
      Obeys userAllowed ∅ (guarding .migration scope) ∅ := by
    intro scope inside
    exact Obeys.guarding (Finset.notMem_empty _) (Or.inl ⟨rfl, rfl⟩) inside
      (Finset.mem_insert_self _ _)
  have path : Obeys userAllowed {.migration} pathLocks {.migration} :=
    Obeys.guarding (by decide) (Or.inr ⟨rfl, rfl⟩) (obeys_nil _) (Finset.mem_insert_self _ _)
  cases operation with
  | migrateTo course =>
      cases course with
      | none => exact ⟨rfl, List.not_mem_nil⟩
      | some course => exact absurd rfl (other course)
  | currentNetworkPath => exact ⟨guarded path, by decide⟩
  | getMigrationState => exact ⟨guarded (obeys_nil _), by decide⟩
  | startNetworkMonitoring setsPath =>
      cases setsPath with
      | true => exact ⟨guarded (path.append ⟨rfl, rfl⟩), by decide⟩
      | false => exact ⟨guarded ⟨rfl, rfl⟩, by decide⟩
  | stopNetworkMonitoring => exact ⟨guarded ⟨rfl, rfl⟩, by decide⟩
  | onMigrationEvent => exact ⟨guarded (obeys_nil _), by decide⟩

end FileTrans.Transport
