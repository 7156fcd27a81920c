import FileTrans.Transport.MigrationFallback
import FileTrans.Transition.Run

/-!
# The history of paths

The path that a migration leaves goes to the front of the history.  The path
that it switches to is not taken out, and a new limit does not cut the list; so
the history is in order and without duplicates in every run, but it need not be
without the current path, or within the limit.
-/

namespace FileTrans.Transport

open FileTrans.Core FileTrans.Transition

/-! ## Equal paths -/

/-- What `operator==` compares. -/
def NetworkPath.endpoints (path : NetworkPath) : Bytes × UInt16 × Bytes × UInt16 :=
  (path.localAddress, path.localPort, path.remoteAddress, path.remotePort)

theorem same_iff_endpoints {path other : NetworkPath} :
    path.same other ↔ path.endpoints = other.endpoints := by
  simp [NetworkPath.same, NetworkPath.endpoints]

/-- The endpoints of the paths in a list. -/
def endpointsOf (list : List NetworkPath) : List (Bytes × UInt16 × Bytes × UInt16) :=
  list.map NetworkPath.endpoints

/-- The paths of a list stand in the order in which they were last put into the history. -/
def MostRecentFirst (added list : List NetworkPath) : Prop :=
  list.Pairwise fun newer older =>
    (endpointsOf added).idxOf newer.endpoints < (endpointsOf added).idxOf older.endpoints

/-! ## Runs -/

/-- A manager, and the paths that it put into its history, the last one first. -/
structure MigrationHistory where
  manager : MigrationManager
  added : List NetworkPath

/-- A call that has returned within so many migrations, or a new configuration. -/
inductive HistoryEvent where
  | migrate (env : Enumerations) (depth : Nat) (path : NetworkPath)
  | fallback (env : Enumerations) (depth : Nat)
  | setConfig (config : MigrationConfig)
  | setCurrentPath (path : NetworkPath)

namespace MigrationHistory

/-- The history when the path that a migration left was put into it. -/
def leave (history : MigrationHistory) (result : Result MigrationResult)
    (after : MigrationManager) : MigrationHistory where
  manager := after
  added := match history.manager.currentPath, result with
    | some path, .ok report =>
        if report.success ∧ history.manager.config.keepPreviousPaths then path :: history.added
        else history.added
    | _, _ => history.added

/-- What a call leaves behind; one that did not return leaves the paths. -/
def after (history : MigrationHistory)
    (returned : Option (Result MigrationResult × MigrationManager)) : MigrationHistory :=
  match returned with
  | some (result, after) => history.leave result after
  | none => history

end MigrationHistory

/-- One call. -/
def historyStep : Step MigrationHistory HistoryEvent Unit := fun history event =>
  ((), match event with
  | .migrate env depth path => history.after (migrateToPath env depth history.manager path)
  | .fallback env depth =>
      history.after (fallbackToPrevious env (migrateToPath env depth) history.manager)
  | .setConfig config => { history with manager := history.manager.setConfig config }
  | .setCurrentPath path => { history with manager := history.manager.setCurrentPath path })

/-- The four conditions on the history. -/
structure SoundHistory (history : MigrationHistory) : Prop where
  nodup : (endpointsOf history.manager.previousPaths).Nodup
  current : ∀ path ∈ history.manager.currentPath,
    path.endpoints ∉ endpointsOf history.manager.previousPaths
  recent : MostRecentFirst history.added history.manager.previousPaths
  limit : history.manager.previousPaths.length ≤ history.manager.config.maxPreviousPaths.toNat

/-- How the rounds of a call end. -/
def HistoryEvent.ending (manager : MigrationManager) :
    HistoryEvent → Option (MigrationEnd × Nat)
  | .migrate env depth path =>
      loop (migrationRound manager.config manager.previousPaths env) depth
        (manager.enumerated, path)
  | .fallback env depth =>
      match firstUp env manager.enumerated manager.previousPaths with
      | (some previous, next) =>
          loop (migrationRound manager.config manager.previousPaths env) depth (next, previous)
      | (none, next) => some (.failed, next)
  | _ => none

/-- The path of the last round, if it passes its probe and its validation. -/
def switchedTo : Option (MigrationEnd × Nat) → Option NetworkPath
  | some (.switched path, _) => some path
  | _ => none

/-- A migration goes to a path that is not in the history afterwards; the limit is not lowered
below the number of paths. -/
def KeepsHistory (history : MigrationHistory) (event : HistoryEvent) : Prop :=
  (∀ path ∈ switchedTo (event.ending history.manager),
    path.endpoints ∉ endpointsOf history.manager.paths.left) ∧
  match event with
  | .setConfig config =>
      history.manager.previousPaths.length ≤ config.maxPreviousPaths.toNat
  | .setCurrentPath path => path.endpoints ∉ endpointsOf history.manager.previousPaths
  | _ => True

/-! ## Leaving a path -/

section

variable {added list : List NetworkPath} {path : NetworkPath}

theorem pushPath_eq_take (config : MigrationConfig) (path : NetworkPath)
    (list : List NetworkPath) :
    pushPath config path list =
      (path :: list.filter fun previous => ¬ previous.same path).take
        config.maxPreviousPaths.toNat := by
  simp only [pushPath]
  split
  · rfl
  · rename_i fits
    exact (List.take_of_length_le (Nat.not_lt.mp fits)).symm

theorem length_pushPath_le (config : MigrationConfig) :
    (pushPath config path list).length ≤ config.maxPreviousPaths.toNat := by
  rw [pushPath_eq_take]
  exact List.length_take_le _ _

theorem MostRecentFirst.pushPath (recent : MostRecentFirst added list) (config : MigrationConfig)
    (path : NetworkPath) : MostRecentFirst (path :: added) (pushPath config path list) := by
  rw [pushPath_eq_take]
  apply List.Pairwise.sublist (List.take_sublist _ _)
  have front : (endpointsOf (path :: added)).idxOf path.endpoints = 0 := List.idxOf_cons_self
  have behind : ∀ other : NetworkPath, ¬ other.same path →
      (endpointsOf (path :: added)).idxOf other.endpoints =
        (endpointsOf added).idxOf other.endpoints + 1 := by
    intro other differ
    exact List.idxOf_cons_ne _ fun same => differ (same_iff_endpoints.mpr same.symm)
  apply List.pairwise_cons.mpr
  constructor
  · intro other mem
    have differ := (List.mem_filter.mp mem).2
    rw [front, behind other (of_decide_eq_true differ)]
    exact Nat.succ_pos _
  · apply List.Pairwise.imp_of_mem _ (List.Pairwise.sublist List.filter_sublist recent)
    intro newer older first second less
    rw [behind newer (of_decide_eq_true (List.mem_filter.mp first).2),
      behind older (of_decide_eq_true (List.mem_filter.mp second).2)]
    exact Nat.succ_lt_succ less

theorem MostRecentFirst.nodup (recent : MostRecentFirst added list) :
    (endpointsOf list).Nodup := by
  apply List.pairwise_map.mpr
  apply recent.imp
  intro newer older less same
  rw [same] at less
  exact Nat.lt_irrefl _ less

end

/-! ## Calls -/

section

variable {history : MigrationHistory}

theorem fallbackToPrevious_rounds (env : Enumerations) (depth : Nat)
    (manager : MigrationManager) :
    Option.Rel (fun returned => EndsWith manager.paths returned.1 returned.2)
      (fallbackToPrevious env (migrateToPath env depth) manager)
      ((HistoryEvent.fallback env depth).ending manager) := by
  rw [HistoryEvent.ending]
  by_cases nonempty : manager.previousPaths = []
  · rw [fallbackToPrevious, nonempty, firstUp]
    exact .some ⟨rfl, not_succeeds_error _ _, rfl⟩
  · rcases fallbackToPrevious_cases env manager (migrateToPath env depth) nonempty with
      ⟨after, paths, next, same⟩
    rw [same]
    generalize firstUp env manager.enumerated manager.previousPaths = found at next ⊢
    rcases found with ⟨_ | previous, reached⟩
    · exact .some ⟨next, not_succeeds_error _ _, paths⟩
    · have config : after.config = manager.config := congrArg MigrationPaths.config paths
      have previousPaths : after.previousPaths = manager.previousPaths :=
        congrArg MigrationPaths.previousPaths paths
      have rest := migrateToPath_rounds env after previous depth
      rw [paths, config, previousPaths, next] at rest
      exact rest

/-- The paths that are in the history when the current path is left. -/
def MigrationHistory.leaving (history : MigrationHistory) : List NetworkPath :=
  match history.manager.currentPath with
  | some path =>
      if history.manager.config.keepPreviousPaths then path :: history.added else history.added
  | none => history.added

variable {returned : Option (Result MigrationResult × MigrationManager)}
  {ending : Option (MigrationEnd × Nat)}

theorem after_of_not_switched
    (related : Option.Rel (fun returned => EndsWith history.manager.paths returned.1 returned.2)
      returned ending) (none : switchedTo ending = none) :
    (history.after returned).manager.paths = history.manager.paths ∧
      (history.after returned).added = history.added := by
  cases related with
  | none => exact ⟨rfl, rfl⟩
  | @some returned ending agree =>
      rcases returned with ⟨result, after⟩
      rcases ending with ⟨_ | path, next⟩
      · rcases agree with ⟨-, failed, same⟩
        refine ⟨same, ?_⟩
        cases result with
        | error failure =>
            simp only [MigrationHistory.after, MigrationHistory.leave]
            cases history.manager.currentPath <;> rfl
        | ok report =>
            have unsuccessful : ¬ (report.success = true) := fun success =>
              failed ⟨report, rfl, success⟩
            simp only [MigrationHistory.after, MigrationHistory.leave]
            cases history.manager.currentPath with
            | none => rfl
            | some current => exact if_neg fun both => unsuccessful both.1
      · contradiction

theorem after_of_switched {target : NetworkPath}
    (related : Option.Rel (fun returned => EndsWith history.manager.paths returned.1 returned.2)
      returned ending) (switched : switchedTo ending = some target) :
    (history.after returned).manager.paths = history.manager.paths.switch target ∧
      (history.after returned).added = history.leaving := by
  cases related with
  | none => contradiction
  | @some returned ending agree =>
      rcases returned with ⟨result, after⟩
      rcases ending with ⟨_ | path, next⟩
      · contradiction
      · cases Option.some.inj switched
        rcases agree with ⟨-, rfl, paths⟩
        refine ⟨paths, ?_⟩
        simp only [MigrationHistory.after, MigrationHistory.leave, MigrationHistory.leaving]
        cases history.manager.currentPath with
        | none => rfl
        | some current => simp [MigrationResult.succeeded]

theorem soundHistory_iff_of_paths {other : MigrationHistory}
    (paths : other.manager.paths = history.manager.paths) (added : other.added = history.added) :
    SoundHistory other ↔ SoundHistory history := by
  have config : other.manager.config = history.manager.config :=
    congrArg MigrationPaths.config paths
  have current : other.manager.currentPath = history.manager.currentPath :=
    congrArg MigrationPaths.currentPath paths
  have previous : other.manager.previousPaths = history.manager.previousPaths :=
    congrArg MigrationPaths.previousPaths paths
  constructor
  · rintro ⟨nodup, notCurrent, recent, limit⟩
    rw [previous] at nodup notCurrent recent limit
    rw [current] at notCurrent
    rw [added] at recent
    rw [config] at limit
    exact ⟨nodup, notCurrent, recent, limit⟩
  · rintro ⟨nodup, notCurrent, recent, limit⟩
    rw [← previous] at nodup notCurrent recent limit
    rw [← current] at notCurrent
    rw [← added] at recent
    rw [← config] at limit
    exact ⟨nodup, notCurrent, recent, limit⟩

theorem left_spec (sound : SoundHistory history) :
    MostRecentFirst history.leaving history.manager.paths.left ∧
      history.manager.paths.left.length ≤ history.manager.config.maxPreviousPaths.toNat := by
  rcases history with ⟨⟨config, state, currentPath, previousPaths, stats, events, count⟩, added⟩
  cases currentPath with
  | none => exact ⟨sound.recent, sound.limit⟩
  | some current =>
      cases keep : config.keepPreviousPaths with
      | false =>
          simp only [MigrationHistory.leaving, MigrationPaths.left, MigrationManager.paths, keep,
            Bool.false_eq_true, if_false]
          exact ⟨sound.recent, sound.limit⟩
      | true =>
          simp only [MigrationHistory.leaving, MigrationPaths.left, MigrationManager.paths, keep,
            if_true]
          exact ⟨sound.recent.pushPath config current, length_pushPath_le config⟩

theorem soundHistory_after_iff (sound : SoundHistory history)
    (related : Option.Rel (fun returned => EndsWith history.manager.paths returned.1 returned.2)
      returned ending) :
    SoundHistory (history.after returned) ↔
      ∀ path ∈ switchedTo ending, path.endpoints ∉ endpointsOf history.manager.paths.left := by
  cases switched : switchedTo ending with
  | none =>
      rcases after_of_not_switched related switched with ⟨paths, added⟩
      rw [soundHistory_iff_of_paths paths added]
      exact iff_of_true sound (by simp)
  | some target =>
      rcases after_of_switched related switched with ⟨paths, added⟩
      have config : (history.after returned).manager.config = history.manager.config :=
        congrArg MigrationPaths.config paths
      have current : (history.after returned).manager.currentPath =
          some { target with validated := true } :=
        congrArg MigrationPaths.currentPath paths
      have previous : (history.after returned).manager.previousPaths =
          history.manager.paths.left :=
        congrArg MigrationPaths.previousPaths paths
      rcases left_spec sound with ⟨recent, limit⟩
      constructor
      · rintro ⟨-, notCurrent, -, -⟩ path same
        cases Option.some.inj same
        rw [previous] at notCurrent
        have absent := notCurrent { target with validated := true } current
        exact absent
      · intro notIn
        refine ⟨?_, ?_, ?_, ?_⟩
        · rw [previous]
          exact recent.nodup
        · intro path same
          rw [current] at same
          cases Option.some.inj same
          rw [previous]
          exact notIn target rfl
        · rw [added, previous]
          exact recent
        · rw [config, previous]
          exact limit

end

theorem soundHistory_step_iff (history : MigrationHistory) (event : HistoryEvent)
    (sound : SoundHistory history) :
    SoundHistory (historyStep history event).2 ↔ KeepsHistory history event := by
  cases event with
  | migrate env depth path =>
      have related := migrateToPath_rounds env history.manager path depth
      exact (soundHistory_after_iff sound related).trans (and_iff_left trivial).symm
  | fallback env depth =>
      have related := fallbackToPrevious_rounds env depth history.manager
      exact (soundHistory_after_iff sound related).trans (and_iff_left trivial).symm
  | setConfig config =>
      constructor
      · intro kept
        exact ⟨fun path none => absurd none (Option.not_mem_none path), kept.limit⟩
      · rintro ⟨-, limit⟩
        exact ⟨sound.nodup, sound.current, sound.recent, limit⟩
  | setCurrentPath path =>
      constructor
      · intro kept
        exact ⟨fun path none => absurd none (Option.not_mem_none path), kept.current path rfl⟩
      · rintro ⟨-, notIn⟩
        refine ⟨sound.nodup, ?_, sound.recent, sound.limit⟩
        intro other same
        cases Option.some.inj same
        exact notIn

/-- A manager without paths. -/
def newHistory (config : MigrationConfig) : MigrationHistory :=
  ⟨.create config, []⟩

theorem soundHistory_new (config : MigrationConfig) : SoundHistory (newHistory config) :=
  ⟨List.nodup_nil, fun _ none => absurd none (Option.not_mem_none _), List.Pairwise.nil,
    Nat.zero_le _⟩

/-- In every state of a run the history is sound exactly if every call of the run meets the
guard. -/
theorem soundHistory_iff_guarded (config : MigrationConfig) (events : List HistoryEvent) :
    (∀ first rest, events = first ++ rest →
      SoundHistory (final historyStep (newHistory config) first)) ↔
      Guarded historyStep KeepsHistory (newHistory config) events :=
  forall_prefix_iff_guarded soundHistory_step_iff (soundHistory_new config) events

/-! ## Histories that are not sound -/

namespace HistorySample

def pathFrom (address : Bytes) : NetworkPath :=
  ⟨address, 0, [9], 443, [], false⟩

/-- The interfaces of both paths are up. -/
def bothUp : Enumerations :=
  fun _ => [⟨[1], true⟩, ⟨[2], true⟩]

/-- From one path to another and back. -/
def thereAndBack : List HistoryEvent :=
  [.setCurrentPath (pathFrom [1]), .migrate bothUp 1 (pathFrom [2]),
    .migrate bothUp 1 (pathFrom [1])]

/-- A limit below the number of paths. -/
def lowered : List HistoryEvent :=
  [.setCurrentPath (pathFrom [1]), .migrate bothUp 1 (pathFrom [2]),
    .setConfig { MigrationConfig.default with maxPreviousPaths := 0 }]

end HistorySample

open HistorySample in
/-- The current path is in the history, and the history is over the limit. -/
theorem history_breaks :
    (¬ ∀ first rest, thereAndBack = first ++ rest →
      SoundHistory (final historyStep (newHistory .default) first)) ∧
    ¬ ∀ first rest, lowered = first ++ rest →
      SoundHistory (final historyStep (newHistory .default) first) := by
  constructor
  · intro sound
    exact absurd ((sound thereAndBack [] rfl).current { pathFrom [1] with validated := true } rfl)
      (by decide)
  · intro sound
    exact absurd (sound lowered [] rfl).limit (by decide)

end FileTrans.Transport
