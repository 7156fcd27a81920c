import FileTrans.Transport.MigrationFallback

/-!
# How migrations end

Whether a call returns, and on which path it leaves the manager, is read off
its rounds.  Where an interface goes down between the probe and the validation
of every round, the fallback never ends; and a new path that fails its probe
leads to no fallback at all.
-/

namespace FileTrans.Transport

open FileTrans.Core FileTrans.Transition

/-- The rounds of a call. -/
abbrev rounds (env : Enumerations) (manager : MigrationManager) :
    Body (Nat × NetworkPath) (MigrationEnd × Nat) :=
  migrationRound manager.config manager.previousPaths env

section

variable {env : Enumerations} {manager : MigrationManager} {path : NetworkPath}

variable {depth next : Nat} {previous : NetworkPath}

theorem rounds_of_returned {result : Result MigrationResult} {after : MigrationManager}
    (returned : migrateToPath env depth manager path = some (result, after)) :
    ∃ ending, loop (rounds env manager) depth (manager.enumerated, path) = some ending ∧
      EndsWith manager.paths result after ending := by
  have related := migrateToPath_rounds env manager path depth
  rw [returned] at related
  generalize loop (rounds env manager) depth (manager.enumerated, path) = found at related ⊢
  cases related with
  | some agree => exact ⟨_, rfl, agree⟩

theorem returned_of_rounds {ending : MigrationEnd × Nat}
    (ends : loop (rounds env manager) depth (manager.enumerated, path) = some ending) :
    ∃ result after, migrateToPath env depth manager path = some (result, after) ∧
      EndsWith manager.paths result after ending := by
  have related := migrateToPath_rounds env manager path depth
  rw [ends] at related
  generalize migrateToPath env depth manager path = found at related ⊢
  cases related with
  | some agree => exact ⟨_, _, rfl, agree⟩

theorem isSome_migrateToPath_iff :
    (migrateToPath env depth manager path).isSome ↔
      passes (rounds env manager) depth (manager.enumerated, path) = none := by
  have related := migrateToPath_rounds env manager path depth
  rw [← Option.not_isSome_iff_eq_none, ← loop_eq_none_iff]
  generalize migrateToPath env depth manager path = returned at related ⊢
  generalize loop (rounds env manager) depth (manager.enumerated, path) = ending at related ⊢
  cases related with
  | none => simp
  | some agree => simp

theorem mem_of_firstUp {list : List NetworkPath} {enumerated : Nat}
    (found : (firstUp env enumerated list).1 = some previous) : previous ∈ list := by
  induction list generalizing enumerated with
  | nil => contradiction
  | cons head rest ih =>
      rw [firstUp] at found
      split at found
      · cases Option.some.inj found
        exact List.mem_cons_self
      · exact List.mem_cons_of_mem head (ih found)

theorem mem_of_round {state : Nat × NetworkPath}
    (goes : rounds env manager state = .inr (next, previous)) :
    previous ∈ manager.previousPaths := by
  rcases state with ⟨enumerated, path⟩
  simp only [rounds, migrationRound] at goes
  split at goes
  · contradiction
  · split at goes
    · contradiction
    · split at goes
      · generalize search : firstUp env (validationAt manager.config enumerated + 1)
          manager.previousPaths = found at goes
        rcases found with ⟨_ | first, reached⟩
        · contradiction
        · cases Sum.inr.inj goes
          exact mem_of_firstUp (congrArg Prod.fst search)
      · contradiction

theorem mem_of_passes {count : Nat} {state : Nat × NetworkPath}
    (reached : passes (rounds env manager) (count + 1) state = some (next, previous)) :
    previous ∈ manager.previousPaths := by
  induction count generalizing state with
  | zero =>
      rw [passes] at reached
      cases round : rounds env manager state with
      | inl ending =>
          rw [round] at reached
          contradiction
      | inr following =>
          rw [round] at reached
          cases Option.some.inj reached
          exact mem_of_round round
  | succ count ih =>
      rw [passes] at reached
      cases round : rounds env manager state with
      | inl ending =>
          rw [round] at reached
          contradiction
      | inr following =>
          rw [round] at reached
          exact ih reached

theorem round_eq_switched_iff {enumerated : Nat} {reached : NetworkPath} :
    rounds env manager (enumerated, path) = .inl (.switched reached, next) ↔
      failsProbe manager.config env enumerated path = false ∧
        isUp (env (validationAt manager.config enumerated)) path = true ∧
        reached = path ∧ next = validationAt manager.config enumerated + 1 := by
  simp only [rounds, migrationRound]
  cases failsProbe manager.config env enumerated path with
  | true => simp
  | false =>
      cases isUp (env (validationAt manager.config enumerated)) path with
      | true =>
          simp only [Bool.false_eq_true, if_false, if_true, Sum.inl.injEq, Prod.mk.injEq,
            MigrationEnd.switched.injEq, true_and]
          constructor
          · rintro ⟨rfl, rfl⟩
            exact ⟨rfl, rfl⟩
          · rintro ⟨rfl, rfl⟩
            exact ⟨rfl, rfl⟩
      | false =>
          simp only [Bool.false_eq_true, if_false, false_and, and_false, iff_false]
          intro switched
          split at switched
          · generalize firstUp env (validationAt manager.config enumerated + 1)
              manager.previousPaths = found at switched
            rcases found with ⟨_ | first, count⟩
            · simp at switched
            · simp at switched
          · simp at switched

end

/-! ## Calls that return -/

/-- With this configuration and these previous paths every call returns within a number of
migrations that does not depend on what the interfaces are. -/
def Bounded (config : MigrationConfig) (previousPaths : List NetworkPath) : Prop :=
  ∃ bound, ∀ (env : Enumerations) (manager : MigrationManager) (path : NetworkPath),
    (migrateToPath env bound { manager with config, previousPaths } path).isSome

/-- The interface of a path, down at every validation and up at every probe. -/
def flapping (config : MigrationConfig) (path : NetworkPath) : Enumerations := fun count =>
  if config.enablePathProbing then if count % 3 = 1 then [] else [⟨path.localAddress, true⟩]
  else if count % 2 = 0 then [] else [⟨path.localAddress, true⟩]

theorem not_returns_flapping (config : MigrationConfig) (enabled : config.enableFallback = true)
    (manager : MigrationManager) (path : NetworkPath) (rest : List NetworkPath) (depth : Nat) :
    migrateToPath (flapping config path) depth
      { manager with config, previousPaths := path :: rest, enumerated := 0 } path = none := by
  rw [← Option.not_isSome_iff_eq_none, isSome_migrateToPath_iff]
  rw [← ne_eq, Option.ne_none_iff_isSome, ← loop_eq_none_iff]
  have nonempty : path :: rest ≠ [] := List.cons_ne_nil path rest
  cases probing : config.enablePathProbing with
  | true =>
      apply loop_eq_none_of_invariant (fun state => state.1 % 3 = 0 ∧ state.2 = path) _ ⟨rfl, rfl⟩
      rintro ⟨count, _⟩ ⟨multiple, rfl⟩
      dsimp only at multiple
      have probe : count % 3 ≠ 1 := by omega
      have validate : (count + 1) % 3 = 1 := by omega
      have search : (count + 2) % 3 ≠ 1 := by omega
      refine ⟨(count + 3, _), ?_, by omega, rfl⟩
      simp [rounds, migrationRound, failsProbe, validationAt, firstUp, flapping, probing, enabled,
        probe, validate, search, isUp]
  | false =>
      apply loop_eq_none_of_invariant (fun state => state.1 % 2 = 0 ∧ state.2 = path) _ ⟨rfl, rfl⟩
      rintro ⟨count, _⟩ ⟨even, rfl⟩
      dsimp only at even
      have search : (count + 1) % 2 = 1 := by omega
      refine ⟨(count + 2, _), ?_, by omega, rfl⟩
      simp [rounds, migrationRound, failsProbe, validationAt, firstUp, flapping, probing, enabled,
        even, search, isUp]

/-- The recursion is bounded exactly where no fallback can happen; and one call returns exactly
if one of its rounds does not go on. -/
theorem migration_returns_iff (config : MigrationConfig) (previousPaths : List NetworkPath)
    (env : Enumerations) (manager : MigrationManager) (path : NetworkPath) :
    (Bounded config previousPaths ↔
      ¬ (config.enableFallback = true ∧ previousPaths ≠ [])) ∧
    ((∃ depth, (migrateToPath env depth manager path).isSome) ↔
      ∃ count, passes (rounds env manager) count (manager.enumerated, path) = none) := by
  constructor
  · constructor
    · rintro ⟨bound, returns⟩ ⟨enabled, nonempty⟩
      cases previousPaths with
      | nil => exact nonempty rfl
      | cons path rest =>
          have returned := returns (flapping config path) (.create config) path
          have never := not_returns_flapping config enabled (.create config) path rest bound
          exact Bool.false_ne_true ((congrArg Option.isSome never).symm.trans returned)
    · intro never
      refine ⟨1, fun env manager path => ?_⟩
      rw [isSome_migrateToPath_iff]
      simp only [passes, rounds, migrationRound, never, if_false]
      split
      · rfl
      · rename_i goes
        split at goes
        · contradiction
        · split at goes
          · contradiction
          · contradiction
  · exact exists_congr fun depth => isSome_migrateToPath_iff

namespace MigrationSample

def pathFrom (address : Bytes) : NetworkPath :=
  ⟨address, 0, [9], 443, [], false⟩

/-- A manager on a path, with a history. -/
def onPath (current : NetworkPath) (previousPaths : List NetworkPath) : MigrationManager :=
  { MigrationManager.create .default with currentPath := some current, previousPaths }

end MigrationSample

open MigrationSample in
/-- With the default configuration and one previous path there is no bound, and a call for that
path never returns where its interface goes down at every validation. -/
theorem migration_runs_forever :
    ¬ Bounded .default [pathFrom [2]] ∧
      ∀ depth, migrateToPath (flapping .default (pathFrom [2])) depth
        (onPath (pathFrom [1]) [pathFrom [2]]) (pathFrom [2]) = none := by
  have never := fun manager depth =>
    not_returns_flapping .default rfl manager (pathFrom [2]) [] depth
  constructor
  · rintro ⟨bound, returns⟩
    have returned := returns (flapping .default (pathFrom [2])) (.create .default) (pathFrom [2])
    exact Bool.false_ne_true
      ((congrArg Option.isSome (never (.create .default) bound)).symm.trans returned)
  · exact fun depth => never (onPath (pathFrom [1]) [pathFrom [2]]) depth

/-! ## Paths that calls end on -/

section

variable (env : Enumerations) (manager : MigrationManager) (path : NetworkPath)

/-- The current path is one of the previous paths, and was up at the last enumeration. -/
def OnPrevious (previousPaths : List NetworkPath) (currentPath : Option NetworkPath)
    (enumerated : Nat) : Prop :=
  ∃ current previous, currentPath = some current ∧ previous ∈ previousPaths ∧
    current.same previous ∧ isUp (env (enumerated - 1)) previous = true

/-- The call returns, with the manager on a previous path. -/
def LandsOnPrevious : Prop :=
  ∃ depth result after, migrateToPath env depth manager path = some (result, after) ∧
    OnPrevious env manager.previousPaths after.currentPath after.enumerated

/-- The new path fails its probe or its validation. -/
def FailsFirst : Prop :=
  failsProbe manager.config env manager.enumerated path = true ∨
    isUp (env (validationAt manager.config manager.enumerated)) path = false

/-- A previous path is up all the time. -/
def HasUsable : Prop :=
  ∃ previous ∈ manager.previousPaths, ∀ count, manager.enumerated ≤ count →
    isUp (env count) previous = true

/-- If the new path fails and a previous path is usable, the call ends on a previous path. -/
def FallsBack : Prop :=
  manager.config.enableFallback = true → HasUsable env manager → FailsFirst env manager path →
    LandsOnPrevious env manager path

/-- A call that reports no completed migration leaves the current path. -/
def KeepsOnFailure : Prop :=
  ∀ depth result after, migrateToPath env depth manager path = some (result, after) →
    ¬ Succeeds result → after.currentPath = manager.currentPath

/-- The new path passes its probe and fails its validation, and after a finite number of rounds
that go the same way a previous path passes both. -/
def ReachesPrevious : Prop :=
  ∃ count next previous,
    passes (rounds env manager) (count + 1) (manager.enumerated, path) = some (next, previous) ∧
      failsProbe manager.config env next previous = false ∧
      isUp (env (validationAt manager.config next)) previous = true

/-- A round fails for good while the manager is on a previous path already. -/
def StaysOnPrevious : Prop :=
  ∃ count last next, passes (rounds env manager) count (manager.enumerated, path) = some last ∧
    rounds env manager last = .inl (.failed, next) ∧
    OnPrevious env manager.previousPaths manager.currentPath next

variable {env manager path}

theorem LandsOnPrevious.rounds (lands : LandsOnPrevious env manager path)
    (fails : FailsFirst env manager path) :
    ReachesPrevious env manager path ∨ StaysOnPrevious env manager path := by
  rcases lands with ⟨depth, result, after, returned, onPrevious⟩
  rcases rounds_of_returned returned with ⟨⟨ending, next⟩, ends, counted, agrees⟩
  rcases loop_eq_some_iff.mp ends with ⟨before, -, ⟨enumerated, reached⟩, passed, exits⟩
  cases ending with
  | failed =>
      have current : after.currentPath = manager.currentPath :=
        congrArg MigrationPaths.currentPath agrees.2
      rw [counted, current] at onPrevious
      exact .inr ⟨before, _, next, passed, exits, onPrevious⟩
  | switched target =>
      rcases round_eq_switched_iff.mp exits with ⟨probe, validate, rfl, -⟩
      cases before with
      | zero =>
          cases Option.some.inj passed
          rcases fails with down | invalid
          · rw [probe] at down
            contradiction
          · rw [validate] at invalid
            contradiction
      | succ before => exact .inl ⟨before, enumerated, target, passed, probe, validate⟩

theorem ReachesPrevious.lands (reaches : ReachesPrevious env manager path) :
    LandsOnPrevious env manager path := by
  rcases reaches with ⟨count, next, previous, passed, probe, validate⟩
  have exits := round_eq_switched_iff.mpr ⟨probe, validate, rfl, rfl⟩
  have ends := loop_eq_some_iff.mpr ⟨count + 1, Nat.lt_succ_self _, _, passed, exits⟩
  rcases returned_of_rounds ends with ⟨result, after, returned, counted, -, switched⟩
  have current : after.currentPath = some { previous with validated := true } :=
    congrArg MigrationPaths.currentPath switched
  refine ⟨_, result, after, returned, _, previous, current, mem_of_passes passed,
    ⟨rfl, rfl, rfl, rfl⟩, ?_⟩
  rw [counted]
  exact validate

theorem StaysOnPrevious.lands (stays : StaysOnPrevious env manager path) :
    LandsOnPrevious env manager path := by
  rcases stays with ⟨count, last, next, passed, exits, onPrevious⟩
  have ends := loop_eq_some_iff.mpr ⟨count, Nat.lt_succ_self _, _, passed, exits⟩
  rcases returned_of_rounds ends with ⟨result, after, returned, counted, -, same⟩
  have current : after.currentPath = manager.currentPath :=
    congrArg MigrationPaths.currentPath same
  refine ⟨_, result, after, returned, ?_⟩
  rw [counted, current]
  exact onPrevious

theorem not_lands_of_failed {depth next : Nat}
    (ends : loop (rounds env manager) depth (manager.enumerated, path) = some (.failed, next))
    (off : ∀ current ∈ manager.currentPath, ∀ previous ∈ manager.previousPaths,
      ¬ current.same previous) : ¬ LandsOnPrevious env manager path := by
  rintro ⟨count, result, after, returned, current, previous, on, mem, same, -⟩
  rcases rounds_of_returned returned with ⟨ending, found, -, agrees⟩
  cases loop_unique found ends
  have kept : after.currentPath = manager.currentPath :=
    congrArg MigrationPaths.currentPath agrees.2
  exact off current (kept.symm.trans on) previous mem same

theorem keepsOnFailure (env : Enumerations) (manager : MigrationManager) (path : NetworkPath) :
    KeepsOnFailure env manager path := by
  intro depth result after returned failed
  rcases rounds_of_returned returned with ⟨⟨ending, next⟩, -, -, agrees⟩
  cases ending with
  | failed => exact congrArg MigrationPaths.currentPath agrees.2
  | switched target => exact absurd ⟨_, agrees.1, rfl⟩ failed

end

/-- A failed migration falls back exactly if only validations failed, or if the manager was on a
previous path anyway; a failure leaves the current path. -/
theorem fallsBack_iff (env : Enumerations) (manager : MigrationManager) (path : NetworkPath) :
    (FallsBack env manager path ↔
      (manager.config.enableFallback = true → HasUsable env manager →
        FailsFirst env manager path →
          ReachesPrevious env manager path ∨ StaysOnPrevious env manager path)) ∧
      KeepsOnFailure env manager path := by
  refine ⟨?_, keepsOnFailure env manager path⟩
  constructor
  · intro falls enabled usable fails
    exact (falls enabled usable fails).rounds fails
  · intro reaches enabled usable fails
    rcases reaches enabled usable fails with reached | stays
    · exact reached.lands
    · exact stays.lands

namespace MigrationSample

/-- Only the interface of the second path is up. -/
def secondUp : Enumerations :=
  fun _ => [⟨[2], true⟩]

/-- The interface of the new path goes down before its validation, and that of the first previous
path after the probe of the fallback. -/
def goingDown : Enumerations
  | 0 => [⟨[3], true⟩, ⟨[2], true⟩]
  | 2 => [⟨[4], true⟩, ⟨[2], true⟩]
  | _ => [⟨[2], true⟩]

theorem usable_secondUp (previousPaths : List NetworkPath) (mem : pathFrom [2] ∈ previousPaths) :
    HasUsable secondUp (onPath (pathFrom [1]) previousPaths) :=
  ⟨pathFrom [2], mem, fun _ _ => rfl⟩

theorem usable_goingDown (previousPaths : List NetworkPath) (mem : pathFrom [2] ∈ previousPaths) :
    HasUsable goingDown (onPath (pathFrom [1]) previousPaths) := by
  refine ⟨pathFrom [2], mem, fun count _ => ?_⟩
  rcases count with _ | _ | _ | count
  · rfl
  · rfl
  · rfl
  · rfl

end MigrationSample

open MigrationSample in
/-- A path that fails its probe leads to no fallback, and a fallback tries only one path. -/
theorem fallback_misses :
    ¬ FallsBack secondUp (onPath (pathFrom [1]) [pathFrom [2]]) (pathFrom [3]) ∧
      ¬ FallsBack goingDown (onPath (pathFrom [1]) [pathFrom [4], pathFrom [2]])
        (pathFrom [3]) := by
  constructor
  · intro falls
    have ends : loop (rounds secondUp (onPath (pathFrom [1]) [pathFrom [2]])) 1 (0, pathFrom [3]) =
        some (.failed, 1) :=
      rfl
    exact not_lands_of_failed ends (by decide)
      (falls rfl (usable_secondUp _ List.mem_cons_self) (.inl rfl))
  · intro falls
    have ends : loop (rounds goingDown (onPath (pathFrom [1]) [pathFrom [4], pathFrom [2]])) 2
        (0, pathFrom [3]) = some (.failed, 4) :=
      rfl
    exact not_lands_of_failed ends (by decide)
      (falls rfl (usable_goingDown _ (.tail _ List.mem_cons_self)) (.inr rfl))

end FileTrans.Transport
