import FileTrans.Server.PolicyEvaluations
import FileTrans.Server.StaleReads
import FileTrans.Storage.LexicalPath

/-!
# Retention holds

Under a legal hold or in compliance mode an evaluation blocks every deletion
that it recommends.  Deletions that were queued before, and those that
`execute_action` is asked for, do not look at the retention.

Several keys may name one object: the local backend resolves `base_path / key`.  `names`
says which object a key names, and an object is kept if no call removes it under any of its
names.
-/

namespace FileTrans.Server

open FileTrans.Core
open FileTrans.Storage
open FileTrans.Transition

universe u

/-! ## Copies that stay -/

/-- A copy of the object stays where it is. -/
structure Retains (key : Bytes) (before after : StorageManager) : Prop where
  primary : (before.copies key).1 ≠ none → (after.copies key).1 ≠ none
  secondary : (before.copies key).2 ≠ none → (after.copies key).2 ≠ none

namespace Retains

variable {key other : Bytes} {first second third before after : StorageManager}

theorem of_same (same : StorageManager.SameCopies key before after) :
    Retains key before after := by
  constructor
  · rw [same.copies]
    exact id
  · rw [same.copies]
    exact id

theorem trans (left : Retains key first second) (right : Retains key second third) :
    Retains key first third :=
  ⟨right.primary ∘ left.primary, right.secondary ∘ left.secondary⟩

theorem store (manager : StorageManager) (data : Bytes) {options : StoreOptions}
    (overwrite : options.overwrite = true) (fates : Fates) :
    Retains key manager (manager.store other data options fates).2 := by
  by_cases same : other = key
  · subst same
    by_cases goes : manager.initialized = true ∧ fates.primary = none
    · obtain ⟨-, copies⟩ :=
        StorageManager.copies_store other data overwrite goes.1 goes.2
      constructor
      · intro _
        rw [copies]
        exact Option.some_ne_none data
      · intro held
        rw [copies]
        dsimp only
        split
        · intro gone
          apply held
          rw [StorageManager.copies, Option.map_eq_none_iff.mp gone, Option.bind_none]
        · exact held
    · exact .of_same (StorageManager.sameCopies_of_failed overwrite goes)
  · exact .of_same (StorageManager.sameCopies_store same data options)

theorem changeTier (manager : StorageManager) (targetTier : StorageTier)
    (reads writes : Fates) :
    Retains key manager (manager.changeTier other targetTier reads writes).2 := by
  unfold StorageManager.changeTier
  by_cases ready : manager.initialized = true
  · rw [if_neg (not_not.mpr ready)]
    have read : Retains key manager (manager.retrieve other reads).2 :=
      .of_same StorageManager.sameCopies_retrieve
    cases answer : manager.retrieve other reads with
    | mk result after =>
        rw [answer] at read
        cases result with
        | error failure => exact read
        | ok data =>
            dsimp only
            have stored : Retains key manager
                (after.store other data (StorageManager.tierOptions targetTier) writes).2 :=
              read.trans (store after data rfl writes)
            split
            · rename_i written
              rwa [written] at stored
            · rename_i written
              rw [written] at stored
              exact stored.trans (.of_same ⟨rfl, rfl⟩)
  · rw [if_pos ready]
    exact .of_same (.refl key manager)

theorem remove (manager : StorageManager) (fates : Fates)
    (harmless : other = key → fates.primary ≠ none ∧ fates.secondary ≠ none) :
    Retains key manager (manager.remove other fates).2 := by
  by_cases same : other = key
  · subst same
    obtain ⟨primary, secondary⟩ := harmless rfl
    by_cases ready : manager.initialized = true
    · have copies : (manager.remove other fates).2.copies other = manager.copies other := by
        rw [StorageManager.copies_remove ready, if_neg primary, if_neg secondary]
      constructor
      · rw [copies]
        exact id
      · rw [copies]
        exact id
    · unfold StorageManager.remove
      rw [if_pos ready]
      exact .of_same (.refl other manager)
  · exact .of_same (StorageManager.sameCopies_remove same)

end Retains

namespace StoragePolicy

/-! ## Actions under a hold -/

/-- A legal hold, or compliance mode. -/
def UnderHold (policy : StoragePolicy) : Prop :=
  policy.retention.legalHold = true ∨ policy.retention.complianceMode = true

instance (policy : StoragePolicy) : Decidable policy.UnderHold :=
  inferInstanceAs (Decidable (_ ∨ _))

section

variable {Object : Type u} (names : Bytes → Object)

/-- The action deletes an object that some key names which is not excluded: it is no dry run, the
manager finds the object, and the removal reaches a backend. -/
def Deletes (policy : StoragePolicy) (wanted : Recommendation) (answers : ActionAnswers) : Prop :=
  wanted.action = .deleteObj ∧ policy.manager.isSome = true ∧ policy.dryRun = false ∧
    answers.metadata.isOk = true ∧
    (answers.writes.primary = none ∨ answers.writes.secondary = none) ∧
    ∃ key, names wanted.key = names key ∧ policy.excluded key = false

/-- No deletion is asked for, or queued where the queue is executed. -/
def Spares (policy : StoragePolicy) : PolicyInput → Prop
  | .executeAction key targetTier action answers =>
      ¬ policy.Deletes names ⟨key, targetTier, action⟩ answers
  | .executePending answers =>
      ∀ index result, policy.pendingActions[index]? = some result → result.Live →
        ¬ policy.Deletes names result.recommendation (answers index)
  | _ => True

variable {names}

/-- The copies of the object stay with the manager. -/
def KeepsObject (key : Bytes) (before after : StoragePolicy) : Prop :=
  ∀ manager, before.manager = some manager →
    ∃ later, after.manager = some later ∧ Retains key manager later

theorem KeepsObject.of_same {key : Bytes} {before after : StoragePolicy}
    (same : after.manager = before.manager) : KeepsObject key before after :=
  fun manager attached => ⟨manager, same.trans attached, .of_same (.refl key manager)⟩

theorem KeepsObject.trans {key : Bytes} {first second third : StoragePolicy}
    (left : KeepsObject key first second) (right : KeepsObject key second third) :
    KeepsObject key first third := by
  intro manager attached
  obtain ⟨middle, between, kept⟩ := left manager attached
  obtain ⟨later, last, still⟩ := right middle between
  exact ⟨later, last, kept.trans still⟩

/-- What an action leaves as it is. -/
structure SameSettings (before after : StoragePolicy) : Prop where
  retention : after.retention = before.retention
  dryRun : after.dryRun = before.dryRun
  attached : after.manager.isSome = before.manager.isSome

theorem manager_recordAction (policy : StoragePolicy) (action : TieringAction) (bytes : UInt64) :
    (policy.recordAction action bytes).manager = policy.manager := by
  cases action <;> rfl

theorem manage_retains {policy : StoragePolicy} {manager : StorageManager}
    {wanted : Recommendation} {answers : ActionAnswers} {key name : Bytes}
    (attached : policy.manager = some manager) (live : policy.dryRun = false)
    (found : answers.metadata.isOk = true) (same : names name = names key)
    (kept : policy.excluded key = false) (spared : ¬ policy.Deletes names wanted answers) :
    Retains name manager (manage manager wanted answers).2 := by
  unfold manage
  cases action : wanted.action with
  | move => exact .changeTier manager wanted.targetTier answers.reads answers.writes
  | copy => exact .changeTier manager wanted.targetTier answers.reads answers.writes
  | archive => exact .changeTier manager wanted.targetTier answers.reads answers.writes
  | deleteObj =>
      apply Retains.remove
      rintro rfl
      rw [← not_or]
      intro reaches
      exact spared ⟨action, by simp [attached], live, found, reaches, key, same, kept⟩

section

variable {policy : StoragePolicy} {key name target : Bytes} {targetTier : StorageTier}
  {action : TieringAction} {answers : ActionAnswers}

theorem sameSettings_executeAction :
    SameSettings policy (policy.executeAction target targetTier action answers).policy := by
  unfold executeAction
  cases attached : policy.manager with
  | none => exact ⟨rfl, rfl, rfl⟩
  | some manager =>
      dsimp only
      split
      · exact ⟨rfl, rfl, rfl⟩
      · split
        · exact ⟨rfl, rfl, rfl⟩
        · split
          · cases action <;> exact ⟨rfl, rfl, by simp [recordAction, attached]⟩
          · exact ⟨rfl, rfl, by simp [recordError, attached]⟩

theorem keepsObject_executeAction (same : names name = names key)
    (kept : policy.excluded key = false)
    (spared : ¬ policy.Deletes names ⟨target, targetTier, action⟩ answers) :
    KeepsObject name policy (policy.executeAction target targetTier action answers).policy := by
  intro manager attached
  unfold executeAction
  rw [attached]
  dsimp only
  split
  · exact ⟨manager, attached, .of_same (.refl name manager)⟩
  · rename_i metadata answered
    split
    · exact ⟨manager, attached, .of_same (.refl name manager)⟩
    · rename_i live
      have found : answers.metadata.isOk = true := by
        cases answer : answers.metadata with
        | ok _ => rfl
        | error failure =>
            rw [answer] at answered
            contradiction
      have retained := manage_retains attached (Bool.not_eq_true _ ▸ live) found same kept
        spared
      split
      · rename_i after managed
        rw [managed] at retained
        exact ⟨after, by rw [manager_recordAction], retained⟩
      · rename_i failure after managed
        rw [managed] at retained
        exact ⟨after, rfl, retained⟩

theorem SameSettings.excluded {before after : StoragePolicy} (same : SameSettings before after) :
    after.excluded = before.excluded := by
  unfold StoragePolicy.excluded
  rw [same.retention]

theorem SameSettings.deletes {before after : StoragePolicy} (same : SameSettings before after)
    (wanted : Recommendation) (answers : ActionAnswers) :
    after.Deletes names wanted answers ↔ before.Deletes names wanted answers := by
  unfold Deletes
  rw [same.dryRun, same.attached, same.excluded]

theorem keepsObject_executeActions {results : List PolicyEvaluationResult}
    {answers : Nat → ActionAnswers} (same : names name = names key)
    (kept : policy.excluded key = false)
    (spared : ∀ index result, results[index]? = some result → result.Live →
      ¬ policy.Deletes names result.recommendation (answers index)) :
    KeepsObject name policy (policy.executeActions results answers).2.2 := by
  induction results generalizing policy answers with
  | nil => exact .of_same rfl
  | cons result results ih =>
      rw [executeActions]
      split
      · rename_i live
        have settings : SameSettings policy (policy.executeAction result.key result.targetTier
            result.recommendedAction (answers 0)).policy := sameSettings_executeAction
        have first := keepsObject_executeAction same kept (spared 0 result rfl live)
        apply first.trans
        apply ih (settings.excluded ▸ kept)
        intro index later queued alive
        rw [settings.deletes]
        exact spared (index + 1) later queued alive
      · apply ih kept
        intro index later queued alive
        exact spared (index + 1) later queued alive

theorem keepsObject_executePending {answers : Nat → ActionAnswers}
    (same : names name = names key) (kept : policy.excluded key = false)
    (spared : policy.Spares names (.executePending answers)) :
    KeepsObject name policy (policy.executePending answers).policy := by
  have emptied : KeepsObject name policy { policy with pendingActions := [] } := .of_same rfl
  unfold executePending
  split
  · exact .of_same rfl
  · exact emptied.trans (keepsObject_executeActions same kept spared)

end

/-! ## Evaluations under a hold -/

section

variable {policy : StoragePolicy} {readings : Readings} {metadata : StoredObjectMetadata}

theorem not_deleteObj_of_live (held : policy.UnderHold)
    (live : (policy.evaluateObject readings metadata).Live) :
    (policy.evaluateObject readings metadata).recommendedAction ≠ .deleteObj := by
  obtain ⟨-, free, -⟩ := policy.recommend_spec readings metadata
  obtain ⟨action, -, -, blocked_iff⟩ := PolicyEvaluationResult.retain_spec _ policy.retention
    metadata readings.retention free
  intro deletes
  have withholds : policy.retention.Withholds (metadata.age readings.retention) :=
    or_assoc.mp (.inl held)
  have blocked : (policy.evaluateObject readings metadata).blockedByRetention = true :=
    blocked_iff.mpr ⟨action.symm.trans deletes, withholds⟩
  rw [live.2] at blocked
  contradiction

theorem manager_evaluateQueue :
    (policy.evaluateQueue readings metadata).2.manager = policy.manager := by
  unfold evaluateQueue
  dsimp only
  split <;> rfl

theorem sameSettings_evaluateQueue :
    SameSettings policy (policy.evaluateQueue readings metadata).2 := by
  unfold evaluateQueue
  dsimp only
  split <;> exact ⟨rfl, rfl, rfl⟩

theorem manager_evaluateObjects {clock : Bytes → Readings}
    {objects : List StoredObjectMetadata} :
    (policy.evaluateObjects clock objects).2.manager = policy.manager := by
  induction objects generalizing policy with
  | nil => rfl
  | cons object objects ih => exact ih.trans manager_evaluateQueue

theorem manager_evaluateListed {clock : Bytes → Readings} {listing : Result ListStorageResult} :
    (policy.evaluateListed clock listing).policy.manager = policy.manager := by
  unfold evaluateListed
  split
  · rfl
  · split
    · rfl
    · exact manager_evaluateObjects

theorem manager_evaluate {key : Bytes} {answer : Result StoredObjectMetadata} :
    (policy.evaluate key readings answer).policy.manager = policy.manager := by
  rcases evaluate_cases policy key readings answer with ⟨failure, failed⟩ | ⟨found, -, evaluated⟩
  · rw [failed]
  · rw [evaluated]
    exact manager_evaluateQueue

theorem keepsObject_execute {key name target : Bytes} {answer : Result StoredObjectMetadata}
    {answers : ActionAnswers} (held : policy.UnderHold) (same : names name = names key)
    (kept : policy.excluded key = false) :
    KeepsObject name policy (policy.execute target readings answer answers).policy := by
  have first : KeepsObject name policy (policy.evaluate target readings answer).policy :=
    .of_same manager_evaluate
  unfold execute
  rcases evaluate_cases policy target readings answer with
    ⟨failure, failed⟩ | ⟨found, -, evaluated⟩
  · rw [failed] at first ⊢
    exact first
  · rw [evaluated] at first ⊢
    dsimp only at first ⊢
    split
    · exact first
    · rename_i moves
      split
      · exact first
      · rename_i allowed
        have live : (policy.evaluateObject readings found).Live :=
          ⟨moves, Bool.not_eq_true _ ▸ allowed⟩
        apply first.trans
        apply keepsObject_executeAction same
        · rwa [sameSettings_evaluateQueue.excluded]
        · rintro ⟨deletes, -⟩
          exact not_deleteObj_of_live held live deletes

end

/-! ## Runs under a hold -/

section

variable {sortRules : List TieringRule → List TieringRule} {policy : StoragePolicy}
  {key name : Bytes} {input : PolicyInput}

theorem keepsObject_step (operation : input.IsOperation) (held : policy.UnderHold)
    (same : names name = names key) (kept : policy.excluded key = false)
    (spared : policy.Spares names input) :
    KeepsObject name policy (step sortRules policy input).2 := by
  cases input with
  | attach manager => contradiction
  | detach => contradiction
  | callManager call => contradiction
  | evaluate target readings metadata => exact .of_same manager_evaluate
  | evaluateAll clock listing => exact .of_same manager_evaluateListed
  | evaluatePrefix clock listing => exact .of_same manager_evaluateListed
  | execute target readings metadata answers => exact keepsObject_execute held same kept
  | executePending answers => exact keepsObject_executePending same kept spared
  | executeAction target targetTier action answers =>
      exact keepsObject_executeAction same kept spared
  | addRule rule => exact .of_same rfl
  | removeRule name => exact .of_same rfl
  | setRuleEnabled name enable => exact .of_same rfl
  | setRetention retention => exact .of_same rfl
  | setDryRun enable => exact .of_same rfl

/-- While a hold stays in force, the operations keep the object that is not excluded, under
whatever name. -/
def HoldLaw (names : Bytes → Object) (sortRules : List TieringRule → List TieringRule)
    (policy : StoragePolicy) (inputs : List PolicyInput) : Prop :=
  ∀ key name before window after, names name = names key →
    inputs = before ++ (window ++ after) → Guarded (step sortRules) (fun policy input =>
      input.IsOperation ∧ policy.UnderHold ∧ policy.excluded key = false)
      (final (step sortRules) policy before) window →
    KeepsObject name (final (step sortRules) policy before)
      (final (step sortRules) policy (before ++ window))

/-- In a run that asks for no deletion under a hold, an object that is not excluded stays as
long as the hold does. -/
theorem holdLaw_of_spares {inputs : List PolicyInput}
    (guarded : Guarded (step sortRules) (fun policy input =>
      policy.UnderHold → policy.Spares names input) policy inputs) :
    HoldLaw names sortRules policy inputs := by
  rintro key name before window after same rfl held
  rw [guarded_append_iff, guarded_append_iff] at guarded
  rw [final_append]
  generalize final (step sortRules) policy before = start at held guarded
  have spared := guarded.2.1
  clear guarded
  induction window generalizing start with
  | nil => exact .of_same rfl
  | cons input window ih =>
      obtain ⟨⟨operation, underHold, kept⟩, later⟩ := held
      have first : KeepsObject name start (step sortRules start input).2 :=
        keepsObject_step operation underHold same kept (spared.1 underHold)
      exact first.trans (ih _ later spared.2)

end

end

/-! ## Deletions that a hold does not stop -/

namespace HoldSample

def key : Bytes := [0x6b]

/-- The file that a key leads to below a base path. -/
def names (key : Bytes) : NormalPath :=
  Path.lexicallyNormal (Path.append (Text.ascii "base") key)

example : names (Text.ascii "tmp/../k") = names key := by decide

/-- A local backend with the object. -/
def manager : StorageManager where
  config := ⟨false, false, false⟩
  primaryBackend := ⟨.localStorage, fun other => if other = key then some [1, 2, 3] else none⟩
  secondaryBackend := none
  initialized := true
  stats := ⟨0, 0, 0, 0, 0, 0, 0, 0, 0, 0, 0⟩

/-- A rule that deletes every object. -/
def rule : TieringRule where
  name := Text.ascii "expire"
  priority := 0
  trigger := .size
  sourceTier := none
  targetTier := .archive
  action := .deleteObj
  keyPattern := none
  minAge := none
  maxAge := none
  minSize := some 0
  maxSize := none
  maxAccessCount := none
  enabled := true

/-- No retention. -/
def free : RetentionPolicy :=
  ⟨0, false, false, []⟩

/-- A legal hold. -/
def hold : RetentionPolicy :=
  ⟨0, true, false, []⟩

/-- A policy with the rule. -/
def policy (retention : RetentionPolicy) : StoragePolicy where
  manager := some manager
  ageConfig := none
  sizeConfig := none
  rules := [rule]
  retention := retention
  dryRun := false
  stats := ⟨0, 0, 0, 0, 0, 0, 0⟩
  pendingActions := []

/-- What the local backend answers about the object. -/
def metadata : Result StoredObjectMetadata :=
  .ok ⟨key, 3, 0, none, .localStorage, .hot, none, none, [], 0, none⟩

/-- Backends that answer. -/
def answers : ActionAnswers :=
  ⟨metadata, ⟨none, none⟩, ⟨none, none⟩⟩

/-- A clock that stands still. -/
def readings : Readings :=
  ⟨fun _ => 0, 0, 0⟩

/-- The evaluation comes before the hold, the execution after it. -/
def queuedBefore : List PolicyInput :=
  [.evaluate key readings metadata, .setRetention hold, .executePending fun _ => answers]

/-- An action on request. -/
def requested : List PolicyInput :=
  [.executeAction key .archive .deleteObj answers]

/-- The evaluation comes after the hold. -/
def evaluatedAfter : List PolicyInput :=
  [.setRetention hold, .evaluate key readings metadata, .executePending fun _ => answers,
    .execute key readings metadata answers]

end HoldSample

open HoldSample in
theorem holdLaw_of_spares_sample : HoldLaw names id (policy free) evaluatedAfter := by
  apply holdLaw_of_spares
  refine ⟨fun _ => trivial, fun _ => trivial, fun _ => ?_, fun _ => trivial, trivial⟩
  intro index result queued
  contradiction

open HoldSample in
/-- The deletion that was queued before the hold is carried out under it, and so is the one
that is asked for. -/
theorem hold_broken :
    (¬ HoldLaw names id (policy free) queuedBefore ∧
      ((final (step id) (policy free) queuedBefore).manager.map (·.copies key)) =
        some (none, none)) ∧
    ¬ HoldLaw names id (policy hold) requested ∧
    ((final (step id) (policy hold) requested).manager.map (·.copies key)) =
      some (none, none) := by
  have goneLater : ((final (step id) (policy free) queuedBefore).manager.map
      (·.copies key)) = some (none, none) := by decide
  have goneAtOnce : ((final (step id) (policy hold) requested).manager.map
      (·.copies key)) = some (none, none) := by decide
  refine ⟨⟨?_, goneLater⟩, ?_, goneAtOnce⟩
  · intro law
    obtain ⟨later, attached, retained⟩ := law key key (queuedBefore.take 2)
      (queuedBefore.drop 2) [] rfl rfl ⟨⟨trivial, .inl rfl, rfl⟩, trivial⟩ _ rfl
    change (final (step id) (policy free) queuedBefore).manager = some later at attached
    rw [attached] at goneLater
    exact retained.primary (by decide) (congrArg Prod.fst (Option.some.inj goneLater))
  · intro law
    obtain ⟨later, attached, retained⟩ := law key key [] requested [] rfl rfl
      ⟨⟨trivial, .inl rfl, rfl⟩, trivial⟩ _ rfl
    change (final (step id) (policy hold) requested).manager = some later at attached
    rw [attached] at goneAtOnce
    exact retained.primary (by decide) (congrArg Prod.fst (Option.some.inj goneAtOnce))

end StoragePolicy

end FileTrans.Server
