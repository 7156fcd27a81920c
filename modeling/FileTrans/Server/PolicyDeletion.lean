import FileTrans.Server.Removal
import FileTrans.Server.RetentionHold

/-!
# Deletions that a rule recommends

Whether anything is done for an evaluation is decided by its two tiers.  A
deletion has no use for a target tier, but it is carried out, at once or from
the queue, only where the rule names a tier that the object is not in.

`evaluate_object` marks a deletion that the retention blocks, and `can_delete`
says whether the retention allows one.  The exclusions of the retention are
looked at by `can_delete` alone.
-/

namespace FileTrans.Server

open FileTrans.Core

/-! ## Two verdicts on a deletion -/

namespace StoragePolicy

section

variable {policy : StoragePolicy} {key : Bytes} {readings : Readings}
  {metadata : StoredObjectMetadata} {result : PolicyEvaluationResult}

theorem canDelete_eq (attached : policy.manager ≠ none) (key : Bytes) (now : Int)
    (metadata : StoredObjectMetadata) :
    policy.canDelete key now (.ok metadata) =
      .ok (policy.excluded key || !decide (policy.retention.Withholds (metadata.age now))) := by
  obtain ⟨manager, attached_eq⟩ := Option.ne_none_iff_exists'.mp attached
  rw [canDelete, attached_eq]
  dsimp only
  unfold RetentionPolicy.Withholds
  cases policy.excluded key with
  | true => rfl
  | false =>
      by_cases legal : policy.retention.legalHold = true
      · simp [legal]
      by_cases compliance : policy.retention.complianceMode = true
      · simp [legal, compliance]
      by_cases least : policy.retention.minRetention > 0
      · -- The age does not depend on the key.
        have age : ({ metadata with key } : StoredObjectMetadata).age now = metadata.age now := rfl
        by_cases young : metadata.age now < policy.retention.minRetention <;>
          simp [legal, compliance, least, getMetadata, Except.map, age, young]
      · simp [legal, compliance, least]

theorem evaluate_ok
    (evaluated : (policy.evaluate key readings (.ok metadata)).result = .ok result) :
    policy.manager ≠ none ∧ result = policy.evaluateObject readings { metadata with key } := by
  rw [evaluate] at evaluated
  split at evaluated
  · cases evaluated
  · rename_i manager attached
    refine ⟨attached ▸ Option.some_ne_none manager, ?_⟩
    dsimp only [getMetadata, Except.map] at evaluated
    rw [evaluateQueue_eq] at evaluated
    exact (Except.ok.inj evaluated).symm

/-- The flag of a recommended deletion is the negation of what `can_delete` answers exactly if
the key is not excluded where the retention withholds the object. -/
theorem blocked_iff_canDelete
    (evaluated : (policy.evaluate key readings (.ok metadata)).result = .ok result)
    (deletes : result.recommendedAction = .deleteObj) :
    policy.canDelete key readings.retention (.ok metadata) = .ok (!result.blockedByRetention) ↔
      (policy.excluded key = true →
        ¬ policy.retention.Withholds (metadata.age readings.retention)) := by
  obtain ⟨attached, rfl⟩ := evaluate_ok evaluated
  obtain ⟨-, free, -⟩ := policy.recommend_spec readings { metadata with key }
  obtain ⟨action, -, -, blocked_iff⟩ := PolicyEvaluationResult.retain_spec _ policy.retention
    { metadata with key } readings.retention free
  have age : ({ metadata with key } : StoredObjectMetadata).age readings.retention =
      metadata.age readings.retention := rfl
  rw [evaluateObject, action] at deletes
  rw [evaluateObject, canDelete_eq attached, Except.ok.injEq]
  simp only [deletes, true_and, age] at blocked_iff
  cases excluded : policy.excluded key with
  | false =>
      refine iff_of_true ?_ fun impossible => absurd impossible Bool.false_ne_true
      rw [Bool.false_or, Bool.eq_iff_iff.mpr (blocked_iff.trans decide_eq_true_iff.symm)]
  | true =>
      rw [Bool.true_or, ← blocked_iff, eq_comm, Bool.not_eq_true', Bool.not_eq_true]
      exact ⟨fun unblocked _ => unblocked, fun unblocked => unblocked rfl⟩

end

namespace VerdictSample

/-- A hold that excludes a key. -/
def holdExcept (key : String) : RetentionPolicy :=
  ⟨0, true, false, [Text.ascii key]⟩

/-- What the backend answers. -/
def metadata : StoredObjectMetadata :=
  ⟨HoldSample.key, 3, 0, none, .localStorage, .hot, none, none, [], 0, none⟩

/-- What an evaluation gives. -/
def result (blocked : Bool) (reason : String) : PolicyEvaluationResult where
  key := HoldSample.key
  matchedRule := Text.ascii "expire"
  recommendedAction := .deleteObj
  currentTier := .hot
  targetTier := .archive
  reason := Text.ascii reason
  blockedByRetention := blocked

end VerdictSample

open HoldSample VerdictSample in
/-- A hold that excludes another key is heeded by both. -/
theorem blocked_iff_canDelete_sample :
    (policy (holdExcept "other")).canDelete key readings.retention
      (.ok VerdictSample.metadata) = .ok false :=
  (@blocked_iff_canDelete (policy (holdExcept "other")) key readings VerdictSample.metadata
    (result true "Blocked by retention policy") (by decide +kernel) rfl).mpr
    fun impossible => absurd impossible (by decide +kernel)

open HoldSample VerdictSample in
/-- An excluded key may be deleted, says one, and is blocked, says the other. -/
theorem verdicts_differ :
    ((policy (holdExcept "k")).evaluate key readings (.ok VerdictSample.metadata)).result =
      .ok (result true "Blocked by retention policy") ∧
    (policy (holdExcept "k")).canDelete key readings.retention (.ok VerdictSample.metadata) =
      .ok true := by
  decide +kernel

end StoragePolicy

/-! ## Managers that stay initialized -/

namespace StorageManager

variable {manager : StorageManager} {key : Bytes} {fates : Fates}

theorem initialized_retrieve :
    (manager.retrieve key fates).2.initialized = manager.initialized := by
  unfold retrieve
  split
  · rfl
  · split
    · rfl
    · split <;> rfl

theorem initialized_storeWith
    {write : StorageBackend → Fate → Result StoreResult × StorageBackend} :
    (manager.storeWith write fates).2.initialized = manager.initialized := by
  have recorded (manager : StorageManager) (bytes : UInt64) (type : StorageBackendType) :
      (manager.recordStore bytes type).initialized = manager.initialized := by
    unfold recordStore
    dsimp only
    split <;> rfl
  unfold storeWith
  split
  · rfl
  · split
    · rfl
    · dsimp only
      split
      · exact recorded _ _ _
      · exact recorded _ _ _

theorem initialized_changeTier {targetTier : StorageTier} {reads writes : Fates} :
    (manager.changeTier key targetTier reads writes).2.initialized = manager.initialized := by
  have read : (manager.retrieve key reads).2.initialized = manager.initialized :=
    initialized_retrieve
  unfold changeTier
  split
  · rfl
  · split
    · rename_i answer
      rwa [answer] at read
    · rename_i data after answer
      rw [answer] at read
      have stored : (after.store key data (tierOptions targetTier) writes).2.initialized =
          after.initialized := initialized_storeWith
      split
      · rename_i written
        rw [written] at stored
        exact stored.trans read
      · rename_i written
        rw [written] at stored
        exact stored.trans read

end StorageManager

namespace StoragePolicy

/-! ## Policies at work -/

/-- The policy is attached to an initialized manager and is no dry run. -/
def Working (policy : StoragePolicy) : Prop :=
  policy.dryRun = false ∧ ∃ manager ∈ policy.manager, manager.initialized = true

/-- The policy's manager holds a copy of the object. -/
def Holds (policy : StoragePolicy) (key : Bytes) : Prop :=
  ∃ manager ∈ policy.manager, manager.copies key ≠ (none, none)

instance (policy : StoragePolicy) (key : Bytes) : Decidable (policy.Holds key) :=
  inferInstanceAs (Decidable (∃ manager ∈ policy.manager, manager.copies key ≠ (none, none)))

/-- The backends do not fail the action: the metadata of an object that they hold is found, and
the calls that write go through. -/
structure Answered (policy : StoragePolicy) (key : Bytes) (answers : ActionAnswers) : Prop where
  metadata : policy.Holds key → answers.metadata.isOk = true
  writes : answers.writes = ⟨none, none⟩

/-- They fail no action of the queue. -/
def AnsweredAll (policy : StoragePolicy) :
    List PolicyEvaluationResult → (Nat → ActionAnswers) → Prop
  | [], _ => True
  | result :: results, answers =>
      if result.Live then
        policy.Answered result.key (answers 0) ∧
          (policy.executeAction result.key result.targetTier result.recommendedAction
            (answers 0)).policy.AnsweredAll results fun index => answers (index + 1)
      else policy.AnsweredAll results fun index => answers (index + 1)

section

variable {policy : StoragePolicy} {key : Bytes} {targetTier : StorageTier}
  {action : TieringAction} {answers : ActionAnswers}

theorem initialized_manage {manager : StorageManager} {wanted : Recommendation} :
    (manage manager wanted answers).2.initialized = manager.initialized := by
  unfold manage
  split
  · exact StorageManager.initialized_changeTier
  · exact StorageManager.initialized_changeTier
  · exact StorageManager.initialized_changeTier
  · exact StorageManager.initialized_remove

theorem Working.executeAction (working : policy.Working) :
    (policy.executeAction key targetTier action answers).policy.Working := by
  obtain ⟨wet, manager, attached, ready⟩ := working
  have managed : (manage manager ⟨key, targetTier, action⟩ answers).2.initialized = true :=
    initialized_manage.trans ready
  refine ⟨(sameSettings_executeAction).dryRun.trans wet, ?_⟩
  rw [Option.mem_def] at attached
  unfold StoragePolicy.executeAction
  rw [attached]
  dsimp only
  split
  · exact ⟨manager, attached, ready⟩
  · split
    · exact ⟨manager, attached, ready⟩
    · split
      · rename_i after performed
        rw [performed] at managed
        exact ⟨after, by rw [manager_recordAction]; rfl, managed⟩
      · rename_i failure after failed
        rw [failed] at managed
        exact ⟨after, rfl, managed⟩

theorem copies_manage_deleteObj {manager : StorageManager} (ready : manager.initialized = true)
    (through : answers.writes = ⟨none, none⟩) :
    (manage manager ⟨key, targetTier, .deleteObj⟩ answers).2.copies key = (none, none) := by
  rw [manage, StorageManager.copies_remove ready, through]
  rfl

theorem not_holds_executeAction (working : policy.Working)
    (answered : policy.Answered key answers) :
    ¬ (policy.executeAction key targetTier .deleteObj answers).policy.Holds key := by
  obtain ⟨wet, manager, attached, ready⟩ := working
  have gone := @copies_manage_deleteObj key targetTier answers manager ready answered.writes
  rw [Option.mem_def] at attached
  rintro ⟨later, attachedLater, held⟩
  rw [Option.mem_def] at attachedLater
  unfold StoragePolicy.executeAction at attachedLater
  rw [attached] at attachedLater
  dsimp only at attachedLater
  split at attachedLater
  · -- Without metadata there was nothing to remove.
    rename_i failure missing
    have found := answered.metadata ⟨later, attachedLater, held⟩
    cases answer : answers.metadata with
    | ok metadata =>
        rw [answer] at missing
        contradiction
    | error failure =>
        rw [answer] at found
        contradiction
  · rw [wet, if_neg Bool.false_ne_true] at attachedLater
    split at attachedLater
    · rename_i after performed
      rw [performed] at gone
      rw [manager_recordAction] at attachedLater
      cases attachedLater
      exact held gone
    · rename_i failure after failed
      rw [failed] at gone
      cases attachedLater
      exact held gone

theorem not_holds_executeActions {results : List PolicyEvaluationResult}
    {result : PolicyEvaluationResult} {answers : Nat → ActionAnswers} (working : policy.Working)
    (live : result.Live) (deletes : result.recommendedAction = .deleteObj)
    (answered : policy.AnsweredAll (results ++ [result]) answers) :
    ¬ (policy.executeActions (results ++ [result]) answers).2.2.Holds result.key := by
  induction results generalizing policy answers with
  | nil =>
      rw [List.nil_append, AnsweredAll, if_pos live] at answered
      rw [List.nil_append, executeActions, if_pos live, deletes]
      exact not_holds_executeAction working answered.1
  | cons first results ih =>
      rw [List.cons_append, AnsweredAll] at answered
      rw [List.cons_append, executeActions]
      by_cases alive : first.Live
      · rw [if_pos alive] at answered ⊢
        exact ih working.executeAction answered.2
      · rw [if_neg alive] at answered ⊢
        exact ih working answered

end

/-! ## Deletions that are recommended -/

section

variable {policy : StoragePolicy} {key : Bytes} {readings : Readings}
  {metadata : StoredObjectMetadata} {result : PolicyEvaluationResult}

theorem rule_of_deleteObj (deletes : (policy.evaluateObject readings metadata).recommendedAction =
      .deleteObj) :
    ∃ rule, policy.matchingRule readings metadata = some rule ∧
      (policy.evaluateObject readings metadata).targetTier = rule.targetTier ∧
      (policy.evaluateObject readings metadata).currentTier = metadata.tier := by
  obtain ⟨-, free, from_rule⟩ := policy.recommend_spec readings metadata
  obtain ⟨action, target, current, -⟩ := PolicyEvaluationResult.retain_spec _ policy.retention
    metadata readings.retention free
  rw [evaluateObject, action] at deletes
  obtain ⟨rule, found, recommended⟩ := from_rule deletes
  refine ⟨rule, found, ?_, ?_⟩
  · rw [evaluateObject, target, recommended]
    rfl
  · rw [evaluateObject, current, recommended]
    rfl

theorem policy_evaluate (attached : policy.manager ≠ none) :
    (policy.evaluate key readings (.ok metadata)).policy =
      (policy.evaluateQueue readings { metadata with key }).2 := by
  obtain ⟨manager, attached_eq⟩ := Option.ne_none_iff_exists'.mp attached
  rw [evaluate, attached_eq]
  rfl

theorem Working.evaluate (working : policy.Working) :
    (policy.evaluate key readings (.ok metadata)).policy.Working := by
  obtain ⟨wet, manager, attached, ready⟩ := working
  have present : policy.manager ≠ none := by
    rw [Option.mem_def.mp attached]
    exact Option.some_ne_none manager
  rw [policy_evaluate present]
  refine ⟨sameSettings_evaluateQueue.dryRun.trans wet, manager, ?_, ready⟩
  rwa [manager_evaluateQueue]

theorem policy_executePending (attached : policy.manager ≠ none) (answers : Nat → ActionAnswers) :
    (policy.executePending answers).policy =
      (executeActions { policy with pendingActions := [] } policy.pendingActions answers).2.2 := by
  unfold executePending
  split
  · rename_i unattached
    exact absurd unattached attached
  · rfl

theorem policy_execute
    (evaluated : (policy.evaluate key readings (.ok metadata)).result = .ok result)
    (free : result.blockedByRetention = false) (answers : ActionAnswers) :
    (policy.execute key readings (.ok metadata) answers).policy =
      if result.targetTier = result.currentTier then
        (policy.evaluate key readings (.ok metadata)).policy
      else
        ((policy.evaluate key readings (.ok metadata)).policy.executeAction key result.targetTier
          result.recommendedAction answers).policy := by
  unfold execute
  dsimp only
  rw [evaluated]
  dsimp only
  split
  · rfl
  · rw [free, if_neg Bool.false_ne_true]

/-- A deletion that a rule recommends and nothing blocks is carried out, by `execute` and from
the queue, exactly if the rule's target tier is not the tier of the object. -/
theorem deletion_done_iff {answers : ActionAnswers} {queue : Nat → ActionAnswers}
    (working : policy.Working) (held : policy.Holds key)
    (evaluated : (policy.evaluate key readings (.ok metadata)).result = .ok result)
    (deletes : result.recommendedAction = .deleteObj) (free : result.blockedByRetention = false)
    (answered : (policy.evaluate key readings (.ok metadata)).policy.Answered key answers)
    (answeredAll : AnsweredAll
      { (policy.evaluate key readings (.ok metadata)).policy with pendingActions := [] }
      (policy.evaluate key readings (.ok metadata)).policy.pendingActions queue) :
    (¬ (policy.execute key readings (.ok metadata) answers).policy.Holds key ∧
      ¬ ((policy.evaluate key readings (.ok metadata)).policy.executePending queue).policy.Holds
        key) ↔
      ∃ rule, policy.matchingRule readings { metadata with key } = some rule ∧
        rule.targetTier ≠ metadata.tier := by
  obtain ⟨attached, same⟩ := evaluate_ok evaluated
  obtain ⟨rule, found, target, current⟩ := rule_of_deleteObj (same ▸ deletes)
  rw [← same] at target current
  have differ_iff : (∃ rule, policy.matchingRule readings { metadata with key } = some rule ∧
      rule.targetTier ≠ metadata.tier) ↔ result.targetTier ≠ result.currentTier := by
    rw [found, target, current]
    simp
  have afterEvaluate := @Working.evaluate policy key readings metadata working
  rw [differ_iff, policy_execute evaluated free]
  by_cases tiers : result.targetTier = result.currentTier
  · -- Nothing is done, so that the object is still there.
    rw [if_pos tiers]
    refine iff_of_false ?_ (not_not.mpr tiers)
    rintro ⟨gone, -⟩
    obtain ⟨manager, attached, copies⟩ := held
    exact gone ⟨manager, manager_evaluate.trans attached, copies⟩
  · rw [if_neg tiers, deletes]
    have live : result.Live := ⟨tiers, free⟩
    refine iff_of_true ⟨not_holds_executeAction afterEvaluate answered, ?_⟩ tiers
    have key_eq : result.key = key := by rw [same, key_evaluateObject]
    have queued : (policy.evaluate key readings (.ok metadata)).policy.pendingActions =
        policy.pendingActions ++ [result] := by
      rw [policy_evaluate attached, evaluateQueue, ← same, if_pos live]
      rfl
    have stillAttached : (policy.evaluate key readings (.ok metadata)).policy.manager ≠ none := by
      rwa [manager_evaluate]
    have pending := @not_holds_executeActions
      { (policy.evaluate key readings (.ok metadata)).policy with pendingActions := [] }
      policy.pendingActions result queue afterEvaluate live deletes (queued ▸ answeredAll)
    rw [key_eq] at pending
    rwa [policy_executePending stillAttached, queued]

end

namespace DeletionSample

/-- The object is in the tier that the rule names. -/
def archived : StoredObjectMetadata :=
  { VerdictSample.metadata with tier := .archive }

/-- What an evaluation of it gives. -/
def recommended : PolicyEvaluationResult :=
  { VerdictSample.result false "Matched rule: expire" with currentTier := .archive }

end DeletionSample

open HoldSample VerdictSample in
/-- A hot object goes. -/
theorem deletion_done_iff_sample :
    ¬ ((policy free).execute key readings (.ok VerdictSample.metadata)
        answers).policy.Holds key ∧
      ¬ (((policy free).evaluate key readings (.ok VerdictSample.metadata)).policy.executePending
        fun _ => answers).policy.Holds key := by
  have queued : ((policy free).evaluate key readings
      (.ok VerdictSample.metadata)).policy.pendingActions =
        [result false "Matched rule: expire"] := by decide +kernel
  have answered (policy : StoragePolicy) : policy.Answered key answers := ⟨fun _ => rfl, rfl⟩
  refine (@deletion_done_iff (policy free) key readings VerdictSample.metadata
    (result false "Matched rule: expire") answers (fun _ => answers)
    ⟨rfl, HoldSample.manager, rfl, rfl⟩ (by decide) (by decide +kernel) rfl rfl (answered _) ?_).mpr
      ⟨rule, rfl, by decide⟩
  rw [queued, AnsweredAll, if_pos (by decide)]
  exact ⟨answered _, trivial⟩

open HoldSample DeletionSample in
/-- An object that is in the rule's target tier already stays, and no call fails. -/
theorem archived_object_stays :
    ((policy free).evaluate key readings (.ok archived)).result = .ok recommended ∧
    ((policy free).execute key readings (.ok archived) answers).result = .ok () ∧
    ((policy free).execute key readings (.ok archived) answers).policy.Holds key ∧
    (((policy free).evaluate key readings (.ok archived)).policy.executePending
      fun _ => answers).result = .ok 0 ∧
    (((policy free).evaluate key readings (.ok archived)).policy.executePending
      fun _ => answers).policy.Holds key := by
  decide +kernel

end StoragePolicy

end FileTrans.Server
