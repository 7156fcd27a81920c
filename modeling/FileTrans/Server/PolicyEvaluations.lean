import FileTrans.Server.StoragePolicy

/-!
# The parts of an evaluation

What the rules, the built-in tiering and the retention each set in the result
of an evaluation, and when the built-in tiering moves an object.
-/

namespace FileTrans.Server

open FileTrans.Core

/-- The age-based tiering moves the object. -/
def AgeTieringConfig.Moves (config : AgeTieringConfig) (tier : StorageTier) (age : Int) : Prop :=
  tier = .hot ∧ age ≥ config.hotToWarmAge ∨ tier = .warm ∧ age ≥ config.warmToColdAge ∨
    tier = .cold ∧ age ≥ config.coldToArchiveAge

/-- The size-based tiering moves the object. -/
def SizeTieringConfig.Moves (config : SizeTieringConfig) (tier : StorageTier) (size : UInt64) :
    Prop :=
  if size ≤ config.hotMaxSize then tier ≠ .hot
  else if size ≤ config.warmMaxSize then tier = .hot
  else tier ≠ .cold ∧ tier ≠ .archive

/-- The retention keeps objects of this age from being deleted. -/
def RetentionPolicy.Withholds (retention : RetentionPolicy) (age : Int) : Prop :=
  retention.legalHold = true ∨ retention.complianceMode = true ∨
    retention.minRetention > 0 ∧ age < retention.minRetention

instance (config : AgeTieringConfig) (tier : StorageTier) (age : Int) :
    Decidable (config.Moves tier age) :=
  inferInstanceAs (Decidable (_ ∨ _))

instance (config : SizeTieringConfig) (tier : StorageTier) (size : UInt64) :
    Decidable (config.Moves tier size) := by
  unfold SizeTieringConfig.Moves
  infer_instance

instance (retention : RetentionPolicy) (age : Int) : Decidable (retention.Withholds age) :=
  inferInstanceAs (Decidable (_ ∨ _))

namespace PolicyEvaluationResult

/-- The same object and rule, and no tier or action of the built-in tiering is one to delete. -/
structure Retiered (result after : PolicyEvaluationResult) : Prop where
  key : after.key = result.key
  matchedRule : after.matchedRule = result.matchedRule
  currentTier : after.currentTier = result.currentTier
  blocked : after.blockedByRetention = result.blockedByRetention
  action : after.recommendedAction ≠ .deleteObj
  reason : ∀ name, after.reason ≠ Text.ascii "Matched rule: " ++ name

variable {result : PolicyEvaluationResult} {metadata : StoredObjectMetadata}

theorem ascii_ne_matchedRule {reason : String} (other : (Text.ascii reason).head? ≠ some 0x4d)
    (name : Bytes) : Text.ascii reason ≠ Text.ascii "Matched rule: " ++ name := by
  intro same
  apply other
  rw [same, List.head?_append_of_ne_nil _ (by decide)]
  decide

theorem retiered_retier {tier : StorageTier} {action : TieringAction} {reason : String}
    (spares : action ≠ .deleteObj) (other : (Text.ascii reason).head? ≠ some 0x4d) :
    result.Retiered (result.retier tier action reason) :=
  ⟨rfl, rfl, rfl, rfl, spares, ascii_ne_matchedRule other⟩

theorem byAge_cases (result : PolicyEvaluationResult) (config : AgeTieringConfig)
    (metadata : StoredObjectMetadata) (now : Int) :
    ¬ config.Moves metadata.tier (metadata.age now) ∧
        result.byAge config metadata now = result ∨
      config.Moves metadata.tier (metadata.age now) ∧
        result.Retiered (result.byAge config metadata now) := by
  rw [byAge, AgeTieringConfig.Moves]
  split
  · rename_i hot
    exact .inr ⟨.inl hot, retiered_retier (by decide) (by decide)⟩
  · rename_i notHot
    split
    · rename_i warm
      exact .inr ⟨.inr (.inl warm), retiered_retier (by decide) (by decide)⟩
    · rename_i notWarm
      split
      · rename_i cold
        exact .inr ⟨.inr (.inr cold), retiered_retier (by decide) (by decide)⟩
      · rename_i notCold
        exact .inl ⟨not_or.mpr ⟨notHot, not_or.mpr ⟨notWarm, notCold⟩⟩, rfl⟩

theorem bySize_cases (result : PolicyEvaluationResult) (config : SizeTieringConfig)
    (metadata : StoredObjectMetadata) :
    ¬ (result.targetTier = result.currentTier ∧ config.Moves metadata.tier metadata.size) ∧
        result.bySize config metadata = result ∨
      (result.targetTier = result.currentTier ∧ config.Moves metadata.tier metadata.size) ∧
        result.Retiered (result.bySize config metadata) := by
  have retiered : ∀ tier reason, (Text.ascii reason).head? ≠ some 0x4d →
      result.Retiered (result.retier tier .move reason) :=
    fun _ _ other => retiered_retier (by decide) other
  by_cases undecided : result.targetTier = result.currentTier
  · -- The three size classes.
    have moves_cases : ∀ (moves : Prop) [Decidable moves] (tier : StorageTier) (reason : String),
        (Text.ascii reason).head? ≠ some 0x4d →
        (¬ (result.targetTier = result.currentTier ∧ moves) ∧
            (if moves then result.retier tier .move reason else result) = result ∨
          (result.targetTier = result.currentTier ∧ moves) ∧
            result.Retiered (if moves then result.retier tier .move reason else result)) := by
      intro moves _ tier reason other
      by_cases goes : moves
      · rw [if_pos goes]
        exact .inr ⟨⟨undecided, goes⟩, retiered tier reason other⟩
      · rw [if_neg goes]
        exact .inl ⟨fun both => goes both.2, rfl⟩
    rw [bySize, if_neg (not_not.mpr undecided), SizeTieringConfig.Moves]
    by_cases small : metadata.size ≤ config.hotMaxSize
    · rw [if_pos small, if_pos small]
      exact moves_cases _ _ _ (by decide)
    · rw [if_neg small, if_neg small]
      by_cases middle : metadata.size ≤ config.warmMaxSize
      · rw [if_pos middle, if_pos middle]
        exact moves_cases _ _ _ (by decide)
      · rw [if_neg middle, if_neg middle]
        exact moves_cases _ _ _ (by decide)
  · rw [bySize, if_pos undecided]
    exact .inl ⟨fun both => undecided both.1, rfl⟩

theorem Retiered.trans {second third : PolicyEvaluationResult} (left : result.Retiered second)
    (right : second.Retiered third) : result.Retiered third :=
  ⟨right.key.trans left.key, right.matchedRule.trans left.matchedRule,
    right.currentTier.trans left.currentTier, right.blocked.trans left.blocked, right.action,
    right.reason⟩

theorem retain_spec (result : PolicyEvaluationResult) (retention : RetentionPolicy)
    (metadata : StoredObjectMetadata) (now : Int) (free : result.blockedByRetention = false) :
    (result.retain retention metadata now).recommendedAction = result.recommendedAction ∧
      (result.retain retention metadata now).targetTier = result.targetTier ∧
      (result.retain retention metadata now).currentTier = result.currentTier ∧
      ((result.retain retention metadata now).blockedByRetention = true ↔
        result.recommendedAction = .deleteObj ∧ retention.Withholds (metadata.age now)) := by
  rw [retain, RetentionPolicy.Withholds]
  split
  · rename_i other
    refine ⟨rfl, rfl, rfl, ?_⟩
    rw [free]
    exact ⟨fun impossible => absurd impossible Bool.false_ne_true, fun both => absurd both.1 other⟩
  rename_i deletes
  have deletes_eq := not_not.mp deletes
  split
  · rename_i held
    exact ⟨rfl, rfl, rfl, fun _ => ⟨deletes_eq, or_assoc.mp (.inl held)⟩, fun _ => rfl⟩
  rename_i unheld
  split
  · rename_i young
    exact ⟨rfl, rfl, rfl, fun _ => ⟨deletes_eq, or_assoc.mp (.inr young)⟩, fun _ => rfl⟩
  · rename_i old
    refine ⟨rfl, rfl, rfl, ?_⟩
    rw [free]
    exact ⟨fun impossible => absurd impossible Bool.false_ne_true,
      fun both => absurd (or_assoc.mpr both.2) (not_or.mpr ⟨unheld, old⟩)⟩

theorem key_retain {retention : RetentionPolicy} {now : Int} :
    (result.retain retention metadata now).key = result.key := by
  unfold retain
  split
  · rfl
  · split
    · rfl
    · split <;> rfl

end PolicyEvaluationResult

namespace StoragePolicy

/-- The built-in tiering moves the object where a rule left it this target tier. -/
def BuiltInMoves (policy : StoragePolicy) (readings : Readings) (metadata : StoredObjectMetadata)
    (targetTier : StorageTier) : Prop :=
  (∃ config ∈ policy.ageConfig, config.Moves metadata.tier (metadata.age readings.tiering)) ∨
    targetTier = metadata.tier ∧
      ∃ config ∈ policy.sizeConfig, config.Moves metadata.tier metadata.size

instance (policy : StoragePolicy) (readings : Readings) (metadata : StoredObjectMetadata)
    (targetTier : StorageTier) : Decidable (policy.BuiltInMoves readings metadata targetTier) :=
  inferInstanceAs (Decidable (_ ∨ _))

variable {policy : StoragePolicy} {readings : Readings} {metadata : StoredObjectMetadata}
  {result : PolicyEvaluationResult} {rule : TieringRule}

theorem bySize_cases (noAges : policy.ageConfig = none)
    (current : result.currentTier = metadata.tier) :
    ¬ policy.BuiltInMoves readings metadata result.targetTier ∧
        policy.builtInTiering readings metadata result = result ∨
      policy.BuiltInMoves readings metadata result.targetTier ∧
        result.Retiered (policy.builtInTiering readings metadata result) := by
  rw [builtInTiering, BuiltInMoves, noAges]
  cases policy.sizeConfig with
  | none => exact .inl ⟨by simp, rfl⟩
  | some config =>
      have both := result.bySize_cases config metadata
      rw [current] at both
      simpa using both

theorem builtInTiering_of_some {config : AgeTieringConfig} (ages : policy.ageConfig = some config) :
    policy.builtInTiering readings metadata result =
      builtInTiering { policy with ageConfig := none } readings metadata
        (result.byAge config metadata readings.tiering) := by
  rw [builtInTiering, ages, builtInTiering]

theorem builtInTiering_cases (current : result.currentTier = metadata.tier) :
    ¬ policy.BuiltInMoves readings metadata result.targetTier ∧
        policy.builtInTiering readings metadata result = result ∨
      policy.BuiltInMoves readings metadata result.targetTier ∧
        result.Retiered (policy.builtInTiering readings metadata result) := by
  cases ages : policy.ageConfig with
  | none => exact bySize_cases ages current
  | some config =>
      rw [builtInTiering_of_some ages]
      rcases result.byAge_cases config metadata readings.tiering with
        ⟨stays, same⟩ | ⟨moves, retiered⟩
      · have moves_iff : policy.BuiltInMoves readings metadata result.targetTier ↔
            BuiltInMoves { policy with ageConfig := none } readings metadata result.targetTier := by
          rw [BuiltInMoves, BuiltInMoves, ages]
          simp [stays]
        rw [same, moves_iff]
        exact bySize_cases rfl current
      · refine .inr ⟨.inl ⟨config, ages, moves⟩, ?_⟩
        rcases @bySize_cases { policy with ageConfig := none } readings metadata _ rfl
          (retiered.currentTier.trans current) with ⟨-, same⟩ | ⟨-, again⟩
        · exact same.symm ▸ retiered
        · exact retiered.trans again

theorem recommend_of_none (none : policy.matchingRule readings metadata = none) :
    policy.recommend readings metadata =
      policy.builtInTiering readings metadata (.initial metadata) := by
  rw [recommend, none]
  rfl

theorem recommend_cases (found : policy.matchingRule readings metadata = some rule) :
    ¬ (rule.name = [] ∧ policy.BuiltInMoves readings metadata rule.targetTier) ∧
        policy.recommend readings metadata =
          (PolicyEvaluationResult.initial metadata).matched rule ∨
      (rule.name = [] ∧ policy.BuiltInMoves readings metadata rule.targetTier) ∧
        ((PolicyEvaluationResult.initial metadata).matched rule).Retiered
          (policy.recommend readings metadata) := by
  rw [recommend, found]
  dsimp only
  split
  · rename_i nameless
    have name : rule.name = [] := List.isEmpty_iff.mp nameless
    have current : ((PolicyEvaluationResult.initial metadata).matched rule).currentTier =
        metadata.tier := rfl
    rcases @builtInTiering_cases policy readings metadata _ current with
      ⟨stays, same⟩ | ⟨moves, retiered⟩
    · exact .inl ⟨fun both => stays both.2, same⟩
    · exact .inr ⟨⟨name, moves⟩, retiered⟩
  · rename_i named
    exact .inl ⟨fun both => named (List.isEmpty_iff.mpr both.1), rfl⟩

theorem key_recommend : (policy.recommend readings metadata).key = metadata.key := by
  cases found : policy.matchingRule readings metadata with
  | none =>
      rw [recommend_of_none found]
      rcases @builtInTiering_cases policy readings metadata (.initial metadata) rfl with
        ⟨-, same⟩ | ⟨-, retiered⟩
      · rw [same]
        rfl
      · exact retiered.key
  | some rule =>
      rcases recommend_cases found with ⟨-, same⟩ | ⟨-, retiered⟩
      · rw [same]
        rfl
      · exact retiered.key

theorem key_evaluateObject : (policy.evaluateObject readings metadata).key = metadata.key := by
  rw [evaluateObject, PolicyEvaluationResult.key_retain, key_recommend]

/-- What a recommendation says before the retention: it is about the tier of the object, blocks
nothing, and deletes only if a matching rule does. -/
theorem recommend_spec (policy : StoragePolicy) (readings : Readings)
    (metadata : StoredObjectMetadata) :
    (policy.recommend readings metadata).currentTier = metadata.tier ∧
      (policy.recommend readings metadata).blockedByRetention = false ∧
      ((policy.recommend readings metadata).recommendedAction = .deleteObj →
        ∃ rule, policy.matchingRule readings metadata = some rule ∧
          policy.recommend readings metadata =
            (PolicyEvaluationResult.initial metadata).matched rule) := by
  cases found : policy.matchingRule readings metadata with
  | none =>
      rw [recommend_of_none found]
      rcases @builtInTiering_cases policy readings metadata (.initial metadata) rfl with
        ⟨-, same⟩ | ⟨-, retiered⟩
      · rw [same]
        exact ⟨rfl, rfl, fun impossible => by cases impossible⟩
      · exact ⟨retiered.currentTier, retiered.blocked, fun deletes =>
          absurd deletes retiered.action⟩
  | some rule =>
      rcases recommend_cases found with ⟨-, same⟩ | ⟨-, retiered⟩
      · exact ⟨by rw [same]; rfl, by rw [same]; rfl, fun _ => ⟨rule, rfl, same⟩⟩
      · exact ⟨retiered.currentTier, retiered.blocked, fun deletes =>
          absurd deletes retiered.action⟩

end StoragePolicy

end FileTrans.Server
