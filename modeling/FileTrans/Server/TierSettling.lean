import FileTrans.Server.PolicyEvaluations
import FileTrans.Transition.Loop

/-!
# Where the built-in tiering leads

Ages move an object towards the archive, and a small size moves it back to the
hot tier.  Each alone brings an object to rest; together they do so exactly if
no age takes a small object out of the hot tier again.
-/

namespace FileTrans.Server

open FileTrans.Core
open FileTrans.Transition

/-- How far a tier is from the archive. -/
def StorageTier.warmth : StorageTier → Nat
  | .hot => 3
  | .warm => 2
  | .cold => 1
  | .archive => 0

/-- How far a tier is from the hot one, where every tier leads back to it. -/
def StorageTier.detour : StorageTier → Nat
  | .hot => 0
  | .archive => 1
  | .cold => 2
  | .warm => 3

def AgeTieringConfig.target (config : AgeTieringConfig) (age : Int) : StorageTier → StorageTier
  | .hot => if age ≥ config.hotToWarmAge then .warm else .hot
  | .warm => if age ≥ config.warmToColdAge then .cold else .warm
  | .cold => if age ≥ config.coldToArchiveAge then .archive else .cold
  | .archive => .archive

def SizeTieringConfig.target (config : SizeTieringConfig) (size : UInt64) (tier : StorageTier) :
    StorageTier :=
  if size ≤ config.hotMaxSize then .hot
  else if size ≤ config.warmMaxSize then if tier = .hot then .warm else tier
  else if tier = .archive then .archive
  else .cold

/-- The tier for both: where the age moves nothing the size decides. -/
def tierAfter (ages : Option AgeTieringConfig) (sizes : Option SizeTieringConfig) (age : Int)
    (size : UInt64) (tier : StorageTier) : StorageTier :=
  let aged := ages.elim tier (·.target age tier)
  if aged = tier then sizes.elim tier (·.target size tier) else aged

section

variable {ages : Option AgeTieringConfig} {sizes : Option SizeTieringConfig} {age : Int}
  {size : UInt64} {tier : StorageTier}

theorem AgeTieringConfig.warmth_target {config : AgeTieringConfig}
    (moves : config.target age tier ≠ tier) : (config.target age tier).warmth < tier.warmth := by
  cases tier with
  | archive => exact absurd rfl moves
  | _ =>
      unfold target at moves ⊢
      split_ifs at moves ⊢ <;> first | decide | contradiction

theorem AgeTieringConfig.detour_target {config : AgeTieringConfig}
    (young : ¬ age ≥ config.hotToWarmAge) (moves : config.target age tier ≠ tier) :
    (config.target age tier).detour < tier.detour := by
  cases tier with
  | hot => exact absurd (if_neg young) moves
  | archive => exact absurd rfl moves
  | _ =>
      unfold target at moves ⊢
      split_ifs at moves ⊢ <;> first | decide | contradiction

theorem SizeTieringConfig.warmth_target {config : SizeTieringConfig}
    (large : ¬ size ≤ config.hotMaxSize) (moves : config.target size tier ≠ tier) :
    (config.target size tier).warmth < tier.warmth := by
  unfold target at moves ⊢
  rw [if_neg large] at moves ⊢
  cases tier <;> split_ifs at moves ⊢ <;> first | decide | contradiction

theorem SizeTieringConfig.target_of_small {config : SizeTieringConfig}
    (small : size ≤ config.hotMaxSize) : config.target size tier = .hot :=
  if_pos small

theorem tierAfter_cases (moves : tierAfter ages sizes age size tier ≠ tier) :
    (∃ config ∈ ages, config.target age tier ≠ tier ∧
      tierAfter ages sizes age size tier = config.target age tier) ∨
    ∃ config ∈ sizes, config.target size tier ≠ tier ∧
      tierAfter ages sizes age size tier = config.target size tier := by
  unfold tierAfter at moves ⊢
  dsimp only at moves ⊢
  split at moves
  · rename_i unaged
    rw [if_pos unaged]
    cases sizes with
    | none => exact absurd rfl moves
    | some config => exact .inr ⟨config, rfl, moves, rfl⟩
  · rename_i aged
    rw [if_neg aged]
    cases ages with
    | none => exact absurd rfl moves
    | some config => exact .inl ⟨config, rfl, moves, rfl⟩

theorem settles_of_large (large : ∀ config ∈ sizes, ¬ size ≤ config.hotMaxSize) :
    Settles (tierAfter ages sizes age size) := by
  apply settles_of_rank StorageTier.warmth
  intro tier moves
  rcases tierAfter_cases moves with ⟨config, -, goes, same⟩ | ⟨config, sized, goes, same⟩
  · rw [same]
    exact config.warmth_target goes
  · rw [same]
    exact config.warmth_target (large config sized) goes

theorem settles_of_young (young : ∀ config ∈ ages, ¬ age ≥ config.hotToWarmAge)
    (small : ∀ config ∈ sizes, size ≤ config.hotMaxSize) :
    Settles (tierAfter ages sizes age size) := by
  apply settles_of_rank StorageTier.detour
  intro tier moves
  rcases tierAfter_cases moves with ⟨config, aged, goes, same⟩ | ⟨config, sized, goes, same⟩
  · rw [same]
    exact config.detour_target (young config aged) goes
  · rw [SizeTieringConfig.target_of_small (small config sized)] at goes same
    rw [same]
    cases tier <;> first | decide | contradiction

theorem tierAfter_ne {old : AgeTieringConfig} {small : SizeTieringConfig}
    (ages : age ≥ old.hotToWarmAge) (fits : size ≤ small.hotMaxSize) (tier : StorageTier) :
    tierAfter (some old) (some small) age size tier ≠ tier := by
  have sized : small.target size tier = .hot := small.target_of_small fits
  unfold tierAfter
  dsimp only [Option.elim_some]
  split
  · rename_i unaged
    rw [sized]
    rintro rfl
    rw [AgeTieringConfig.target, if_pos ages] at unaged
    contradiction
  · assumption

theorem settles_tierAfter_iff : Settles (tierAfter ages sizes age size) ↔
    ¬ ∃ old ∈ ages, ∃ small ∈ sizes, age ≥ old.hotToWarmAge ∧ size ≤ small.hotMaxSize := by
  constructor
  · rintro settles ⟨old, rfl, small, rfl, aged, fits⟩
    have : Nonempty StorageTier := ⟨.hot⟩
    exact not_settles_of_forall_ne (tierAfter_ne aged fits) settles
  · intro apart
    by_cases large : ∀ config ∈ sizes, ¬ size ≤ config.hotMaxSize
    · exact settles_of_large large
    · push Not at large
      obtain ⟨small, sized, fits⟩ := large
      apply settles_of_young
      · exact fun old aged overdue => apart ⟨old, aged, small, sized, overdue, fits⟩
      · intro config same
        cases Option.some.inj (sized.symm.trans same)
        exact fits

end

/-! ## The tiers that a policy gives -/

namespace StoragePolicy

/-- The target tier of an evaluation of an object in this tier. -/
def nextTier (policy : StoragePolicy) (readings : Readings) (metadata : StoredObjectMetadata)
    (tier : StorageTier) : StorageTier :=
  (policy.evaluateObject readings { metadata with tier }).targetTier

variable {policy : StoragePolicy} {readings : Readings} {metadata : StoredObjectMetadata}
  {result : PolicyEvaluationResult}

theorem targetTier_byAge (config : AgeTieringConfig) (now : Int)
    (target : result.targetTier = metadata.tier) :
    (result.byAge config metadata now).targetTier =
      config.target (metadata.age now) metadata.tier := by
  unfold PolicyEvaluationResult.byAge AgeTieringConfig.target
  cases tier : metadata.tier with
  | hot =>
      rw [tier] at target
      by_cases old : metadata.age now ≥ config.hotToWarmAge <;>
        simp [old, target, PolicyEvaluationResult.retier]
  | warm =>
      rw [tier] at target
      by_cases old : metadata.age now ≥ config.warmToColdAge <;>
        simp [old, target, PolicyEvaluationResult.retier]
  | cold =>
      rw [tier] at target
      by_cases old : metadata.age now ≥ config.coldToArchiveAge <;>
        simp [old, target, PolicyEvaluationResult.retier]
  | archive => simp [target, tier]

theorem targetTier_bySize (config : SizeTieringConfig)
    (current : result.currentTier = metadata.tier) :
    (result.bySize config metadata).targetTier =
      if result.targetTier = metadata.tier then config.target metadata.size metadata.tier
      else result.targetTier := by
  unfold PolicyEvaluationResult.bySize SizeTieringConfig.target
  rw [current]
  by_cases moved : result.targetTier = metadata.tier
  · rw [if_neg (not_not.mpr moved), if_pos moved]
    by_cases small : metadata.size ≤ config.hotMaxSize
    · rw [if_pos small, if_pos small]
      by_cases hot : metadata.tier = .hot <;> simp [hot, moved, PolicyEvaluationResult.retier]
    · rw [if_neg small, if_neg small]
      by_cases middle : metadata.size ≤ config.warmMaxSize
      · rw [if_pos middle, if_pos middle]
        by_cases hot : metadata.tier = .hot <;> simp [hot, moved, PolicyEvaluationResult.retier]
      · rw [if_neg middle, if_neg middle]
        cases tier : metadata.tier <;> simp [moved, tier, PolicyEvaluationResult.retier]
  · rw [if_pos moved, if_neg moved]

theorem nextTier_eq (noRules : policy.rules = []) (tier : StorageTier) :
    policy.nextTier readings metadata tier =
      tierAfter policy.ageConfig policy.sizeConfig (metadata.age readings.tiering) metadata.size
        tier := by
  have unmatched : policy.matchingRule readings { metadata with tier } = none := by
    rw [matchingRule, noRules]
    rfl
  obtain ⟨-, free, -⟩ := policy.recommend_spec readings { metadata with tier }
  obtain ⟨-, target, -⟩ := PolicyEvaluationResult.retain_spec _ policy.retention
    { metadata with tier } readings.retention free
  rw [nextTier, evaluateObject, target, recommend_of_none unmatched, builtInTiering, tierAfter]
  have undone (aged : StorageTier) : (if aged = tier then tier else aged) = aged := by
    split
    · rename_i same
      exact same.symm
    · rfl
  cases policy.ageConfig with
  | none =>
      cases policy.sizeConfig with
      | none => exact (undone tier).symm
      | some sizes => exact targetTier_bySize sizes rfl
  | some ages =>
      have aged := @targetTier_byAge { metadata with tier } (.initial { metadata with tier }) ages
        readings.tiering rfl
      have current : ((PolicyEvaluationResult.initial { metadata with tier }).byAge ages
          { metadata with tier } readings.tiering).currentTier = tier := by
        rcases PolicyEvaluationResult.byAge_cases (.initial { metadata with tier }) ages
          { metadata with tier } readings.tiering with ⟨-, same⟩ | ⟨-, retiered⟩
        · rw [same]
          rfl
        · exact retiered.currentTier
      cases policy.sizeConfig with
      | none => exact aged.trans (undone _).symm
      | some sizes =>
          refine (targetTier_bySize sizes current).trans ?_
          rw [aged]
          rfl

/-- The built-in tiering brings an object to rest from every tier, and never back to a tier that
it left, unless its size is one for the hot tier and its age is not. -/
theorem nextTier_settles_iff (noRules : policy.rules = []) :
    (Settles (policy.nextTier readings metadata) ∧
      ∀ tier ∈ Function.periodicPts (policy.nextTier readings metadata),
        Function.IsFixedPt (policy.nextTier readings metadata) tier) ↔
      ¬ ∃ ages ∈ policy.ageConfig, ∃ sizes ∈ policy.sizeConfig,
        metadata.age readings.tiering ≥ ages.hotToWarmAge ∧
          metadata.size ≤ sizes.hotMaxSize := by
  have same : policy.nextTier readings metadata =
      tierAfter policy.ageConfig policy.sizeConfig (metadata.age readings.tiering)
        metadata.size := funext (nextTier_eq noRules)
  rw [and_iff_left_of_imp fun settles tier => settles.isFixedPt_of_mem_periodicPts, same]
  exact settles_tierAfter_iff

end StoragePolicy

namespace SettlingSample

/-- The ages of the defaults. -/
def ages : AgeTieringConfig :=
  ⟨24 * 30, 24 * 90, 24 * 365⟩

/-- The sizes of the defaults. -/
def sizes : SizeTieringConfig :=
  ⟨10 * 1024 * 1024, 100 * 1024 * 1024⟩

/-- A policy without rules. -/
def policy (ageConfig : Option AgeTieringConfig) (sizeConfig : Option SizeTieringConfig) :
    StoragePolicy where
  manager := none
  ageConfig := ageConfig
  sizeConfig := sizeConfig
  rules := []
  retention := ⟨0, false, false, []⟩
  dryRun := false
  stats := ⟨0, 0, 0, 0, 0, 0, 0⟩
  pendingActions := []

/-- A small object. -/
def metadata : StoredObjectMetadata :=
  ⟨[0x6b], 3, 0, none, .localStorage, .hot, none, none, [], 0, none⟩

/-- A clock that is forty days on. -/
def readings : Readings :=
  ⟨fun _ => 0, 40 * 24 * 3600000000000, 0⟩

/-- An object too large for the hot tier. -/
def largeMetadata : StoredObjectMetadata :=
  { metadata with size := 50 * 1024 * 1024 }

end SettlingSample

open SettlingSample in
/-- With both, a large object of forty days comes to rest. -/
theorem nextTier_settles_sample :
    Settles ((policy (some ages) (some sizes)).nextTier readings largeMetadata) ∧
      ∀ tier ∈ Function.periodicPts
          ((policy (some ages) (some sizes)).nextTier readings largeMetadata),
        Function.IsFixedPt ((policy (some ages) (some sizes)).nextTier readings largeMetadata)
          tier := by
  apply (StoragePolicy.nextTier_settles_iff rfl).mpr
  rintro ⟨_, -, _, ⟨⟩, -, small⟩
  exact absurd small (by decide)

open SettlingSample in
/-- With both, a small object of forty days goes to the warm tier and back. -/
theorem nextTier_swings :
    (policy (some ages) (some sizes)).nextTier readings metadata .hot = .warm ∧
    (policy (some ages) (some sizes)).nextTier readings metadata .warm = .hot ∧
    ¬ Settles ((policy (some ages) (some sizes)).nextTier readings metadata) := by
  have : Nonempty StorageTier := ⟨.hot⟩
  refine ⟨by decide, by decide, not_settles_of_forall_ne ?_⟩
  intro tier
  cases tier <;> decide

end FileTrans.Server
