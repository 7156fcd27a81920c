import FileTrans.Server.PolicyEvaluations

/-!
# The selection of a rule

The builder and `add_rule` keep the rules sorted by priority, so that the first
rule that applies has the highest priority of those that do.  Whether a rule
matched is then told from the name in the result, so that a rule without a name
is taken for none, and the built-in tiering may replace what it says.
-/

namespace FileTrans.Server

open FileTrans.Core

/-! ## Rule sets -/

/-- `storage_policy::builder`, without what nothing reads. -/
structure PolicyBuilder where
  ageConfig : Option AgeTieringConfig
  sizeConfig : Option SizeTieringConfig
  rules : List TieringRule
  retention : Option RetentionPolicy
  dryRun : Bool

/-- What `std::sort` by descending priority is to do. -/
structure SortsRules (sortRules : List TieringRule → List TieringRule) : Prop where
  perm : ∀ rules, (sortRules rules).Perm rules
  sorted : ∀ rules, (sortRules rules).Pairwise fun first second =>
    second.priority ≤ first.priority

namespace PolicyBuilder

/-- A new builder. -/
def fresh : PolicyBuilder :=
  ⟨none, none, [], none, false⟩

def withAgeTiering (builder : PolicyBuilder) (config : AgeTieringConfig) : PolicyBuilder :=
  { builder with ageConfig := some config }

def withSizeTiering (builder : PolicyBuilder) (config : SizeTieringConfig) : PolicyBuilder :=
  { builder with sizeConfig := some config }

def withRule (builder : PolicyBuilder) (rule : TieringRule) : PolicyBuilder :=
  { builder with rules := builder.rules ++ [rule] }

def withRetention (builder : PolicyBuilder) (retention : RetentionPolicy) : PolicyBuilder :=
  { builder with retention := some retention }

def withDryRun (builder : PolicyBuilder) (enable : Bool) : PolicyBuilder :=
  { builder with dryRun := enable }

def build (builder : PolicyBuilder) (sortRules : List TieringRule → List TieringRule) :
    StoragePolicy where
  manager := none
  ageConfig := builder.ageConfig
  sizeConfig := builder.sizeConfig
  rules := sortRules builder.rules
  retention := builder.retention.getD ⟨0, false, false, []⟩
  dryRun := builder.dryRun
  stats := ⟨0, 0, 0, 0, 0, 0, 0⟩
  pendingActions := []

end PolicyBuilder

/-- A change of the rules of a policy. -/
inductive RuleEdit
  | addRule (rule : TieringRule)
  | removeRule (name : Bytes)
  | setRuleEnabled (name : Bytes) (enable : Bool)

namespace StoragePolicy

/-- One change of the rules. -/
def edit (sortRules : List TieringRule → List TieringRule) (policy : StoragePolicy) :
    RuleEdit → StoragePolicy
  | .addRule rule => policy.addRule sortRules rule
  | .removeRule name => (policy.removeRule name).2
  | .setRuleEnabled name enable => policy.setRuleEnabled name enable

/-- The rules come in the order of their priorities. -/
def Prioritized (policy : StoragePolicy) : Prop :=
  policy.rules.Pairwise fun first second => second.priority ≤ first.priority

/-- The rule is at its index, enabled, and satisfied. -/
def Satisfied (policy : StoragePolicy) (readings : Readings) (metadata : StoredObjectMetadata)
    (rule : TieringRule) (index : Nat) : Prop :=
  policy.rules[index]? = some rule ∧ rule.applies (readings.rule index) metadata = true

/-- The policy without built-in tiering. -/
def rulesOnly (policy : StoragePolicy) : StoragePolicy :=
  { policy with ageConfig := none, sizeConfig := none }

/-- Where a rule is satisfied, the evaluation follows one of maximal priority, and the built-in
tiering has no part in it; where none is, the evaluation is the built-in one. -/
def SelectsRule (policy : StoragePolicy) (readings : Readings) (metadata : StoredObjectMetadata) :
    Prop :=
  let result := policy.evaluateObject readings metadata
  ((∃ rule index, policy.Satisfied readings metadata rule index) →
    (∃ rule index, policy.Satisfied readings metadata rule index ∧
      (∀ other place, policy.Satisfied readings metadata other place →
        other.priority ≤ rule.priority) ∧
      result.recommendedAction = rule.action ∧ result.targetTier = rule.targetTier) ∧
    result = policy.rulesOnly.evaluateObject readings metadata) ∧
  ((∀ rule index, ¬ policy.Satisfied readings metadata rule index) →
    result = (policy.builtInTiering readings metadata (.initial metadata)).retain
      policy.retention metadata readings.retention)

/-- The first satisfied rule has a name, or the built-in tiering would not move the object from
where it is left. -/
def FirstRuleStands (policy : StoragePolicy) (readings : Readings)
    (metadata : StoredObjectMetadata) : Prop :=
  ∀ rule, policy.matchingRule readings metadata = some rule →
    rule.name ≠ [] ∨ ¬ policy.BuiltInMoves readings metadata rule.targetTier

section

variable {sortRules : List TieringRule → List TieringRule} {policy : StoragePolicy}
  {readings : Readings} {metadata : StoredObjectMetadata} {rule : TieringRule}

/-! ## The order of the rules -/

theorem priority_enableFirst (name : Bytes) (enable : Bool) (rules : List TieringRule) :
    (enableFirst name enable rules).map TieringRule.priority =
      rules.map TieringRule.priority := by
  induction rules with
  | nil => rfl
  | cons rule rules ih =>
      rw [enableFirst]
      split
      · rfl
      · rw [List.map_cons, List.map_cons, ih]

theorem prioritized_edit (sorts : SortsRules sortRules) (prioritized : policy.Prioritized)
    (edit : RuleEdit) : (policy.edit sortRules edit).Prioritized := by
  cases edit with
  | addRule rule => exact sorts.sorted _
  | removeRule name => exact prioritized.filter _
  | setRuleEnabled name enable =>
      have by_priorities : ∀ rules : List TieringRule,
          (rules.Pairwise fun first second => second.priority ≤ first.priority) ↔
            (rules.map TieringRule.priority).Pairwise fun first second => second ≤ first := by
        intro rules
        rw [List.pairwise_map]
      change List.Pairwise _ (enableFirst name enable policy.rules)
      rw [by_priorities, priority_enableFirst, ← by_priorities]
      exact prioritized

theorem prioritized_edits (sorts : SortsRules sortRules) (builder : PolicyBuilder)
    (edits : List RuleEdit) :
    (edits.foldl (edit sortRules) (builder.build sortRules)).Prioritized := by
  have kept : ∀ policy : StoragePolicy, policy.Prioritized →
      (edits.foldl (edit sortRules) policy).Prioritized := by
    induction edits with
    | nil => exact fun _ prioritized => prioritized
    | cons edit edits ih =>
        exact fun policy prioritized => ih _ (prioritized_edit sorts prioritized edit)
  exact kept _ (sorts.sorted builder.rules)

/-! ## The first satisfied rule -/

theorem matchingRule_eq_none_iff :
    policy.matchingRule readings metadata = none ↔
      ∀ rule index, ¬ policy.Satisfied readings metadata rule index := by
  rw [matchingRule, Option.map_eq_none_iff, List.find?_eq_none]
  constructor
  · rintro none rule index ⟨at_index, applies⟩
    exact none (rule, index) (List.mk_mem_zipIdx_iff_getElem?.mpr at_index) applies
  · rintro none ⟨rule, index⟩ mem applies
    exact none rule index ⟨List.mk_mem_zipIdx_iff_getElem?.mp mem, applies⟩

theorem matchingRule_spec (prioritized : policy.Prioritized)
    (found : policy.matchingRule readings metadata = some rule) :
    ∃ index, policy.Satisfied readings metadata rule index ∧
      ∀ other place, policy.Satisfied readings metadata other place →
        other.priority ≤ rule.priority := by
  obtain ⟨⟨first, index⟩, search, rfl⟩ := Option.map_eq_some_iff.mp found
  obtain ⟨applies, number, bound, at_number, earlier⟩ := List.find?_eq_some_iff_getElem.mp search
  rw [List.length_zipIdx] at bound
  rw [List.getElem_zipIdx, Prod.mk.injEq, Nat.zero_add] at at_number
  obtain ⟨at_index, rfl⟩ := at_number
  refine ⟨number, ⟨by rw [List.getElem?_eq_getElem bound, at_index], applies⟩, ?_⟩
  rintro other place ⟨at_place, also⟩
  obtain ⟨within, other_eq⟩ := List.getElem?_eq_some_iff.mp at_place
  -- A rule before the first does not apply, and one after it has no higher priority.
  rcases Nat.lt_trichotomy place number with before | rfl | after
  · have fails := earlier place before
    rw [List.getElem_zipIdx, Nat.zero_add, other_eq] at fails
    simp [also] at fails
  · rw [← other_eq, at_index]
  · have order := List.pairwise_iff_getElem.mp prioritized number place bound within after
    rwa [at_index, other_eq] at order

/-! ## The evaluation -/

theorem recommend_rulesOnly (found : policy.matchingRule readings metadata = some rule) :
    policy.rulesOnly.recommend readings metadata =
      (PolicyEvaluationResult.initial metadata).matched rule := by
  have same : policy.rulesOnly.matchingRule readings metadata = some rule := found
  rcases recommend_cases same with ⟨-, stands⟩ | ⟨⟨-, moves⟩, -⟩
  · exact stands
  · simp [BuiltInMoves, rulesOnly] at moves

theorem retain_of_spares {result : PolicyEvaluationResult} {retention : RetentionPolicy}
    {now : Int} (spares : result.recommendedAction ≠ .deleteObj) :
    result.retain retention metadata now = result :=
  if_pos spares

theorem evaluateObject_ne_of_retiered
    (retiered : ((PolicyEvaluationResult.initial metadata).matched rule).Retiered
      (policy.recommend readings metadata)) :
    policy.evaluateObject readings metadata ≠
      ((PolicyEvaluationResult.initial metadata).matched rule).retain policy.retention metadata
        readings.retention := by
  rw [evaluateObject, retain_of_spares retiered.action]
  intro same
  have action := (PolicyEvaluationResult.retain_spec
    ((PolicyEvaluationResult.initial metadata).matched rule) policy.retention metadata
    readings.retention rfl).1
  have spares := retiered.action
  rw [same, action] at spares
  rw [retain_of_spares spares] at same
  exact retiered.reason rule.name (congrArg PolicyEvaluationResult.reason same)

theorem selectsRule_iff_of_prioritized (prioritized : policy.Prioritized) :
    policy.SelectsRule readings metadata ↔ policy.FirstRuleStands readings metadata := by
  rw [SelectsRule, FirstRuleStands]
  cases found : policy.matchingRule readings metadata with
  | none =>
      have none := matchingRule_eq_none_iff.mp found
      refine iff_of_true ⟨?_, fun _ => ?_⟩ fun rule impossible => by cases impossible
      · rintro ⟨rule, index, satisfied⟩
        exact absurd satisfied (none rule index)
      · rw [evaluateObject, recommend_of_none found]
  | some rule =>
      obtain ⟨index, satisfied, maximal⟩ := matchingRule_spec prioritized found
      have alone : policy.rulesOnly.evaluateObject readings metadata =
          ((PolicyEvaluationResult.initial metadata).matched rule).retain policy.retention metadata
            readings.retention := by
        rw [evaluateObject, recommend_rulesOnly found]
        rfl
      rw [alone]
      constructor
      · rintro ⟨follows, -⟩ other same
        obtain rfl := Option.some.inj same
        obtain ⟨-, untouched⟩ := follows ⟨rule, index, satisfied⟩
        rcases recommend_cases found with ⟨stands, -⟩ | ⟨-, retiered⟩
        · exact or_iff_not_imp_left.mpr fun named moves => stands ⟨not_not.mp named, moves⟩
        · exact absurd untouched (evaluateObject_ne_of_retiered retiered)
      · intro stands
        have evaluated : policy.evaluateObject readings metadata =
            ((PolicyEvaluationResult.initial metadata).matched rule).retain policy.retention
              metadata readings.retention := by
          rcases recommend_cases found with ⟨-, same⟩ | ⟨⟨nameless, moves⟩, -⟩
          · rw [evaluateObject, same]
          · exact absurd moves ((stands rule rfl).resolve_left (not_not.mpr nameless))
        obtain ⟨action, target, -⟩ := PolicyEvaluationResult.retain_spec
          ((PolicyEvaluationResult.initial metadata).matched rule) policy.retention metadata
          readings.retention rfl
        rw [evaluated]
        exact ⟨fun _ => ⟨⟨rule, index, satisfied, maximal, action, target⟩, rfl⟩,
          fun none => absurd satisfied (none rule index)⟩

end

/-- In every rule set that the builder and the mutators lead to, an evaluation selects a satisfied
rule of maximal priority, or the built-in tiering without one, exactly if the first satisfied rule
stands. -/
theorem selectsRule_iff {sortRules : List TieringRule → List TieringRule}
    (sorts : SortsRules sortRules) (builder : PolicyBuilder) (edits : List RuleEdit)
    (readings : Readings) (metadata : StoredObjectMetadata) :
    (edits.foldl (edit sortRules) (builder.build sortRules)).SelectsRule readings metadata ↔
      (edits.foldl (edit sortRules) (builder.build sortRules)).FirstRuleStands readings metadata :=
  selectsRule_iff_of_prioritized (prioritized_edits sorts builder edits)

namespace SelectionSample

/-- A sort by descending priority. -/
def sortRules : List TieringRule → List TieringRule :=
  Text.sortByKey fun rule => -rule.priority

theorem sortsRules : SortsRules sortRules where
  perm _ := Text.perm_sortByKey
  sorted rules := by
    have sorted : (sortRules rules).Pairwise fun first second =>
        -first.priority ≤ -second.priority := List.pairwise_insertionSort _ rules
    exact sorted.imp fun order => neg_le_neg_iff.mp order

/-- A rule for objects of any size. -/
def rule (name : String) (priority : Int) (targetTier : StorageTier) : TieringRule where
  name := Text.ascii name
  priority
  trigger := .size
  sourceTier := none
  targetTier
  action := .copy
  keyPattern := none
  minAge := none
  maxAge := none
  minSize := some 0
  maxSize := none
  maxAccessCount := none
  enabled := true

def builder : PolicyBuilder :=
  PolicyBuilder.fresh.withAgeTiering ⟨0, 0, 0⟩

def readings : Readings :=
  ⟨fun _ => 0, 0, 0⟩

def metadata : StoredObjectMetadata :=
  ⟨Text.ascii "k", 3, 0, none, .localStorage, .hot, none, none, [], 0, none⟩

end SelectionSample

open SelectionSample in
/-- The rule of higher priority is selected, though ages would move the object elsewhere. -/
theorem selectsRule_iff_sample :
    ([.addRule (rule "high" 2 .cold)].foldl (edit sortRules)
      ((builder.withRule (rule "low" 1 .archive)).build sortRules)).SelectsRule readings
        metadata := by
  refine (selectsRule_iff sortsRules (builder.withRule (rule "low" 1 .archive))
    [.addRule (rule "high" 2 .cold)] readings metadata).mpr fun first found => .inl ?_
  have name := congrArg (Option.map TieringRule.name) found
  have high : ((([.addRule (rule "high" 2 .cold)].foldl (edit sortRules)
      ((builder.withRule (rule "low" 1 .archive)).build sortRules)).matchingRule readings
        metadata).map TieringRule.name) = some (Text.ascii "high") := by decide +kernel
  rw [high] at name
  rw [← Option.some.inj name]
  decide

open SelectionSample in
/-- A satisfied rule without a name is overruled by the age of the object. -/
theorem nameless_rule_is_overruled :
    ¬ ((builder.withRule (rule "" 0 .cold)).build sortRules).SelectsRule readings metadata := by
  intro selects
  have satisfied : ((builder.withRule (rule "" 0 .cold)).build sortRules).Satisfied readings
      metadata (rule "" 0 .cold) 0 :=
    ⟨rfl, by decide +kernel⟩
  exact absurd (selects.1 ⟨_, 0, satisfied⟩).2 (by decide +kernel)

end StoragePolicy

end FileTrans.Server
