import FileTrans.Server.StorageListing

/-!
# Storage policies

A policy evaluates the metadata of objects against its rules and its built-in
tiering, keeps the recommended actions in a queue, and carries actions out on
the storage manager it is attached to.  The metadata and the listings that the
manager answers are inputs, as are the readings of the clock.  Access pattern
tiering, automatic evaluation and the times in the statistics are used by no
function of the policy and are left out; the callbacks become events.
-/

namespace FileTrans.Server

open FileTrans.Core
open FileTrans.Text
open FileTrans.Transition

/-! ## Glob patterns -/

/-- The characters that `.` does not match. -/
def isLineTerminator (character : UInt8) : Bool :=
  character = 0x0a ∨ character = 0x0d

/-- `.*` and then the rest of the pattern. -/
def matchesStar (rest : Bytes → Bool) : Bytes → Bool
  | [] => rest []
  | character :: key =>
      rest (character :: key) ||
        !isLineTerminator character && matchesStar rest key

/-- The regular expression of a pattern: `*` is `.*`, `?` is `.`, and any other character is
itself. -/
def matchesRegex : Bytes → Bytes → Bool
  | [], key => key.isEmpty
  | wanted :: pattern, key =>
      if wanted = 0x2a then matchesStar (matchesRegex pattern) key
      else
        match key with
        | [] => false
        | character :: key =>
            (if wanted = 0x3f then !isLineTerminator character else wanted = character) &&
              matchesRegex pattern key

def matchesGlobPattern (pattern key : Bytes) : Bool :=
  pattern.isEmpty || matchesRegex pattern key

example : matchesGlobPattern (ascii "temp/*") (ascii "temp/a.txt") = true := by decide

/-! ## Rules -/

inductive TieringTrigger
  | accessPattern
  | age
  | size
  | manual
  deriving DecidableEq

inductive TieringAction
  | move
  | copy
  | archive
  | deleteObj
  deriving DecidableEq

/-- `age_tiering_config`, in hours. -/
structure AgeTieringConfig where
  hotToWarmAge : Int
  warmToColdAge : Int
  coldToArchiveAge : Int

structure SizeTieringConfig where
  hotMaxSize : UInt64
  warmMaxSize : UInt64

structure TieringRule where
  name : Bytes
  priority : Int
  trigger : TieringTrigger
  sourceTier : Option StorageTier
  targetTier : StorageTier
  action : TieringAction
  keyPattern : Option Bytes
  minAge : Option Int
  maxAge : Option Int
  minSize : Option UInt64
  maxSize : Option UInt64
  maxAccessCount : Option UInt64
  enabled : Bool

/-- `retention_policy`, without the fields that nothing reads. -/
structure RetentionPolicy where
  minRetention : Int
  legalHold : Bool
  complianceMode : Bool
  exclusions : List Bytes

structure PolicyEvaluationResult where
  key : Bytes
  matchedRule : Bytes
  recommendedAction : TieringAction
  currentTier : StorageTier
  targetTier : StorageTier
  reason : Bytes
  blockedByRetention : Bool
  deriving DecidableEq

/-- `duration_cast<std::chrono::hours>` of nanoseconds. -/
def hours (duration : Int) : Int :=
  duration.tdiv 3600000000000

/-- `now - metadata.last_modified`, in hours. -/
def StoredObjectMetadata.age (metadata : StoredObjectMetadata) (now : Int) : Int :=
  hours (now - metadata.lastModified)

/-- The bounds that are given hold; without any there is no match. -/
def inBounds {α : Type} [LE α] [DecidableLE α] (minimum maximum : Option α) (value : α) : Bool :=
  (minimum.isSome || maximum.isSome) && minimum.all (· ≤ value) && maximum.all (value ≤ ·)

namespace TieringRule

/-- The `switch` over the trigger. -/
def triggered (rule : TieringRule) (now : Int) (metadata : StoredObjectMetadata) : Bool :=
  match rule.trigger with
  | .age => inBounds rule.minAge rule.maxAge (metadata.age now)
  | .size => inBounds rule.minSize rule.maxSize metadata.size
  | .accessPattern => rule.maxAccessCount.any (metadata.accessCount ≤ ·)
  | .manual => false

/-- One pass of the loop over the rules. -/
def applies (rule : TieringRule) (now : Int) (metadata : StoredObjectMetadata) : Bool :=
  rule.enabled && rule.keyPattern.all (matchesGlobPattern · metadata.key) &&
    rule.sourceTier.all (· = metadata.tier) && rule.triggered now metadata

end TieringRule

/-- The clock readings of an evaluation: one for each rule by its index, one for the built-in
tiering and one for the retention. -/
structure Readings where
  rule : Nat → Int
  tiering : Int
  retention : Int

namespace PolicyEvaluationResult

/-- The result before any rule. -/
def initial (metadata : StoredObjectMetadata) : PolicyEvaluationResult where
  key := metadata.key
  matchedRule := []
  recommendedAction := .move
  currentTier := metadata.tier
  targetTier := metadata.tier
  reason := []
  blockedByRetention := false

/-- The result of a matching rule. -/
def matched (result : PolicyEvaluationResult) (rule : TieringRule) : PolicyEvaluationResult :=
  { result with
    matchedRule := rule.name
    recommendedAction := rule.action
    targetTier := rule.targetTier
    reason := ascii "Matched rule: " ++ rule.name }

/-- A tier that the built-in tiering recommends. -/
def retier (result : PolicyEvaluationResult) (tier : StorageTier) (action : TieringAction)
    (reason : String) : PolicyEvaluationResult :=
  { result with targetTier := tier, recommendedAction := action, reason := ascii reason }

/-- Age-based tiering. -/
def byAge (result : PolicyEvaluationResult) (config : AgeTieringConfig)
    (metadata : StoredObjectMetadata) (now : Int) : PolicyEvaluationResult :=
  if metadata.tier = .hot ∧ metadata.age now ≥ config.hotToWarmAge then
    result.retier .warm .move "Age exceeds hot tier threshold"
  else if metadata.tier = .warm ∧ metadata.age now ≥ config.warmToColdAge then
    result.retier .cold .move "Age exceeds warm tier threshold"
  else if metadata.tier = .cold ∧ metadata.age now ≥ config.coldToArchiveAge then
    result.retier .archive .archive "Age exceeds cold tier threshold"
  else result

/-- Size-based tiering. -/
def bySize (result : PolicyEvaluationResult) (config : SizeTieringConfig)
    (metadata : StoredObjectMetadata) : PolicyEvaluationResult :=
  if result.targetTier ≠ result.currentTier then result
  else if metadata.size ≤ config.hotMaxSize then
    if metadata.tier ≠ .hot then result.retier .hot .move "Size qualifies for hot tier"
    else result
  else if metadata.size ≤ config.warmMaxSize then
    if metadata.tier = .hot then result.retier .warm .move "Size exceeds hot tier threshold"
    else result
  else if metadata.tier ≠ .cold ∧ metadata.tier ≠ .archive then
    result.retier .cold .move "Size exceeds warm tier threshold"
  else result

/-- The retention check of `evaluate_object`. -/
def retain (result : PolicyEvaluationResult) (retention : RetentionPolicy)
    (metadata : StoredObjectMetadata) (now : Int) : PolicyEvaluationResult :=
  if result.recommendedAction ≠ .deleteObj then result
  else if retention.legalHold ∨ retention.complianceMode then
    { result with blockedByRetention := true, reason := ascii "Blocked by retention policy" }
  else if retention.minRetention > 0 ∧ metadata.age now < retention.minRetention then
    { result with
      blockedByRetention := true
      reason := ascii "Minimum retention period not reached" }
  else result

/-- The result is queued. -/
def Live (result : PolicyEvaluationResult) : Prop :=
  result.targetTier ≠ result.currentTier ∧ result.blockedByRetention = false

instance (result : PolicyEvaluationResult) : Decidable result.Live :=
  inferInstanceAs (Decidable (_ ∧ _))

end PolicyEvaluationResult

/-! ## The policy -/

/-- `tiering_statistics`, without the times. -/
structure TieringStatistics where
  objectsEvaluated : UInt64
  objectsMoved : UInt64
  objectsCopied : UInt64
  objectsArchived : UInt64
  objectsDeleted : UInt64
  bytesMoved : UInt64
  errors : UInt64

structure StoragePolicy where
  manager : Option StorageManager
  ageConfig : Option AgeTieringConfig
  sizeConfig : Option SizeTieringConfig
  rules : List TieringRule
  retention : RetentionPolicy
  dryRun : Bool
  stats : TieringStatistics
  pendingActions : List PolicyEvaluationResult

/-- An action on an object. -/
structure Recommendation where
  key : Bytes
  targetTier : StorageTier
  action : TieringAction
  deriving DecidableEq

/-- The action that an evaluation recommends. -/
def PolicyEvaluationResult.recommendation (result : PolicyEvaluationResult) : Recommendation :=
  ⟨result.key, result.targetTier, result.recommendedAction⟩

/-- What a policy does, in order: it evaluates, carries an action out on the manager, reports
an action of a dry run, or reports an error. -/
inductive PolicyEvent
  | evaluated (result : PolicyEvaluationResult)
  | performed (done : Recommendation)
  | rehearsed (done : Recommendation)
  | failed (key : Bytes) (failure : Error)

/-- What a call returns and does. -/
structure PolicyOutcome (α : Type) where
  result : Result α
  events : List PolicyEvent
  policy : StoragePolicy

/-- The answers that one action meets: the metadata, and the fates of the backend calls that
read and that write. -/
structure ActionAnswers where
  metadata : Result StoredObjectMetadata
  reads : Fates
  writes : Fates

/-- The manager's `get_metadata`: both backends answer with the key that they are asked for. -/
def getMetadata (key : Bytes) (answer : Result StoredObjectMetadata) :
    Result StoredObjectMetadata :=
  answer.map fun metadata => { metadata with key }

namespace StoragePolicy

/-- The error of a policy without a manager. -/
def notAttached {α : Type} : Result α :=
  unexpected .notInitialized "Storage policy not attached to a storage manager"

def recordEvaluation (policy : StoragePolicy) : StoragePolicy :=
  { policy with
    stats := { policy.stats with objectsEvaluated := policy.stats.objectsEvaluated + 1 } }

def recordAction (policy : StoragePolicy) (action : TieringAction) (bytes : UInt64) :
    StoragePolicy :=
  match action with
  | .move => { policy with
      stats := { policy.stats with
        objectsMoved := policy.stats.objectsMoved + 1
        bytesMoved := policy.stats.bytesMoved + bytes } }
  | .copy => { policy with
      stats := { policy.stats with objectsCopied := policy.stats.objectsCopied + 1 } }
  | .archive => { policy with
      stats := { policy.stats with objectsArchived := policy.stats.objectsArchived + 1 } }
  | .deleteObj => { policy with
      stats := { policy.stats with objectsDeleted := policy.stats.objectsDeleted + 1 } }

def recordError (policy : StoragePolicy) : StoragePolicy :=
  { policy with stats := { policy.stats with errors := policy.stats.errors + 1 } }

/-- The first rule that applies, in priority order. -/
def matchingRule (policy : StoragePolicy) (readings : Readings)
    (metadata : StoredObjectMetadata) : Option TieringRule :=
  (policy.rules.zipIdx.find? fun (rule, index) =>
    rule.applies (readings.rule index) metadata).map Prod.fst

def builtInTiering (policy : StoragePolicy) (readings : Readings)
    (metadata : StoredObjectMetadata) (result : PolicyEvaluationResult) :
    PolicyEvaluationResult :=
  let byAge := match policy.ageConfig with
    | some config => result.byAge config metadata readings.tiering
    | none => result
  match policy.sizeConfig with
  | some config => byAge.bySize config metadata
  | none => byAge

/-- The recommendation of `evaluate_object` before the retention.  The built-in tiering asks for
an empty rule name, which a matching rule may have. -/
def recommend (policy : StoragePolicy) (readings : Readings)
    (metadata : StoredObjectMetadata) : PolicyEvaluationResult :=
  let byRule := match policy.matchingRule readings metadata with
    | some rule => (PolicyEvaluationResult.initial metadata).matched rule
    | none => PolicyEvaluationResult.initial metadata
  if byRule.matchedRule.isEmpty then policy.builtInTiering readings metadata byRule else byRule

def evaluateObject (policy : StoragePolicy) (readings : Readings)
    (metadata : StoredObjectMetadata) : PolicyEvaluationResult :=
  (policy.recommend readings metadata).retain policy.retention metadata readings.retention

/-- Evaluate one object, and queue the action. -/
def evaluateQueue (policy : StoragePolicy) (readings : Readings)
    (metadata : StoredObjectMetadata) : PolicyEvaluationResult × StoragePolicy :=
  let result := policy.evaluateObject readings metadata
  let evaluated := policy.recordEvaluation
  if result.Live then
    (result, { evaluated with pendingActions := evaluated.pendingActions ++ [result] })
  else (result, evaluated)

def evaluate (policy : StoragePolicy) (key : Bytes) (readings : Readings)
    (metadata : Result StoredObjectMetadata) : PolicyOutcome PolicyEvaluationResult :=
  match policy.manager with
  | none => ⟨notAttached, [], policy⟩
  | some _ =>
      match getMetadata key metadata with
      | .error failure => ⟨.error failure, [], policy⟩
      | .ok metadata =>
          let (result, queued) := policy.evaluateQueue readings metadata
          ⟨.ok result, [.evaluated result], queued⟩

/-- The loop over a listing. -/
def evaluateObjects (policy : StoragePolicy) (clock : Bytes → Readings) :
    List StoredObjectMetadata → List PolicyEvaluationResult × StoragePolicy
  | [] => ([], policy)
  | object :: objects =>
      let (result, queued) := policy.evaluateQueue (clock object.key) object
      let (results, last) := queued.evaluateObjects clock objects
      (result :: results, last)

/-- The body of `evaluate_all` and of `evaluate_prefix`, with the answer of the manager's
`list`. -/
def evaluateListed (policy : StoragePolicy) (clock : Bytes → Readings)
    (listing : Result ListStorageResult) : PolicyOutcome (List PolicyEvaluationResult) :=
  match policy.manager with
  | none => ⟨notAttached, [], policy⟩
  | some _ =>
      match listing with
      | .error failure => ⟨.error failure, [], policy⟩
      | .ok listing =>
          let (results, queued) := policy.evaluateObjects clock listing.objects
          ⟨.ok results, results.map .evaluated, queued⟩

def evaluateAll (policy : StoragePolicy) (clock : Bytes → Readings)
    (listing : Result ListStorageResult) : PolicyOutcome (List PolicyEvaluationResult) :=
  policy.evaluateListed clock listing

/-- `evaluate_prefix`; the prefix is the manager's to apply. -/
def evaluatePrefix (policy : StoragePolicy) (clock : Bytes → Readings)
    (listing : Result ListStorageResult) : PolicyOutcome (List PolicyEvaluationResult) :=
  policy.evaluateListed clock listing

/-- The manager call of an action. -/
def manage (manager : StorageManager) (wanted : Recommendation) (answers : ActionAnswers) :
    Result Unit × StorageManager :=
  match wanted.action with
  | .move | .copy | .archive =>
      manager.changeTier wanted.key wanted.targetTier answers.reads answers.writes
  | .deleteObj => manager.remove wanted.key answers.writes

def executeAction (policy : StoragePolicy) (key : Bytes) (targetTier : StorageTier)
    (action : TieringAction) (answers : ActionAnswers) : PolicyOutcome Unit :=
  let wanted : Recommendation := ⟨key, targetTier, action⟩
  match policy.manager with
  | none => ⟨notAttached, [], policy⟩
  | some manager =>
      match getMetadata key answers.metadata with
      | .error failure => ⟨.error failure, [.failed key failure], policy.recordError⟩
      | .ok metadata =>
          if policy.dryRun then ⟨.ok (), [.rehearsed wanted], policy⟩
          else
            match manage manager wanted answers with
            | (.ok (), after) =>
                ⟨.ok (), [.performed wanted],
                  { policy with manager := some after }.recordAction action metadata.size⟩
            | (.error failure, after) =>
                ⟨.error failure, [.failed key failure],
                  { policy with manager := some after }.recordError⟩

def execute (policy : StoragePolicy) (key : Bytes) (readings : Readings)
    (metadata : Result StoredObjectMetadata) (answers : ActionAnswers) : PolicyOutcome Unit :=
  let evaluation := policy.evaluate key readings metadata
  match evaluation.result with
  | .error failure => ⟨.error failure, evaluation.events, evaluation.policy⟩
  | .ok result =>
      if result.targetTier = result.currentTier then
        ⟨.ok (), evaluation.events, evaluation.policy⟩
      else if result.blockedByRetention then
        ⟨unexpected .fileAccessDenied "Action blocked by retention policy", evaluation.events,
          evaluation.policy⟩
      else
        let action := evaluation.policy.executeAction key result.targetTier
          result.recommendedAction answers
        ⟨action.result, evaluation.events ++ action.events, action.policy⟩

/-- The loop of `execute_pending`, which counts the actions that succeed.  The answers come by
the place in the queue. -/
def executeActions (policy : StoragePolicy) :
    List PolicyEvaluationResult → (Nat → ActionAnswers) → Nat × List PolicyEvent × StoragePolicy
  | [], _ => (0, [], policy)
  | result :: results, answers =>
      if result.Live then
        let action := policy.executeAction result.key result.targetTier
          result.recommendedAction (answers 0)
        let (executed, events, last) :=
          action.policy.executeActions results fun index => answers (index + 1)
        (executed + if action.result.isOk then 1 else 0, action.events ++ events, last)
      else policy.executeActions results fun index => answers (index + 1)

def executePending (policy : StoragePolicy) (answers : Nat → ActionAnswers) :
    PolicyOutcome Nat :=
  match policy.manager with
  | none => ⟨notAttached, [], policy⟩
  | some _ =>
      let (executed, events, last) := { policy with pendingActions := [] }.executeActions
        policy.pendingActions answers
      ⟨.ok executed, events, last⟩

/-- `add_rule`.  `std::sort` leaves rules of equal priority in any order. -/
def addRule (policy : StoragePolicy) (sortRules : List TieringRule → List TieringRule)
    (rule : TieringRule) : StoragePolicy :=
  { policy with rules := sortRules (policy.rules ++ [rule]) }

def removeRule (policy : StoragePolicy) (name : Bytes) : Bool × StoragePolicy :=
  (policy.rules.any (·.name = name),
    { policy with rules := policy.rules.filter (·.name ≠ name) })

/-- Enable or disable the first rule of a name. -/
def enableFirst (name : Bytes) (enable : Bool) : List TieringRule → List TieringRule
  | [] => []
  | rule :: rules =>
      if rule.name = name then { rule with enabled := enable } :: rules
      else rule :: enableFirst name enable rules

def setRuleEnabled (policy : StoragePolicy) (name : Bytes) (enable : Bool) : StoragePolicy :=
  { policy with rules := enableFirst name enable policy.rules }

def setRetention (policy : StoragePolicy) (retention : RetentionPolicy) : StoragePolicy :=
  { policy with retention }

/-- The key matches an exclusion of the retention. -/
def excluded (policy : StoragePolicy) (key : Bytes) : Bool :=
  policy.retention.exclusions.any (matchesGlobPattern · key)

def canDelete (policy : StoragePolicy) (key : Bytes) (now : Int)
    (metadata : Result StoredObjectMetadata) : Result Bool :=
  match policy.manager with
  | none => unexpected .notInitialized "Storage policy not attached"
  | some _ =>
      if policy.excluded key then .ok true
      else if policy.retention.legalHold then .ok false
      else if policy.retention.complianceMode then .ok false
      else if policy.retention.minRetention > 0 then
        match getMetadata key metadata with
        | .ok metadata => .ok (decide ¬ metadata.age now < policy.retention.minRetention)
        | .error _ => .ok true
      else .ok true

def canModify (policy : StoragePolicy) (key : Bytes) : Bool :=
  policy.excluded key || !policy.retention.legalHold && !policy.retention.complianceMode

end StoragePolicy

/-! ## Runs -/

/-- A call to the policy, or to the manager behind its back. -/
inductive PolicyInput
  | attach (manager : StorageManager)
  | detach
  | evaluate (key : Bytes) (readings : Readings) (metadata : Result StoredObjectMetadata)
  | evaluateAll (clock : Bytes → Readings) (listing : Result ListStorageResult)
  | evaluatePrefix (clock : Bytes → Readings) (listing : Result ListStorageResult)
  | execute (key : Bytes) (readings : Readings) (metadata : Result StoredObjectMetadata)
      (answers : ActionAnswers)
  | executePending (answers : Nat → ActionAnswers)
  | executeAction (key : Bytes) (targetTier : StorageTier) (action : TieringAction)
      (answers : ActionAnswers)
  | addRule (rule : TieringRule)
  | removeRule (name : Bytes)
  | setRuleEnabled (name : Bytes) (enable : Bool)
  | setRetention (retention : RetentionPolicy)
  | setDryRun (enable : Bool)
  | callManager (input : StorageInput)

/-- The call is one to the policy that leaves it attached where it is. -/
def PolicyInput.IsOperation : PolicyInput → Prop
  | .attach _ => False
  | .detach => False
  | .callManager _ => False
  | _ => True

namespace StoragePolicy

/-- One call, with the sort of the rules; it gives what the policy did. -/
def step (sortRules : List TieringRule → List TieringRule) :
    Step StoragePolicy PolicyInput (List PolicyEvent) := fun policy input =>
  match input with
  | .attach manager => ([], { policy with manager := some manager })
  | .detach => ([], { policy with manager := none })
  | .evaluate key readings metadata =>
      let outcome := policy.evaluate key readings metadata
      (outcome.events, outcome.policy)
  | .evaluateAll clock listing =>
      let outcome := policy.evaluateAll clock listing
      (outcome.events, outcome.policy)
  | .evaluatePrefix clock listing =>
      let outcome := policy.evaluatePrefix clock listing
      (outcome.events, outcome.policy)
  | .execute key readings metadata answers =>
      let outcome := policy.execute key readings metadata answers
      (outcome.events, outcome.policy)
  | .executePending answers =>
      let outcome := policy.executePending answers
      (outcome.events, outcome.policy)
  | .executeAction key targetTier action answers =>
      let outcome := policy.executeAction key targetTier action answers
      (outcome.events, outcome.policy)
  | .addRule rule => ([], policy.addRule sortRules rule)
  | .removeRule name => ([], (policy.removeRule name).2)
  | .setRuleEnabled name enable => ([], policy.setRuleEnabled name enable)
  | .setRetention retention => ([], policy.setRetention retention)
  | .setDryRun enable => ([], { policy with dryRun := enable })
  | .callManager input =>
      ([], { policy with manager := policy.manager.map fun manager => (manager.step input).2 })

/-! ## Evaluations -/

section

variable {policy : StoragePolicy} {readings : Readings} {metadata : StoredObjectMetadata}

theorem evaluateQueue_eq : policy.evaluateQueue readings metadata =
    (policy.evaluateObject readings metadata, (policy.evaluateQueue readings metadata).2) := by
  unfold evaluateQueue
  dsimp only
  split <;> rfl

theorem evaluate_cases (policy : StoragePolicy) (key : Bytes) (readings : Readings)
    (answer : Result StoredObjectMetadata) :
    (∃ failure, policy.evaluate key readings answer = ⟨.error failure, [], policy⟩) ∨
    ∃ metadata, metadata.key = key ∧ policy.evaluate key readings answer =
      ⟨.ok (policy.evaluateObject readings metadata),
        [.evaluated (policy.evaluateObject readings metadata)],
        (policy.evaluateQueue readings metadata).2⟩ := by
  unfold evaluate
  split
  · exact .inl ⟨_, rfl⟩
  · cases answer with
    | error failure => exact .inl ⟨failure, rfl⟩
    | ok metadata =>
        refine .inr ⟨{ metadata with key }, rfl, ?_⟩
        dsimp only [getMetadata, Except.map]
        rw [evaluateQueue_eq]

end

end StoragePolicy

end FileTrans.Server
