import FileTrans.Server.RetentionHold
import FileTrans.Server.TieredObjects

/-!
# Policies that go round in circles

An evaluation takes the metadata of its objects from a listing, and no listing
tells the tier of an object: all of them are hot.  A local backend does not know
the tier at all.  A cloud backend may, but then an object whose time a change of
the tier leaves alone looks the same to the next evaluation, which recommends the
change again; and one whose time is new has lost its age.
-/

namespace FileTrans.Server

open FileTrans.Core
open FileTrans.Text

/-! ## A round of a policy -/

/-- A policy with an empty queue, attached to a manager of one backend that does not fail; the
clock readings of the evaluations, and the drifts before and after the actions. -/
structure Tiering where
  policy : StoragePolicy
  manager : StorageManager
  index : ObjectIndex
  storage : ObjectStorage
  clock : Bytes → Readings
  drift : Bytes → Int
  laterDrift : Bytes → Int
  attached : policy.manager = some manager
  fresh : policy.pendingActions = []
  ready : manager.initialized = true
  single : manager.secondaryBackend = none
  noDeletes : ∀ rule ∈ policy.rules, rule.action ≠ .deleteObj

namespace Tiering

variable (tiering : Tiering)

/-- `evaluate_all`. -/
def evaluated : PolicyOutcome (List PolicyEvaluationResult) :=
  tiering.policy.evaluateAll tiering.clock
    (tiering.index.list tiering.storage tiering.manager tiering.drift)

/-- `execute_pending` after it. -/
def executed : PolicyOutcome Nat :=
  let policy := tiering.evaluated.policy
  policy.executePending (answersAlong tiering.storage tiering.drift
    { policy with pendingActions := [] } tiering.index policy.pendingActions)

/-- The objects after that. -/
def laterIndex : ObjectIndex :=
  tiering.index.afterAll tiering.storage tiering.executed.events

/-- The tier of the object was changed to this one. -/
def Moves (key : Bytes) (targetTier : StorageTier) : Prop :=
  ∃ action, .performed ⟨key, targetTier, action⟩ ∈ tiering.executed.events

/-- The object has the tier and its old time, and another evaluation at the same time recommends
nothing more for it. -/
structure SettledAt (key : Bytes) (targetTier : StorageTier) : Prop where
  recorded : ∃ manager before after, tiering.executed.policy.manager = some manager ∧
    tiering.index.getMetadata tiering.manager (tiering.drift key) key = .ok before ∧
    tiering.laterIndex.getMetadata manager (tiering.laterDrift key) key = .ok after ∧
    after.tier = targetTier ∧ after.lastModified = before.lastModified
  quiet : ∀ manager results, tiering.executed.policy.manager = some manager →
    (tiering.executed.policy.evaluateAll tiering.clock (tiering.laterIndex.list tiering.storage
      manager tiering.laterDrift)).result = .ok results →
    ∀ result ∈ results, result.key = key → ¬ result.Live

end Tiering

/-! ## What an evaluation looks at -/

/-- Objects that look the same to an evaluation. -/
structure StoredObjectMetadata.Alike (first second : StoredObjectMetadata) : Prop where
  key : first.key = second.key
  size : first.size = second.size
  lastModified : first.lastModified = second.lastModified
  tier : first.tier = second.tier
  accessCount : first.accessCount = second.accessCount

namespace StoragePolicy

/-- What an evaluation takes from the policy. -/
structure SameRules (before after : StoragePolicy) : Prop where
  rules : after.rules = before.rules
  ageConfig : after.ageConfig = before.ageConfig
  sizeConfig : after.sizeConfig = before.sizeConfig
  retention : after.retention = before.retention

variable {policy before after : StoragePolicy} {readings : Readings}
  {metadata : StoredObjectMetadata} {result : PolicyEvaluationResult}

theorem SameRules.trans {first second third : StoragePolicy} (left : SameRules first second)
    (right : SameRules second third) : SameRules first third :=
  ⟨right.rules.trans left.rules, right.ageConfig.trans left.ageConfig,
    right.sizeConfig.trans left.sizeConfig, right.retention.trans left.retention⟩

theorem evaluateObject_of_alike {first second : StoredObjectMetadata}
    (alike : first.Alike second) :
    policy.evaluateObject readings first = policy.evaluateObject readings second := by
  rcases first with ⟨key, size, lastModified, _, _, tier, _, _, _, accessCount, _⟩
  rcases second with ⟨_, _, _, _, _, _, _, _, _, _, _⟩
  rcases alike with ⟨rfl, rfl, rfl, rfl, rfl⟩
  rfl

theorem SameRules.evaluateObject (same : SameRules before after) :
    after.evaluateObject readings metadata = before.evaluateObject readings metadata := by
  rcases before with ⟨_, ageConfig, sizeConfig, rules, retention, _, _, _⟩
  rcases after with ⟨_, _, _, _, _, _, _, _⟩
  rcases same with ⟨rfl, rfl, rfl, rfl⟩
  rfl

theorem evaluateObject_fields (noDeletes : ∀ rule ∈ policy.rules, rule.action ≠ .deleteObj) :
    (policy.evaluateObject readings metadata).currentTier = metadata.tier ∧
      (policy.evaluateObject readings metadata).recommendedAction ≠ .deleteObj := by
  obtain ⟨current, free, from_rule⟩ := policy.recommend_spec readings metadata
  obtain ⟨action, -, same, -⟩ := PolicyEvaluationResult.retain_spec _ policy.retention metadata
    readings.retention free
  refine ⟨same.trans current, ?_⟩
  intro deletes
  have recommended := action.symm.trans deletes
  obtain ⟨rule, matched, matched_eq⟩ := from_rule recommended
  rcases Option.map_eq_some_iff.mp matched with ⟨⟨found, number⟩, search, rfl⟩
  have mem := (List.mem_zipIdx (List.mem_of_find?_eq_some search)).2.2
  apply noDeletes found
  · rw [mem]
    exact List.getElem_mem _
  · rw [matched_eq] at recommended
    exact recommended

/-! ## The queue of an evaluation -/

theorem evaluateObjects_spec (clock : Bytes → Readings) (objects : List StoredObjectMetadata) :
    (policy.evaluateObjects clock objects).1 =
        objects.map (fun object => policy.evaluateObject (clock object.key) object) ∧
      (policy.evaluateObjects clock objects).2.pendingActions = policy.pendingActions ++
        (objects.map fun object => policy.evaluateObject (clock object.key) object).filter
          (fun result => result.Live) ∧
      SameRules policy (policy.evaluateObjects clock objects).2 := by
  induction objects generalizing policy with
  | nil => exact ⟨rfl, by simp [evaluateObjects], rfl, rfl, rfl, rfl⟩
  | cons object objects ih =>
      have queued : (policy.evaluateQueue (clock object.key) object).1 =
          policy.evaluateObject (clock object.key) object ∧
          (policy.evaluateQueue (clock object.key) object).2.pendingActions =
            policy.pendingActions ++
              [policy.evaluateObject (clock object.key) object].filter (fun result => result.Live) ∧
          SameRules policy (policy.evaluateQueue (clock object.key) object).2 := by
        unfold evaluateQueue
        dsimp only
        split
        · rename_i live
          exact ⟨rfl, by simp [live, recordEvaluation], rfl, rfl, rfl, rfl⟩
        · rename_i idle
          exact ⟨rfl, by simp [idle, recordEvaluation], rfl, rfl, rfl, rfl⟩
      rcases queued with ⟨result, pending, same⟩
      rcases @ih (policy.evaluateQueue (clock object.key) object).2 with ⟨results, later, still⟩
      simp only [same.evaluateObject] at results later
      refine ⟨?_, ?_, same.trans still⟩
      · rw [evaluateObjects, List.map_cons, ← result, ← results]
      · rw [evaluateObjects]
        dsimp only
        rw [later, pending, List.append_assoc, ← List.filter_append]
        rfl

end StoragePolicy

/-! ## What actions leave alone -/

structure SameBackends (before after : StorageManager) : Prop where
  primary : after.primaryBackend = before.primaryBackend
  secondary : after.secondaryBackend = before.secondaryBackend
  initialized : after.initialized = before.initialized

theorem SameBackends.trans {first second third : StorageManager}
    (left : SameBackends first second) (right : SameBackends second third) :
    SameBackends first third :=
  ⟨right.primary.trans left.primary, right.secondary.trans left.secondary,
    right.initialized.trans left.initialized⟩

namespace StorageManager

variable {manager : StorageManager} {key data : Bytes} {options : StoreOptions} {fates : Fates}

theorem sameBackends_retrieve : SameBackends manager (manager.retrieve key fates).2 := by
  unfold retrieve
  split
  · exact ⟨rfl, rfl, rfl⟩
  · split
    · exact ⟨rfl, rfl, rfl⟩
    · split <;> exact ⟨rfl, rfl, rfl⟩

theorem held_of_retrieved (single : manager.secondaryBackend = none)
    (retrieved : (manager.retrieve key fates).1 = .ok data) :
    manager.primaryBackend.objects key = some data := by
  have copy := retrieved_copy retrieved
  split at copy
  · exact copy.symm
  · simp [copies, single] at copy

theorem sameBackends_store (single : manager.secondaryBackend = none)
    (held : manager.primaryBackend.objects key = some data) (overwrite : options.overwrite = true) :
    SameBackends manager (manager.store key data options fates).2 := by
  unfold store storeWith
  split
  · exact ⟨rfl, rfl, rfl⟩
  · dsimp only
    rw [StorageBackend.store_of_overwrite overwrite, ← held, Function.update_eq_self]
    cases fates.primary with
    | some failure => exact ⟨rfl, rfl, rfl⟩
    | none =>
        dsimp only
        rcases recordStore_eq manager (UInt64.ofNat data.length) manager.primaryBackend.type with
          ⟨stats, recorded⟩
        rw [recorded]
        split
        · exact ⟨rfl, by simp [single], rfl⟩
        · exact ⟨rfl, rfl, rfl⟩

theorem sameBackends_changeTier {targetTier : StorageTier} {reads writes : Fates}
    (single : manager.secondaryBackend = none) :
    SameBackends manager (manager.changeTier key targetTier reads writes).2 := by
  unfold changeTier
  split
  · exact ⟨rfl, rfl, rfl⟩
  · have read := @sameBackends_retrieve manager key reads
    split
    · rename_i failure after failed
      rwa [failed] at read
    · rename_i data after retrieved
      have held := held_of_retrieved single (congrArg Prod.fst retrieved)
      rw [retrieved] at read
      have written : SameBackends after (after.store key data (tierOptions targetTier) writes).2 :=
        sameBackends_store (read.secondary.trans single) (read.primary ▸ held) rfl
      split
      · rename_i failure stored failed
        rw [failed] at written
        exact read.trans written
      · rename_i result stored succeeded
        rw [succeeded] at written
        exact read.trans ⟨written.primary, written.secondary, written.initialized⟩

end StorageManager

namespace StoragePolicy

/-- The policies decide alike, and their managers have the same backends. -/
structure SameDecisions (before after : StoragePolicy) : Prop where
  rules : SameRules before after
  backends : ∀ manager ∈ before.manager, ∃ later, after.manager = some later ∧
    SameBackends manager later

variable {policy before after : StoragePolicy} {key : Bytes} {targetTier : StorageTier}
  {action : TieringAction} {answers : ActionAnswers}

theorem SameDecisions.refl (policy : StoragePolicy) : SameDecisions policy policy :=
  ⟨⟨rfl, rfl, rfl, rfl⟩, fun manager attached => ⟨manager, attached, rfl, rfl, rfl⟩⟩

theorem SameDecisions.trans {first second third : StoragePolicy}
    (left : SameDecisions first second) (right : SameDecisions second third) :
    SameDecisions first third := by
  refine ⟨left.rules.trans right.rules, ?_⟩
  intro manager attached
  rcases left.backends manager attached with ⟨middle, second, same⟩
  rcases right.backends middle second with ⟨later, third, still⟩
  exact ⟨later, third, same.trans still⟩

variable {manager : StorageManager}

theorem sameDecisions_executeAction (attached : policy.manager = some manager)
    (single : manager.secondaryBackend = none) (spares : action ≠ .deleteObj) :
    SameDecisions policy (policy.executeAction key targetTier action answers).policy := by
  have managed : SameBackends manager (manage manager ⟨key, targetTier, action⟩ answers).2 := by
    unfold manage
    cases action with
    | deleteObj => contradiction
    | move => exact StorageManager.sameBackends_changeTier single
    | copy => exact StorageManager.sameBackends_changeTier single
    | archive => exact StorageManager.sameBackends_changeTier single
  have moved : ∀ other ∈ policy.manager, ∃ later,
      some (manage manager ⟨key, targetTier, action⟩ answers).2 = some later ∧
        SameBackends other later := by
    intro other same
    cases Option.some.inj (attached.symm.trans same)
    exact ⟨_, rfl, managed⟩
  unfold executeAction
  rw [attached]
  dsimp only
  split
  · exact ⟨⟨rfl, rfl, rfl, rfl⟩, (SameDecisions.refl policy).backends⟩
  · split
    · exact .refl policy
    · split
      · rename_i later performed
        rw [performed] at moved
        cases action <;> exact ⟨⟨rfl, rfl, rfl, rfl⟩, moved⟩
      · rename_i failure later failed
        rw [failed] at moved
        exact ⟨⟨rfl, rfl, rfl, rfl⟩, moved⟩

theorem sameDecisions_executeActions {results : List PolicyEvaluationResult}
    {answers : Nat → ActionAnswers}
    (attached : policy.manager = some manager) (single : manager.secondaryBackend = none)
    (spare : ∀ result ∈ results, result.recommendedAction ≠ .deleteObj) :
    SameDecisions policy (policy.executeActions results answers).2.2 := by
  induction results generalizing policy manager answers with
  | nil => exact .refl policy
  | cons result results ih =>
      have rest : ∀ other ∈ results, other.recommendedAction ≠ .deleteObj :=
        fun other mem => spare other (List.mem_cons_of_mem _ mem)
      rw [executeActions]
      split
      · have first := @sameDecisions_executeAction policy result.key result.targetTier
          result.recommendedAction (answers 0) manager attached single
          (spare result List.mem_cons_self)
        rcases first.backends manager attached with ⟨later, after, kept⟩
        exact first.trans (ih after (kept.secondary.trans single) rest)
      · exact ih attached single rest

theorem sameDecisions_executePending {answers : Nat → ActionAnswers}
    (attached : policy.manager = some manager)
    (single : manager.secondaryBackend = none)
    (spare : ∀ result ∈ policy.pendingActions, result.recommendedAction ≠ .deleteObj) :
    SameDecisions policy (policy.executePending answers).policy := by
  have emptied : SameDecisions policy { policy with pendingActions := [] } :=
    ⟨⟨rfl, rfl, rfl, rfl⟩, (SameDecisions.refl policy).backends⟩
  have emptyAttached : { policy with pendingActions := [] }.manager = some manager := attached
  unfold executePending
  split
  · exact .refl policy
  · exact emptied.trans (sameDecisions_executeActions emptyAttached single spare)

theorem evaluateAll_spec (attached : policy.manager = some manager) (clock : Bytes → Readings)
    (listing : ListStorageResult) :
    let results := listing.objects.map fun object =>
      policy.evaluateObject (clock object.key) object
    (policy.evaluateAll clock (.ok listing)).result = .ok results ∧
      (policy.evaluateAll clock (.ok listing)).policy.pendingActions =
        policy.pendingActions ++ results.filter (fun result => result.Live) ∧
      SameRules policy (policy.evaluateAll clock (.ok listing)).policy ∧
      (policy.evaluateAll clock (.ok listing)).policy.manager = some manager := by
  intro results
  have kept := (@manager_evaluateListed policy clock (.ok listing)).trans attached
  rcases @evaluateObjects_spec policy clock listing.objects with ⟨given, queued, same⟩
  rw [evaluateAll]
  refine ⟨?_, ?_, ?_, kept⟩
  · simp [evaluateListed, attached, given, results]
  · simp [evaluateListed, attached, queued, results]
  · simpa [evaluateListed, attached] using same

theorem mem_allowedActions {results : List PolicyEvaluationResult} {answers : Nat → ActionAnswers}
    {wanted : Recommendation} (allowed : wanted ∈ allowedActions results answers) :
    ∃ result ∈ results, result.recommendation = wanted := by
  induction results generalizing answers with
  | nil => contradiction
  | cons result results ih =>
      have later (rest : wanted ∈ allowedActions results fun index => answers (index + 1)) :
          ∃ other ∈ result :: results, other.recommendation = wanted := by
        rcases ih rest with ⟨other, mem, same⟩
        exact ⟨other, List.mem_cons_of_mem _ mem, same⟩
      rw [allowedActions] at allowed
      split at allowed
      · rcases List.mem_cons.mp allowed with same | rest
        · exact ⟨result, List.mem_cons_self, same.symm⟩
        · exact later rest
      · exact later allowed

theorem performed_executePending {answers : Nat → ActionAnswers} {wanted : Recommendation}
    (performed : .performed wanted ∈ (policy.executePending answers).events) :
    ∃ result ∈ policy.pendingActions, result.recommendation = wanted := by
  unfold executePending at performed
  split at performed
  · contradiction
  · have done : wanted ∈ performedActions _ := List.mem_filterMap.mpr ⟨_, performed, rfl⟩
    exact mem_allowedActions (sublist_executeActions.subset done)

end StoragePolicy

/-! ## Listings -/

theorem listedMetadata_fields {type : StorageBackendType} {details : ObjectDetails} {drift : Int}
    {key : Bytes} {size : UInt64} :
    (listedMetadata type details drift key size).key = key ∧
      (listedMetadata type details drift key size).tier = .hot := by
  unfold listedMetadata
  split <;> exact ⟨rfl, rfl⟩

namespace ObjectIndex

variable {index : ObjectIndex} {storage : ObjectStorage} {manager : StorageManager}
  {drift : Bytes → Int} {object : StoredObjectMetadata}

theorem mem_listedObjects {keys : List Bytes} :
    object ∈ index.listedObjects manager drift keys ↔
      ∃ key ∈ keys, ∃ data, manager.primaryBackend.objects key = some data ∧
        listedMetadata manager.primaryBackend.type (index.details key) (drift key) key
          (UInt64.ofNat data.length) = object := by
  simp [listedObjects]

theorem list_spec (ready : manager.initialized = true) :
    ∃ listing, index.list storage manager drift = .ok listing ∧
      (∃ keys, ∀ object ∈ listing.objects, object ∈ index.listedObjects manager drift keys) ∧
      (manager.primaryBackend.type ≠ .localStorage →
        listing.objects = index.listedObjects manager drift (storage.page index.keys).keys) := by
  unfold list
  rw [if_neg (not_not.mpr ready)]
  split
  · rename_i isLocal
    refine ⟨_, rfl, ⟨index.keys, ?_⟩, absurd isLocal⟩
    have room : ([] : List StoredObjectMetadata).length <
        ListStorageOptions.default.maxResults.toNat := by
      decide
    rw [(StorageManager.listEntries_eq room).1]
    intro object mem
    exact (List.mem_filter.mp (List.mem_of_mem_take mem)).1
  · exact ⟨_, rfl, ⟨_, fun _ mem => mem⟩, fun _ => rfl⟩

theorem keys_afterAll {events : List PolicyEvent}
    (spare : ∀ done, .performed done ∈ events → done.action ≠ .deleteObj) :
    (index.afterAll storage events).keys = index.keys := by
  induction events generalizing index with
  | nil => rfl
  | cons event events ih =>
      have first : (index.after storage event).keys = index.keys := by
        cases event with
        | performed done =>
            rcases done with ⟨key, targetTier, action⟩
            cases action with
            | deleteObj => exact absurd rfl (spare _ List.mem_cons_self)
            | move => rfl
            | copy => rfl
            | archive => rfl
        | _ => rfl
      apply Eq.trans _ first
      exact ih fun done mem => spare done (List.mem_cons_of_mem _ mem)

theorem getMetadata_ok {drift : Int} {key : Bytes}
    (found : index.getMetadata manager drift key = .ok object) :
    ∃ data, manager.primaryBackend.objects key = some data ∧
      backendMetadata manager.primaryBackend.type (index.details key) drift key
        (UInt64.ofNat data.length) = object := by
  unfold getMetadata at found
  split at found
  · contradiction
  · split at found
    · rename_i data held
      exact ⟨data, held, Except.ok.inj found⟩
    · split at found <;> contradiction

end ObjectIndex

/-! ## No fixed point -/

namespace Tiering

variable {tiering : Tiering} {key : Bytes} {targetTier : StorageTier}

/-- What is known after a round: the first listing, the queue that came of it, and the manager
afterwards. -/
structure Round (tiering : Tiering) (listing : ListStorageResult) (later : StorageManager) :
    Prop where
  listed : tiering.index.list tiering.storage tiering.manager tiering.drift = .ok listing
  queued : tiering.evaluated.policy.pendingActions =
    (listing.objects.map fun object =>
      tiering.policy.evaluateObject (tiering.clock object.key) object).filter
        (fun result => result.Live)
  attached : tiering.executed.policy.manager = some later
  backends : SameBackends tiering.manager later
  rules : StoragePolicy.SameRules tiering.policy tiering.executed.policy

theorem exists_round (tiering : Tiering) : ∃ listing later, tiering.Round listing later := by
  rcases @ObjectIndex.list_spec tiering.index tiering.storage tiering.manager tiering.drift
    tiering.ready with ⟨listing, listed, -, -⟩
  rcases tiering.policy.evaluateAll_spec tiering.attached tiering.clock listing with
    ⟨-, queued, rules, attached⟩
  have outcome : tiering.evaluated = tiering.policy.evaluateAll tiering.clock (.ok listing) := by
    rw [evaluated, listed]
  rw [← outcome] at queued rules attached
  rw [tiering.fresh, List.nil_append] at queued
  have spare : ∀ result ∈ tiering.evaluated.policy.pendingActions,
      result.recommendedAction ≠ .deleteObj := by
    intro result mem
    rw [queued] at mem
    rcases List.mem_map.mp (List.mem_filter.mp mem).1 with ⟨object, -, rfl⟩
    exact (StoragePolicy.evaluateObject_fields tiering.noDeletes).2
  have kept : StoragePolicy.SameDecisions tiering.evaluated.policy tiering.executed.policy :=
    StoragePolicy.sameDecisions_executePending attached tiering.single spare
  rcases kept.backends _ attached with ⟨later, after, backends⟩
  exact ⟨listing, later, listed, queued, after, backends, rules.trans kept.rules⟩

variable {listing : ListStorageResult} {later : StorageManager}

theorem Round.recommended (round : tiering.Round listing later)
    (moves : tiering.Moves key targetTier) :
    ∃ object ∈ listing.objects, object.key = key ∧
      (tiering.policy.evaluateObject (tiering.clock object.key) object).targetTier = targetTier ∧
      (tiering.policy.evaluateObject (tiering.clock object.key) object).Live := by
  rcases moves with ⟨action, performed⟩
  rcases StoragePolicy.performed_executePending performed with ⟨result, queued, wanted⟩
  rw [round.queued] at queued
  rcases List.mem_filter.mp queued with ⟨given, live⟩
  rcases List.mem_map.mp given with ⟨object, listed, rfl⟩
  refine ⟨object, listed, ?_, congrArg Recommendation.targetTier wanted, of_decide_eq_true live⟩
  exact StoragePolicy.key_evaluateObject.symm.trans (congrArg Recommendation.key wanted)

theorem Round.keys (round : tiering.Round listing later) :
    tiering.laterIndex.keys = tiering.index.keys := by
  apply ObjectIndex.keys_afterAll
  intro done performed
  rcases StoragePolicy.performed_executePending performed with ⟨result, queued, rfl⟩
  rw [round.queued] at queued
  rcases List.mem_map.mp (List.mem_filter.mp queued).1 with ⟨object, -, rfl⟩
  exact (StoragePolicy.evaluateObject_fields tiering.noDeletes).2

theorem Round.not_hot (round : tiering.Round listing later) (moves : tiering.Moves key targetTier) :
    targetTier ≠ .hot := by
  rcases round.recommended moves with ⟨object, mem, -, rfl, live⟩
  rcases @ObjectIndex.list_spec tiering.index tiering.storage tiering.manager tiering.drift
    tiering.ready with ⟨same, listed, ⟨keys, shown⟩, -⟩
  cases Except.ok.inj (listed.symm.trans round.listed)
  have seen : object.tier = .hot := by
    rcases ObjectIndex.mem_listedObjects.mp (shown object mem) with ⟨_, -, _, -, rfl⟩
    exact listedMetadata_fields.2
  intro hot
  exact live.1 (hot.trans
    ((StoragePolicy.evaluateObject_fields tiering.noDeletes).1.trans seen).symm)

theorem Round.listed_again (round : tiering.Round listing later)
    (cloud : tiering.manager.primaryBackend.type ≠ .localStorage) {object : StoredObjectMetadata}
    (mem : object ∈ listing.objects)
    (sameAge : (tiering.laterIndex.details object.key).lastModified =
      (tiering.index.details object.key).lastModified) :
    ∃ second, tiering.laterIndex.list tiering.storage later tiering.laterDrift = .ok second ∧
      ∃ again ∈ second.objects, again.Alike object := by
  rcases @ObjectIndex.list_spec tiering.index tiering.storage tiering.manager tiering.drift
    tiering.ready with ⟨first, listed, -, page⟩
  cases Except.ok.inj (listed.symm.trans round.listed)
  rcases @ObjectIndex.list_spec tiering.laterIndex tiering.storage later tiering.laterDrift
    (round.backends.initialized.trans tiering.ready) with ⟨second, relisted, -, nextPage⟩
  rw [round.backends.primary] at nextPage
  refine ⟨second, relisted, ?_⟩
  rw [page cloud] at mem
  rcases ObjectIndex.mem_listedObjects.mp mem with ⟨key, shown, data, held, rfl⟩
  rw [listedMetadata_fields.1] at sameAge
  refine ⟨listedMetadata tiering.manager.primaryBackend.type (tiering.laterIndex.details key)
    (tiering.laterDrift key) key (UInt64.ofNat data.length), ?_, ?_⟩
  · rw [nextPage cloud, round.keys]
    apply ObjectIndex.mem_listedObjects.mpr
    rw [round.backends.primary]
    exact ⟨key, shown, data, held, rfl⟩
  · unfold listedMetadata
    rw [if_neg cloud, if_neg cloud]
    exact ⟨rfl, rfl, sameAge, rfl, rfl⟩

/-- A policy never settles an object whose tier it has changed. -/
theorem not_settledAt_of_moves (moves : tiering.Moves key targetTier) :
    ¬ tiering.SettledAt key targetTier := by
  rintro ⟨⟨manager, before, after, attached, earlier, recorded, tier, age⟩, quiet⟩
  rcases tiering.exists_round with ⟨listing, later, round⟩
  cases Option.some.inj (attached.symm.trans round.attached)
  rcases ObjectIndex.getMetadata_ok earlier with ⟨_, -, rfl⟩
  rcases ObjectIndex.getMetadata_ok recorded with ⟨_, -, rfl⟩
  rw [round.backends.primary] at tier age
  unfold backendMetadata at tier age
  by_cases isLocal : tiering.manager.primaryBackend.type = .localStorage
  · -- a local backend reports the hot tier
    rw [if_pos isLocal] at tier
    exact round.not_hot moves tier.symm
  · -- a cloud backend lists the object as it was, and the evaluation is the same
    rw [if_neg isLocal, if_neg isLocal] at age
    rcases round.recommended moves with ⟨object, mem, rfl, -, live⟩
    rcases round.listed_again isLocal mem age with ⟨second, listed, again, mem, alike⟩
    rcases StoragePolicy.evaluateAll_spec attached tiering.clock second with ⟨results, -⟩
    rw [← listed] at results
    have same : tiering.executed.policy.evaluateObject (tiering.clock again.key) again =
        tiering.policy.evaluateObject (tiering.clock object.key) object := by
      rw [round.rules.evaluateObject, StoragePolicy.evaluateObject_of_alike alike, alike.key]
    apply quiet manager _ attached results _ (List.mem_map_of_mem mem)
    · exact StoragePolicy.key_evaluateObject.trans alike.key
    · rwa [same]

end Tiering

/-! ## A round of one object -/

namespace TieringSample

open StoragePolicy

/-- A backend of this type with one object of three bytes. -/
def manager (type : StorageBackendType) : StorageManager :=
  { QueueSample.manager with
    primaryBackend := { QueueSample.manager.primaryBackend with type } }

/-- What is kept of an object: the storage class, and always the same time. -/
def details (options : StoreOptions) : ObjectDetails :=
  ⟨0, [], [], options.storageClass, options.customMetadata⟩

/-- A policy that wants the object in the warm tier. -/
def tiering (type : StorageBackendType) : Tiering where
  policy := { QueueSample.policy with manager := some (manager type) }
  manager := manager type
  index := ⟨[QueueSample.key], fun _ => details .default⟩
  storage := ⟨fun keys => ⟨keys, false, none⟩, fun _ => details⟩
  clock := fun _ => QueueSample.readings
  drift := fun _ => 0
  laterDrift := fun _ => 0
  attached := rfl
  fresh := rfl
  ready := rfl
  single := rfl
  noDeletes := by simp [QueueSample.policy]

theorem moves_local : (tiering .localStorage).Moves QueueSample.key .warm :=
  ⟨.move, List.mem_singleton.mpr rfl⟩

theorem moves_cloud : (tiering .cloudS3).Moves QueueSample.key .warm :=
  ⟨.move, List.mem_singleton.mpr rfl⟩

end TieringSample

open TieringSample StoragePolicy in
theorem not_settledAt_sample :
    ¬ (tiering .localStorage).SettledAt QueueSample.key .warm :=
  Tiering.not_settledAt_of_moves moves_local

open TieringSample StoragePolicy in
/-- The file is hot again; the cloud object, which has the tier and its old time, is to be moved
again. -/
theorem settledAt_fails :
    ((tiering .localStorage).Moves QueueSample.key .warm ∧
      ¬ (tiering .localStorage).SettledAt QueueSample.key .warm) ∧
    (tiering .cloudS3).Moves QueueSample.key .warm ∧
    ¬ (tiering .cloudS3).SettledAt QueueSample.key .warm := by
  refine ⟨⟨moves_local, ?_⟩, moves_cloud, ?_⟩
  · rintro ⟨⟨later, _, after, attached, -, recorded, tier, -⟩, -⟩
    cases Option.some.inj (attached.symm.trans rfl)
    cases Except.ok.inj (recorded.symm.trans rfl)
    contradiction
  · rintro ⟨-, quiet⟩
    have again := quiet _ [QueueSample.result] rfl rfl QueueSample.result
      (List.mem_singleton.mpr rfl) rfl
    exact again (by decide)

end FileTrans.Server
