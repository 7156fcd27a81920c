import FileTrans.Encryption.KeyManager
import FileTrans.Transition.Run
import Mathlib.Data.List.Chain

/-!
# Rotations of a key

The history of a key holds the last keys that rotations have superseded.  A
rotation writes to the history before it makes the new key, and does not take
that back when it fails; and the limit of the history is applied by rotations
only, not when the policy changes.  A rotation begins a new count of uses.
-/

namespace FileTrans.Encryption

open FileTrans.Core FileTrans.Transition

namespace KeyManager

/-! ## Operations of a run -/

/-- An operation that leaves keys in place. -/
inductive KeyCall where
  | rotateKey (keyId : KeyId) (environment : KeyEnvironment)
  | getKey (keyId : KeyId) (environment : KeyEnvironment)
  | recordUsage (keyId : KeyId) (now : Time)
  | setRotationPolicy (policy : KeyRotationPolicy)

/-- One operation with its answer, if it has one. -/
def step : Step KeyManager KeyCall (Option (Result ManagedKey))
  | manager, .rotateKey keyId environment =>
      let rotated := manager.rotateKey environment keyId
      (some rotated.1, rotated.2)
  | manager, .getKey keyId environment => (some (manager.getKey environment keyId), manager)
  | manager, .recordUsage keyId now => (none, manager.recordUsage keyId now)
  | manager, .setRotationPolicy policy => (none, manager.setRotationPolicy policy)

/-- The key that an operation supersedes: `get_key` gives it before a rotation that succeeds. -/
def supersedes (keyId : KeyId) (manager : KeyManager) : KeyCall → Option ManagedKey
  | .rotateKey rotatedId environment =>
      if rotatedId = keyId ∧ (manager.rotateKey environment keyId).1.isOk then
        (manager.getKey environment keyId).toOption
      else none
  | _ => none

/-- The keys that rotations have superseded, in order, beside the manager. -/
def tracedStep (keyId : KeyId) :
    Step (KeyManager × List ManagedKey) KeyCall (Option (Result ManagedKey))
  | (manager, superseded), call =>
      let next := step manager call
      (next.1, next.2, superseded ++ (supersedes keyId manager call).toList)

/-- How many versions are kept. -/
def keep (manager : KeyManager) : Nat :=
  manager.rotationPolicy.keepVersions.toNat

/-- The history is the end of the list of superseded keys; their versions are consecutive and
end before that of the key. -/
structure KeepsHistory (keyId : KeyId) (manager : KeyManager) (superseded : List ManagedKey) :
    Prop where
  versions_eq : manager.getKeyVersions keyId =
    superseded.drop (superseded.length - manager.keep)
  consecutive : (manager.getKeyVersions keyId).IsChain fun first second =>
    first.metadata.version.toNat + 1 = second.metadata.version.toNat
  current : ∀ last ∈ (manager.getKeyVersions keyId).getLast?, ∃ metadata,
    manager.metadataCache keyId = some metadata ∧
      last.metadata.version.toNat + 1 = metadata.version.toNat

/-- A rotation that fails leaves the key, its metadata and its history. -/
def UnchangedOnError (keyId : KeyId) (manager : KeyManager) : KeyCall → Prop
  | .rotateKey rotatedId environment =>
      rotatedId = keyId → ∀ failure, (manager.rotateKey environment keyId).1 = .error failure →
        (manager.rotateKey environment keyId).2.keys keyId = manager.keys keyId ∧
        (manager.rotateKey environment keyId).2.metadataCache keyId =
          manager.metadataCache keyId ∧
        (manager.rotateKey environment keyId).2.getKeyVersions keyId =
          manager.getKeyVersions keyId
  | _ => True

/-- Nothing is in the way of a new key: there are random bytes and the storage takes it. -/
def Generates (environment : KeyEnvironment) (keyId : KeyId) (size : Nat) : Prop :=
  keyId ≠ [] ∧ (generateRandomBytes environment.random size).isOk = true ∧
    environment.storeFault = none

instance (environment : KeyEnvironment) (keyId : KeyId) (size : Nat) :
    Decidable (Generates environment keyId size) :=
  inferInstanceAs (Decidable (_ ∧ _))

/-- What does not harm the history.  A rotation of a key that is there makes a new key, and its
version does not wrap, unless no versions are kept; a policy keeps as many of the superseded keys
as the one before. -/
def Harmless (keyId : KeyId) (manager : KeyManager) (superseded : List ManagedKey) :
    KeyCall → Prop
  | .rotateKey rotatedId environment =>
      rotatedId = keyId → ∀ oldKey, manager.getKey environment keyId = .ok oldKey →
        manager.keep = 0 ∨
          Generates environment keyId oldKey.key.length ∧
            oldKey.metadata.version.toNat + 1 < 2 ^ 32
  | .setRotationPolicy policy =>
      min superseded.length policy.keepVersions.toNat = min superseded.length manager.keep
  | _ => True

/-! ## Rotations -/

theorem limitVersions_eq (keep : Nat) (versions : List ManagedKey) :
    limitVersions keep versions = versions.drop (versions.length - keep) := by
  induction versions with
  | nil => exact List.drop_nil.symm
  | cons version rest ih =>
      unfold limitVersions
      split
      · rename_i more
        rw [List.length_cons] at more
        have next : rest.length + 1 - keep = rest.length - keep + 1 := by omega
        rw [ih, List.length_cons, next, List.drop_succ_cons]
      · rename_i few
        have whole : (version :: rest).length - keep = 0 := by omega
        rw [whole, List.drop_zero]

theorem limitVersions_drop (keep : Nat) (superseded : List ManagedKey) (oldKey : ManagedKey) :
    limitVersions keep (superseded.drop (superseded.length - keep) ++ [oldKey]) =
      (superseded ++ [oldKey]).drop ((superseded ++ [oldKey]).length - keep) := by
  rw [limitVersions_eq, ← List.drop_append_of_le_length (Nat.sub_le _ _), List.drop_drop,
    List.length_drop]
  congr 1
  simp only [List.length_append, List.length_singleton]
  omega

section

variable {manager next : KeyManager} {environment : KeyEnvironment} {keyId : KeyId} {size : Nat}
  {algorithm : EncryptionAlgorithm} {oldKey : ManagedKey} {superseded : List ManagedKey}

theorem storeKey_of_no_fault {key : ManagedKey} (named : ¬ key.metadata.keyId.isEmpty = true)
    (fault : environment.storeFault = none) :
    manager.storeKey environment key =
      (.ok (), ({ manager with
        keys := Function.update manager.keys key.metadata.keyId (some key.key) } :
          KeyManager).cacheMetadata key.metadata.keyId key.metadata) := by
  unfold storeKey storageStore
  rw [fault]
  dsimp only
  rw [if_neg named]

theorem generateKey_of_not_generates (fails : ¬ Generates environment keyId size) :
    ∃ failure, manager.generateKey environment keyId size algorithm =
        (.error failure, manager) := by
  unfold generateKey newKey
  split
  · rename_i failure _
    exact ⟨failure, rfl⟩
  · rename_i made makes
    split at makes
    · contradiction
    · rename_i named
      split at makes
      · contradiction
      · rename_i bytes generated
        cases makes
        have nonempty : keyId ≠ [] := fun empty => named (List.isEmpty_iff.mpr empty)
        unfold storeNew storeKey
        cases fault : environment.storeFault with
        | some failure => exact ⟨failure, rfl⟩
        | none =>
            have generates : Generates environment keyId size :=
              ⟨nonempty, by rw [generated]; rfl, fault⟩
            exact absurd generates fails

theorem generateKey_of_generates (generates : Generates environment keyId size) :
    ∃ bytes, manager.generateKey environment keyId size algorithm =
      (.ok ⟨bytes, .create keyId none environment.createdAt, algorithm⟩,
        ({ manager with keys := Function.update manager.keys keyId (some bytes) } :
            KeyManager).cacheMetadata keyId (.create keyId none environment.createdAt)) := by
  obtain ⟨nonempty, random, fault⟩ := generates
  have named : ¬ keyId.isEmpty = true := fun empty => nonempty (List.isEmpty_iff.mp empty)
  unfold generateKey newKey
  cases generated : generateRandomBytes environment.random size with
  | error failure =>
      rw [generated] at random
      contradiction
  | ok bytes =>
      refine ⟨bytes, ?_⟩
      rw [if_neg named]
      dsimp only
      rw [storeNew, storeKey_of_no_fault named fault]
      rfl

theorem getKey_ok (gets : manager.getKey environment keyId = .ok oldKey) :
    ∃ metadata, manager.metadataCache keyId = some metadata ∧
      oldKey.metadata.version = metadata.version := by
  unfold getKey at gets
  split at gets
  · contradiction
  · unfold loadMetadata at gets
    split at gets
    · contradiction
    · rename_i metadata cached
      cases gets
      exact ⟨metadata, cached, rfl⟩

/-- The manager after a rotation that has succeeded. -/
def rotated (manager : KeyManager) (keyId : KeyId) (oldKey : ManagedKey) (bytes : Bytes)
    (now : Time) : KeyManager where
  keys := Function.update manager.keys keyId (some bytes)
  metadataCache := Function.update manager.metadataCache keyId
    (some { KeyMetadata.create keyId none now with version := oldKey.metadata.version + 1 })
  keyVersions := (manager.pushVersion keyId oldKey).keyVersions
  rotationPolicy := manager.rotationPolicy

theorem rotateKey_cases (manager : KeyManager) (environment : KeyEnvironment) (keyId : KeyId) :
    (∃ failure, manager.getKey environment keyId = .error failure ∧
      manager.rotateKey environment keyId = (.error failure, manager)) ∨
    ∃ oldKey, manager.getKey environment keyId = .ok oldKey ∧
      ((¬ Generates environment keyId oldKey.key.length ∧ ∃ failure,
          manager.rotateKey environment keyId =
            (.error failure, manager.pushVersion keyId oldKey)) ∨
        Generates environment keyId oldKey.key.length ∧ ∃ newKey bytes,
          manager.rotateKey environment keyId =
            (.ok newKey, manager.rotated keyId oldKey bytes environment.createdAt)) := by
  unfold rotateKey
  cases manager.getKey environment keyId with
  | error failure =>
      left
      exact ⟨failure, rfl, rfl⟩
  | ok oldKey =>
      right
      refine ⟨oldKey, rfl, ?_⟩
      dsimp only
      by_cases generates : Generates environment keyId oldKey.key.length
      · right
        obtain ⟨bytes, made⟩ := @generateKey_of_generates (manager.pushVersion keyId oldKey)
          environment keyId oldKey.key.length oldKey.algorithm generates
        refine ⟨generates, withVersion
          ⟨bytes, .create keyId none environment.createdAt, oldKey.algorithm⟩
          (oldKey.metadata.version + 1), bytes, ?_⟩
        rw [made]
        simp only [rotated, pushVersion, cacheMetadata, withVersion, Function.update_idem]
      · left
        obtain ⟨failure, fails⟩ := @generateKey_of_not_generates (manager.pushVersion keyId oldKey)
          environment keyId oldKey.key.length oldKey.algorithm generates
        refine ⟨generates, failure, ?_⟩
        rw [fails]

end

/-! ## The history along a run -/

section

variable {manager next : KeyManager} {environment : KeyEnvironment} {keyId : KeyId}
  {oldKey : ManagedKey} {superseded : List ManagedKey}

theorem KeepsHistory.congr
    (versions : next.getKeyVersions keyId = manager.getKeyVersions keyId)
    (keep : next.keep = manager.keep)
    (version : (next.metadataCache keyId).map (·.version) =
      (manager.metadataCache keyId).map (·.version))
    (keeps : KeepsHistory keyId manager superseded) : KeepsHistory keyId next superseded := by
  constructor
  · rw [versions, keep]
    exact keeps.versions_eq
  · rw [versions]
    exact keeps.consecutive
  · rw [versions]
    intro last mem
    obtain ⟨metadata, cached, follows⟩ := keeps.current last mem
    rw [cached] at version
    obtain ⟨other, found, same⟩ := Option.map_eq_some_iff.mp version
    exact ⟨other, found, follows.trans (congrArg UInt32.toNat same.symm)⟩

theorem keepsHistory_congr
    (versions : next.getKeyVersions keyId = manager.getKeyVersions keyId)
    (keep : next.keep = manager.keep)
    (version : (next.metadataCache keyId).map (·.version) =
      (manager.metadataCache keyId).map (·.version)) :
    KeepsHistory keyId next superseded ↔ KeepsHistory keyId manager superseded :=
  ⟨.congr versions.symm keep.symm version.symm, .congr versions keep version⟩

theorem KeepsHistory.follows (keeps : KeepsHistory keyId manager superseded)
    (gets : manager.getKey environment keyId = .ok oldKey) :
    ∀ last ∈ (manager.getKeyVersions keyId).getLast?,
      last.metadata.version.toNat + 1 = oldKey.metadata.version.toNat := by
  intro last mem
  obtain ⟨metadata, cached, follows⟩ := keeps.current last mem
  obtain ⟨other, found, same⟩ := getKey_ok gets
  obtain rfl := Option.some.inj (cached.symm.trans found)
  rw [same, follows]

theorem KeepsHistory.pushed (keeps : KeepsHistory keyId manager superseded)
    (oldKey : ManagedKey) :
    (manager.pushVersion keyId oldKey).getKeyVersions keyId =
      (superseded ++ [oldKey]).drop ((superseded ++ [oldKey]).length - manager.keep) := by
  have pushed : (manager.pushVersion keyId oldKey).getKeyVersions keyId =
      limitVersions manager.keep (manager.getKeyVersions keyId ++ [oldKey]) :=
    Function.update_self _ _ _
  rw [pushed, keeps.versions_eq, limitVersions_drop]

theorem getLast?_drop_concat (keep : Nat) :
    ((superseded ++ [oldKey]).drop ((superseded ++ [oldKey]).length - keep)).getLast? =
      if keep = 0 then none else some oldKey := by
  rw [List.getLast?_drop, List.getLast?_concat, List.length_append, List.length_singleton]
  split <;> split <;> first | rfl | omega

theorem keepsHistory_pushVersion_iff (keeps : KeepsHistory keyId manager superseded)
    (gets : manager.getKey environment keyId = .ok oldKey) :
    KeepsHistory keyId (manager.pushVersion keyId oldKey) superseded ↔ manager.keep = 0 := by
  constructor
  · intro after
    by_contra positive
    have last : (manager.getKeyVersions keyId).getLast? = some oldKey := by
      have same : (manager.pushVersion keyId oldKey).keep = manager.keep := rfl
      rw [keeps.versions_eq, ← same, ← after.versions_eq, keeps.pushed, getLast?_drop_concat,
        if_neg positive]
    have follows := keeps.follows gets oldKey last
    omega
  · intro zero
    have versions : (manager.pushVersion keyId oldKey).getKeyVersions keyId =
        manager.getKeyVersions keyId := by
      rw [keeps.pushed, keeps.versions_eq, zero]
      simp
    exact (keepsHistory_congr versions rfl rfl).mpr keeps

theorem KeepsHistory.consecutive_pushed (keeps : KeepsHistory keyId manager superseded)
    (gets : manager.getKey environment keyId = .ok oldKey) :
    ((manager.pushVersion keyId oldKey).getKeyVersions keyId).IsChain fun first second =>
      first.metadata.version.toNat + 1 = second.metadata.version.toNat := by
  have pushed : (manager.pushVersion keyId oldKey).getKeyVersions keyId =
      limitVersions manager.keep (manager.getKeyVersions keyId ++ [oldKey]) :=
    Function.update_self _ _ _
  have chain : (manager.getKeyVersions keyId ++ [oldKey]).IsChain fun first second =>
      first.metadata.version.toNat + 1 = second.metadata.version.toNat := by
    refine List.isChain_append.mpr ⟨keeps.consecutive, List.isChain_singleton _, ?_⟩
    intro last mem other only
    obtain rfl := Option.some.inj only
    exact keeps.follows gets last mem
  rw [pushed, limitVersions_eq]
  exact chain.suffix (List.drop_suffix _ _)

theorem keepsHistory_rotated_iff {bytes : Bytes} {now : Time}
    (keeps : KeepsHistory keyId manager superseded)
    (gets : manager.getKey environment keyId = .ok oldKey) :
    KeepsHistory keyId (manager.rotated keyId oldKey bytes now) (superseded ++ [oldKey]) ↔
      manager.keep = 0 ∨ oldKey.metadata.version.toNat + 1 < 2 ^ 32 := by
  have versions : (manager.rotated keyId oldKey bytes now).getKeyVersions keyId =
      (manager.pushVersion keyId oldKey).getKeyVersions keyId := rfl
  have cached : (manager.rotated keyId oldKey bytes now).metadataCache keyId =
      some { KeyMetadata.create keyId none now with version := oldKey.metadata.version + 1 } :=
    Function.update_self _ _ _
  have wraps : oldKey.metadata.version.toNat + 1 =
      (oldKey.metadata.version + 1).toNat ↔ oldKey.metadata.version.toNat + 1 < 2 ^ 32 := by
    rw [UInt32.toNat_add]
    have one : (1 : UInt32).toNat = 1 := rfl
    have bounded := oldKey.metadata.version.toNat_lt
    omega
  constructor
  · intro after
    by_cases zero : manager.keep = 0
    · exact Or.inl zero
    · right
      have last : ((manager.rotated keyId oldKey bytes now).getKeyVersions keyId).getLast? =
          some oldKey := by
        rw [versions, keeps.pushed, getLast?_drop_concat, if_neg zero]
      obtain ⟨metadata, found, follows⟩ := after.current oldKey last
      obtain rfl := Option.some.inj (cached.symm.trans found)
      exact wraps.mp follows
  · intro fits
    constructor
    · exact versions.trans (keeps.pushed oldKey)
    · rw [versions]
      exact keeps.consecutive_pushed gets
    · rw [versions, keeps.pushed, getLast?_drop_concat]
      intro last mem
      split at mem
      · contradiction
      · rename_i positive
        obtain rfl := Option.some.inj mem
        exact ⟨_, cached, wraps.mpr (fits.resolve_left positive)⟩

theorem keepsHistory_setRotationPolicy_iff {policy : KeyRotationPolicy}
    (keeps : KeepsHistory keyId manager superseded) :
    KeepsHistory keyId (manager.setRotationPolicy policy) superseded ↔
      min superseded.length policy.keepVersions.toNat = min superseded.length manager.keep := by
  constructor
  · intro after
    have lengths := congrArg List.length (keeps.versions_eq.symm.trans after.versions_eq)
    rw [List.length_drop, List.length_drop] at lengths
    have same : (manager.setRotationPolicy policy).keep = policy.keepVersions.toNat := rfl
    omega
  · intro same
    have length : superseded.length - manager.keep =
        superseded.length - policy.keepVersions.toNat := by omega
    refine ⟨?_, keeps.consecutive, keeps.current⟩
    exact keeps.versions_eq.trans (congrArg superseded.drop length)

theorem rotateKey_other {rotatedId : KeyId} (other : rotatedId ≠ keyId) :
    (manager.rotateKey environment rotatedId).2.getKeyVersions keyId =
        manager.getKeyVersions keyId ∧
      (manager.rotateKey environment rotatedId).2.metadataCache keyId =
        manager.metadataCache keyId ∧
      (manager.rotateKey environment rotatedId).2.rotationPolicy = manager.rotationPolicy := by
  rcases rotateKey_cases manager environment rotatedId with
    ⟨failure, -, fails⟩ | ⟨oldKey, -, ⟨-, failure, fails⟩ | ⟨-, newKey, bytes, succeeds⟩⟩
  · rw [fails]
    exact ⟨rfl, rfl, rfl⟩
  · rw [fails]
    exact ⟨Function.update_of_ne other.symm _ _, rfl, rfl⟩
  · rw [succeeds]
    exact ⟨Function.update_of_ne other.symm _ _, Function.update_of_ne other.symm _ _, rfl⟩

theorem recordUsage_version (usedId : KeyId) (now : Time) :
    ((manager.recordUsage usedId now).metadataCache keyId).map (·.version) =
      (manager.metadataCache keyId).map (·.version) := by
  unfold recordUsage
  cases cached : manager.metadataCache usedId with
  | none => rfl
  | some metadata =>
      unfold cacheMetadata
      dsimp only
      by_cases same : keyId = usedId
      · subst same
        rw [cached, Function.update_self]
        rfl
      · rw [Function.update_of_ne same]

theorem recordUsage_versions (usedId : KeyId) (now : Time) :
    (manager.recordUsage usedId now).getKeyVersions keyId = manager.getKeyVersions keyId ∧
      (manager.recordUsage usedId now).keep = manager.keep := by
  unfold recordUsage
  split <;> exact ⟨rfl, rfl⟩

theorem keepsHistory_rotateKey_iff (keeps : KeepsHistory keyId manager superseded)
    (environment : KeyEnvironment) :
    KeepsHistory keyId (manager.rotateKey environment keyId).2
        (superseded ++ (supersedes keyId manager (.rotateKey keyId environment)).toList) ↔
      Harmless keyId manager superseded (.rotateKey keyId environment) := by
  unfold supersedes Harmless
  dsimp only
  rcases rotateKey_cases manager environment keyId with
    ⟨failure, gets, fails⟩ | ⟨oldKey, gets, ⟨refuses, failure, fails⟩ |
      ⟨generates, newKey, bytes, succeeds⟩⟩
  · rw [fails, if_neg fun found => Bool.false_ne_true found.2, Option.toList_none, List.append_nil]
    apply iff_of_true keeps
    rintro - oldKey found
    rw [gets] at found
    contradiction
  · rw [fails, if_neg fun found => Bool.false_ne_true found.2, Option.toList_none, List.append_nil,
      keepsHistory_pushVersion_iff keeps gets]
    constructor
    · intro zero _ _ _
      exact Or.inl zero
    · intro harmless
      exact (harmless rfl oldKey gets).resolve_right fun makes => refuses makes.1
  · rw [succeeds, if_pos ⟨rfl, rfl⟩, gets]
    refine (keepsHistory_rotated_iff keeps gets).trans ?_
    constructor
    · intro fits _ other found
      obtain rfl := Except.ok.inj found
      exact fits.imp_right fun version => ⟨generates, version⟩
    · intro harmless
      exact (harmless rfl oldKey rfl).imp_right (·.2)

theorem keepsHistory_tracedStep_iff (keeps : KeepsHistory keyId manager superseded)
    (call : KeyCall) :
    KeepsHistory keyId (tracedStep keyId (manager, superseded) call).2.1
        (tracedStep keyId (manager, superseded) call).2.2 ↔
      Harmless keyId manager superseded call := by
  cases call with
  | getKey readId environment =>
      have next : (tracedStep keyId (manager, superseded) (.getKey readId environment)).2 =
          (manager, superseded ++ []) := rfl
      rw [next, List.append_nil]
      exact iff_of_true keeps trivial
  | recordUsage usedId now =>
      have next : (tracedStep keyId (manager, superseded) (.recordUsage usedId now)).2 =
          (manager.recordUsage usedId now, superseded ++ []) := rfl
      obtain ⟨versions, keep⟩ := @recordUsage_versions manager keyId usedId now
      rw [next, List.append_nil]
      apply iff_of_true _ trivial
      exact (keepsHistory_congr versions keep (recordUsage_version usedId now)).mpr keeps
  | setRotationPolicy policy =>
      have next : (tracedStep keyId (manager, superseded) (.setRotationPolicy policy)).2 =
          (manager.setRotationPolicy policy, superseded ++ []) := rfl
      rw [next, List.append_nil]
      exact keepsHistory_setRotationPolicy_iff keeps
  | rotateKey rotatedId environment =>
      by_cases same : rotatedId = keyId
      · subst same
        exact keepsHistory_rotateKey_iff keeps environment
      · have nothing : supersedes keyId manager (.rotateKey rotatedId environment) = none :=
          if_neg fun found => same found.1
        have next : (tracedStep keyId (manager, superseded) (.rotateKey rotatedId environment)).2 =
            ((manager.rotateKey environment rotatedId).2, superseded ++ []) :=
          congrArg (fun added => (_, superseded ++ Option.toList added)) nothing
        obtain ⟨versions, cached, policy⟩ := @rotateKey_other manager environment keyId _ same
        rw [next, List.append_nil]
        apply iff_of_true _ fun found => absurd found same
        exact (keepsHistory_congr versions (congrArg (·.keepVersions.toNat) policy)
          (congrArg _ cached)).mpr keeps

theorem unchangedOnError_of_harmless (keeps : KeepsHistory keyId manager superseded)
    {call : KeyCall} (harmless : Harmless keyId manager superseded call) :
    UnchangedOnError keyId manager call := by
  cases call with
  | getKey readId environment => exact trivial
  | recordUsage usedId now => exact trivial
  | setRotationPolicy policy => exact trivial
  | rotateKey rotatedId environment =>
      rintro rfl failure fails
      rcases rotateKey_cases manager environment rotatedId with
        ⟨_, -, result⟩ | ⟨oldKey, gets, ⟨refuses, _, result⟩ | ⟨-, newKey, bytes, result⟩⟩
      · rw [result]
        exact ⟨rfl, rfl, rfl⟩
      · have zero := (harmless rfl oldKey gets).resolve_right fun makes => refuses makes.1
        have after := (keepsHistory_pushVersion_iff keeps gets).mpr zero
        rw [result]
        exact ⟨rfl, rfl, after.versions_eq.trans keeps.versions_eq.symm⟩
      · rw [result] at fails
        contradiction

end

/-- In every run of a manager without a history of the key: in every state the history is the
end of the list of superseded keys, and every rotation that fails leaves everything, exactly if
all operations are harmless. -/
theorem keepsHistory_iff (keyId : KeyId) (manager : KeyManager)
    (initial : manager.getKeyVersions keyId = []) (calls : List KeyCall) :
    (∀ before after, calls = before ++ after →
      KeepsHistory keyId (final (tracedStep keyId) (manager, []) before).1
          (final (tracedStep keyId) (manager, []) before).2 ∧
        ∀ call rest, after = call :: rest →
          UnchangedOnError keyId (final (tracedStep keyId) (manager, []) before).1 call) ↔
    Guarded (tracedStep keyId) (fun state call => Harmless keyId state.1 state.2 call)
      (manager, []) calls := by
  have empty : KeepsHistory keyId manager [] := by
    refine ⟨initial.trans List.drop_nil.symm, ?_, ?_⟩
    · rw [initial]
      exact List.isChain_nil
    · rw [initial]
      intro last mem
      contradiction
  have guarded := @forall_prefix_iff_guarded _ _ _ (tracedStep keyId) (manager, [])
    (fun state call => Harmless keyId state.1 state.2 call)
    (fun state => KeepsHistory keyId state.1 state.2)
    (fun state call keeps => keepsHistory_tracedStep_iff keeps call) empty calls
  constructor
  · intro every
    exact guarded.mp fun before after split => (every before after split).1
  · intro harmless before after split
    have keeps := guarded.mpr harmless before after split
    refine ⟨keeps, ?_⟩
    rintro call rest rfl
    exact unchangedOnError_of_harmless keeps
      (guarded_iff_forall_split.mp harmless before call rest split)

/-! ## Histories that are not kept -/

namespace RotationSample

/-- Surroundings where everything goes through. -/
def working : KeyEnvironment where
  storeFault := none
  retrieveFault := none
  removeFault := none
  random := ConfiguredEngine.SizeSample.random
  usedAt := 5
  createdAt := 6

/-- Surroundings without random bytes. -/
def withoutRandom : KeyEnvironment :=
  { working with random := .failing }

/-- The identifier of the key. -/
def keyId : KeyId :=
  [1]

def manager : KeyManager where
  keys := fun _ => some [9]
  metadataCache := fun _ => some (.create keyId none 0)
  keyVersions := fun _ => []
  rotationPolicy := ⟨3⟩

/-- Two rotations. -/
def rotations : List KeyCall :=
  [.rotateKey keyId working, .recordUsage keyId 7, .rotateKey keyId working]

end RotationSample

open RotationSample in
theorem keepsHistory_sample :
    KeepsHistory keyId (final (tracedStep keyId) (manager, []) rotations).1
      (final (tracedStep keyId) (manager, []) rotations).2 := by
  refine ((keepsHistory_iff keyId manager rfl rotations).mpr ?_ rotations [] rfl).1
  refine ⟨?_, trivial, ?_, trivial⟩
  · rintro - oldKey gets
    cases gets
    right
    exact ⟨by decide, by decide⟩
  · rintro - oldKey gets
    cases gets
    right
    exact ⟨by decide, by decide⟩

open RotationSample in
/-- A rotation that fails puts the key into its own history; a policy that keeps more than
before, or fewer, leaves the history as it is. -/
theorem history_broken :
    (manager.rotateKey withoutRandom keyId).1 =
      unexpected .internalError "Failed to generate random bytes" ∧
    ¬ UnchangedOnError keyId manager (.rotateKey keyId withoutRandom) ∧
    (manager.rotateKey withoutRandom keyId).2.getKeyVersions keyId ≠ [] ∧
    ¬ KeepsHistory keyId
      (final (tracedStep keyId) (manager.setRotationPolicy ⟨1⟩, [])
        (rotations ++ [.setRotationPolicy ⟨3⟩])).1
      (final (tracedStep keyId) (manager.setRotationPolicy ⟨1⟩, [])
        (rotations ++ [.setRotationPolicy ⟨3⟩])).2 ∧
    ¬ KeepsHistory keyId
      (final (tracedStep keyId) (manager, []) (rotations ++ [.setRotationPolicy ⟨1⟩])).1
      (final (tracedStep keyId) (manager, []) (rotations ++ [.setRotationPolicy ⟨1⟩])).2 := by
  refine ⟨rfl, ?_, by decide, ?_, ?_⟩
  · intro unchanged
    have versions := (unchanged rfl _ rfl).2.2
    revert versions
    decide
  · intro keeps
    have versions := keeps.versions_eq
    revert versions
    decide
  · intro keeps
    have versions := keeps.versions_eq
    revert versions
    decide

/-! ## When a rotation is due -/

/-- What `needs_rotation` reads of `key_rotation_policy`. -/
structure RotationTriggers where
  autoRotate : Bool
  maxUses : UInt64
  maxAge : Int

/-- `needs_rotation`, which looks at the clock for the age and once more for the expiration. -/
def needsRotation (manager : KeyManager) (triggers : RotationTriggers) (keyId : KeyId)
    (now later : Time) : Bool :=
  match manager.metadataCache keyId with
  | none => false
  | some metadata =>
      triggers.autoRotate &&
        (triggers.maxUses ≤ metadata.usageCount || triggers.maxAge ≤ now - metadata.createdAt ||
          metadata.expiresAt.any (· ≤ later))

/-- The operation records a use of the key. -/
def KeyCall.records (keyId : KeyId) : KeyCall → Bool
  | .recordUsage usedId _ => usedId = keyId
  | _ => false

/-- The operation rotates the key. -/
def KeyCall.rotates (keyId : KeyId) : KeyCall → Bool
  | .rotateKey rotatedId _ => rotatedId = keyId
  | _ => false

/-- The key is as old as the time says, and was used so often. -/
def Used (keyId : KeyId) (createdAt : Time) (uses : Nat) (manager : KeyManager) : Prop :=
  ∃ metadata, manager.metadataCache keyId = some metadata ∧ metadata.createdAt = createdAt ∧
    metadata.expiresAt = none ∧ metadata.usageCount = UInt64.ofNat uses

section

variable {manager : KeyManager} {environment : KeyEnvironment} {keyId : KeyId} {createdAt : Time}
  {uses : Nat}

theorem Used.step (used : Used keyId createdAt uses manager) {call : KeyCall}
    (keeps : call.rotates keyId = false) :
    Used keyId createdAt (uses + (call.records keyId).toNat) (step manager call).2 := by
  obtain ⟨metadata, cached, created, expires, count⟩ := used
  cases call with
  | rotateKey rotatedId environment =>
      have other : rotatedId ≠ keyId := of_decide_eq_false keeps
      exact ⟨metadata, (rotateKey_other other).2.1.trans cached, created, expires, count⟩
  | getKey readId environment => exact ⟨metadata, cached, created, expires, count⟩
  | setRotationPolicy policy => exact ⟨metadata, cached, created, expires, count⟩
  | recordUsage usedId now =>
      by_cases same : usedId = keyId
      · subst same
        refine ⟨{ metadata with usageCount := metadata.usageCount + 1, lastUsedAt := now }, ?_,
          created, expires, ?_⟩
        · simp only [KeyManager.step, recordUsage, cached]
          exact Function.update_self _ _ _
        · simp [KeyCall.records, count]
      · refine ⟨metadata, ?_, created, expires, ?_⟩
        · simp only [KeyManager.step, recordUsage]
          split
          · exact cached
          · exact (Function.update_of_ne (Ne.symm same) _ _).trans cached
        · simp [KeyCall.records, same, count]

theorem Used.final (used : Used keyId createdAt uses manager) {calls : List KeyCall}
    (keep : ∀ call ∈ calls, call.rotates keyId = false) :
    Used keyId createdAt (uses + calls.countP (·.records keyId))
      (Transition.final KeyManager.step manager calls) := by
  induction calls generalizing manager uses with
  | nil => exact used
  | cons call rest ih =>
      have next := ih (used.step (keep call List.mem_cons_self))
        fun later mem => keep later (List.mem_cons_of_mem call mem)
      have counts : uses + (call :: rest).countP (·.records keyId) =
          uses + (call.records keyId).toNat + rest.countP (·.records keyId) := by
        rw [List.countP_cons]
        cases call.records keyId <;> simp
        omega
      rw [final_cons, counts]
      exact next

theorem used_rotateKey {rotated : ManagedKey}
    (rotates : (manager.rotateKey environment keyId).1 = .ok rotated) :
    Used keyId environment.createdAt 0 (manager.rotateKey environment keyId).2 := by
  rcases rotateKey_cases manager environment keyId with
    ⟨failure, -, fails⟩ | ⟨oldKey, -, ⟨-, failure, fails⟩ | ⟨-, newKey, bytes, succeeds⟩⟩
  · rw [fails] at rotates
    contradiction
  · rw [fails] at rotates
    contradiction
  · rw [succeeds]
    exact ⟨_, Function.update_self _ _ _, rfl, rfl, rfl⟩

/-- After a rotation, and operations that do not rotate the key again, the next one is due exactly
if enough uses were recorded or enough time has passed; to get the key is no use. -/
theorem needsRotation_after_rotateKey {rotated : ManagedKey}
    (rotates : (manager.rotateKey environment keyId).1 = .ok rotated) {calls : List KeyCall}
    (keep : ∀ call ∈ calls, call.rotates keyId = false) (triggers : RotationTriggers)
    (now later : Time) :
    needsRotation (final KeyManager.step (manager.rotateKey environment keyId).2 calls) triggers
        keyId now later = true ↔
      triggers.autoRotate = true ∧
        (triggers.maxUses.toNat ≤ calls.countP (·.records keyId) % 2 ^ 64 ∨
          triggers.maxAge ≤ now - environment.createdAt) := by
  obtain ⟨metadata, cached, created, expires, count⟩ := (used_rotateKey rotates).final keep
  rw [Nat.zero_add] at count
  simp only [needsRotation, cached, created, expires, count, Option.any_none, Bool.or_false,
    Bool.and_eq_true, Bool.or_eq_true, decide_eq_true_eq, UInt64.le_iff_toNat_le,
    UInt64.toNat_ofNat']

end

open RotationSample in
example :
    needsRotation
      (final KeyManager.step (manager.rotateKey working keyId).2
        [.getKey keyId working, .recordUsage keyId 7]) ⟨true, 1, 100⟩ keyId 8 9 = true :=
  (needsRotation_after_rotateKey rfl (by decide) _ _ _).mpr ⟨rfl, .inl (by decide)⟩

end KeyManager

end FileTrans.Encryption
