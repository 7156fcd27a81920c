import FileTrans.Encryption.KeyManager
import FileTrans.Transition.Run

/-!
# Threads that use the key manager

An operation of the manager is a sequence of calls to the storage and critical
sections.  A thread takes one of them in a step, and other threads take theirs
in between; the storage works and fails only where a key is missing or the
identifier empty.
-/

namespace FileTrans.Encryption

open FileTrans.Core FileTrans.Transition

/-- An operation of the manager. -/
inductive KeyOperation where
  | storeKey (key : ManagedKey)
  | generateKey (keyId : KeyId) (size : Nat) (algorithm : EncryptionAlgorithm)
  | deleteKey (keyId : KeyId)
  | rotateKey (keyId : KeyId)
  | getKey (keyId : KeyId)

/-- For whom a key is stored: `store_key`, `generate_key`, or `rotate_key` with the version of the
new key. -/
inductive StoredFor where
  | store
  | generate
  | rotate (version : UInt32)
  deriving DecidableEq

/-- What an operation does next. -/
inductive KeyStage where
  /-- `generate_key` makes a key. -/
  | generating (keyId : KeyId) (size : Nat) (algorithm : EncryptionAlgorithm) (goal : StoredFor)
  /-- `store_key` calls the storage. -/
  | storing (key : ManagedKey) (goal : StoredFor)
  /-- `store_key` writes the metadata. -/
  | caching (key : ManagedKey) (goal : StoredFor)
  /-- `rotate_key` writes the metadata. -/
  | updating (key : ManagedKey)
  /-- `delete_key` calls the storage. -/
  | removing (keyId : KeyId)
  /-- `delete_key` erases the metadata and the history. -/
  | erasing (keyId : KeyId)
  /-- `get_key` calls the storage. -/
  | retrieving (keyId : KeyId) (rotates : Bool)
  /-- `get_key` reads the metadata. -/
  | loading (keyId : KeyId) (key : Bytes) (rotates : Bool)
  /-- `rotate_key` writes to the history. -/
  | pushing (keyId : KeyId) (oldKey : ManagedKey)
  deriving DecidableEq

/-- After a step an operation goes on, or it returns. -/
inductive KeyProgress where
  | goes (stage : KeyStage)
  | returns (answer : Result (Option ManagedKey))

/-- Where an operation begins. -/
def KeyOperation.first : KeyOperation → KeyStage
  | .storeKey key => .storing key .store
  | .generateKey keyId size algorithm => .generating keyId size algorithm .generate
  | .deleteKey keyId => .removing keyId
  | .rotateKey keyId => .retrieving keyId true
  | .getKey keyId => .retrieving keyId false

/-- Where an operation is that has not returned. -/
def KeyProgress.stage : KeyProgress → Option KeyStage
  | .goes stage => some stage
  | .returns _ => none

namespace KeyManager

/-- What follows the metadata of a stored key. -/
def afterCaching (key : ManagedKey) : StoredFor → KeyProgress
  | .store => .returns (.ok none)
  | .generate => .returns (.ok (some key))
  | .rotate version => .goes (.updating (withVersion key version))

/-- One call to the storage, or one critical section. -/
def stageStep (environment : KeyEnvironment) (manager : KeyManager) :
    KeyStage → KeyProgress × KeyManager
  | .generating keyId size algorithm goal =>
      match newKey environment keyId size algorithm with
      | .error failure => (.returns (.error failure), manager)
      | .ok key => (.goes (.storing key goal), manager)
  | .storing key goal =>
      match manager.storageStore environment.storeFault key.metadata.keyId key.key with
      | (.error failure, after) => (.returns (.error failure), after)
      | (.ok (), stored) => (.goes (.caching key goal), stored)
  | .caching key goal =>
      (afterCaching key goal, manager.cacheMetadata key.metadata.keyId key.metadata)
  | .updating key =>
      (.returns (.ok (some key)), manager.cacheMetadata key.metadata.keyId key.metadata)
  | .removing keyId =>
      match manager.storageRemove environment.removeFault keyId with
      | (.error failure, after) => (.returns (.error failure), after)
      | (.ok (), removed) => (.goes (.erasing keyId), removed)
  | .erasing keyId => (.returns (.ok none), manager.forgetKey keyId)
  | .retrieving keyId rotates =>
      match manager.storageRetrieve environment.retrieveFault keyId with
      | .error failure => (.returns (.error failure), manager)
      | .ok key => (.goes (.loading keyId key rotates), manager)
  | .loading keyId key rotates =>
      match manager.loadMetadata keyId key environment.usedAt with
      | .error failure => (.returns (.error failure), manager)
      | .ok oldKey =>
          if rotates then (.goes (.pushing keyId oldKey), manager)
          else (.returns (.ok (some oldKey)), manager)
  | .pushing keyId oldKey =>
      (.goes (.generating keyId oldKey.key.length oldKey.algorithm
        (.rotate (oldKey.metadata.version + 1))), manager.pushVersion keyId oldKey)

/-! ## One thread -/

/-- The steps of an operation without others in between, up to a number of them. -/
def finish (environment : KeyEnvironment) :
    Nat → KeyManager → KeyStage → Option (Result (Option ManagedKey) × KeyManager)
  | 0, _, _ => none
  | steps + 1, manager, stage =>
      match stageStep environment manager stage with
      | (.returns answer, after) => some (answer, after)
      | (.goes next, after) => finish environment steps after next

section

variable (manager : KeyManager) (environment : KeyEnvironment)

theorem finish_storeKey (key : ManagedKey) :
    finish environment 2 manager (KeyOperation.storeKey key).first =
      some (((manager.storeKey environment key).1.map fun _ => none),
        (manager.storeKey environment key).2) := by
  unfold storeKey
  simp only [KeyOperation.first, finish, stageStep, afterCaching]
  rcases manager.storageStore environment.storeFault key.metadata.keyId key.key with
    ⟨_ | _, after⟩ <;> rfl

theorem finish_getKey (keyId : KeyId) :
    finish environment 2 manager (KeyOperation.getKey keyId).first =
      some ((manager.getKey environment keyId).map some, manager) := by
  unfold getKey
  simp only [KeyOperation.first, finish, stageStep]
  cases manager.storageRetrieve environment.retrieveFault keyId with
  | error failure => rfl
  | ok key =>
      dsimp only
      cases manager.loadMetadata keyId key environment.usedAt with
      | error failure => rfl
      | ok oldKey => rfl

theorem finish_deleteKey (keyId : KeyId) :
    finish environment 2 manager (KeyOperation.deleteKey keyId).first =
      some (((manager.deleteKey environment keyId).1.map fun _ => none),
        (manager.deleteKey environment keyId).2) := by
  unfold deleteKey
  simp only [KeyOperation.first, finish, stageStep]
  rcases manager.storageRemove environment.removeFault keyId with ⟨_ | _, after⟩ <;> rfl

theorem finish_generateKey (keyId : KeyId) (size : Nat) (algorithm : EncryptionAlgorithm) :
    finish environment 3 manager (KeyOperation.generateKey keyId size algorithm).first =
      some ((manager.generateKey environment keyId size algorithm).1.map some,
        (manager.generateKey environment keyId size algorithm).2) := by
  unfold generateKey storeNew storeKey
  simp only [KeyOperation.first, finish, stageStep, afterCaching]
  cases newKey environment keyId size algorithm with
  | error failure => rfl
  | ok key =>
      dsimp only
      rcases manager.storageStore environment.storeFault key.metadata.keyId key.key with
        ⟨_ | _, after⟩ <;> rfl

variable {environment} in
theorem keyId_of_newKey {keyId : KeyId} {size : Nat} {algorithm : EncryptionAlgorithm}
    {key : ManagedKey} (makes : newKey environment keyId size algorithm = .ok key) :
    key.metadata.keyId = keyId := by
  unfold newKey at makes
  split at makes
  · contradiction
  · split at makes
    · contradiction
    · cases makes
      rfl

theorem finish_rotateKey (keyId : KeyId) :
    finish environment 7 manager (KeyOperation.rotateKey keyId).first =
      some ((manager.rotateKey environment keyId).1.map some,
        (manager.rotateKey environment keyId).2) := by
  unfold rotateKey getKey
  simp only [KeyOperation.first, finish, stageStep, afterCaching]
  cases manager.storageRetrieve environment.retrieveFault keyId with
  | error failure => rfl
  | ok bytes =>
      dsimp only
      cases manager.loadMetadata keyId bytes environment.usedAt with
      | error failure => rfl
      | ok oldKey =>
          simp only [generateKey, if_true]
          cases makes : newKey environment keyId oldKey.key.length oldKey.algorithm with
          | error failure => rfl
          | ok key =>
              have named := keyId_of_newKey makes
              simp only [storeNew, storeKey]
              rcases (manager.pushVersion keyId oldKey).storageStore environment.storeFault
                key.metadata.keyId key.key with ⟨_ | _, after⟩
              · rfl
              · simp only [withVersion, named]
                rfl

end

end KeyManager

/-! ## Many threads -/

/-- An operation in progress: its stage, and when it has started. -/
structure KeyActivity where
  stage : KeyStage
  started : Nat

/-- For each key when operations have started: the last of those that have deleted it, the one
that has stored it, the one that has written its metadata and the one that has written to its
history. -/
structure KeyRecord where
  deleted : KeyId → Nat
  stored : KeyId → Nat
  cached : KeyId → Nat
  pushed : KeyId → Nat

/-- The manager with the threads that use it; the clock counts the operations that have
started. -/
structure SharedManager (Thread : Type) where
  manager : KeyManager
  activity : Thread → Option KeyActivity
  clock : Nat
  record : KeyRecord

/-- A thread starts an operation, or takes its next step. -/
inductive KeyInput (Thread : Type) where
  | start (thread : Thread) (operation : KeyOperation)
  | advance (thread : Thread) (random : RandomSource) (now : Time)

/-- Surroundings where the storage works. -/
def KeyEnvironment.working (random : RandomSource) (now : Time) : KeyEnvironment where
  storeFault := none
  retrieveFault := none
  removeFault := none
  random := random
  usedAt := now
  createdAt := now

/-- What a step does to the manager. -/
inductive KeyEffect where
  | nothing
  | store (keyId : KeyId) (key : Bytes)
  | cache (keyId : KeyId) (metadata : KeyMetadata)
  | remove (keyId : KeyId)
  | erase (keyId : KeyId)
  | push (keyId : KeyId) (oldKey : ManagedKey)

namespace KeyStage

/-- What the next step does to the manager, where the storage works. -/
def effect (manager : KeyManager) : KeyStage → KeyEffect
  | .storing key _ =>
      if key.metadata.keyId.isEmpty then .nothing else .store key.metadata.keyId key.key
  | .caching key _ => .cache key.metadata.keyId key.metadata
  | .updating key => .cache key.metadata.keyId key.metadata
  | .removing keyId => if (manager.keys keyId).isSome then .remove keyId else .nothing
  | .erasing keyId => .erase keyId
  | .pushing keyId oldKey => .push keyId oldKey
  | .generating _ _ _ _ | .retrieving _ _ | .loading _ _ _ => .nothing

/-- The operation has stored the key and not written all of its metadata. -/
def Writes (keyId : KeyId) : KeyStage → Prop
  | .caching key _ => key.metadata.keyId = keyId
  | .updating key => key.metadata.keyId = keyId
  | _ => False

/-- The operation has removed the key and not erased its metadata. -/
def Erases (keyId : KeyId) : KeyStage → Prop
  | .erasing erasedId => erasedId = keyId
  | _ => False

end KeyStage

namespace KeyEffect

/-- The key of a step that does something. -/
def keyId : KeyEffect → Option KeyId
  | .nothing => none
  | .store keyId _ | .cache keyId _ | .remove keyId | .erase keyId | .push keyId _ => some keyId

/-- The manager after a step. -/
def apply (manager : KeyManager) : KeyEffect → KeyManager
  | .nothing => manager
  | .store keyId key => { manager with keys := Function.update manager.keys keyId (some key) }
  | .cache keyId metadata => manager.cacheMetadata keyId metadata
  | .remove keyId => { manager with keys := Function.update manager.keys keyId none }
  | .erase keyId => manager.forgetKey keyId
  | .push keyId oldKey => manager.pushVersion keyId oldKey

/-- The record after a step of an operation. -/
def note (record : KeyRecord) (started : Nat) : KeyEffect → KeyRecord
  | .store keyId _ => { record with stored := Function.update record.stored keyId started }
  | .cache keyId _ => { record with cached := Function.update record.cached keyId started }
  | .push keyId _ => { record with pushed := Function.update record.pushed keyId started }
  | .erase keyId =>
      { record with
        deleted := Function.update record.deleted keyId (max (record.deleted keyId) started) }
  | .nothing | .remove _ => record

end KeyEffect

namespace SharedManager

variable {Thread : Type}

/-- Before the first operation. -/
def initial (manager : KeyManager) : SharedManager Thread where
  manager := manager
  activity := fun _ => none
  clock := 1
  record := ⟨fun _ => 0, fun _ => 0, fun _ => 0, fun _ => 0⟩

variable [DecidableEq Thread]

/-- A thread starts an operation. -/
def start (shared : SharedManager Thread) (thread : Thread) (operation : KeyOperation) :
    SharedManager Thread :=
  { shared with
    activity := Function.update shared.activity thread (some ⟨operation.first, shared.clock⟩)
    clock := shared.clock + 1 }

/-- A thread takes the next step of its operation. -/
def advance (shared : SharedManager Thread) (thread : Thread) (environment : KeyEnvironment)
    (activity : KeyActivity) : SharedManager Thread :=
  let next := KeyManager.stageStep environment shared.manager activity.stage
  { shared with
    manager := next.2
    activity := Function.update shared.activity thread
      (next.1.stage.map fun stage => ⟨stage, activity.started⟩)
    record := (activity.stage.effect shared.manager).note shared.record activity.started }

/-- One step; a thread runs one operation at a time. -/
def step : Step (SharedManager Thread) (KeyInput Thread) Unit
  | shared, .start thread operation =>
      match shared.activity thread with
      | some _ => ((), shared)
      | none => ((), shared.start thread operation)
  | shared, .advance thread random now =>
      match shared.activity thread with
      | some activity => ((), shared.advance thread (.working random now) activity)
      | none => ((), shared)

end SharedManager

/-! ## What a step does -/

section

variable {manager : KeyManager} {random : RandomSource} {now : Time} {keyId : KeyId}
  {stage next : KeyStage}

theorem stageStep_storing (key : ManagedKey) (goal : StoredFor) :
    KeyManager.stageStep (.working random now) manager (.storing key goal) =
      if key.metadata.keyId.isEmpty then
        (.returns (unexpected .invalidConfiguration "Empty key ID"), manager)
      else
        (.goes (.caching key goal),
          { manager with
            keys := Function.update manager.keys key.metadata.keyId (some key.key) }) := by
  simp only [KeyManager.stageStep, KeyManager.storageStore, KeyEnvironment.working]
  by_cases empty : key.metadata.keyId.isEmpty = true
  · rw [if_pos empty, if_pos empty]
    rfl
  · rw [if_neg empty, if_neg empty]

theorem stageStep_removing (keyId : KeyId) :
    KeyManager.stageStep (.working random now) manager (.removing keyId) =
      if (manager.keys keyId).isSome then
        (.goes (.erasing keyId), { manager with keys := Function.update manager.keys keyId none })
      else (.returns (.error (KeyManager.keyNotFound keyId)), manager) := by
  simp only [KeyManager.stageStep, KeyManager.storageRemove, KeyEnvironment.working]
  cases manager.keys keyId with
  | none => rfl
  | some key => rfl

theorem stageStep_manager :
    (KeyManager.stageStep (.working random now) manager stage).2 =
      (stage.effect manager).apply manager := by
  cases stage with
  | storing key goal =>
      rw [stageStep_storing, KeyStage.effect]
      split <;> rfl
  | removing keyId =>
      rw [stageStep_removing, KeyStage.effect]
      split <;> rfl
  | generating keyId size algorithm goal =>
      unfold KeyManager.stageStep
      dsimp only
      split <;> rfl
  | retrieving keyId rotates =>
      unfold KeyManager.stageStep
      dsimp only
      split <;> rfl
  | loading keyId key rotates =>
      unfold KeyManager.stageStep
      dsimp only
      split
      · rfl
      · split <;> rfl
  | caching key goal => rfl
  | updating key => rfl
  | erasing keyId => rfl
  | pushing keyId oldKey => rfl

theorem window_of_stageStep
    (goes : (KeyManager.stageStep (.working random now) manager stage).1.stage = some next) :
    (next.Writes keyId → (∃ key, stage.effect manager = .store keyId key) ∨ stage.Writes keyId) ∧
      (next.Erases keyId → stage.effect manager = .remove keyId) := by
  cases stage with
  | storing key goal =>
      rw [stageStep_storing] at goes
      split at goes
      · contradiction
      · rename_i named
        obtain rfl := Option.some.inj goes
        refine ⟨?_, False.elim⟩
        rintro rfl
        exact Or.inl ⟨key.key, if_neg named⟩
  | caching key goal =>
      cases goal with
      | store => contradiction
      | generate => contradiction
      | rotate version =>
          obtain rfl := Option.some.inj goes
          exact ⟨Or.inr, False.elim⟩
  | removing removedId =>
      rw [stageStep_removing] at goes
      split at goes
      · rename_i present
        obtain rfl := Option.some.inj goes
        refine ⟨False.elim, ?_⟩
        rintro rfl
        exact if_pos present
      · contradiction
  | generating newId size algorithm goal =>
      unfold KeyManager.stageStep at goes
      dsimp only at goes
      split at goes
      · contradiction
      · obtain rfl := Option.some.inj goes
        exact ⟨False.elim, False.elim⟩
  | retrieving readId rotates =>
      unfold KeyManager.stageStep at goes
      dsimp only at goes
      split at goes
      · contradiction
      · obtain rfl := Option.some.inj goes
        exact ⟨False.elim, False.elim⟩
  | loading readId key rotates =>
      unfold KeyManager.stageStep at goes
      dsimp only at goes
      split at goes
      · contradiction
      · split at goes
        · obtain rfl := Option.some.inj goes
          exact ⟨False.elim, False.elim⟩
        · contradiction
  | pushing pushedId oldKey =>
      obtain rfl := Option.some.inj goes
      exact ⟨False.elim, False.elim⟩
  | updating key => contradiction
  | erasing erasedId => contradiction

theorem writes_of_store {key : Bytes} (stores : stage.effect manager = .store keyId key) :
    ∃ next, (KeyManager.stageStep (.working random now) manager stage).1.stage = some next ∧
      next.Writes keyId := by
  cases stage with
  | storing newKey goal =>
      unfold KeyStage.effect at stores
      dsimp only at stores
      split at stores
      · contradiction
      · rename_i named
        cases stores
        rw [stageStep_storing, if_neg named]
        exact ⟨_, rfl, rfl⟩
  | removing removedId =>
      unfold KeyStage.effect at stores
      dsimp only at stores
      split at stores <;> contradiction
  | _ => contradiction

theorem erases_of_remove (removes : stage.effect manager = .remove keyId) :
    ∃ next, (KeyManager.stageStep (.working random now) manager stage).1.stage = some next ∧
      next.Erases keyId := by
  cases stage with
  | storing newKey goal =>
      unfold KeyStage.effect at removes
      dsimp only at removes
      split at removes <;> contradiction
  | removing removedId =>
      unfold KeyStage.effect at removes
      dsimp only at removes
      split at removes
      · rename_i present
        cases removes
        rw [stageStep_removing, if_pos present]
        exact ⟨_, rfl, rfl⟩
      · contradiction
  | _ => contradiction

theorem effect_of_writes (writes : stage.Writes keyId) :
    ∃ metadata, stage.effect manager = .cache keyId metadata := by
  cases stage with
  | caching key goal =>
      obtain rfl : key.metadata.keyId = keyId := writes
      exact ⟨key.metadata, rfl⟩
  | updating key =>
      obtain rfl : key.metadata.keyId = keyId := writes
      exact ⟨key.metadata, rfl⟩
  | _ => exact writes.elim

theorem effect_of_erases (erases : stage.Erases keyId) :
    stage.effect manager = .erase keyId := by
  cases stage with
  | erasing erasedId =>
      obtain rfl : erasedId = keyId := erases
      rfl
  | _ => exact erases.elim

theorem writes_of_cache {metadata : KeyMetadata}
    (caches : stage.effect manager = .cache keyId metadata) : stage.Writes keyId := by
  cases stage with
  | caching key goal =>
      cases caches
      rfl
  | updating key =>
      cases caches
      rfl
  | storing key goal =>
      unfold KeyStage.effect at caches
      dsimp only at caches
      split at caches <;> contradiction
  | removing removedId =>
      unfold KeyStage.effect at caches
      dsimp only at caches
      split at caches <;> contradiction
  | _ => contradiction

theorem erases_of_erase (erases : stage.effect manager = .erase keyId) :
    stage.Erases keyId := by
  cases stage with
  | erasing erasedId =>
      cases erases
      rfl
  | storing key goal =>
      unfold KeyStage.effect at erases
      dsimp only at erases
      split at erases <;> contradiction
  | removing removedId =>
      unfold KeyStage.effect at erases
      dsimp only at erases
      split at erases <;> contradiction
  | _ => contradiction

end

end FileTrans.Encryption
