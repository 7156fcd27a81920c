import FileTrans.Encryption.KeyRotation

/-!
# Keys that are stored and fetched

`get_key` puts a key together again from its bytes and its metadata, and counts
a use in the copy that it gives.  The algorithm is in neither store: the copy
has that of the engine, and a rotation takes it from the copy.
-/

namespace FileTrans.Encryption

open FileTrans.Core FileTrans.Transition

namespace KeyManager

/-- The key as it was stored, used once more. -/
structure FetchedAs (stored found : ManagedKey) (now : Time) : Prop where
  key : found.key = stored.key
  metadata : found.metadata =
    { stored.metadata with lastUsedAt := now, usageCount := stored.metadata.usageCount + 1 }
  algorithm : stored.algorithm = .aes256Gcm → found.algorithm = stored.algorithm

/-- The manager has the bytes and the metadata of the key. -/
structure Holds (manager : KeyManager) (key : ManagedKey) : Prop where
  bytes : manager.keys key.metadata.keyId = some key.key
  metadata : manager.metadataCache key.metadata.keyId = some key.metadata

/-- The operation neither rotates the key nor records a use of it. -/
def Leaves (keyId : KeyId) : KeyCall → Prop
  | .rotateKey other _ => other ≠ keyId
  | .recordUsage other _ => other ≠ keyId
  | _ => True

section

variable {manager : KeyManager} {environment later : KeyEnvironment} {keyId : KeyId} {size : Nat}
  {algorithm : EncryptionAlgorithm} {key found made rotated : ManagedKey}

theorem holds_storeKey (stored : (manager.storeKey environment key).1 = .ok ()) :
    (manager.storeKey environment key).2.Holds key := by
  have refused (failure : Error) (fails : manager.storageStore environment.storeFault
      key.metadata.keyId key.key = (.error failure, manager)) : False := by
    unfold storeKey at stored
    rw [fails] at stored
    contradiction
  cases fault : environment.storeFault with
  | some failure =>
      rw [fault] at refused
      exact (refused failure rfl).elim
  | none =>
      by_cases unnamed : key.metadata.keyId.isEmpty = true
      · rw [fault] at refused
        exact (refused _ (if_pos unnamed)).elim
      · rw [storeKey_of_no_fault unnamed fault]
        exact ⟨Function.update_self _ _ _, Function.update_self _ _ _⟩

theorem Holds.step {call : KeyCall} (holds : manager.Holds key)
    (leaves : Leaves key.metadata.keyId call) : (step manager call).2.Holds key := by
  cases call with
  | rotateKey other environment =>
      rcases rotateKey_cases manager environment other with
        ⟨_, -, result⟩ | ⟨oldKey, -, ⟨-, _, result⟩ | ⟨-, newKey, bytes, result⟩⟩
      · simpa only [KeyManager.step, result] using holds
      · simp only [KeyManager.step, result]
        exact ⟨holds.bytes, holds.metadata⟩
      · simp only [KeyManager.step, result]
        exact ⟨(Function.update_of_ne leaves.symm _ _).trans holds.bytes,
          (Function.update_of_ne leaves.symm _ _).trans holds.metadata⟩
  | getKey other environment => exact holds
  | recordUsage other now =>
      simp only [KeyManager.step, recordUsage]
      split
      · exact holds
      · exact ⟨holds.bytes, (Function.update_of_ne leaves.symm _ _).trans holds.metadata⟩
  | setRotationPolicy policy => exact ⟨holds.bytes, holds.metadata⟩

theorem Holds.final {calls : List KeyCall} (holds : manager.Holds key)
    (leaves : ∀ call ∈ calls, Leaves key.metadata.keyId call) :
    (final KeyManager.step manager calls).Holds key :=
  (guarded_of_forall_mem KeyManager.step manager leaves).invariant (Holds · key)
    (fun _ _ holds leaves => holds.step leaves) holds

theorem Holds.getKey (holds : manager.Holds key) (answers : later.retrieveFault = none) :
    ∃ found, manager.getKey later key.metadata.keyId = .ok found ∧
      FetchedAs key found later.usedAt := by
  refine ⟨⟨key.key, { key.metadata with
    lastUsedAt := later.usedAt, usageCount := key.metadata.usageCount + 1 }, .aes256Gcm⟩, ?_, ?_⟩
  · unfold KeyManager.getKey storageRetrieve loadMetadata
    rw [answers, holds.bytes, holds.metadata]
  · exact ⟨rfl, rfl, Eq.symm⟩

theorem algorithm_getKey (gets : manager.getKey environment keyId = .ok found) :
    found.algorithm = .aes256Gcm := by
  unfold getKey at gets
  split at gets
  · contradiction
  · unfold loadMetadata at gets
    split at gets
    · contradiction
    · cases gets
      rfl

theorem algorithm_generateKey
    (generated : (manager.generateKey environment keyId size algorithm).1 = .ok made) :
    made.algorithm = algorithm := by
  by_cases generates : Generates environment keyId size
  · obtain ⟨bytes, makes⟩ := @generateKey_of_generates manager environment keyId size algorithm
      generates
    rw [makes] at generated
    cases generated
    rfl
  · obtain ⟨failure, fails⟩ := @generateKey_of_not_generates manager environment keyId size
      algorithm generates
    rw [fails] at generated
    contradiction

theorem algorithm_rotateKey (rotates : (manager.rotateKey environment keyId).1 = .ok rotated) :
    rotated.algorithm = .aes256Gcm := by
  unfold rotateKey at rotates
  cases gets : manager.getKey environment keyId with
  | error failure =>
      rw [gets] at rotates
      contradiction
  | ok oldKey =>
      rw [gets] at rotates
      dsimp only at rotates
      split at rotates
      · contradiction
      · rename_i made after generated
        cases rotates
        have same := @algorithm_generateKey (manager.pushVersion keyId oldKey) environment keyId
          oldKey.key.length oldKey.algorithm made (by rw [generated])
        exact same.trans (algorithm_getKey gets)

/-- The current key of a manager, as it is fetched and as a rotation gives it, has the
algorithm. -/
structure CurrentAlgorithm (manager : KeyManager) (keyId : KeyId)
    (algorithm : EncryptionAlgorithm) : Prop where
  fetched : ∀ environment found, manager.getKey environment keyId = .ok found →
    found.algorithm = algorithm
  rotated : ∀ environment rotated, (manager.rotateKey environment keyId).1 = .ok rotated →
    rotated.algorithm = algorithm

/-- A stored key is fetched, until something is done to it, with its bytes, its metadata and one
more use, and with its algorithm if that is the engine's; and a key that was generated for the
engine keeps the algorithm in every run. -/
theorem keys_round_trip (manager : KeyManager) (environment : KeyEnvironment) :
    (∀ key, (manager.storeKey environment key).1 = .ok () →
      ∀ calls, (∀ call ∈ calls, Leaves key.metadata.keyId call) →
      ∀ later, later.retrieveFault = none → ∃ found,
        (final step (manager.storeKey environment key).2 calls).getKey later
            key.metadata.keyId = .ok found ∧
          FetchedAs key found later.usedAt) ∧
    ∀ keyId size made,
      (manager.generateKey environment keyId size .aes256Gcm).1 = .ok made → ∀ calls,
        CurrentAlgorithm
          (final step (manager.generateKey environment keyId size .aes256Gcm).2 calls) keyId
          made.algorithm := by
  constructor
  · intro key stored calls leaves later answers
    exact ((holds_storeKey stored).final leaves).getKey answers
  · intro keyId size made generated calls
    rw [algorithm_generateKey generated]
    exact ⟨fun _ _ gets => algorithm_getKey gets, fun _ _ rotates => algorithm_rotateKey rotates⟩

end

namespace AlgorithmSample

def keyFor (algorithm : EncryptionAlgorithm) : ManagedKey :=
  ⟨[1, 2, 3], .create RotationSample.keyId none 0, algorithm⟩

/-- What `generate_key` makes. -/
def generated : ManagedKey :=
  ⟨List.replicate 32 7, .create RotationSample.keyId none 6, .aes256Gcm⟩

end AlgorithmSample

open RotationSample AlgorithmSample in
theorem keys_round_trip_sample :
    (∃ found,
      (manager.storeKey working (keyFor .aes256Gcm)).2.getKey working keyId = .ok found ∧
        FetchedAs (keyFor .aes256Gcm) found 5) ∧
    CurrentAlgorithm (final step (manager.generateKey working keyId 32 .aes256Gcm).2 rotations)
      keyId .aes256Gcm :=
  ⟨(keys_round_trip manager working).1 (keyFor .aes256Gcm) rfl [] (fun _ mem => absurd mem
    List.not_mem_nil) working rfl,
    (keys_round_trip manager working).2 keyId 32 generated (by decide +kernel) rotations⟩

open RotationSample AlgorithmSample in
/-- A key for another algorithm is fetched with that of the engine, and used once; and a rotation
makes it one for the engine. -/
theorem algorithm_dropped :
    (manager.storeKey working (keyFor .chacha20Poly1305)).1 = .ok () ∧
    (((manager.storeKey working (keyFor .chacha20Poly1305)).2.getKey working keyId).map fun found =>
      (found.algorithm, found.metadata.usageCount)) = .ok (.aes256Gcm, 1) ∧
    (keyFor .chacha20Poly1305).metadata.usageCount = 0 ∧
    ((manager.generateKey working keyId 32 .chacha20Poly1305).1.map fun made =>
      made.algorithm) = .ok .chacha20Poly1305 ∧
    (((manager.generateKey working keyId 32 .chacha20Poly1305).2.rotateKey working keyId).1.map
      fun rotated => rotated.algorithm) = .ok .aes256Gcm := by
  decide +kernel

end KeyManager

end FileTrans.Encryption
