import FileTrans.Encryption.KeyDerivation

/-!
# The key manager

The manager keeps the bytes of a key in a storage and its metadata in a cache
of its own; the keys that a rotation supersedes go to a history.  Calls to the
storage and critical sections are functions of their own: an operation is made
of several of them, between which other threads may run.
-/

namespace FileTrans.Encryption

open FileTrans.Core

/-! ## Keys -/

/-- The identifier of a key. -/
abbrev KeyId := Bytes

/-- A point in time of the system clock. -/
abbrev Time := Int

inductive EncryptionAlgorithm where
  | none
  | aes256Gcm
  | aes256Cbc
  | chacha20Poly1305
  deriving DecidableEq

structure KeyMetadata where
  keyId : KeyId
  description : Bytes
  derivationParams : Option KeyDerivationParams
  createdAt : Time
  lastUsedAt : Time
  expiresAt : Option Time
  usageCount : UInt64
  isActive : Bool
  version : UInt32
  deriving DecidableEq

/-- The metadata of a new key. -/
def KeyMetadata.create (keyId : KeyId) (derivationParams : Option KeyDerivationParams)
    (now : Time) : KeyMetadata where
  keyId := keyId
  description := []
  derivationParams := derivationParams
  createdAt := now
  lastUsedAt := now
  expiresAt := none
  usageCount := 0
  isActive := true
  version := 1

structure ManagedKey where
  key : Bytes
  metadata : KeyMetadata
  algorithm : EncryptionAlgorithm
  deriving DecidableEq

/-- `key_rotation_policy`, as far as a rotation reads it. -/
structure KeyRotationPolicy where
  keepVersions : UInt32
  deriving DecidableEq

/-- `key_manager::impl`, with the keys in its storage. -/
structure KeyManager where
  keys : KeyId → Option Bytes
  metadataCache : KeyId → Option KeyMetadata
  keyVersions : KeyId → List ManagedKey
  rotationPolicy : KeyRotationPolicy

/-- What an operation meets outside of the manager: a failure of the storage in a call, the
random bytes, and the time when it looks at the clock. -/
structure KeyEnvironment where
  storeFault : Option Error
  retrieveFault : Option Error
  removeFault : Option Error
  random : RandomSource
  usedAt : Time
  createdAt : Time

namespace KeyManager

/-! ## The storage -/

/-- `key_storage_interface::store`; the checks are those of `memory_key_storage`, and a call
that fails has no effect. -/
def storageStore (manager : KeyManager) (fault : Option Error) (keyId : KeyId) (key : Bytes) :
    Result Unit × KeyManager :=
  match fault with
  | some failure => (.error failure, manager)
  | none =>
      if keyId.isEmpty then (unexpected .invalidConfiguration "Empty key ID", manager)
      else (.ok (), { manager with keys := Function.update manager.keys keyId (some key) })

/-- What the storage answers about a key that it does not have. -/
def keyNotFound (keyId : KeyId) : Error :=
  ⟨.fileNotFound, Text.ascii "Key not found: " ++ keyId⟩

/-- `key_storage_interface::retrieve`. -/
def storageRetrieve (manager : KeyManager) (fault : Option Error) (keyId : KeyId) :
    Result Bytes :=
  match fault, manager.keys keyId with
  | some failure, _ => .error failure
  | none, none => .error (keyNotFound keyId)
  | none, some key => .ok key

/-- `key_storage_interface::remove`. -/
def storageRemove (manager : KeyManager) (fault : Option Error) (keyId : KeyId) :
    Result Unit × KeyManager :=
  match fault, manager.keys keyId with
  | some failure, _ => (.error failure, manager)
  | none, none => (.error (keyNotFound keyId), manager)
  | none, some _ =>
      (.ok (), { manager with keys := Function.update manager.keys keyId none })

/-! ## Critical sections -/

/-- The critical section of `store_key`, and the last one of `rotate_key`. -/
def cacheMetadata (manager : KeyManager) (keyId : KeyId) (metadata : KeyMetadata) : KeyManager :=
  { manager with
    metadataCache := Function.update manager.metadataCache keyId (some metadata) }

/-- The critical section of `get_key`, with the key that was retrieved. -/
def loadMetadata (manager : KeyManager) (keyId : KeyId) (key : Bytes) (now : Time) :
    Result ManagedKey :=
  match manager.metadataCache keyId with
  | none => unexpected .fileNotFound "Key metadata not found"
  | some metadata =>
      .ok ⟨key, { metadata with lastUsedAt := now, usageCount := metadata.usageCount + 1 },
        .aes256Gcm⟩

/-- The critical section of `delete_key`. -/
def forgetKey (manager : KeyManager) (keyId : KeyId) : KeyManager :=
  { manager with
    metadataCache := Function.update manager.metadataCache keyId none
    keyVersions := Function.update manager.keyVersions keyId [] }

/-- Erase versions from the front while there are more than `keep`. -/
def limitVersions (keep : Nat) : List ManagedKey → List ManagedKey
  | [] => []
  | version :: rest =>
      if (version :: rest).length > keep then limitVersions keep rest else version :: rest

/-- The first critical section of `rotate_key`. -/
def pushVersion (manager : KeyManager) (keyId : KeyId) (oldKey : ManagedKey) : KeyManager :=
  { manager with
    keyVersions := Function.update manager.keyVersions keyId
      (limitVersions manager.rotationPolicy.keepVersions.toNat
        (manager.keyVersions keyId ++ [oldKey])) }

/-! ## Operations -/

def storeKey (manager : KeyManager) (environment : KeyEnvironment) (key : ManagedKey) :
    Result Unit × KeyManager :=
  match manager.storageStore environment.storeFault key.metadata.keyId key.key with
  | (.error failure, after) => (.error failure, after)
  | (.ok (), stored) => (.ok (), stored.cacheMetadata key.metadata.keyId key.metadata)

def getKey (manager : KeyManager) (environment : KeyEnvironment) (keyId : KeyId) :
    Result ManagedKey :=
  match manager.storageRetrieve environment.retrieveFault keyId with
  | .error failure => .error failure
  | .ok key => manager.loadMetadata keyId key environment.usedAt

def deleteKey (manager : KeyManager) (environment : KeyEnvironment) (keyId : KeyId) :
    Result Unit × KeyManager :=
  match manager.storageRemove environment.removeFault keyId with
  | (.error failure, after) => (.error failure, after)
  | (.ok (), removed) => (.ok (), removed.forgetKey keyId)

/-- `generate_random_bytes`; the size is cast to `int`, and what is not filled stays zero. -/
def generateRandomBytes (random : RandomSource) (size : Nat) : Result Bytes :=
  if size = 0 then unexpected .invalidConfiguration "Size must be positive"
  else
    match random.draw (asInt size) with
    | none => unexpected .internalError "Failed to generate random bytes"
    | some drawn => .ok (drawn ++ zeros (size - drawn.length))

/-- The key that `generate_key` makes. -/
def newKey (environment : KeyEnvironment) (keyId : KeyId) (size : Nat)
    (algorithm : EncryptionAlgorithm) : Result ManagedKey :=
  if keyId.isEmpty then unexpected .invalidConfiguration "Empty key ID"
  else
    match generateRandomBytes environment.random size with
    | .error failure => .error failure
    | .ok bytes => .ok ⟨bytes, .create keyId none environment.createdAt, algorithm⟩

/-- Store a key that was made. -/
def storeNew (manager : KeyManager) (environment : KeyEnvironment) (key : ManagedKey) :
    Result ManagedKey × KeyManager :=
  match manager.storeKey environment key with
  | (.error failure, after) => (.error failure, after)
  | (.ok (), stored) => (.ok key, stored)

def generateKey (manager : KeyManager) (environment : KeyEnvironment) (keyId : KeyId) (size : Nat)
    (algorithm : EncryptionAlgorithm) : Result ManagedKey × KeyManager :=
  match newKey environment keyId size algorithm with
  | .error failure => (.error failure, manager)
  | .ok key => manager.storeNew environment key

/-- The new key with the version that follows. -/
def withVersion (key : ManagedKey) (version : UInt32) : ManagedKey :=
  { key with metadata := { key.metadata with version := version } }

def rotateKey (manager : KeyManager) (environment : KeyEnvironment) (keyId : KeyId) :
    Result ManagedKey × KeyManager :=
  match manager.getKey environment keyId with
  | .error failure => (.error failure, manager)
  | .ok oldKey =>
      match (manager.pushVersion keyId oldKey).generateKey environment keyId oldKey.key.length
          oldKey.algorithm with
      | (.error failure, after) => (.error failure, after)
      | (.ok made, generated) =>
          let rotated := withVersion made (oldKey.metadata.version + 1)
          (.ok rotated, generated.cacheMetadata keyId rotated.metadata)

def getKeyVersions (manager : KeyManager) (keyId : KeyId) : List ManagedKey :=
  manager.keyVersions keyId

def setRotationPolicy (manager : KeyManager) (policy : KeyRotationPolicy) : KeyManager :=
  { manager with rotationPolicy := policy }

def recordUsage (manager : KeyManager) (keyId : KeyId) (now : Time) : KeyManager :=
  match manager.metadataCache keyId with
  | none => manager
  | some metadata =>
      manager.cacheMetadata keyId
        { metadata with usageCount := metadata.usageCount + 1, lastUsedAt := now }

/-! ## Keys from passwords -/

/-- Keep a derived key. -/
def storeDerived (manager : KeyManager) (environment : KeyEnvironment) (keyId : KeyId) :
    Result DerivedKey → Result ManagedKey × KeyManager
  | .error failure => (.error failure, manager)
  | .ok derived =>
      manager.storeNew environment
        ⟨derived.key, .create keyId (some derived.params) environment.createdAt, .aes256Gcm⟩

def deriveKeyFromPassword (functions : DerivationFunctions) (host : DerivationHost)
    (manager : KeyManager) (environment : KeyEnvironment) (keyId : KeyId) (password : Bytes)
    (config : Argon2Config) : Result ManagedKey × KeyManager :=
  manager.storeDerived environment keyId <|
    (generateSalt environment.random).bind (Argon2.deriveKey functions host config password)

def deriveKeyPbkdf2 (functions : DerivationFunctions) (host : DerivationHost)
    (manager : KeyManager) (environment : KeyEnvironment) (keyId : KeyId) (password : Bytes)
    (config : Pbkdf2Config) : Result ManagedKey × KeyManager :=
  manager.storeDerived environment keyId <|
    (generateSalt environment.random).bind (Pbkdf2.deriveKey functions host config password)

/-- The choice of `rederive_key` by the kind of the parameters. -/
def deriveByKind (functions : DerivationFunctions) (host : DerivationHost) (password : Bytes)
    (params : KeyDerivationParams) : Result DerivedKey :=
  match params.kdf with
  | .argon2id => Argon2.deriveKeyWithParams functions host password params
  | .pbkdf2 => Pbkdf2.deriveKeyWithParams functions host password params
  | .none | .scrypt => unexpected .invalidConfiguration "Unsupported KDF type"

def rederiveKey (functions : DerivationFunctions) (host : DerivationHost) (manager : KeyManager)
    (environment : KeyEnvironment) (keyId : KeyId) (password : Bytes) : Result ManagedKey :=
  match manager.metadataCache keyId with
  | none => unexpected .fileNotFound "Key metadata or derivation params not found"
  | some metadata =>
      match metadata.derivationParams with
      | none => unexpected .fileNotFound "Key metadata or derivation params not found"
      | some params =>
          match deriveByKind functions host password params with
          | .error failure => .error failure
          | .ok derived =>
              .ok ⟨derived.key, { metadata with lastUsedAt := environment.usedAt }, .aes256Gcm⟩

end KeyManager

end FileTrans.Encryption
