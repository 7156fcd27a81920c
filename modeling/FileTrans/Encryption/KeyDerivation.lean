import FileTrans.Encryption.ConfiguredSizes

/-!
# Keys from passwords

`pbkdf2_key_derivation` and `argon2_key_derivation`.  What PBKDF2 and Argon2id
compute is a parameter, the same on every host; whether a call to OpenSSL goes
through depends on the host.  Without Argon2id the second falls back to PBKDF2
and records Argon2id nevertheless.
-/

namespace FileTrans.Encryption

open FileTrans.Core

inductive KeyDerivationFunction where
  | none
  | pbkdf2
  | argon2id
  | scrypt
  deriving DecidableEq

structure KeyDerivationParams where
  kdf : KeyDerivationFunction
  salt : Bytes
  iterations : UInt32
  memoryKb : UInt32
  parallelism : UInt32
  blockSize : UInt32
  keyLength : UInt64
  deriving DecidableEq

structure DerivedKey where
  key : Bytes
  params : KeyDerivationParams
  deriving DecidableEq

def pbkdf2DefaultIterations : UInt32 :=
  600000

/-- `pbkdf2_config`, as far as it is read. -/
structure Pbkdf2Config where
  iterations : UInt32
  keyLength : UInt64
  deriving DecidableEq

/-- `argon2_config`, as far as it is read. -/
structure Argon2Config where
  memoryKb : UInt32
  timeCost : UInt32
  parallelism : UInt32
  keyLength : UInt64
  deriving DecidableEq

/-- The default of `pbkdf2_config`. -/
def Pbkdf2Config.default : Pbkdf2Config :=
  ⟨pbkdf2DefaultIterations, 32⟩

/-- The default of `argon2_config`. -/
def Argon2Config.default : Argon2Config :=
  ⟨65536, 3, 4, 32⟩

/-- What PBKDF2 and Argon2id compute of password, salt, costs and key length. -/
structure DerivationFunctions where
  pbkdf2 : Bytes → Bytes → UInt32 → UInt64 → Bytes
  argon2id : Bytes → Bytes → (memoryKb timeCost parallelism : UInt32) → UInt64 → Bytes

/-- Whether the calls to OpenSSL go through: Argon2id is there and derives, PBKDF2 derives. -/
structure DerivationHost where
  argon2 : Bool
  pbkdf2 : Bool
  deriving DecidableEq

def saltSize : Nat :=
  32

/-- `generate_salt` with its default length. -/
def generateSalt (random : RandomSource) : Result Bytes :=
  match random.draw (asInt saltSize) with
  | none => unexpected .internalError "Failed to generate salt"
  | some salt => .ok salt

namespace Pbkdf2

/-- The parameters that `pbkdf2_key_derivation` records. -/
def params (config : Pbkdf2Config) (salt : Bytes) : KeyDerivationParams where
  kdf := .pbkdf2
  salt := salt
  iterations := config.iterations
  memoryKb := 0
  parallelism := 0
  blockSize := 0
  keyLength := config.keyLength

/-- `pbkdf2_key_derivation::derive_key` with a salt. -/
def deriveKey (functions : DerivationFunctions) (host : DerivationHost) (config : Pbkdf2Config)
    (password salt : Bytes) : Result DerivedKey :=
  if password.isEmpty then unexpected .invalidConfiguration "Empty password"
  else if salt.length < 8 then unexpected .invalidConfiguration "Salt too short"
  else if ¬ host.pbkdf2 then unexpected .internalError "PBKDF2 derivation failed"
  else .ok ⟨functions.pbkdf2 password salt config.iterations config.keyLength, params config salt⟩

/-- The configuration that `derive_key_with_params` takes from parameters. -/
def ofParams (params : KeyDerivationParams) : Pbkdf2Config :=
  ⟨params.iterations, params.keyLength⟩

def deriveKeyWithParams (functions : DerivationFunctions) (host : DerivationHost)
    (password : Bytes) (params : KeyDerivationParams) : Result DerivedKey :=
  if params.kdf ≠ .pbkdf2 then unexpected .invalidConfiguration "Invalid KDF type"
  else deriveKey functions host (ofParams params) password params.salt

end Pbkdf2

namespace Argon2

/-- The parameters that `argon2_key_derivation` records, whichever function it has used. -/
def params (config : Argon2Config) (salt : Bytes) : KeyDerivationParams where
  kdf := .argon2id
  salt := salt
  iterations := config.timeCost
  memoryKb := config.memoryKb
  parallelism := config.parallelism
  blockSize := 0
  keyLength := config.keyLength

/-- The configuration of the fallback. -/
def fallbackConfig (config : Argon2Config) : Pbkdf2Config :=
  ⟨max pbkdf2DefaultIterations (config.timeCost * 100000), config.keyLength⟩

/-- `argon2_key_derivation::derive_key` with a salt. -/
def deriveKey (functions : DerivationFunctions) (host : DerivationHost) (config : Argon2Config)
    (password salt : Bytes) : Result DerivedKey :=
  if password.isEmpty then unexpected .invalidConfiguration "Empty password"
  else if salt.length < 8 then unexpected .invalidConfiguration "Salt too short"
  else if host.argon2 then
    .ok ⟨functions.argon2id password salt config.memoryKb config.timeCost config.parallelism
      config.keyLength, params config salt⟩
  else
    match Pbkdf2.deriveKey functions host (fallbackConfig config) password salt with
    | .error failure => .error failure
    | .ok derived => .ok ⟨derived.key, params config salt⟩

/-- The configuration that `derive_key_with_params` takes from parameters. -/
def ofParams (params : KeyDerivationParams) : Argon2Config :=
  ⟨params.memoryKb, params.iterations, params.parallelism, params.keyLength⟩

/-- `argon2_key_derivation::derive_key_with_params`; the kind of the parameters is not
checked. -/
def deriveKeyWithParams (functions : DerivationFunctions) (host : DerivationHost)
    (password : Bytes) (params : KeyDerivationParams) : Result DerivedKey :=
  deriveKey functions host (ofParams params) password params.salt

end Argon2

/-! ## What is computed -/

/-- One of the two functions with its costs. -/
inductive Computation where
  | pbkdf2 (iterations : UInt32)
  | argon2id (memoryKb timeCost parallelism : UInt32)
  deriving DecidableEq

/-- The key that a computation gives. -/
def Computation.key (functions : DerivationFunctions) (password salt : Bytes)
    (keyLength : UInt64) : Computation → Bytes
  | .pbkdf2 iterations => functions.pbkdf2 password salt iterations keyLength
  | .argon2id memoryKb timeCost parallelism =>
      functions.argon2id password salt memoryKb timeCost parallelism keyLength

/-- A password and a salt that are taken. -/
def Accepted (password salt : Bytes) : Prop :=
  password ≠ [] ∧ 8 ≤ salt.length

instance (password salt : Bytes) : Decidable (Accepted password salt) :=
  inferInstanceAs (Decidable (_ ∧ _))

/-- What `argon2_key_derivation` computes on a host, if it does. -/
def Argon2.computes (host : DerivationHost) (config : Argon2Config) : Option Computation :=
  if host.argon2 then
    some (.argon2id config.memoryKb config.timeCost config.parallelism)
  else if host.pbkdf2 then some (.pbkdf2 (fallbackConfig config).iterations)
  else none

/-- What `pbkdf2_key_derivation` computes on a host, if it does. -/
def Pbkdf2.computes (host : DerivationHost) (config : Pbkdf2Config) : Option Computation :=
  if host.pbkdf2 then some (.pbkdf2 config.iterations) else none

section

variable {functions : DerivationFunctions} {host : DerivationHost} {password salt : Bytes}
  {derived : DerivedKey}

theorem accepted_of {password salt : Bytes} (filled : ¬ password.isEmpty = true)
    (long : ¬ salt.length < 8) : Accepted password salt :=
  ⟨fun empty => filled (List.isEmpty_iff.mpr empty), Nat.not_lt.mp long⟩

theorem Pbkdf2.deriveKey_ok_iff {config : Pbkdf2Config} :
    deriveKey functions host config password salt = .ok derived ↔
      Accepted password salt ∧ derived.params = params config salt ∧
      ∃ computation ∈ computes host config,
        derived.key = computation.key functions password salt config.keyLength := by
  unfold deriveKey computes
  split
  · rename_i empty
    exact iff_of_false nofun fun accepted => accepted.1.1 (List.isEmpty_iff.mp empty)
  · rename_i filled
    split
    · rename_i short
      exact iff_of_false nofun fun accepted => Nat.not_le.mpr short accepted.1.2
    · rename_i long
      have accepted := accepted_of filled long
      cases host.pbkdf2 with
      | false => simp [unexpected]
      | true =>
          cases derived with
          | mk key recorded => simp [accepted, Computation.key, and_comm, eq_comm]

theorem Argon2.deriveKey_ok_iff {config : Argon2Config} :
    deriveKey functions host config password salt = .ok derived ↔
      Accepted password salt ∧ derived.params = params config salt ∧
      ∃ computation ∈ computes host config,
        derived.key = computation.key functions password salt config.keyLength := by
  unfold deriveKey computes
  split
  · rename_i empty
    exact iff_of_false nofun fun accepted => accepted.1.1 (List.isEmpty_iff.mp empty)
  · rename_i filled
    split
    · rename_i short
      exact iff_of_false nofun fun accepted => Nat.not_le.mpr short accepted.1.2
    · rename_i long
      have accepted := accepted_of filled long
      cases host.argon2 with
      | true =>
          cases derived with
          | mk key recorded => simp [accepted, Computation.key, and_comm, eq_comm]
      | false =>
          rw [Pbkdf2.deriveKey, if_neg filled, if_neg long]
          cases host.pbkdf2 with
          | false => simp [unexpected]
          | true =>
              cases derived with
              | mk key recorded =>
                  simp [accepted, Computation.key, fallbackConfig, and_comm, eq_comm]

end

end FileTrans.Encryption
