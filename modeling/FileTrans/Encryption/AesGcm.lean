import FileTrans.Core.Compression

/-!
# The AES-256-GCM engine

The OpenSSL cipher is a parameter.  It takes its input with the length as a C
`int`, so the engine encrypts and decrypts only the bytes that are left when
the size of the data is cast to `int`; a negative length is an error.
-/

namespace FileTrans.Encryption

open FileTrans.Core

/-- A key that `set_key` takes: `AES_256_KEY_SIZE` bytes. -/
structure Key where
  bytes : Bytes
  length_eq : bytes.length = 32
  deriving DecidableEq

/-- AES-256-GCM of OpenSSL.  `encrypt` takes a key, an initialisation vector and
a plaintext to ciphertext and tag; `decrypt` takes the key, the vector, the
additional data, the ciphertext and the tag back to the plaintext.  `none`
stands for a failing call. -/
structure AesGcm where
  encrypt : Key → Bytes → Bytes → Option (Bytes × Bytes)
  decrypt : Key → Bytes → Bytes → Bytes → Bytes → Option Bytes
  /-- `get_openssl_error`. -/
  opensslError : Bytes

/-- What AES-GCM documents: the ciphertext has the length of the plaintext, and
under the same key and vector, without additional data, it decrypts to the
plaintext. -/
structure AesGcm.RoundTrips (aes : AesGcm) : Prop where
  length_eq : ∀ key iv plaintext ciphertext tag,
    aes.encrypt key iv plaintext = some (ciphertext, tag) → ciphertext.length = plaintext.length
  decrypt_eq : ∀ key iv plaintext ciphertext tag,
    aes.encrypt key iv plaintext = some (ciphertext, tag) →
      aes.decrypt key iv [] ciphertext tag = some plaintext

/-- `encryption_metadata`, as far as the engine reads it. -/
structure EncryptionMetadata where
  iv : Bytes
  authTag : Bytes
  aad : Bytes
  originalSize : Nat
  deriving DecidableEq

/-- `aes_gcm_engine`: the key that was set, if any. -/
structure AesGcmEngine where
  key : Option Key
  deriving DecidableEq

namespace AesGcmEngine

def create : AesGcmEngine :=
  ⟨none⟩

def setKey (key : Bytes) : Result AesGcmEngine :=
  if length_eq : key.length = 32 then .ok ⟨some ⟨key, length_eq⟩⟩
  else unexpected .invalidConfiguration "Invalid key size: expected 32 bytes"

def hasKey (engine : AesGcmEngine) : Bool :=
  engine.key.isSome

/-- `derive_chunk_iv`: random bytes and the low 32 bits of the chunk index, in
the byte order of the machine.  `none` when `RAND_bytes` fails. -/
def deriveChunkIv (random : Option Bytes) (chunkIndex : UInt64) : Option Bytes :=
  random.map fun bytes =>
    bytes ++ [chunkIndex.toUInt8, (chunkIndex >>> 8).toUInt8, (chunkIndex >>> 16).toUInt8,
      (chunkIndex >>> 24).toUInt8]

/-- The bytes that a call with the length of `data` as an `int` sees; `none`
for a negative length. -/
def seenByCipher (data : Bytes) : Option Bytes :=
  if asInt data.length < 0 then none else some (data.take (asInt data.length).toNat)

def encryptChunk (aes : AesGcm) (engine : AesGcmEngine) (random : Option Bytes)
    (chunkData : Bytes) (chunkIndex : UInt64) : Result (Bytes × EncryptionMetadata) :=
  match engine.key with
  | none => unexpected .notInitialized "Key not set"
  | some key =>
      match deriveChunkIv random chunkIndex with
      | none => unexpected .internalError "Failed to generate chunk IV"
      | some iv =>
          match (seenByCipher chunkData).bind (aes.encrypt key iv) with
          | none => .error ⟨.internalError, aes.opensslError⟩
          | some (ciphertext, authTag) => .ok (ciphertext, ⟨iv, authTag, [], chunkData.length⟩)

def decryptChunk (aes : AesGcm) (engine : AesGcmEngine) (encryptedChunk : Bytes)
    (metadata : EncryptionMetadata) : Result Bytes :=
  match engine.key with
  | none => unexpected .notInitialized "Key not set"
  | some key =>
      match seenByCipher encryptedChunk with
      | none => .error ⟨.internalError, aes.opensslError⟩
      | some ciphertext =>
          match aes.decrypt key metadata.iv metadata.aad ciphertext metadata.authTag with
          | none =>
              unexpected .chunkChecksumError
                "Authentication failed - data may have been tampered"
          | some plaintext => .ok plaintext

theorem seenByCipher_of_lt {data : Bytes} (small : data.length < 2 ^ 31) :
    seenByCipher data = some data := by
  have nonneg : ¬ (data.length : Int) < 0 := by omega
  rw [seenByCipher, asInt_of_lt small, if_neg nonneg, Int.toNat_natCast, List.take_length]

theorem eq_of_seenByCipher {data seen : Bytes} (small : data.length < 2 ^ 32)
    (sees : seenByCipher data = some seen) : seen = data := by
  by_cases negative : asInt data.length < 0
  · rw [seenByCipher, if_pos negative] at sees
    contradiction
  · have smaller := lt_of_asInt_nonneg small (Int.not_lt.mp negative)
    rw [seenByCipher_of_lt smaller] at sees
    exact (Option.some.inj sees).symm

theorem length_seenByCipher_lt {data seen : Bytes} (sees : seenByCipher data = some seen) :
    seen.length < 2 ^ 31 := by
  unfold seenByCipher at sees
  split at sees
  · contradiction
  rename_i nonneg
  obtain rfl := Option.some.inj sees
  rw [List.length_take]
  unfold asInt at nonneg ⊢
  split <;> omega

theorem decryptChunk_of_encryptChunk {aes : AesGcm} (roundTrips : aes.RoundTrips)
    {engine : AesGcmEngine} {random : Option Bytes} {chunkData ciphertext : Bytes}
    {chunkIndex : UInt64} {metadata : EncryptionMetadata}
    (encrypted : encryptChunk aes engine random chunkData chunkIndex = .ok (ciphertext, metadata)) :
    ∃ seen, seenByCipher chunkData = some seen ∧ ciphertext.length = seen.length ∧
      decryptChunk aes engine ciphertext metadata = .ok seen := by
  unfold encryptChunk at encrypted
  split at encrypted
  · contradiction
  rename_i key present
  split at encrypted
  · contradiction
  rename_i iv derived
  split at encrypted
  · contradiction
  rename_i output authTag enciphered
  cases encrypted
  obtain ⟨seen, sees, sealed⟩ := Option.bind_eq_some_iff.mp enciphered
  have same := roundTrips.length_eq key iv seen ciphertext authTag sealed
  have small : ciphertext.length < 2 ^ 31 := by
    rw [same]
    exact length_seenByCipher_lt sees
  refine ⟨seen, sees, same, ?_⟩
  rw [decryptChunk, present, seenByCipher_of_lt small]
  simp only [roundTrips.decrypt_eq key iv seen ciphertext authTag sealed]

end AesGcmEngine

end FileTrans.Encryption
