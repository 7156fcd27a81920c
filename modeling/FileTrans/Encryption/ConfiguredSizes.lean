import FileTrans.Encryption.AesGcm

/-!
# Engines of other sizes

The size of the initialisation vector and that of the tag are configured
without a check.  The vector is a buffer of the configured size, and each
function writes to it and lets OpenSSL read from it in its own way; what
reaches over the end of the buffer is `none`.
-/

namespace FileTrans.Encryption

open FileTrans.Core
open AesGcmEngine (seenByCipher seenByCipher_of_lt eq_of_seenByCipher length_seenByCipher_lt)

/-! ## OpenSSL -/

/-- AES-256-GCM of OpenSSL with an initialisation vector of any length.  `setsIvLength` tells
whether `EVP_CTRL_GCM_SET_IVLEN` takes a length; `sealing` takes a key, the vector, the
additional data and a plaintext to ciphertext and tag, and `opening` takes the ciphertext and
the tag, which may have been cut, back.  `none` stands for a failing call. -/
structure Evp where
  setsIvLength : Int → Bool
  sealing : Key → Bytes → Bytes → Bytes → Option (Bytes × Bytes)
  opening : Key → Bytes → Bytes → Bytes → Bytes → Option Bytes
  /-- `get_openssl_error`. -/
  opensslError : Bytes

/-- The lengths that `EVP_CTRL_GCM_GET_TAG` and `EVP_CTRL_GCM_SET_TAG` take. -/
def tagLengthAllowed (length : Int) : Bool :=
  0 < length ∧ length ≤ 16

/-- What AES-GCM documents: a vector length is positive, 12 is one; the ciphertext has the
length of the plaintext and the tag 16 bytes; and under the same key, vector and additional
data they open to the plaintext, also with a tag cut to an allowed length. -/
structure Evp.Correct (evp : Evp) : Prop where
  ivLength_pos : ∀ length, evp.setsIvLength length = true → 0 < length
  ivLength_default : evp.setsIvLength 12 = true
  length_eq : ∀ key iv aad plaintext ciphertext tag,
    evp.sealing key iv aad plaintext = some (ciphertext, tag) →
      ciphertext.length = plaintext.length
  tag_length : ∀ key iv aad plaintext ciphertext tag,
    evp.sealing key iv aad plaintext = some (ciphertext, tag) → tag.length = 16
  opening_eq : ∀ key iv aad plaintext ciphertext tag length,
    evp.sealing key iv aad plaintext = some (ciphertext, tag) → 0 < length → length ≤ 16 →
      evp.opening key iv aad ciphertext (tag.take length) = some plaintext

/-- What `RAND_bytes` gives for a number of bytes, or that it fails. -/
structure RandomSource where
  bytes : Nat → Option Bytes
  length_eq : ∀ count drawn, bytes count = some drawn → drawn.length = count

/-- A source without bytes. -/
def RandomSource.failing : RandomSource where
  bytes _ := none
  length_eq _ _ draws := nomatch draws

/-- `RAND_bytes` with an `int`; a negative number fails. -/
def RandomSource.draw (random : RandomSource) (count : Int) : Option Bytes :=
  if count < 0 then none else random.bytes count.toNat

/-! ## Buffers -/

/-- Write into a buffer, if it is large enough. -/
def writeAt (buffer : Bytes) (offset : Nat) (bytes : Bytes) : Option Bytes :=
  if offset + bytes.length ≤ buffer.length then
    some (buffer.take offset ++ bytes ++ buffer.drop (offset + bytes.length))
  else none

/-- Read the first bytes of a buffer, if it is large enough. -/
def readFirst (buffer : Bytes) (count : Nat) : Option Bytes :=
  if count ≤ buffer.length then some (buffer.take count) else none

/-- A buffer of zeros. -/
def zeros (size : Nat) : Bytes :=
  List.replicate size 0

/-- The low four bytes of a number in the byte order of the machine. -/
def lowBytes (value : UInt64) : Bytes :=
  [value.toUInt8, (value >>> 8).toUInt8, (value >>> 16).toUInt8, (value >>> 24).toUInt8]

section

variable {buffer bytes written : Bytes} {offset count : Nat}

theorem length_zeros (size : Nat) : (zeros size).length = size :=
  List.length_replicate

theorem writeAt_eq_none_iff :
    writeAt buffer offset bytes = none ↔ buffer.length < offset + bytes.length := by
  unfold writeAt
  split
  · exact iff_of_false (Option.some_ne_none _) (Nat.not_lt.mpr ‹_›)
  · exact iff_of_true rfl (Nat.not_le.mp ‹_›)

theorem length_writeAt (write : writeAt buffer offset bytes = some written) :
    written.length = buffer.length := by
  unfold writeAt at write
  split at write
  · cases write
    simp only [List.length_append, List.length_take, List.length_drop]
    omega
  · contradiction

theorem readFirst_eq_none_iff : readFirst buffer count = none ↔ buffer.length < count := by
  unfold readFirst
  split
  · exact iff_of_false (Option.some_ne_none _) (Nat.not_lt.mpr ‹_›)
  · exact iff_of_true rfl (Nat.not_le.mp ‹_›)

theorem readFirst_of_le (fits : count ≤ buffer.length) :
    readFirst buffer count = some (buffer.take count) :=
  if_pos fits

theorem readFirst_eq_some_iff {read : Bytes} :
    readFirst buffer count = some read ↔ count ≤ buffer.length ∧ buffer.take count = read := by
  unfold readFirst
  rw [Option.ite_none_right_eq_some, Option.some.injEq]

end

/-! ## The engine -/

/-- `aes_gcm_config`, as far as the engine reads it. -/
structure AesGcmConfig where
  ivSize : UInt64
  tagSize : UInt64

/-- The default of `aes_gcm_config`. -/
def AesGcmConfig.default : AesGcmConfig :=
  ⟨12, 16⟩

def AesGcmConfig.withIvSize (config : AesGcmConfig) (size : UInt64) : AesGcmConfig :=
  { config with ivSize := size }

def AesGcmConfig.withTagSize (config : AesGcmConfig) (size : UInt64) : AesGcmConfig :=
  { config with tagSize := size }

/-- `aes_gcm_engine` with its configuration, its key and its counter. -/
structure ConfiguredEngine where
  config : AesGcmConfig
  key : Option Key
  ivCounter : UInt64

namespace ConfiguredEngine

/-- `generate_counter_iv` with the value of `fetch_add`; an empty vector stands for failing
random bytes. -/
def generateCounterIv (config : AesGcmConfig) (random : RandomSource) (counter : UInt64) :
    Option Bytes :=
  match random.draw 8 with
  | none => some []
  | some drawn =>
      (writeAt (zeros config.ivSize.toNat) 0 drawn).bind fun iv =>
        if config.ivSize ≥ 12 then writeAt iv 8 (lowBytes counter) else some iv

/-- `derive_chunk_iv`; the number of random bytes is cast to `int`. -/
def deriveChunkIv (config : AesGcmConfig) (random : RandomSource) (chunkIndex : UInt64) :
    Option Bytes :=
  match random.draw (asInt (config.ivSize - 4).toNat) with
  | none => some []
  | some drawn =>
      (writeAt (zeros config.ivSize.toNat) 0 drawn).bind fun iv =>
        if config.ivSize ≥ 12 then
          writeAt iv (config.ivSize.toNat - 4) (lowBytes chunkIndex)
        else some iv

/-- The tag after `EVP_CTRL_GCM_GET_TAG` into a buffer of the configured size. -/
def tagBuffer (config : AesGcmConfig) (tag : Bytes) : Bytes :=
  tag.take (asInt config.tagSize.toNat).toNat ++
    zeros (config.tagSize.toNat - (asInt config.tagSize.toNat).toNat)

/-- What the cipher sees of additional data; an empty one is not handed over. -/
def seenAad (aad : Bytes) : Option Bytes :=
  if aad.isEmpty then some [] else seenByCipher aad

/-- The last part of `encrypt` and of `encrypt_chunk`: the cipher runs under the bytes that
it reads from the vector, and the tag is fetched. -/
def sealWith (evp : Evp) (config : AesGcmConfig) (key : Key) (iv nonce aad plaintext : Bytes) :
    Result (Bytes × EncryptionMetadata) :=
  match seenAad aad with
  | none => unexpected .internalError "Failed to process AAD"
  | some additional =>
      match (seenByCipher plaintext).bind (evp.sealing key nonce additional) with
      | none => .error ⟨.internalError, evp.opensslError⟩
      | some (ciphertext, tag) =>
          if tagLengthAllowed (asInt config.tagSize.toNat) then
            .ok (ciphertext, ⟨iv, tagBuffer config tag, aad, plaintext.length⟩)
          else unexpected .internalError "Failed to get auth tag"

/-- `encrypt`.  The length of the vector is set to the configured one. -/
def encrypt (evp : Evp) (engine : ConfiguredEngine) (random : RandomSource)
    (plaintext aad : Bytes) : Option (Result (Bytes × EncryptionMetadata)) :=
  match engine.key with
  | none => some (unexpected .notInitialized "Key not set")
  | some key =>
      (generateCounterIv engine.config random engine.ivCounter).bind fun iv =>
        if iv.isEmpty then some (unexpected .internalError "Failed to generate IV")
        else if ¬ evp.setsIvLength (asInt engine.config.ivSize.toNat) then
          some (unexpected .internalError "Failed to set IV length")
        else
          (readFirst iv (asInt engine.config.ivSize.toNat).toNat).map fun nonce =>
            sealWith evp engine.config key iv nonce aad plaintext

/-- `encrypt_chunk`.  The length of the vector is not set, so that OpenSSL reads 12 bytes. -/
def encryptChunk (evp : Evp) (engine : ConfiguredEngine) (random : RandomSource)
    (chunkData : Bytes) (chunkIndex : UInt64) : Option (Result (Bytes × EncryptionMetadata)) :=
  match engine.key with
  | none => some (unexpected .notInitialized "Key not set")
  | some key =>
      (deriveChunkIv engine.config random chunkIndex).bind fun iv =>
        if iv.isEmpty then some (unexpected .internalError "Failed to generate chunk IV")
        else
          (readFirst iv 12).map fun nonce =>
            sealWith evp engine.config key iv nonce [] chunkData

/-- The answer of `EVP_DecryptFinal_ex`. -/
def finalized : Option Bytes → Result Bytes
  | none => unexpected .chunkChecksumError "Authentication failed - data may have been tampered"
  | some plaintext => .ok plaintext

/-- `decrypt`.  The lengths are those of the metadata. -/
def decrypt (evp : Evp) (engine : ConfiguredEngine) (ciphertext : Bytes)
    (metadata : EncryptionMetadata) : Option (Result Bytes) :=
  match engine.key with
  | none => some (unexpected .notInitialized "Key not set")
  | some key =>
      if ¬ evp.setsIvLength (asInt metadata.iv.length) then
        some (unexpected .internalError "Failed to set IV length")
      else
        (readFirst metadata.iv (asInt metadata.iv.length).toNat).map fun nonce =>
          match seenAad metadata.aad with
          | none => unexpected .internalError "Failed to process AAD"
          | some additional =>
              match seenByCipher ciphertext with
              | none => .error ⟨.internalError, evp.opensslError⟩
              | some seen =>
                  if ¬ metadata.authTag.isEmpty ∧
                      ¬ tagLengthAllowed (asInt metadata.authTag.length) then
                    unexpected .internalError "Failed to set auth tag"
                  else
                    finalized (evp.opening key nonce additional seen
                      (metadata.authTag.take (asInt metadata.authTag.length).toNat))

/-- `decrypt_chunk`; the chunk index is unused. -/
def decryptChunk (evp : Evp) (engine : ConfiguredEngine) (encryptedChunk : Bytes)
    (metadata : EncryptionMetadata) (_chunkIndex : UInt64) : Option (Result Bytes) :=
  decrypt evp engine encryptedChunk metadata

def generateIv (engine : ConfiguredEngine) (random : RandomSource) : Option (Result Bytes) :=
  (generateCounterIv engine.config random engine.ivCounter).map fun iv =>
    if iv.isEmpty then unexpected .internalError "Failed to generate IV" else .ok iv

/-! ## Initialisation vectors -/

section

variable {config : AesGcmConfig} {random : RandomSource} {iv : Bytes}

theorem toNat_asInt_le (size : Nat) : (asInt size).toNat ≤ size := by
  have small := Nat.mod_le size (2 ^ 32)
  unfold asInt
  split <;> omega

theorem draw_length {count : Int} {drawn : Bytes} (draws : random.draw count = some drawn) :
    0 ≤ count ∧ drawn.length = count.toNat := by
  unfold RandomSource.draw at draws
  split at draws
  · contradiction
  · exact ⟨Int.not_lt.mp ‹_›, random.length_eq _ _ draws⟩

theorem generateCounterIv_eq_none_iff {counter : UInt64} :
    generateCounterIv config random counter = none ↔
      (random.draw 8).isSome = true ∧ config.ivSize.toNat < 8 := by
  unfold generateCounterIv
  cases draws : random.draw 8 with
  | none => simp
  | some drawn =>
      have eight : drawn.length = 8 := (draw_length draws).2
      dsimp only
      rw [Option.bind_eq_none_iff]
      constructor
      · intro none
        refine ⟨rfl, ?_⟩
        by_contra room
        cases write : writeAt (zeros config.ivSize.toNat) 0 drawn with
        | none =>
            rw [writeAt_eq_none_iff, length_zeros] at write
            omega
        | some iv =>
            have long := (length_writeAt write).trans (length_zeros _)
            have second := none iv write
            split at second
            · rename_i large
              have twelve : 12 ≤ config.ivSize.toNat := UInt64.le_iff_toNat_le.mp large
              rw [writeAt_eq_none_iff, long] at second
              exact absurd second (Nat.not_lt.mpr twelve)
            · contradiction
      · rintro ⟨-, small⟩ iv write
        have fails : writeAt (zeros config.ivSize.toNat) 0 drawn = none := by
          rw [writeAt_eq_none_iff, length_zeros]
          omega
        rw [fails] at write
        contradiction

theorem length_generateCounterIv {counter : UInt64}
    (generated : generateCounterIv config random counter = some iv) :
    iv = [] ∨ iv.length = config.ivSize.toNat := by
  unfold generateCounterIv at generated
  split at generated
  · exact .inl (Option.some.inj generated).symm
  · obtain ⟨first, write, rest⟩ := Option.bind_eq_some_iff.mp generated
    have long := (length_writeAt write).trans (length_zeros _)
    right
    split at rest
    · exact (length_writeAt rest).trans long
    · rw [← Option.some.inj rest, long]

theorem drawn_of_chunk {drawn : Bytes}
    (draws : random.draw (asInt (config.ivSize - 4).toNat) = some drawn) :
    drawn.length + 4 ≤ config.ivSize.toNat := by
  obtain ⟨nonneg, same⟩ := draw_length draws
  have rest : (config.ivSize - 4).toNat = (2 ^ 64 - 4 + config.ivSize.toNat) % 2 ^ 64 :=
    UInt64.toNat_sub config.ivSize 4
  have bound := config.ivSize.toNat_lt
  by_cases small : config.ivSize.toNat < 4
  · have wrapped : (config.ivSize - 4).toNat = 2 ^ 64 - 4 + config.ivSize.toNat := by
      rw [rest, Nat.mod_eq_of_lt (by omega)]
    rw [wrapped] at nonneg
    unfold asInt at nonneg
    split at nonneg <;> omega
  · have left : (config.ivSize - 4).toNat = config.ivSize.toNat - 4 := by
      rw [rest]
      omega
    have le := toNat_asInt_le (config.ivSize - 4).toNat
    omega

theorem deriveChunkIv_isSome (config : AesGcmConfig) (random : RandomSource)
    (chunkIndex : UInt64) : ∃ iv, deriveChunkIv config random chunkIndex = some iv := by
  unfold deriveChunkIv
  cases draws : random.draw (asInt (config.ivSize - 4).toNat) with
  | none => exact ⟨[], rfl⟩
  | some drawn =>
      have room := drawn_of_chunk draws
      have fits : ∃ iv, writeAt (zeros config.ivSize.toNat) 0 drawn = some iv := by
        apply Option.ne_none_iff_exists'.mp
        rw [Ne, writeAt_eq_none_iff, length_zeros]
        omega
      obtain ⟨iv, write⟩ := fits
      have long := (length_writeAt write).trans (length_zeros _)
      dsimp only
      rw [write, Option.bind_some]
      split
      · apply Option.ne_none_iff_exists'.mp
        rw [Ne, writeAt_eq_none_iff, long]
        have four : (lowBytes chunkIndex).length = 4 := rfl
        omega
      · exact ⟨iv, rfl⟩

theorem length_deriveChunkIv {chunkIndex : UInt64}
    (derived : deriveChunkIv config random chunkIndex = some iv) :
    (random.draw (asInt (config.ivSize - 4).toNat) = none ∧ iv = []) ∨
    ((random.draw (asInt (config.ivSize - 4).toNat)).isSome = true ∧
      iv.length = config.ivSize.toNat ∧ iv ≠ []) := by
  unfold deriveChunkIv at derived
  cases draws : random.draw (asInt (config.ivSize - 4).toNat) with
  | none =>
      rw [draws] at derived
      exact .inl ⟨rfl, (Option.some.inj derived).symm⟩
  | some drawn =>
      rw [draws] at derived
      obtain ⟨first, write, rest⟩ := Option.bind_eq_some_iff.mp derived
      have long := (length_writeAt write).trans (length_zeros _)
      have room := drawn_of_chunk draws
      have size : iv.length = config.ivSize.toNat := by
        split at rest
        · exact (length_writeAt rest).trans long
        · rw [← Option.some.inj rest, long]
      refine .inr ⟨rfl, size, List.ne_nil_of_length_pos ?_⟩
      omega

end

/-! ## Sealing and opening -/

section

variable {evp : Evp} {config : AesGcmConfig} {key : Key}
  {iv nonce aad plaintext ciphertext tag : Bytes} {metadata : EncryptionMetadata}

theorem sealWith_ok
    (done : sealWith evp config key iv nonce aad plaintext = .ok (ciphertext, metadata)) :
    ∃ additional seen tag, seenAad aad = some additional ∧
      seenByCipher plaintext = some seen ∧
      evp.sealing key nonce additional seen = some (ciphertext, tag) ∧
      tagLengthAllowed (asInt config.tagSize.toNat) = true ∧
      metadata = ⟨iv, tagBuffer config tag, aad, plaintext.length⟩ := by
  unfold sealWith at done
  split at done
  · contradiction
  · rename_i additional handed
    split at done
    · contradiction
    · rename_i output tag sealed
      split at done
      · rename_i allowed
        cases done
        obtain ⟨seen, sees, sealed⟩ := Option.bind_eq_some_iff.mp sealed
        exact ⟨additional, seen, tag, handed, sees, sealed, allowed, rfl⟩
      · contradiction

theorem tagBuffer_eq (sixteen : tag.length = 16)
    (allowed : tagLengthAllowed (asInt config.tagSize.toNat) = true) :
    (tagBuffer config tag).length = config.tagSize.toNat ∧
      (tagBuffer config tag).take (asInt config.tagSize.toNat).toNat =
        tag.take (asInt config.tagSize.toNat).toNat := by
  have bounds : 0 < asInt config.tagSize.toNat ∧ asInt config.tagSize.toNat ≤ 16 :=
    of_decide_eq_true allowed
  have le := toNat_asInt_le config.tagSize.toNat
  have fetched : (tag.take (asInt config.tagSize.toNat).toNat).length =
      (asInt config.tagSize.toNat).toNat := by
    rw [List.length_take, sixteen]
    omega
  constructor
  · rw [tagBuffer, List.length_append, fetched, length_zeros]
    omega
  · exact List.take_left' fetched

theorem seen_eq_iff {seen : Bytes} (sees : seenByCipher plaintext = some seen) :
    seen = plaintext ↔ plaintext.length < 2 ^ 32 := by
  constructor
  · rintro rfl
    have small := length_seenByCipher_lt sees
    omega
  · exact fun small => eq_of_seenByCipher small sees

theorem decrypt_of_sealed (correct : evp.Correct) {engine : ConfiguredEngine}
    (present : engine.key = some key)
    {additional seen : Bytes} (handed : seenAad aad = some additional)
    (sees : seenByCipher plaintext = some seen)
    (sealed : evp.sealing key nonce additional seen = some (ciphertext, tag))
    (allowed : tagLengthAllowed (asInt engine.config.tagSize.toNat) = true)
    (accepted : evp.setsIvLength (asInt iv.length) = true) :
    decrypt evp engine ciphertext
        ⟨iv, tagBuffer engine.config tag, aad, plaintext.length⟩ =
      some (finalized (evp.opening key (iv.take (asInt iv.length).toNat) additional ciphertext
        (tag.take (asInt engine.config.tagSize.toNat).toNat))) := by
  obtain ⟨size, start⟩ := tagBuffer_eq (correct.tag_length _ _ _ _ _ _ sealed) allowed
  have small : ciphertext.length < 2 ^ 31 := by
    rw [correct.length_eq _ _ _ _ _ _ sealed]
    exact length_seenByCipher_lt sees
  unfold decrypt
  rw [present]
  dsimp only
  rw [if_neg (not_not.mpr accepted), readFirst_of_le (toNat_asInt_le iv.length),
    Option.map_some, handed, seenByCipher_of_lt small]
  dsimp only
  rw [size, start, if_neg fun refused => refused.2 allowed]

end

/-! ## Sizes that fit -/

/-- OpenSSL seals the plaintext under the vector: it takes the sizes of the additional data, of
the plaintext and of the tag, and the sealing does not fail. -/
def Seals (evp : Evp) (engine : ConfiguredEngine) (nonce aad plaintext : Bytes) : Prop :=
  ∃ key additional seen, engine.key = some key ∧ seenAad aad = some additional ∧
    seenByCipher plaintext = some seen ∧
    (evp.sealing key nonce additional seen).isSome = true ∧
    tagLengthAllowed (asInt engine.config.tagSize.toNat) = true

/-- OpenSSL seals the plaintext under the counter vector. -/
def SealsMessage (evp : Evp) (engine : ConfiguredEngine) (random : RandomSource)
    (plaintext aad : Bytes) : Prop :=
  ∃ iv, generateCounterIv engine.config random engine.ivCounter = some iv ∧ iv ≠ [] ∧
    evp.setsIvLength (asInt engine.config.ivSize.toNat) = true ∧
    Seals evp engine (iv.take (asInt engine.config.ivSize.toNat).toNat) aad plaintext

/-- OpenSSL seals the chunk under the first twelve bytes of the chunk vector. -/
def SealsChunk (evp : Evp) (engine : ConfiguredEngine) (random : RandomSource)
    (chunkData : Bytes) (chunkIndex : UInt64) : Prop :=
  ∃ iv, deriveChunkIv engine.config random chunkIndex = some iv ∧ iv ≠ [] ∧
    12 ≤ iv.length ∧ Seals evp engine (iv.take 12) [] chunkData

section

variable {evp : Evp} {engine : ConfiguredEngine} {key : Key} {random : RandomSource}
  {plaintext aad : Bytes} {chunkIndex : UInt64}

theorem sealWith_isOk_iff {nonce : Bytes} (iv : Bytes) (present : engine.key = some key) :
    (∃ output, sealWith evp engine.config key iv nonce aad plaintext = .ok output) ↔
      Seals evp engine nonce aad plaintext := by
  constructor
  · rintro ⟨⟨ciphertext, metadata⟩, done⟩
    obtain ⟨additional, seen, tag, handed, sees, sealed, allowed, -⟩ := sealWith_ok done
    refine ⟨key, additional, seen, present, handed, sees, ?_, allowed⟩
    rw [sealed]
    rfl
  · rintro ⟨holder, additional, seen, held, handed, sees, succeeds, allowed⟩
    obtain rfl := Option.some.inj (present.symm.trans held)
    obtain ⟨⟨ciphertext, tag⟩, sealed⟩ := Option.isSome_iff_exists.mp succeeds
    refine ⟨(ciphertext, ⟨iv, tagBuffer engine.config tag, aad, plaintext.length⟩), ?_⟩
    unfold sealWith
    rw [handed, sees]
    dsimp only [Option.bind]
    rw [sealed]
    exact if_pos allowed

theorem encrypt_eq_ok_iff {output : Bytes × EncryptionMetadata} :
    encrypt evp engine random plaintext aad = some (.ok output) ↔
      ∃ key iv, engine.key = some key ∧
        generateCounterIv engine.config random engine.ivCounter = some iv ∧ iv ≠ [] ∧
        evp.setsIvLength (asInt engine.config.ivSize.toNat) = true ∧
        sealWith evp engine.config key iv (iv.take (asInt engine.config.ivSize.toNat).toNat) aad
          plaintext = .ok output := by
  unfold encrypt
  constructor
  · intro done
    split at done
    · cases Option.some.inj done
    · rename_i key present
      obtain ⟨iv, generated, rest⟩ := Option.bind_eq_some_iff.mp done
      split at rest
      · cases Option.some.inj rest
      · rename_i filled
        split at rest
        · cases Option.some.inj rest
        · rename_i accepted
          obtain ⟨nonce, read, sealed⟩ := Option.map_eq_some_iff.mp rest
          obtain ⟨-, rfl⟩ := readFirst_eq_some_iff.mp read
          exact ⟨key, iv, present, generated, fun empty => filled (List.isEmpty_iff.mpr empty),
            not_not.mp accepted, sealed⟩
  · rintro ⟨key, iv, present, generated, filled, accepted, sealed⟩
    have size := (length_generateCounterIv generated).resolve_left filled
    have room : (asInt engine.config.ivSize.toNat).toNat ≤ iv.length :=
      size ▸ toNat_asInt_le _
    rw [present]
    dsimp only
    rw [generated, Option.bind_some, if_neg (mt List.isEmpty_iff.mp filled),
      if_neg (not_not.mpr accepted), readFirst_of_le room, Option.map_some, sealed]

theorem encryptChunk_eq_ok_iff {output : Bytes × EncryptionMetadata} :
    encryptChunk evp engine random plaintext chunkIndex = some (.ok output) ↔
      ∃ key iv, engine.key = some key ∧
        deriveChunkIv engine.config random chunkIndex = some iv ∧ iv ≠ [] ∧ 12 ≤ iv.length ∧
        sealWith evp engine.config key iv (iv.take 12) [] plaintext = .ok output := by
  unfold encryptChunk
  constructor
  · intro done
    split at done
    · cases Option.some.inj done
    · rename_i key present
      obtain ⟨iv, derived, rest⟩ := Option.bind_eq_some_iff.mp done
      split at rest
      · cases Option.some.inj rest
      · rename_i filled
        obtain ⟨nonce, read, sealed⟩ := Option.map_eq_some_iff.mp rest
        obtain ⟨room, rfl⟩ := readFirst_eq_some_iff.mp read
        exact ⟨key, iv, present, derived, fun empty => filled (List.isEmpty_iff.mpr empty), room,
          sealed⟩
  · rintro ⟨key, iv, present, derived, filled, room, sealed⟩
    rw [present]
    dsimp only
    rw [derived, Option.bind_some, if_neg (mt List.isEmpty_iff.mp filled), readFirst_of_le room,
      Option.map_some, sealed]

theorem encrypt_isOk_iff (present : engine.key = some key) :
    (∃ output, encrypt evp engine random plaintext aad = some (.ok output)) ↔
      SealsMessage evp engine random plaintext aad := by
  constructor
  · rintro ⟨output, done⟩
    obtain ⟨holder, iv, held, generated, filled, accepted, sealed⟩ := encrypt_eq_ok_iff.mp done
    exact ⟨iv, generated, filled, accepted, (sealWith_isOk_iff iv held).mp ⟨output, sealed⟩⟩
  · rintro ⟨iv, generated, filled, accepted, seals⟩
    obtain ⟨output, sealed⟩ := (sealWith_isOk_iff iv present).mpr seals
    exact ⟨output,
      encrypt_eq_ok_iff.mpr ⟨key, iv, present, generated, filled, accepted, sealed⟩⟩

theorem encryptChunk_isOk_iff (present : engine.key = some key) :
    (∃ output, encryptChunk evp engine random plaintext chunkIndex = some (.ok output)) ↔
      SealsChunk evp engine random plaintext chunkIndex := by
  constructor
  · rintro ⟨output, done⟩
    obtain ⟨holder, iv, held, derived, filled, room, sealed⟩ := encryptChunk_eq_ok_iff.mp done
    exact ⟨iv, derived, filled, room, (sealWith_isOk_iff iv held).mp ⟨output, sealed⟩⟩
  · rintro ⟨iv, derived, filled, room, seals⟩
    obtain ⟨output, sealed⟩ := (sealWith_isOk_iff iv present).mpr seals
    exact ⟨output, encryptChunk_eq_ok_iff.mpr ⟨key, iv, present, derived, filled, room, sealed⟩⟩

theorem encrypt_ne_none_iff (present : engine.key = some key) :
    encrypt evp engine random plaintext aad ≠ none ↔
      ((random.draw 8).isSome = true → 8 ≤ engine.config.ivSize.toNat) := by
  unfold encrypt
  rw [present]
  dsimp only
  cases generated : generateCounterIv engine.config random engine.ivCounter with
  | none =>
      obtain ⟨draws, small⟩ := generateCounterIv_eq_none_iff.mp generated
      rw [Option.bind_none]
      exact iff_of_false (fun some => some rfl) fun room =>
        Nat.not_le.mpr small (room draws)
  | some iv =>
      have room : (random.draw 8).isSome = true → 8 ≤ engine.config.ivSize.toNat := by
        intro draws
        by_contra small
        rw [generateCounterIv_eq_none_iff.mpr ⟨draws, Nat.not_le.mp small⟩] at generated
        contradiction
      apply iff_of_true _ room
      rw [Option.bind_some]
      rcases length_generateCounterIv generated with rfl | size
      · exact Option.some_ne_none _
      · split
        · exact Option.some_ne_none _
        · split
          · exact Option.some_ne_none _
          · rw [Ne, Option.map_eq_none_iff, readFirst_eq_none_iff, size, Nat.not_lt]
            exact toNat_asInt_le _

theorem generateIv_ne_none_iff : generateIv engine random ≠ none ↔
    ((random.draw 8).isSome = true → 8 ≤ engine.config.ivSize.toNat) := by
  unfold generateIv
  rw [Ne, Option.map_eq_none_iff, generateCounterIv_eq_none_iff, not_and, Nat.not_lt]

theorem encryptChunk_ne_none_iff (present : engine.key = some key) :
    encryptChunk evp engine random plaintext chunkIndex ≠ none ↔
      ((random.draw (asInt (engine.config.ivSize - 4).toNat)).isSome = true →
        12 ≤ engine.config.ivSize.toNat) := by
  obtain ⟨iv, derived⟩ := deriveChunkIv_isSome engine.config random chunkIndex
  unfold encryptChunk
  rw [present]
  dsimp only
  rw [derived, Option.bind_some]
  rcases length_deriveChunkIv derived with ⟨silent, rfl⟩ | ⟨draws, size, filled⟩
  · rw [if_pos List.isEmpty_nil, silent]
    exact iff_of_true (Option.some_ne_none _) (fun some => absurd some Bool.false_ne_true)
  · rw [if_neg (by simpa using filled), Ne, Option.map_eq_none_iff, readFirst_eq_none_iff, size,
      Nat.not_lt]
    exact ⟨fun room _ => room, fun room => room draws⟩

theorem opening_of_finalized {answer : Option Bytes} (opened : finalized answer = .ok plaintext) :
    answer = some plaintext := by
  cases answer with
  | none => contradiction
  | some bytes =>
      rw [finalized, Except.ok.injEq] at opened
      rw [opened]

variable {ciphertext : Bytes} {metadata : EncryptionMetadata}

/-- Under its own vector a sealed ciphertext opens to what the cipher saw, and this is the
plaintext exactly if its size is no more than 32 bits. -/
theorem finalized_opening (correct : evp.Correct) {nonce additional seen tag : Bytes}
    (sees : seenByCipher plaintext = some seen)
    (sealed : evp.sealing key nonce additional seen = some (ciphertext, tag))
    (allowed : tagLengthAllowed (asInt engine.config.tagSize.toNat) = true) :
    some (finalized (evp.opening key nonce additional ciphertext
        (tag.take (asInt engine.config.tagSize.toNat).toNat))) = some (.ok plaintext) ↔
      plaintext.length < 2 ^ 32 := by
  have bounds : 0 < asInt engine.config.tagSize.toNat ∧ asInt engine.config.tagSize.toNat ≤ 16 :=
    of_decide_eq_true allowed
  rw [correct.opening_eq _ _ _ _ _ _ _ sealed (by omega) (by omega), finalized,
    Option.some.injEq, Except.ok.injEq]
  exact seen_eq_iff sees

theorem decrypt_of_encrypt (correct : evp.Correct)
    (encrypted : encrypt evp engine random plaintext aad = some (.ok (ciphertext, metadata))) :
    decrypt evp engine ciphertext metadata = some (.ok plaintext) ↔
      plaintext.length < 2 ^ 32 := by
  obtain ⟨key, iv, present, generated, filled, accepted, done⟩ := encrypt_eq_ok_iff.mp encrypted
  obtain ⟨additional, seen, tag, handed, sees, sealed, allowed, rfl⟩ := sealWith_ok done
  have size := (length_generateCounterIv generated).resolve_left filled
  rw [← size] at accepted sealed
  rw [decrypt_of_sealed correct present handed sees sealed allowed accepted]
  exact finalized_opening correct sees sealed allowed

/-- The ciphertext opens under no vector but the one that it was sealed with: the twelve bytes
that OpenSSL read. -/
def OwnVector (evp : Evp) (engine : ConfiguredEngine) (ciphertext : Bytes)
    (metadata : EncryptionMetadata) : Prop :=
  ∀ key nonce plaintext, engine.key = some key →
    evp.opening key nonce [] ciphertext
      (metadata.authTag.take (asInt metadata.authTag.length).toNat) = some plaintext →
    nonce = metadata.iv.take 12

theorem encryptChunk_ok (present : engine.key = some key)
    (encrypted : encryptChunk evp engine random plaintext chunkIndex =
      some (.ok (ciphertext, metadata))) :
    ∃ iv seen tag, iv.length = engine.config.ivSize.toNat ∧ 12 ≤ iv.length ∧
      seenByCipher plaintext = some seen ∧
      evp.sealing key (iv.take 12) [] seen = some (ciphertext, tag) ∧
      tagLengthAllowed (asInt engine.config.tagSize.toNat) = true ∧
      metadata = ⟨iv, tagBuffer engine.config tag, [], plaintext.length⟩ := by
  obtain ⟨holder, iv, held, derived, filled, room, done⟩ := encryptChunk_eq_ok_iff.mp encrypted
  obtain rfl := Option.some.inj (present.symm.trans held)
  obtain ⟨additional, seen, tag, handed, sees, sealed, allowed, same⟩ := sealWith_ok done
  obtain rfl : additional = [] := (Option.some.inj handed).symm
  have size : iv.length = engine.config.ivSize.toNat := by
    rcases length_deriveChunkIv derived with ⟨-, rfl⟩ | ⟨-, size, -⟩
    · exact absurd rfl filled
    · exact size
  exact ⟨iv, seen, tag, size, room, sees, sealed, allowed, same⟩

theorem decryptChunk_of_encryptChunk (correct : evp.Correct) (index : UInt64)
    (present : engine.key = some key)
    (encrypted : encryptChunk evp engine random plaintext chunkIndex =
      some (.ok (ciphertext, metadata))) :
    (asInt engine.config.ivSize.toNat = 12 ∧ plaintext.length < 2 ^ 32 →
      decryptChunk evp engine ciphertext metadata index = some (.ok plaintext)) ∧
    (OwnVector evp engine ciphertext metadata →
      decryptChunk evp engine ciphertext metadata index = some (.ok plaintext) →
      asInt engine.config.ivSize.toNat = 12 ∧ plaintext.length < 2 ^ 32) := by
  obtain ⟨iv, seen, tag, size, room, sees, sealed, allowed, rfl⟩ :=
    encryptChunk_ok present encrypted
  have handed : seenAad [] = some [] := rfl
  rw [← size]
  unfold decryptChunk
  constructor
  · rintro ⟨twelve, small⟩
    have accepted : evp.setsIvLength (asInt iv.length) = true := by
      rw [twelve]
      exact correct.ivLength_default
    rw [decrypt_of_sealed correct present handed sees sealed allowed accepted, twelve]
    exact (finalized_opening correct sees sealed allowed).mpr small
  · intro own opens
    have accepted : evp.setsIvLength (asInt iv.length) = true := by
      by_contra refused
      unfold decrypt at opens
      rw [present] at opens
      dsimp only at opens
      rw [if_pos refused] at opens
      cases Option.some.inj opens
    obtain ⟨tagSize, start⟩ := tagBuffer_eq (correct.tag_length _ _ _ _ _ _ sealed) allowed
    have cut : (tagBuffer engine.config tag).take
        (asInt (tagBuffer engine.config tag).length).toNat =
          tag.take (asInt engine.config.tagSize.toNat).toNat := by
      rw [tagSize, start]
    rw [decrypt_of_sealed correct present handed sees sealed allowed accepted] at opens
    have opened := opening_of_finalized (Option.some.inj opens)
    have same := own key _ plaintext present (cut ▸ opened)
    have twelve : asInt iv.length = 12 := by
      have lengths := congrArg List.length same
      have positive := correct.ivLength_pos _ accepted
      have le := toNat_asInt_le iv.length
      simp only [List.length_take] at lengths
      omega
    refine ⟨twelve, ?_⟩
    rw [same] at opens
    exact (finalized_opening correct sees sealed allowed).mp opens

theorem decrypt_ne_none (ciphertext : Bytes) (metadata : EncryptionMetadata) :
    decrypt evp engine ciphertext metadata ≠ none := by
  unfold decrypt
  split
  · exact Option.some_ne_none _
  · split
    · exact Option.some_ne_none _
    · rw [readFirst_of_le (toNat_asInt_le _)]
      exact Option.some_ne_none _

theorem decrypt_of_key_eq {other : ConfiguredEngine} (same : other.key = engine.key)
    (ciphertext : Bytes) (metadata : EncryptionMetadata) :
    decrypt evp other ciphertext metadata = decrypt evp engine ciphertext metadata := by
  unfold decrypt
  rw [same]

end

/-- The round trips and the bounds for one input: no call reaches over the end of the buffer,
and what is sealed opens to the plaintext. -/
structure SizesSound (evp : Evp) (engine other : ConfiguredEngine) (random : RandomSource)
    (plaintext aad : Bytes) (chunkIndex index : UInt64) : Prop where
  encrypts : encrypt evp engine random plaintext aad ≠ none
  generates : generateIv engine random ≠ none
  chunks : encryptChunk evp engine random plaintext chunkIndex ≠ none
  decrypts : ∀ ciphertext metadata, decrypt evp other ciphertext metadata ≠ none
  opens : ∀ ciphertext metadata,
    encrypt evp engine random plaintext aad = some (.ok (ciphertext, metadata)) →
    decrypt evp other ciphertext metadata = some (.ok plaintext)
  opensChunk : ∀ ciphertext metadata,
    encryptChunk evp engine random plaintext chunkIndex = some (.ok (ciphertext, metadata)) →
    decryptChunk evp other ciphertext metadata index = some (.ok plaintext)

/-- The sizes fit: where there are random bytes the buffer has room for what is written and
read, and where OpenSSL seals, the plaintext has a 32-bit size and the vector of a chunk, cast
to `int`, the size 12. -/
structure SizesFit (evp : Evp) (engine : ConfiguredEngine) (random : RandomSource)
    (plaintext aad : Bytes) (chunkIndex : UInt64) : Prop where
  counterRoom : (random.draw 8).isSome = true → 8 ≤ engine.config.ivSize.toNat
  chunkRoom : (random.draw (asInt (engine.config.ivSize - 4).toNat)).isSome = true →
    12 ≤ engine.config.ivSize.toNat
  plaintextSize : SealsMessage evp engine random plaintext aad → plaintext.length < 2 ^ 32
  chunkSizes : SealsChunk evp engine random plaintext chunkIndex →
    asInt engine.config.ivSize.toNat = 12 ∧ plaintext.length < 2 ^ 32

/-- Whatever the configured sizes, the round trips and the bounds hold exactly if the sizes
fit; that a chunk vector of another size fails needs that a chunk opens under no vector but
its own. -/
theorem sizesSound_iff {evp : Evp} (correct : evp.Correct) {engine other : ConfiguredEngine}
    {key : Key} (present : engine.key = some key) (same : other.key = engine.key)
    (random : RandomSource) (plaintext aad : Bytes) (chunkIndex index : UInt64) :
    (SizesFit evp engine random plaintext aad chunkIndex →
      SizesSound evp engine other random plaintext aad chunkIndex index) ∧
    ((∀ ciphertext metadata, encryptChunk evp engine random plaintext chunkIndex =
        some (.ok (ciphertext, metadata)) → OwnVector evp engine ciphertext metadata) →
      SizesSound evp engine other random plaintext aad chunkIndex index →
      SizesFit evp engine random plaintext aad chunkIndex) := by
  constructor
  · intro fit
    constructor
    · exact (encrypt_ne_none_iff present).mpr fit.counterRoom
    · exact generateIv_ne_none_iff.mpr fit.counterRoom
    · exact (encryptChunk_ne_none_iff present).mpr fit.chunkRoom
    · exact decrypt_ne_none
    · intro ciphertext metadata encrypted
      rw [decrypt_of_key_eq same]
      exact (decrypt_of_encrypt correct encrypted).mpr
        (fit.plaintextSize ((encrypt_isOk_iff present).mp ⟨_, encrypted⟩))
    · intro ciphertext metadata encrypted
      rw [decryptChunk, decrypt_of_key_eq same]
      exact (decryptChunk_of_encryptChunk correct index present encrypted).1
        (fit.chunkSizes ((encryptChunk_isOk_iff present).mp ⟨_, encrypted⟩))
  · intro own sound
    constructor
    · exact (encrypt_ne_none_iff present).mp sound.encrypts
    · exact (encryptChunk_ne_none_iff present).mp sound.chunks
    · intro seals
      obtain ⟨output, encrypted⟩ := (encrypt_isOk_iff present).mpr seals
      have opened := sound.opens _ _ encrypted
      rw [decrypt_of_key_eq same] at opened
      exact (decrypt_of_encrypt correct encrypted).mp opened
    · intro seals
      obtain ⟨output, encrypted⟩ := (encryptChunk_isOk_iff present).mpr seals
      have opened := sound.opensChunk _ _ encrypted
      rw [decryptChunk, decrypt_of_key_eq same] at opened
      exact (decryptChunk_of_encryptChunk correct index present encrypted).2
        (own _ _ encrypted) opened

/-! ## The default sizes -/

section

variable {evp : Evp} {key : Option Key} {counter : UInt64} {random : RandomSource}

theorem writeAt_append {front middle back bytes : Bytes} (same : middle.length = bytes.length) :
    writeAt (front ++ (middle ++ back)) front.length bytes =
      some (front ++ (bytes ++ back)) := by
  have fits : front.length + bytes.length ≤ (front ++ (middle ++ back)).length := by
    simp only [List.length_append]
    omega
  rw [writeAt, if_pos fits, List.take_left' rfl, ← same, List.append_assoc]
  simp

theorem writeAt_vector {drawn last : Bytes} (eight : drawn.length = 8)
    (four : last.length = 4) :
    writeAt (zeros 12) 0 drawn = some (drawn ++ zeros 4) ∧
      writeAt (drawn ++ zeros 4) 8 last = some (drawn ++ last) := by
  constructor
  · exact @writeAt_append [] (zeros 8) (zeros 4) drawn eight.symm
  · have second := @writeAt_append drawn (zeros 4) [] last four.symm
    rwa [eight, List.append_nil, List.append_nil] at second

theorem deriveChunkIv_default (random : RandomSource) (chunkIndex : UInt64) :
    deriveChunkIv .default random chunkIndex =
      some ((AesGcmEngine.deriveChunkIv (random.bytes 8) chunkIndex).getD []) := by
  have eight : random.draw (asInt (AesGcmConfig.default.ivSize - 4).toNat) = random.bytes 8 :=
    rfl
  unfold deriveChunkIv
  rw [eight]
  cases draws : random.bytes 8 with
  | none => rfl
  | some drawn =>
      obtain ⟨first, second⟩ := @writeAt_vector drawn (lowBytes chunkIndex)
        (random.length_eq 8 drawn draws) rfl
      change (writeAt (zeros 12) 0 drawn).bind _ = _
      rw [first, Option.bind_some, if_pos (by decide)]
      exact second

/-- The cipher with the default sizes. -/
def toAesGcm (evp : Evp) : AesGcm where
  encrypt key iv plaintext := evp.sealing key iv [] plaintext
  decrypt := evp.opening
  opensslError := evp.opensslError

theorem encryptChunk_default (correct : evp.Correct) (chunkData : Bytes) (chunkIndex : UInt64) :
    encryptChunk evp ⟨.default, key, counter⟩ random chunkData chunkIndex =
      some (AesGcmEngine.encryptChunk (toAesGcm evp) ⟨key⟩ (random.bytes 8) chunkData
        chunkIndex) := by
  unfold encryptChunk AesGcmEngine.encryptChunk
  cases key with
  | none => rfl
  | some key =>
      dsimp only
      rw [deriveChunkIv_default, Option.bind_some]
      cases draws : random.bytes 8 with
      | none => rfl
      | some drawn =>
          have length : (drawn ++ lowBytes chunkIndex).length = 12 := by
            rw [List.length_append, random.length_eq 8 drawn draws]
            rfl
          have derived : AesGcmEngine.deriveChunkIv (some drawn) chunkIndex =
              some (drawn ++ lowBytes chunkIndex) := rfl
          rw [derived, Option.getD_some]
          generalize drawn ++ lowBytes chunkIndex = iv at length
          have filled : ¬ iv.isEmpty = true := by
            rw [List.isEmpty_iff_length_eq_zero, length]
            decide
          have read : readFirst iv 12 = some iv := by
            rw [readFirst_of_le length.ge, List.take_of_length_le length.le]
          rw [if_neg filled, read, Option.map_some]
          dsimp only
          unfold sealWith
          have plain : (seenByCipher chunkData).bind ((toAesGcm evp).encrypt key iv) =
              (seenByCipher chunkData).bind (evp.sealing key iv []) := rfl
          have bare : seenAad [] = some [] := rfl
          rw [plain, bare]
          dsimp only
          cases sealed : (seenByCipher chunkData).bind (evp.sealing key iv []) with
          | none => rfl
          | some output =>
              obtain ⟨ciphertext, tag⟩ := output
              obtain ⟨seen, -, sealing⟩ := Option.bind_eq_some_iff.mp sealed
              have whole : tagBuffer .default tag = tag := by
                have sixteen := correct.tag_length _ _ _ _ _ _ sealing
                obtain ⟨size, start⟩ := @tagBuffer_eq .default tag sixteen rfl
                have long : (tagBuffer .default tag).length = 16 := size
                calc
                  tagBuffer .default tag = (tagBuffer .default tag).take 16 :=
                    (List.take_of_length_le long.le).symm
                  _ = tag.take 16 := start
                  _ = tag := List.take_of_length_le sixteen.le
              dsimp only
              rw [whole]
              exact congrArg some (if_pos rfl)

end

/-! ## Sizes that do not fit -/

namespace SizeSample

/-- A tag that tells vectors of different lengths apart. -/
def tagOf (iv : Bytes) : Bytes :=
  (UInt8.ofNat iv.length :: (iv ++ zeros 15)).take 16

/-- A cipher that leaves the plaintext as it is and checks the tag. -/
def evp : Evp where
  setsIvLength length := 0 < length ∧ length ≤ 128
  sealing _ iv _ plaintext := some (plaintext, tagOf iv)
  opening _ iv _ ciphertext tag :=
    if tag ≠ [] ∧ tag <+: tagOf iv then some ciphertext else none
  opensslError := []

theorem length_tagOf (iv : Bytes) : (tagOf iv).length = 16 := by
  rw [tagOf, List.length_take, List.length_cons, List.length_append, length_zeros]
  omega

theorem correct : evp.Correct where
  ivLength_pos length takes := (of_decide_eq_true takes).1
  ivLength_default := rfl
  length_eq key iv aad plaintext ciphertext tag sealed := by
    cases sealed
    rfl
  tag_length key iv aad plaintext ciphertext tag sealed := by
    cases sealed
    exact length_tagOf iv
  opening_eq key iv aad plaintext ciphertext tag length sealed positive bounded := by
    cases sealed
    have filled : (tagOf iv).take length ≠ [] := by
      apply List.ne_nil_of_length_pos
      rw [List.length_take, length_tagOf]
      omega
    exact if_pos ⟨filled, List.take_prefix _ _⟩

/-- A key of zeros. -/
def key : Key :=
  ⟨zeros 32, length_zeros 32⟩

/-- An engine with a vector of the given size. -/
def engine (ivSize : UInt64) : ConfiguredEngine :=
  ⟨AesGcmConfig.default.withIvSize ivSize, some key, 0⟩

def random : RandomSource where
  bytes count := some (List.replicate count 7)
  length_eq count drawn draws := by
    rw [← Option.some.inj draws, List.length_replicate]

end SizeSample

open SizeSample in
theorem sizesSound_default :
    SizesSound evp (engine 12) (engine 12) random [1, 2, 3] [9] 5 5 := by
  apply (sizesSound_iff correct rfl rfl random [1, 2, 3] [9] 5 5).1
  exact ⟨by decide, by decide, fun _ => by decide, fun _ => by decide⟩

open SizeSample in
/-- A vector of four bytes is written and read over its end, one of eight is read over its end
for a chunk, and with one of sixteen a chunk does not open again. -/
theorem sizes_break :
    encrypt evp (engine 4) random [1, 2, 3] [] = none ∧
    encryptChunk evp (engine 8) random [1, 2, 3] 5 = none ∧
    (∃ ciphertext metadata,
      encryptChunk evp (engine 16) random [1, 2, 3] 5 = some (.ok (ciphertext, metadata)) ∧
      decryptChunk evp (engine 16) ciphertext metadata 5 =
        some (unexpected .chunkChecksumError
          "Authentication failed - data may have been tampered")) ∧
    ¬ SizesSound evp (engine 4) (engine 4) random [1, 2, 3] [] 5 5 ∧
    ¬ SizesSound evp (engine 8) (engine 8) random [1, 2, 3] [] 5 5 ∧
    ¬ SizesSound evp (engine 16) (engine 16) random [1, 2, 3] [] 5 5 := by
  refine ⟨by decide, by decide, ?_, ?_, ?_, ?_⟩
  · exact ⟨_, _, rfl, by decide⟩
  · intro sound
    exact sound.encrypts (by decide)
  · intro sound
    exact sound.chunks (by decide)
  · intro sound
    have opened := sound.opensChunk _ _ rfl
    revert opened
    decide

end ConfiguredEngine

end FileTrans.Encryption
