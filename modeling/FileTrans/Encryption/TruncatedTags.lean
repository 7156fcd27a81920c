import FileTrans.Encryption.DecryptionStream

/-!
# Tags of another length

Every way to decrypt takes the length of the tag from the metadata, and OpenSSL
compares as many bytes as it is given.  The configured size of the tag is never
looked at.
-/

namespace FileTrans.Encryption

open FileTrans.Core
open AesGcmEngine (seenByCipher)
open ConfiguredEngine (seenAad finalized decrypt decryptChunk createDecryptStream)

/-- What a tag is computed of. -/
structure CipherInput where
  key : Key
  nonce : Bytes
  aad : Bytes
  ciphertext : Bytes

/-- The documented check of the tag: with a tag set, the bytes that were set are those with which
the tag of the input begins. -/
structure Evp.Compares (evp : Evp) (gcmTag : CipherInput → Bytes) : Prop where
  tag_length : ∀ input, (gcmTag input).length = 16
  opening_iff : ∀ key nonce aad ciphertext tag,
    (evp.opening key nonce aad ciphertext tag).isSome = true ↔
      tag ≠ [] ∧ tag <+: gcmTag ⟨key, nonce, aad, ciphertext⟩

/-! ## Ways to decrypt -/

/-- A way to decrypt: the whole ciphertext, a chunk, or a stream that is finalized after the
calls. -/
inductive Decryption
  | whole (ciphertext : Bytes)
  | chunk (encryptedChunk : Bytes) (chunkIndex : UInt64)
  | stream (calls : List StreamCall)

namespace Decryption

def Succeeds (evp : StreamingEvp) (engine : ConfiguredEngine) (metadata : EncryptionMetadata) :
    Decryption → Prop
  | whole ciphertext =>
      ∃ plaintext, decrypt evp.toEvp engine ciphertext metadata = some (.ok plaintext)
  | chunk encryptedChunk chunkIndex => ∃ plaintext,
      decryptChunk evp.toEvp engine encryptedChunk metadata chunkIndex = some (.ok plaintext)
  | stream calls => ∃ stream ∈ createDecryptStream evp.toEvp engine metadata, ∃ rest,
      ((stream.after evp calls).finalize evp).1 = .ok rest

/-- No earlier call has finalized the stream. -/
def Unfinished (evp : StreamingEvp) (engine : ConfiguredEngine) (metadata : EncryptionMetadata) :
    Decryption → Prop
  | stream calls => ∀ stream ∈ createDecryptStream evp.toEvp engine metadata,
      (stream.after evp calls).isFinalized = false
  | _ => True

def ciphertext : Decryption → Bytes
  | whole ciphertext => ciphertext
  | chunk encryptedChunk _ => encryptedChunk
  | stream calls => ciphertextOf calls

/-- What the cipher sees of the ciphertext. -/
def seen : Decryption → Option Bytes
  | whole ciphertext => seenByCipher ciphertext
  | chunk encryptedChunk _ => seenByCipher encryptedChunk
  | stream calls => some (seenOf calls)

/-- The key, the vector, the additional data and the ciphertext. -/
def input (engine : ConfiguredEngine) (metadata : EncryptionMetadata) (decryption : Decryption) :
    Option CipherInput :=
  engine.key.map fun key => ⟨key, metadata.iv, metadata.aad, decryption.ciphertext⟩

/-- What the cipher sees of them, with each length as an `int`. -/
def seenInput (engine : ConfiguredEngine) (metadata : EncryptionMetadata)
    (decryption : Decryption) : Option CipherInput :=
  engine.key.bind fun key => (seenAad metadata.aad).bind fun additional =>
    decryption.seen.map fun seen =>
      ⟨key, metadata.iv.take (asInt metadata.iv.length).toNat, additional, seen⟩

end Decryption

/-- The tag has the configured size, and is that of the input. -/
def Authentic (gcmTag : CipherInput → Bytes) (engine : ConfiguredEngine)
    (metadata : EncryptionMetadata) (decryption : Decryption) : Prop :=
  metadata.authTag.length = engine.config.tagSize.toNat ∧
    ∃ input ∈ decryption.input engine metadata,
      metadata.authTag = (gcmTag input).take engine.config.tagSize.toNat

/-- OpenSSL takes the lengths, and the bytes of the tag that it gets are those with which the tag
of what it sees begins. -/
def BeginsTag (evp : Evp) (gcmTag : CipherInput → Bytes) (engine : ConfiguredEngine)
    (metadata : EncryptionMetadata) (decryption : Decryption) : Prop :=
  evp.setsIvLength (asInt metadata.iv.length) = true ∧
    tagLengthAllowed (asInt metadata.authTag.length) = true ∧
    ∃ seen ∈ decryption.seenInput engine metadata,
      metadata.authTag.take (asInt metadata.authTag.length).toNat <+: gcmTag seen

/-- The tag has the configured size, no more than sixteen bytes, and in so many bytes the tag of
what the cipher sees is that of the input. -/
def WholeTag (gcmTag : CipherInput → Bytes) (engine : ConfiguredEngine)
    (metadata : EncryptionMetadata) (decryption : Decryption) : Prop :=
  metadata.authTag.length = engine.config.tagSize.toNat ∧ engine.config.tagSize.toNat ≤ 16 ∧
    ∃ input ∈ decryption.input engine metadata,
      ∃ seen ∈ decryption.seenInput engine metadata,
        (gcmTag seen).take engine.config.tagSize.toNat =
          (gcmTag input).take engine.config.tagSize.toNat

section

variable {evp : StreamingEvp} {gcmTag : CipherInput → Bytes} {engine : ConfiguredEngine}
  {metadata : EncryptionMetadata} {decryption : Decryption} {tag : Bytes}

theorem take_tag_ne_nil (allowed : tagLengthAllowed (asInt tag.length) = true) :
    tag.take (asInt tag.length).toNat ≠ [] := by
  have bounds : 0 < asInt tag.length ∧ asInt tag.length ≤ 16 := of_decide_eq_true allowed
  have le := ConfiguredEngine.toNat_asInt_le tag.length
  apply List.ne_nil_of_length_pos
  rw [List.length_take]
  omega

theorem opening_isSome_iff (compares : evp.toEvp.Compares gcmTag) (input : CipherInput)
    (set : metadata.authTag.isEmpty = true ∨
      tagLengthAllowed (asInt metadata.authTag.length) = true) :
    (evp.opening input.key input.nonce input.aad input.ciphertext
        (metadata.authTag.take (asInt metadata.authTag.length).toNat)).isSome = true ↔
      tagLengthAllowed (asInt metadata.authTag.length) = true ∧
        metadata.authTag.take (asInt metadata.authTag.length).toNat <+: gcmTag input := by
  rw [compares.opening_iff]
  rcases set with empty | allowed
  · rw [List.isEmpty_iff.mp empty]
    exact iff_of_false (fun both => both.1 rfl) fun both => absurd both.1 (by decide)
  · rw [and_iff_right (take_tag_ne_nil allowed), and_iff_right allowed]

theorem finalized_ok_iff (opened : Option Bytes) :
    (∃ plaintext, some (finalized opened) = some (.ok plaintext)) ↔ opened.isSome = true := by
  cases opened with
  | none => simp [finalized, unexpected]
  | some plaintext => exact iff_of_true ⟨plaintext, rfl⟩ rfl

theorem not_beginsTag_of_none (missing : engine.key = none ∨ seenAad metadata.aad = none ∨
    decryption.seen = none) : ¬ BeginsTag evp.toEvp gcmTag engine metadata decryption := by
  rintro ⟨-, -, input, mem, -⟩
  simp only [Decryption.seenInput, Option.mem_def, Option.bind_eq_some_iff,
    Option.map_eq_some_iff] at mem
  obtain ⟨key, present, additional, handed, seen, sees, -⟩ := mem
  rcases missing with none | none | none
  · cases present.symm.trans none
  · cases handed.symm.trans none
  · cases sees.symm.trans none

theorem beginsTag_iff {key : Key} {additional seen : Bytes} (present : engine.key = some key)
    (handed : seenAad metadata.aad = some additional) (sees : decryption.seen = some seen) :
    BeginsTag evp.toEvp gcmTag engine metadata decryption ↔
      evp.setsIvLength (asInt metadata.iv.length) = true ∧
        tagLengthAllowed (asInt metadata.authTag.length) = true ∧
        metadata.authTag.take (asInt metadata.authTag.length).toNat <+:
          gcmTag ⟨key, metadata.iv.take (asInt metadata.iv.length).toNat, additional, seen⟩ := by
  unfold BeginsTag Decryption.seenInput
  rw [present, handed, sees]
  simp

theorem decrypt_ok_iff (compares : evp.toEvp.Compares gcmTag) (ciphertext : Bytes) :
    (∃ plaintext, decrypt evp.toEvp engine ciphertext metadata = some (.ok plaintext)) ↔
      BeginsTag evp.toEvp gcmTag engine metadata (.whole ciphertext) := by
  unfold decrypt
  cases present : engine.key with
  | none => exact iff_of_false (by simp [unexpected]) (not_beginsTag_of_none (.inl present))
  | some key =>
      dsimp only
      by_cases takes : evp.setsIvLength (asInt metadata.iv.length) = true
      · rw [if_neg (not_not.mpr takes),
          readFirst_of_le (ConfiguredEngine.toNat_asInt_le metadata.iv.length), Option.map_some]
        cases handed : seenAad metadata.aad with
        | none =>
            exact iff_of_false (by simp [unexpected]) (not_beginsTag_of_none (.inr (.inl handed)))
        | some additional =>
            dsimp only
            cases sees : seenByCipher ciphertext with
            | none => exact iff_of_false (by simp) (not_beginsTag_of_none (.inr (.inr sees)))
            | some seen =>
                dsimp only
                have whole : (Decryption.whole ciphertext).seen = some seen := sees
                rw [beginsTag_iff present handed whole, and_iff_right takes]
                split
                · rename_i refused
                  exact iff_of_false (by simp [unexpected]) fun begins => refused.2 begins.1
                · rename_i unrefused
                  rw [finalized_ok_iff]
                  apply opening_isSome_iff compares ⟨key, _, additional, seen⟩
                  by_cases empty : metadata.authTag.isEmpty = true
                  · exact .inl empty
                  · exact .inr (not_not.mp fun refused => unrefused ⟨empty, refused⟩)
      · rw [if_pos takes]
        exact iff_of_false (by simp [unexpected]) fun begins => takes begins.1

theorem finalize_ok_iff {stream : DecryptionStream} :
    (∃ rest, (stream.finalize evp).1 = .ok rest) ↔ stream.isFinalized = false ∧
      ∃ nonce ∈ stream.context.nonce, (evp.opening stream.key nonce stream.context.aad
        stream.context.seen stream.context.tag).isSome = true := by
  unfold DecryptionStream.finalize
  by_cases done : stream.isFinalized = true
  · rw [if_pos done]
    exact iff_of_false (by simp [unexpected]) (by simp [done])
  · rw [if_neg done, and_iff_right (Bool.not_eq_true _ ▸ done)]
    cases stream.context.nonce with
    | none => simp [finalized, unexpected]
    | some nonce =>
        rw [Option.bind_some]
        split
        · rename_i closed
          simp [closed, finalized, unexpected]
        · rename_i plaintext opened
          simp [opened]

theorem finalize_after_ok_iff {stream : DecryptionStream} {nonce : Bytes}
    (ready : stream.context.nonce = some nonce) (calls : List StreamCall) :
    (∃ rest, ((stream.after evp calls).finalize evp).1 = .ok rest) ↔
      (stream.after evp calls).isFinalized = false ∧
        (evp.opening stream.key nonce stream.context.aad
          (stream.context.seen ++ seenOf calls) stream.context.tag).isSome = true := by
  rw [finalize_ok_iff]
  apply and_congr_right
  intro going
  obtain ⟨key, context⟩ := DecryptionStream.context_after ready going
  rw [key, context, CipherContext.see, ready]
  simp

theorem stream_ok_iff (compares : evp.toEvp.Compares gcmTag) (calls : List StreamCall) :
    Decryption.Succeeds evp engine metadata (.stream calls) ↔
      Decryption.Unfinished evp engine metadata (.stream calls) ∧
        BeginsTag evp.toEvp gcmTag engine metadata (.stream calls) := by
  unfold Decryption.Succeeds Decryption.Unfinished createDecryptStream
  cases present : engine.key with
  | none =>
      exact iff_of_false (by simp) fun both => not_beginsTag_of_none (.inl present) both.2
  | some key =>
      rw [Option.map_some]
      simp only [Option.mem_def, Option.some.injEq, exists_eq_left', forall_eq']
      have unset (aad seen : Bytes) (nonce : Bytes) :
          ¬ (evp.opening key nonce aad seen []).isSome = true := by
        rw [compares.opening_iff]
        exact fun both => both.1 rfl
      unfold DecryptionStream.initializeContext
      by_cases takes : evp.setsIvLength (asInt metadata.iv.length) = true
      · rw [if_neg (not_not.mpr takes)]
        dsimp only
        cases handed : seenAad metadata.aad with
        | none =>
            dsimp only
            rw [finalize_after_ok_iff rfl]
            exact iff_of_false (fun both => unset _ _ _ both.2)
              fun both => not_beginsTag_of_none (.inr (.inl handed)) both.2
        | some additional =>
            dsimp only
            rw [beginsTag_iff present handed rfl, and_iff_right takes]
            split
            · rename_i refused
              rw [finalize_after_ok_iff rfl]
              exact iff_of_false (fun both => unset _ _ _ both.2) fun both => refused.2 both.2.1
            · rename_i unrefused
              rw [finalize_after_ok_iff rfl]
              apply and_congr_right
              intro going
              apply opening_isSome_iff compares ⟨key, _, additional, seenOf calls⟩
              by_cases empty : metadata.authTag.isEmpty = true
              · exact .inl empty
              · exact .inr (not_not.mp fun refused => unrefused ⟨empty, refused⟩)
      · rw [if_pos takes]
        refine iff_of_false ?_ fun both => takes both.2.1
        rw [finalize_ok_iff]
        rintro ⟨-, nonce, set, -⟩
        rw [DecryptionStream.nonce_after_of_none rfl] at set
        contradiction

theorem succeeds_iff (compares : evp.toEvp.Compares gcmTag) (decryption : Decryption) :
    decryption.Succeeds evp engine metadata ↔
      decryption.Unfinished evp engine metadata ∧
        BeginsTag evp.toEvp gcmTag engine metadata decryption := by
  cases decryption with
  | whole ciphertext =>
    exact (decrypt_ok_iff compares ciphertext).trans (and_iff_right trivial).symm
  | chunk encryptedChunk chunkIndex =>
      exact (decrypt_ok_iff compares encryptedChunk).trans (and_iff_right trivial).symm
  | stream calls => exact stream_ok_iff compares calls

theorem eq_take_of_beginsTag {size : Nat} {input : CipherInput} (length : tag.length = size)
    (small : size ≤ 16) (begins : tag.take (asInt tag.length).toNat <+: gcmTag input) :
    tag = (gcmTag input).take size := by
  rw [asInt_of_lt (by omega), Int.toNat_natCast, List.take_length] at begins
  rw [← length]
  exact List.prefix_iff_eq_take.mp begins

theorem authentic_iff (compares : evp.toEvp.Compares gcmTag)
    (begins : BeginsTag evp.toEvp gcmTag engine metadata decryption) :
    Authentic gcmTag engine metadata decryption ↔
      WholeTag gcmTag engine metadata decryption := by
  obtain ⟨-, -, seen, isSeen, starts⟩ := begins
  constructor
  · rintro ⟨size, input, isInput, same⟩
    have small : engine.config.tagSize.toNat ≤ 16 := by
      have lengths := congrArg List.length same
      rw [List.length_take, compares.tag_length, size] at lengths
      omega
    exact ⟨size, small, input, isInput, seen, isSeen,
      (eq_take_of_beginsTag size small starts).symm.trans same⟩
  · rintro ⟨size, small, input, isInput, other, isOther, same⟩
    cases Option.mem_unique isSeen isOther
    exact ⟨size, input, isInput, (eq_take_of_beginsTag size small starts).trans same⟩

/-- A decryption that succeeds has an authentic tag exactly if the tag, where it begins as OpenSSL
wants it to, is whole. -/
theorem authentic_of_succeeds_iff (compares : evp.toEvp.Compares gcmTag) :
    (decryption.Succeeds evp engine metadata → Authentic gcmTag engine metadata decryption) ↔
      (decryption.Unfinished evp engine metadata →
        BeginsTag evp.toEvp gcmTag engine metadata decryption →
        WholeTag gcmTag engine metadata decryption) := by
  rw [succeeds_iff compares, and_imp]
  apply imp_congr_right
  intro unfinished
  apply imp_congr_right
  exact authentic_iff compares

end

namespace TagSample

/-- The tag of nothing under a key and a vector of zeros. -/
def gcmTag (_ : CipherInput) : Bytes :=
  [0x53, 0x0f, 0x8a, 0xfb, 0xc7, 0x45, 0x36, 0xb9, 0xa9, 0x63, 0xb4, 0xf1, 0xc4, 0xcb, 0x73, 0x8b]

/-- A cipher that has this tag for every input. -/
def evp : StreamingEvp where
  setsIvLength length := 0 < length ∧ length ≤ 128
  sealing key iv aad plaintext := some (plaintext, gcmTag ⟨key, iv, aad, plaintext⟩)
  opening key iv aad ciphertext tag :=
    if tag ≠ [] ∧ tag <+: gcmTag ⟨key, iv, aad, ciphertext⟩ then some ciphertext else none
  opensslError := []
  deciphering _ _ _ bytes := bytes

theorem compares : evp.toEvp.Compares gcmTag where
  tag_length _ := rfl
  opening_iff key nonce aad ciphertext tag := by
    change (if _ then some ciphertext else none).isSome = true ↔ _
    split
    · rename_i begins
      exact iff_of_true rfl begins
    · rename_i other
      exact iff_of_false Bool.false_ne_true other

/-- An engine of the default sizes. -/
def engine : ConfiguredEngine :=
  ⟨.default, some ConfiguredEngine.SizeSample.key, 0⟩

/-- A vector of zeros, and the first bytes of the tag. -/
def metadata (count : Nat) : EncryptionMetadata where
  iv := zeros 12
  authTag := (gcmTag ⟨ConfiguredEngine.SizeSample.key, zeros 12, [], []⟩).take count
  aad := []
  originalSize := 0

end TagSample

open TagSample in
theorem authentic_of_succeeds_sample :
    Authentic gcmTag engine (metadata 16) (.stream [.processChunk []]) :=
  (@authentic_of_succeeds_iff evp gcmTag engine (metadata 16) (.stream [.processChunk []])
    compares).mpr (fun _ _ => ⟨rfl, by decide, _, rfl, _, rfl, rfl⟩) ⟨_, rfl, [], by decide +kernel⟩

open TagSample in
/-- One byte of the tag is enough, on each way. -/
theorem one_byte_is_enough :
    decrypt evp.toEvp engine [] (metadata 1) = some (.ok []) ∧
    decryptChunk evp.toEvp engine [] (metadata 1) 0 = some (.ok []) ∧
    (createDecryptStream evp.toEvp engine (metadata 1)).map (fun stream =>
      ((stream.after evp [.processChunk []]).finalize evp).1) = some (.ok []) ∧
    (metadata 1).authTag.length ≠ engine.config.tagSize.toNat := by
  decide +kernel

end FileTrans.Encryption
