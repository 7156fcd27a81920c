import FileTrans.Encryption.ConfiguredSizes

/-!
# Chunks in another order

The index of a chunk goes into its initialisation vector, which travels with
the chunk.  `decrypt_chunk` takes the vector from there and does not look at
the index that it is given, so it opens a chunk at any place.
-/

namespace FileTrans.Encryption

open FileTrans.Core

namespace ConfiguredEngine

/-- A call to `encrypt_chunk`. -/
structure ChunkCall where
  data : Bytes
  index : UInt64
  random : RandomSource

structure SealedChunk where
  index : UInt64
  ciphertext : Bytes
  metadata : EncryptionMetadata
  deriving DecidableEq

/-- The chunk that a call seals, if it does. -/
def sealedChunk (evp : Evp) (engine : ConfiguredEngine) (call : ChunkCall) :
    Option SealedChunk :=
  match encryptChunk evp engine call.random call.data call.index with
  | some (.ok (ciphertext, metadata)) => some ⟨call.index, ciphertext, metadata⟩
  | _ => none

/-- The chunks that a sequence of calls seals. -/
def sealedChunks (evp : Evp) (engine : ConfiguredEngine) (calls : List ChunkCall) :
    List SealedChunk :=
  calls.filterMap (sealedChunk evp engine)

/-- What OpenSSL reads of a chunk in order to open it: vector, additional data, ciphertext and
tag; `none` if it refuses a size. -/
def readParts (evp : Evp) (ciphertext : Bytes) (metadata : EncryptionMetadata) :
    Option (Bytes × Bytes × Bytes × Bytes) :=
  if evp.setsIvLength (asInt metadata.iv.length) then
    (seenAad metadata.aad).bind fun additional =>
      (AesGcmEngine.seenByCipher ciphertext).map fun seen =>
        (metadata.iv.take (asInt metadata.iv.length).toNat, additional, seen,
          metadata.authTag.take (asInt metadata.authTag.length).toNat)
  else none

/-- The tag of a sealed chunk, as far as it was fetched. -/
def SealedChunk.tag (chunk : SealedChunk) : Bytes :=
  chunk.metadata.authTag.take (asInt chunk.metadata.authTag.length).toNat

/-- OpenSSL reads vector, ciphertext and tag of a sealed chunk, the tag perhaps cut. -/
def ReadAs (evp : Evp) (ciphertext : Bytes) (metadata : EncryptionMetadata)
    (chunk : SealedChunk) : Prop :=
  ∃ tag, readParts evp ciphertext metadata =
      some (chunk.metadata.iv.take 12, [], chunk.ciphertext, tag) ∧
    tag ≠ [] ∧ tag <+: chunk.tag

/-- What OpenSSL opens has been sealed under the key. -/
def Unforged (evp : Evp) (engine : ConfiguredEngine) (chunks : List SealedChunk)
    (ciphertext : Bytes) (metadata : EncryptionMetadata) : Prop :=
  ∀ key nonce additional seen tag plaintext, engine.key = some key →
    readParts evp ciphertext metadata = some (nonce, additional, seen, tag) →
    evp.opening key nonce additional seen tag = some plaintext →
    ∃ chunk ∈ chunks, ReadAs evp ciphertext metadata chunk

section

variable {evp : Evp} {engine : ConfiguredEngine} {key : Key} {calls : List ChunkCall}
  {call : ChunkCall} {chunk : SealedChunk} {ciphertext plaintext : Bytes}
  {metadata : EncryptionMetadata} {index : UInt64}

theorem decryptChunk_of_readParts (present : engine.key = some key)
    {nonce additional seen tag : Bytes}
    (read : readParts evp ciphertext metadata = some (nonce, additional, seen, tag))
    (allowed : tagLengthAllowed (asInt metadata.authTag.length) = true) (index : UInt64) :
    decryptChunk evp engine ciphertext metadata index =
      some (finalized (evp.opening key nonce additional seen tag)) := by
  unfold readParts at read
  split at read
  · rename_i accepted
    obtain ⟨_, handed, rest⟩ := Option.bind_eq_some_iff.mp read
    obtain ⟨_, sees, same⟩ := Option.map_eq_some_iff.mp rest
    simp only [Prod.mk.injEq] at same
    obtain ⟨rfl, rfl, rfl, rfl⟩ := same
    unfold decryptChunk decrypt
    rw [present]
    dsimp only
    rw [if_neg (not_not.mpr accepted), readFirst_of_le (toNat_asInt_le _), Option.map_some,
      handed, sees]
    dsimp only
    rw [if_neg fun refused => refused.2 allowed]
  · contradiction

theorem tagAllowed_of_readParts {nonce additional seen tag : Bytes}
    (read : readParts evp ciphertext metadata = some (nonce, additional, seen, tag))
    (positive : 0 < tag.length) (small : tag.length ≤ 16) :
    tagLengthAllowed (asInt metadata.authTag.length) = true := by
  unfold readParts at read
  split at read
  · obtain ⟨_, _, rest⟩ := Option.bind_eq_some_iff.mp read
    obtain ⟨_, _, same⟩ := Option.map_eq_some_iff.mp rest
    simp only [Prod.mk.injEq] at same
    have le := toNat_asInt_le metadata.authTag.length
    have length := congrArg List.length same.2.2.2
    rw [List.length_take] at length
    apply decide_eq_true
    omega
  · contradiction

theorem readParts_of_decryptChunk (present : engine.key = some key)
    (opened : decryptChunk evp engine ciphertext metadata index = some (.ok plaintext)) :
    ∃ nonce additional seen tag,
      readParts evp ciphertext metadata = some (nonce, additional, seen, tag) ∧
      evp.opening key nonce additional seen tag = some plaintext := by
  unfold decryptChunk decrypt at opened
  rw [present] at opened
  dsimp only at opened
  split at opened
  · cases Option.some.inj opened
  · rename_i accepted
    rw [readFirst_of_le (toNat_asInt_le _), Option.map_some] at opened
    have result := Option.some.inj opened
    unfold readParts
    rw [if_pos (not_not.mp accepted)]
    split at result
    · contradiction
    · rename_i additional handed
      split at result
      · contradiction
      · rename_i seen sees
        split at result
        · contradiction
        · rw [handed, sees]
          exact ⟨_, _, _, _, rfl, opening_of_finalized result⟩

theorem sealing_of_sealedChunk (correct : evp.Correct) (present : engine.key = some key)
    (produced : sealedChunk evp engine call = some chunk) :
    ∃ seen tag length, AesGcmEngine.seenByCipher call.data = some seen ∧
      evp.sealing key (chunk.metadata.iv.take 12) [] seen = some (chunk.ciphertext, tag) ∧
      tag.length = 16 ∧ length ≤ 16 ∧ chunk.tag = tag.take length := by
  unfold sealedChunk at produced
  split at produced
  · rename_i output sealedData encrypted
    cases produced
    obtain ⟨iv, seen, tag, -, -, sees, sealed, allowed, rfl⟩ := encryptChunk_ok present encrypted
    have sixteen := correct.tag_length _ _ _ _ _ _ sealed
    have bounds : 0 < asInt engine.config.tagSize.toNat ∧
        asInt engine.config.tagSize.toNat ≤ 16 := of_decide_eq_true allowed
    obtain ⟨size, start⟩ := tagBuffer_eq sixteen allowed
    refine ⟨seen, tag, (asInt engine.config.tagSize.toNat).toNat, sees, sealed, sixteen,
      by omega, ?_⟩
    rw [SealedChunk.tag, size, start]
  · contradiction

theorem opening_of_readAs (correct : evp.Correct) (present : engine.key = some key)
    (produced : sealedChunk evp engine call = some chunk)
    (read : ReadAs evp ciphertext metadata chunk) :
    ∃ seen tag, AesGcmEngine.seenByCipher call.data = some seen ∧
      readParts evp ciphertext metadata =
        some (chunk.metadata.iv.take 12, [], chunk.ciphertext, tag) ∧
      0 < tag.length ∧ tag.length ≤ 16 ∧
      evp.opening key (chunk.metadata.iv.take 12) [] chunk.ciphertext tag = some seen := by
  obtain ⟨seen, whole, length, sees, sealed, sixteen, bounded, fetched⟩ :=
    sealing_of_sealedChunk correct present produced
  obtain ⟨tag, read, filled, cut⟩ := read
  have positive : 0 < tag.length := List.length_pos_iff.mpr filled
  have start : tag <+: whole := by
    rw [fetched] at cut
    exact cut.trans (List.take_prefix length whole)
  have small : tag.length ≤ 16 := sixteen ▸ start.length_le
  refine ⟨seen, tag, sees, read, positive, small, ?_⟩
  rw [List.prefix_iff_eq_take.mp start]
  exact correct.opening_eq _ _ _ _ _ _ _ sealed positive small

/-- Whatever pair is delivered at whatever index, it opens exactly if it is read as a chunk
that a call has sealed, and to the data of that call: the index does not matter. -/
theorem decryptChunk_iff (correct : evp.Correct) (present : engine.key = some key)
    (calls : List ChunkCall) (ciphertext : Bytes) (metadata : EncryptionMetadata)
    (unforged : Unforged evp engine (sealedChunks evp engine calls) ciphertext metadata)
    (index : UInt64) (plaintext : Bytes) :
    decryptChunk evp engine ciphertext metadata index = some (.ok plaintext) ↔
    ∃ call ∈ calls, ∃ chunk, sealedChunk evp engine call = some chunk ∧
      ReadAs evp ciphertext metadata chunk ∧
      AesGcmEngine.seenByCipher call.data = some plaintext := by
  constructor
  · intro opened
    obtain ⟨nonce, additional, seen, tag, read, opens⟩ :=
      readParts_of_decryptChunk present opened
    obtain ⟨chunk, mem, readAs⟩ :=
      unforged key nonce additional seen tag plaintext present read opens
    obtain ⟨call, called, produced⟩ := List.mem_filterMap.mp mem
    obtain ⟨data, _, sees, readChunk, -, -, openedChunk⟩ :=
      opening_of_readAs correct present produced readAs
    have same := Option.some.inj (readChunk.symm.trans read)
    simp only [Prod.mk.injEq] at same
    obtain ⟨rfl, rfl, rfl, rfl⟩ := same
    obtain rfl := Option.some.inj (openedChunk.symm.trans opens)
    exact ⟨call, called, chunk, produced, readAs, sees⟩
  · rintro ⟨call, -, chunk, produced, readAs, sees⟩
    obtain ⟨data, tag, seesData, read, positive, small, opens⟩ :=
      opening_of_readAs correct present produced readAs
    obtain rfl := Option.some.inj (seesData.symm.trans sees)
    have allowed := tagAllowed_of_readParts read positive small
    rw [decryptChunk_of_readParts present read allowed index, opens]
    rfl

end

/-! ## Two chunks that change places -/

namespace OrderSample

open SizeSample

/-- Two chunks. -/
def calls : List ChunkCall :=
  [⟨[1], 0, random⟩, ⟨[2], 1, random⟩]

/-- What they are sealed to. -/
def chunk (index data : UInt8) : SealedChunk where
  index := index.toUInt64
  ciphertext := [data]
  metadata :=
    ⟨List.replicate 8 7 ++ [index, 0, 0, 0],
      tagOf (List.replicate 8 7 ++ [index, 0, 0, 0]), [], 1⟩

theorem sealedChunks_calls : sealedChunks evp (engine 12) calls = [chunk 0 1, chunk 1 2] := by
  decide

theorem readAs_first : ReadAs evp (chunk 0 1).ciphertext (chunk 0 1).metadata (chunk 0 1) :=
  ⟨(chunk 0 1).metadata.authTag, by decide, by decide, List.prefix_rfl⟩

theorem unforged_first :
    Unforged evp (engine 12) (sealedChunks evp (engine 12) calls) (chunk 0 1).ciphertext
      (chunk 0 1).metadata := by
  intro key nonce additional seen tag plaintext _ _ _
  refine ⟨chunk 0 1, ?_, readAs_first⟩
  rw [sealedChunks_calls]
  exact List.mem_cons_self

end OrderSample

open SizeSample OrderSample in
theorem decryptChunk_first :
    decryptChunk evp (engine 12) (chunk 0 1).ciphertext (chunk 0 1).metadata 0 =
      some (.ok [1]) := by
  apply (decryptChunk_iff correct rfl calls _ _ unforged_first 0 [1]).mpr
  exact ⟨⟨[1], 0, random⟩, List.mem_cons_self, chunk 0 1, by decide, readAs_first, by decide⟩

open SizeSample OrderSample in
/-- The first chunk opens at the place of the second; no pair was sealed with that index but
the second. -/
theorem misplaced_opens :
    Unforged evp (engine 12) (sealedChunks evp (engine 12) calls) (chunk 0 1).ciphertext
      (chunk 0 1).metadata ∧
    decryptChunk evp (engine 12) (chunk 0 1).ciphertext (chunk 0 1).metadata 1 =
      some (.ok [1]) ∧
    ∀ original ∈ sealedChunks evp (engine 12) calls, original.index = 1 →
      (original.ciphertext, original.metadata) ≠
        ((chunk 0 1).ciphertext, (chunk 0 1).metadata) := by
  refine ⟨unforged_first, by decide, ?_⟩
  rw [sealedChunks_calls]
  decide

end ConfiguredEngine

end FileTrans.Encryption
