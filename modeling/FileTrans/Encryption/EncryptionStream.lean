import FileTrans.Encryption.TruncatedTags

/-!
# Encryption streams

A stream encrypts its plaintext chunk by chunk and has the tag at the end.  Streams and
whole messages decrypt each other, however the plaintext and the ciphertext are cut.

As in decryption, the constructor drops what `initialize` answers; a stream whose cipher
context has no vector fails, and one that could not hand over its additional data goes on
without them.
-/

namespace FileTrans.Encryption

open FileTrans.Core
open FileTrans.Text (ascii)
open FileTrans.Transition
open AesGcmEngine (seenByCipher)
open ConfiguredEngine (seenAad tagBuffer tagBuffer_eq toNat_asInt_le createDecryptStream)

/-- OpenSSL with what `EVP_EncryptUpdate` gives for more bytes of a plaintext, under the key and
the vector and after the bytes that it has seen, if it does not fail. -/
structure EncryptingEvp extends StreamingEvp where
  enciphering : Key → Bytes → Bytes → Bytes → Option Bytes

/-- What OpenSSL documents of updates: it does not matter how the bytes are cut, and all together
give the ciphertext of a plaintext that is sealed and the plaintext of a ciphertext that opens. -/
structure EncryptingEvp.Updates (evp : EncryptingEvp) : Prop extends evp.toEvp.Correct where
  enciphering_nil : ∀ key nonce seen, evp.enciphering key nonce seen [] = some []
  enciphering_append : ∀ key nonce seen first second left right,
    evp.enciphering key nonce seen first = some left →
    evp.enciphering key nonce (seen ++ first) second = some right →
      evp.enciphering key nonce seen (first ++ second) = some (left ++ right)
  enciphering_sealed : ∀ key nonce aad plaintext ciphertext tag,
    evp.sealing key nonce aad plaintext = some (ciphertext, tag) →
      evp.enciphering key nonce [] plaintext = some ciphertext
  deciphering_nil : ∀ key nonce seen, evp.deciphering key nonce seen [] = []
  deciphering_append : ∀ key nonce seen first second,
    evp.deciphering key nonce seen (first ++ second) =
      evp.deciphering key nonce seen first ++ evp.deciphering key nonce (seen ++ first) second
  deciphering_opened : ∀ key nonce aad ciphertext tag plaintext,
    evp.opening key nonce aad ciphertext tag = some plaintext →
      evp.deciphering key nonce [] ciphertext = plaintext

/-- `aes_gcm_stream_context`, where it encrypts. -/
structure EncryptionStream where
  key : Key
  config : AesGcmConfig
  metadata : EncryptionMetadata
  context : CipherContext
  bytesProcessed : UInt64
  isFinalized : Bool

namespace EncryptionStream

/-- The encryption part of `initialize`, with the vector and the context that it leaves. -/
def initializeContext (evp : Evp) (config : AesGcmConfig) (random : RandomSource) (aad : Bytes) :
    Result Unit × Bytes × CipherContext :=
  let size := config.ivSize.toNat
  match random.draw (asInt size) with
  | none => (unexpected .internalError "Failed to generate IV", zeros size, ⟨none, [], [], []⟩)
  | some drawn =>
      let iv := drawn ++ zeros (size - drawn.length)
      if ¬ evp.setsIvLength (asInt size) then
        (unexpected .internalError "Failed to set IV length", iv, ⟨none, [], [], []⟩)
      else
        let nonce := iv.take (asInt size).toNat
        match seenAad aad with
        | none =>
            (unexpected .internalError "Failed to process AAD", iv, ⟨some nonce, [], [], []⟩)
        | some additional => (.ok (), iv, ⟨some nonce, additional, [], []⟩)

def processChunk (evp : EncryptingEvp) (stream : EncryptionStream) (input : Bytes) :
    Result Bytes × EncryptionStream :=
  if stream.isFinalized then
    (unexpected .internalError "Stream context invalid or finalized", stream)
  else
    match stream.context.nonce, seenByCipher input with
    | some nonce, some seen =>
        match evp.enciphering stream.key nonce stream.context.seen seen with
        | none => (.error ⟨.internalError, evp.opensslError⟩, stream)
        | some output =>
            (.ok output, { stream with
              context := stream.context.see seen
              bytesProcessed := stream.bytesProcessed + UInt64.ofNat input.length })
    | _, _ => (.error ⟨.internalError, evp.opensslError⟩, stream)

/-- `finalize`.  The cipher takes nothing more, also if the tag cannot be fetched. -/
def finalize (evp : Evp) (stream : EncryptionStream) : Result Bytes × EncryptionStream :=
  if stream.isFinalized then
    (unexpected .internalError "Stream context invalid or already finalized", stream)
  else
    match stream.context.nonce.bind fun nonce =>
        evp.sealing stream.key nonce stream.context.aad stream.context.seen with
    | none => (.error ⟨.internalError, evp.opensslError⟩, stream)
    | some (_, tag) =>
        let context := { stream.context with nonce := none }
        if tagLengthAllowed (asInt stream.config.tagSize.toNat) then
          (.ok [], { stream with
            metadata := { stream.metadata with authTag := tagBuffer stream.config tag }
            context
            isFinalized := true })
        else
          (unexpected .internalError "Failed to get auth tag", { stream with
            metadata := { stream.metadata with authTag := zeros stream.config.tagSize.toNat }
            context })

/-- One call. -/
def step (evp : EncryptingEvp) : Step EncryptionStream StreamCall (Result Bytes) :=
  fun stream call =>
    match call with
    | .processChunk input => processChunk evp stream input
    | .finalize => finalize evp.toEvp stream

/-- What `get_metadata` gives once some chunks have been encrypted and the stream was finalized. -/
def metadataAfter (evp : EncryptingEvp) (stream : EncryptionStream) (chunks : List Bytes) :
    EncryptionMetadata :=
  (final (step evp) stream (chunks.map .processChunk ++ [.finalize])).metadata

end EncryptionStream

def ConfiguredEngine.createEncryptStream (evp : Evp) (engine : ConfiguredEngine)
    (random : RandomSource) (totalSize : Nat) (aad : Bytes) : Option EncryptionStream :=
  engine.key.map fun key =>
    let opened := (EncryptionStream.initializeContext evp engine.config random aad).2
    ⟨key, engine.config, ⟨opened.1, [], aad, totalSize⟩, opened.2, 0, false⟩

/-- The calls for some chunks. -/
def chunkCalls (chunks : List Bytes) : List StreamCall :=
  chunks.map .processChunk

/-- A decryption stream gives the plaintext back, however the ciphertext is cut. -/
def OpensInPieces (evp : EncryptingEvp) (engine : ConfiguredEngine) (metadata : EncryptionMetadata)
    (ciphertext plaintext : Bytes) : Prop :=
  ∀ pieces : List Bytes, pieces.flatten = ciphertext → (∀ piece ∈ pieces, piece.length < 2 ^ 31) →
    ∃ stream ∈ createDecryptStream evp.toEvp engine metadata, ∃ answers : List Bytes,
      outputs (DecryptionStream.step evp.toStreamingEvp) stream (chunkCalls pieces) =
          answers.map .ok ∧
        answers.flatten = plaintext ∧
        ((stream.after evp.toStreamingEvp (chunkCalls pieces)).finalize evp.toStreamingEvp).1 =
          .ok []

section

variable {evp : EncryptingEvp} {chunks pieces answers : List Bytes}
  {nonce iv aad additional plaintext ciphertext tag : Bytes} {key : Key}

/-! ## Decryption in pieces -/

theorem DecryptionStream.outputs_pieces (updates : evp.Updates) {stream : DecryptionStream}
    (ready : stream.context.nonce = some nonce) (going : stream.isFinalized = false)
    (small : ∀ piece ∈ pieces, piece.length < 2 ^ 31) :
    ∃ answers : List Bytes,
      outputs (step evp.toStreamingEvp) stream (chunkCalls pieces) = answers.map .ok ∧
      answers.flatten =
        evp.deciphering stream.key nonce stream.context.seen pieces.flatten ∧
      (stream.after evp.toStreamingEvp (chunkCalls pieces)).isFinalized = false := by
  induction pieces generalizing stream with
  | nil => exact ⟨[], rfl, (updates.deciphering_nil _ _ _).symm, going⟩
  | cons piece pieces ih =>
      have sees := AesGcmEngine.seenByCipher_of_lt (small piece List.mem_cons_self)
      have one : step evp.toStreamingEvp stream (.processChunk piece) =
          (.ok (evp.deciphering stream.key nonce stream.context.seen piece), { stream with
            context := stream.context.see piece
            bytesProcessed := stream.bytesProcessed + UInt64.ofNat piece.length }) := by
        simp [step, processChunk, going, ready, sees]
      obtain ⟨answers, answered, flat, later⟩ := @ih
        (step evp.toStreamingEvp stream (.processChunk piece)).2
        (by rw [one]; exact ready) (by rw [one]; exact going)
        fun piece mem => small piece (List.mem_cons_of_mem _ mem)
      refine ⟨evp.deciphering stream.key nonce stream.context.seen piece :: answers, ?_, ?_, later⟩
      · change _ :: outputs _ _ (chunkCalls pieces) = _
        rw [answered, one]
        rfl
      · rw [List.flatten_cons, flat, one, List.flatten_cons, updates.deciphering_append]
        rfl

theorem opensInPieces_of_sealed (updates : evp.Updates) {engine : ConfiguredEngine}
    {config : AesGcmConfig} {size : Nat} (present : engine.key = some key)
    (accepted : evp.setsIvLength (asInt iv.length) = true)
    (handed : seenAad aad = some additional)
    (sealed : evp.sealing key (iv.take (asInt iv.length).toNat) additional plaintext =
      some (ciphertext, tag))
    (allowed : tagLengthAllowed (asInt config.tagSize.toNat) = true) :
    OpensInPieces evp engine ⟨iv, tagBuffer config tag, aad, size⟩ ciphertext plaintext := by
  rintro pieces rfl small
  have bounds : 0 < asInt config.tagSize.toNat ∧ asInt config.tagSize.toNat ≤ 16 :=
    of_decide_eq_true allowed
  obtain ⟨long, start⟩ := tagBuffer_eq (updates.tag_length _ _ _ _ _ _ sealed) allowed
  have opened := updates.opening_eq _ _ _ _ _ _ (asInt config.tagSize.toNat).toNat sealed
    (by omega) (by omega)
  set metadata : EncryptionMetadata := ⟨iv, tagBuffer config tag, aad, size⟩
  have context : (DecryptionStream.initializeContext evp.toEvp metadata).2 =
      ⟨some (iv.take (asInt iv.length).toNat), additional, [],
        tag.take (asInt config.tagSize.toNat).toNat⟩ := by
    simp only [DecryptionStream.initializeContext, metadata, accepted, not_true_eq_false, if_false,
      handed, long, start, allowed, and_false]
  refine ⟨⟨key, metadata, (DecryptionStream.initializeContext evp.toEvp metadata).2, 0, false⟩,
    by rw [createDecryptStream, present]; rfl, ?_⟩
  rw [context]
  obtain ⟨answers, answered, flat, going⟩ := @DecryptionStream.outputs_pieces evp pieces _ updates
    ⟨key, metadata, ⟨some _, additional, [], _⟩, 0, false⟩ rfl rfl small
  refine ⟨answers, answered, flat.trans (updates.deciphering_opened _ _ _ _ _ _ opened), ?_⟩
  obtain ⟨same, seen⟩ := @DecryptionStream.context_after evp.toStreamingEvp _ _ _ rfl going
  have whole : seenOf (chunkCalls pieces) = pieces.flatten := by
    have all : pieces.filterMap seenByCipher = pieces := by
      rw [List.filterMap_congr (g := some) fun piece mem =>
        AesGcmEngine.seenByCipher_of_lt (small piece mem), List.filterMap_some]
    rw [seenOf, chunksOf, chunkCalls, List.filterMap_map]
    change ((pieces.filterMap some).filterMap _).flatten = _
    rw [List.filterMap_some, all]
  rw [DecryptionStream.finalize, going, same, seen, whole]
  simp [CipherContext.see, opened]

/-- A message that was encrypted at once opens in pieces. -/
theorem opensInPieces_of_encrypt (updates : evp.Updates) {writer reader : ConfiguredEngine}
    (same : reader.key = writer.key) {random : RandomSource} {metadata : EncryptionMetadata}
    (small : plaintext.length < 2 ^ 32)
    (encrypted : writer.encrypt evp.toEvp random plaintext aad =
      some (.ok (ciphertext, metadata))) :
    OpensInPieces evp reader metadata ciphertext plaintext := by
  obtain ⟨key, iv, present, generated, filled, accepted, done⟩ :=
    ConfiguredEngine.encrypt_eq_ok_iff.mp encrypted
  obtain ⟨additional, seen, tag, handed, sees, sealed, allowed, rfl⟩ :=
    ConfiguredEngine.sealWith_ok done
  obtain rfl := AesGcmEngine.eq_of_seenByCipher small sees
  have size := (ConfiguredEngine.length_generateCounterIv generated).resolve_left filled
  rw [← size] at accepted sealed
  exact opensInPieces_of_sealed updates (same.trans present) accepted handed sealed allowed

/-! ## Encryption in chunks -/

namespace EncryptionStream

variable {stream : EncryptionStream}

/-- What is answered to some chunks is what their bytes are enciphered to, and the stream has
seen the bytes. -/
theorem after_chunks (updates : evp.Updates) (ready : stream.context.nonce = some nonce)
    (going : stream.isFinalized = false) (small : ∀ chunk ∈ chunks, chunk.length < 2 ^ 32)
    (answered : outputs (step evp) stream (chunkCalls chunks) = answers.map .ok) :
    evp.enciphering stream.key nonce stream.context.seen chunks.flatten = some answers.flatten ∧
      final (step evp) stream (chunkCalls chunks) = { stream with
        context := stream.context.see chunks.flatten
        bytesProcessed := stream.bytesProcessed + UInt64.ofNat chunks.flatten.length } := by
  induction chunks generalizing stream answers with
  | nil =>
      obtain rfl : answers = [] := List.map_eq_nil_iff.mp answered.symm
      exact ⟨updates.enciphering_nil _ _ _, by simp [chunkCalls]⟩
  | cons chunk chunks ih =>
      cases answers with
      | nil => contradiction
      | cons answer answers =>
          obtain ⟨first, rest⟩ := List.cons.inj answered
          have one : evp.enciphering stream.key nonce stream.context.seen chunk = some answer ∧
              (processChunk evp stream chunk).2 = { stream with
                context := stream.context.see chunk
                bytesProcessed := stream.bytesProcessed + UInt64.ofNat chunk.length } := by
            change (processChunk evp stream chunk).1 = .ok answer at first
            rw [processChunk, going, ready] at first ⊢
            cases sees : seenByCipher chunk with
            | none => simp [sees] at first
            | some seen =>
                obtain rfl := AesGcmEngine.eq_of_seenByCipher (small chunk List.mem_cons_self) sees
                cases enciphered : evp.enciphering stream.key nonce stream.context.seen seen with
                | none => simp [sees, enciphered] at first
                | some output => simpa [sees, enciphered] using first
          have next := @ih answers (processChunk evp stream chunk).2
            (by rw [one.2]; exact ready) (by rw [one.2]; exact going)
            (fun chunk mem => small chunk (List.mem_cons_of_mem _ mem)) rest
          rw [one.2] at next
          refine ⟨updates.enciphering_append _ _ _ _ _ _ _ one.1 next.1, ?_⟩
          change final (step evp) (processChunk evp stream chunk).2 (chunkCalls chunks) = _
          rw [one.2, next.2]
          simp [UInt64.add_assoc]

theorem initializeContext_cases (evp : Evp) (config : AesGcmConfig) (random : RandomSource)
    (handed : seenAad aad = some additional) :
    (initializeContext evp config random aad).2.2.nonce = none ∨
      ∃ iv, (initializeContext evp config random aad).2 =
          (iv, ⟨some (iv.take (asInt iv.length).toNat), additional, [], []⟩) ∧
        evp.setsIvLength (asInt iv.length) = true := by
  unfold initializeContext
  dsimp only
  split
  · exact .inl rfl
  · rename_i drawn draws
    have size : (drawn ++ zeros (config.ivSize.toNat - drawn.length)).length =
        config.ivSize.toNat := by
      have le := toNat_asInt_le config.ivSize.toNat
      rw [List.length_append, length_zeros, (ConfiguredEngine.draw_length draws).2]
      omega
    split
    · exact .inl rfl
    · rename_i accepted
      rw [handed]
      exact .inr ⟨_, by rw [size], by rw [size]; exact not_not.mp accepted⟩

/-- A stream that is finalized has sealed the plaintext of its chunks, under the vector and the
data of its metadata. -/
theorem sealed_of_finalize (updates : evp.Updates) {engine : ConfiguredEngine}
    {random : RandomSource} {totalSize : Nat} (handed : seenAad aad = some additional)
    (created : engine.createEncryptStream evp.toEvp random totalSize aad = some stream)
    (small : ∀ chunk ∈ chunks, chunk.length < 2 ^ 32)
    (answered : outputs (step evp) stream (chunkCalls chunks ++ [.finalize]) =
      answers.map .ok ++ [.ok []]) :
    ∃ key iv tag, engine.key = some key ∧ evp.setsIvLength (asInt iv.length) = true ∧
      evp.sealing key (iv.take (asInt iv.length).toNat) additional chunks.flatten =
        some (answers.flatten, tag) ∧
      tagLengthAllowed (asInt engine.config.tagSize.toNat) = true ∧
      metadataAfter evp stream chunks = ⟨iv, tagBuffer engine.config tag, aad, totalSize⟩ := by
  obtain ⟨key, present, rfl⟩ := Option.map_eq_some_iff.mp created
  rcases initializeContext_cases evp.toEvp engine.config random handed with
    unready | ⟨iv, opened, accepted⟩
  · -- Without a vector the first call fails, whichever it is.
    cases chunks with
    | nil => cases answers <;> simp [chunkCalls, step, finalize, unready] at answered
    | cons chunk chunks =>
        cases answers <;> simp [chunkCalls, step, processChunk, unready] at answered
  · rw [opened] at answered ⊢
    rw [outputs_append] at answered
    obtain ⟨chunked, last⟩ := List.append_inj' answered rfl
    obtain ⟨enciphered, reached⟩ := after_chunks updates rfl rfl small chunked
    rw [metadataAfter, ← chunkCalls, final_append, final_cons, final_nil]
    rw [outputs_cons, outputs_nil, List.singleton_inj] at last
    rw [reached] at last ⊢
    simp only [step, finalize, CipherContext.see, List.nil_append, Bool.false_eq_true, if_false,
      Option.bind_some] at last ⊢
    cases sealed : evp.sealing key (iv.take (asInt iv.length).toNat) additional chunks.flatten with
    | none => simp [sealed] at last
    | some output =>
        obtain ⟨ciphertext, tag⟩ := output
        obtain rfl := Option.some.inj
          ((updates.enciphering_sealed _ _ _ _ _ _ sealed).symm.trans enciphered)
        by_cases allowed : tagLengthAllowed (asInt engine.config.tagSize.toNat) = true
        · refine ⟨key, iv, tag, present, accepted, sealed, allowed, ?_⟩
          simp [allowed]
        · simp [sealed, allowed, unexpected] at last

end EncryptionStream

open EncryptionStream in
/-- What a stream has encrypted opens in pieces, and at once where OpenSSL takes it at once. -/
theorem opens_of_stream (updates : evp.Updates) {writer reader : ConfiguredEngine}
    (same : reader.key = writer.key) {random : RandomSource} {totalSize : Nat}
    {stream : EncryptionStream} (handed : seenAad aad = some additional)
    (created : writer.createEncryptStream evp.toEvp random totalSize aad = some stream)
    (small : ∀ chunk ∈ chunks, chunk.length < 2 ^ 32)
    (answered : outputs (step evp) stream (chunkCalls chunks ++ [.finalize]) =
      answers.map .ok ++ [.ok []]) :
    OpensInPieces evp reader (metadataAfter evp stream chunks) answers.flatten chunks.flatten ∧
      (chunks.flatten.length < 2 ^ 31 →
        reader.decrypt evp.toEvp answers.flatten (metadataAfter evp stream chunks) =
          some (.ok chunks.flatten)) := by
  obtain ⟨key, iv, tag, present, accepted, sealed, allowed, metadata⟩ :=
    sealed_of_finalize updates handed created small answered
  rw [metadata]
  refine ⟨opensInPieces_of_sealed updates (same.trans present) accepted handed sealed allowed,
    fun whole => ?_⟩
  have bounds : 0 < asInt writer.config.tagSize.toNat ∧ asInt writer.config.tagSize.toNat ≤ 16 :=
    of_decide_eq_true allowed
  have opened := updates.opening_eq _ _ _ _ _ _ (asInt writer.config.tagSize.toNat).toNat sealed
    (by omega) (by omega)
  have held : ({ reader with config := writer.config } : ConfiguredEngine).key = some key :=
    same.trans present
  have decrypted := ConfiguredEngine.decrypt_of_sealed updates.toCorrect held handed
    (AesGcmEngine.seenByCipher_of_lt whole) sealed allowed accepted
  rw [opened] at decrypted
  exact decrypted

end

/-! ## Three bytes in two pieces -/

namespace EncryptionSample

/-- The first block of the keystream of AES-256-GCM under a key and a vector of zeros. -/
def keystream : Bytes :=
  [0xce, 0xa7, 0x40, 0x3d, 0x4d, 0x60, 0x6b, 0x6e, 0x07, 0x4e, 0xc5, 0xd3, 0xba, 0xf3, 0x9d, 0x18]

/-- Bytes from a position on, combined with the keystream. -/
def masked : Nat → Bytes → Bytes
  | _, [] => []
  | position, byte :: rest =>
      (byte ^^^ keystream.getD position 0) :: masked (position + 1) rest

/-- The tag of the message `abc` with the additional data `h`. -/
def tag : Bytes :=
  [0x5a, 0x62, 0x92, 0x39, 0xee, 0x56, 0x08, 0x91, 0xac, 0x62, 0xd0, 0x69, 0x33, 0x0b, 0x98, 0xca]

def evp : EncryptingEvp where
  setsIvLength length := 0 < length ∧ length ≤ 128
  sealing _ _ _ plaintext := some (masked 0 plaintext, tag)
  opening _ _ _ ciphertext found :=
    if found ≠ [] ∧ found <+: tag then some (masked 0 ciphertext) else none
  opensslError := []
  deciphering _ _ seen bytes := masked seen.length bytes
  enciphering _ _ seen bytes := some (masked seen.length bytes)

theorem length_masked (position : Nat) (bytes : Bytes) :
    (masked position bytes).length = bytes.length := by
  induction bytes generalizing position with
  | nil => rfl
  | cons byte rest ih => exact congrArg (· + 1) (ih (position + 1))

theorem masked_masked (position : Nat) (bytes : Bytes) :
    masked position (masked position bytes) = bytes := by
  induction bytes generalizing position with
  | nil => rfl
  | cons byte rest ih =>
      rw [masked, masked, ih, UInt8.xor_assoc, UInt8.xor_self, UInt8.xor_zero]

theorem masked_append (position : Nat) (first second : Bytes) :
    masked position (first ++ second) =
      masked position first ++ masked (position + first.length) second := by
  induction first generalizing position with
  | nil => rfl
  | cons byte rest ih =>
      rw [List.cons_append, masked, masked, ih, List.cons_append, List.length_cons,
        Nat.add_assoc, Nat.add_comm 1]

theorem updates : evp.Updates where
  ivLength_pos length sets := (of_decide_eq_true sets).1
  ivLength_default := rfl
  length_eq _ _ _ plaintext _ _ sealed := by
    cases sealed
    exact length_masked 0 plaintext
  tag_length _ _ _ _ _ _ sealed := by
    cases sealed
    rfl
  opening_eq key iv aad plaintext _ _ length sealed positive _ := by
    cases sealed
    have some_tag : tag.take length ≠ [] := by
      rw [Ne, List.take_eq_nil_iff]
      exact not_or.mpr ⟨positive.ne', nofun⟩
    have opened : evp.opening key iv aad (masked 0 plaintext) (tag.take length) = _ :=
      if_pos ⟨some_tag, List.take_prefix _ _⟩
    rw [masked_masked] at opened
    exact opened
  enciphering_nil _ _ _ := rfl
  enciphering_append _ _ seen first second _ _ left right := by
    cases left
    cases right
    have both := masked_append seen.length first second
    rw [← List.length_append] at both
    exact congrArg some both
  enciphering_sealed _ _ _ _ _ _ sealed := by
    cases sealed
    rfl
  deciphering_nil _ _ _ := rfl
  deciphering_append _ _ seen first second := by
    have both := masked_append seen.length first second
    rwa [← List.length_append] at both
  deciphering_opened _ _ _ _ _ _ opened :=
    Option.some.inj (Option.ite_none_right_eq_some.mp opened).2

/-- Random bytes that are all zero. -/
def random : RandomSource where
  bytes count := some (zeros count)
  length_eq _ _ draws := Option.some.inj draws ▸ length_zeros _

/-- What the engine of the default sizes makes of the message at once. -/
def metadata : EncryptionMetadata :=
  ⟨zeros 12, tag, ascii "h", 3⟩

/-- Its stream for the message. -/
def stream : EncryptionStream :=
  ⟨ConfiguredEngine.SizeSample.key, .default, ⟨zeros 12, [], ascii "h", 3⟩,
    ⟨some (zeros 12), ascii "h", [], []⟩, 0, false⟩

end EncryptionSample

open EncryptionSample EncryptionStream in
/-- Encrypted in two chunks, and decrypted in other pieces and at once. -/
theorem opens_of_stream_two_chunks :
    (∃ decrypts ∈ createDecryptStream evp.toEvp TagSample.engine
        (metadataAfter evp stream [ascii "ab", ascii "c"]), ∃ answers : List Bytes,
      outputs (DecryptionStream.step evp.toStreamingEvp) decrypts
          (chunkCalls [[0xaf], [0xc5, 0x23]]) = answers.map .ok ∧
        answers.flatten = ascii "abc" ∧
        ((decrypts.after evp.toStreamingEvp (chunkCalls [[0xaf], [0xc5, 0x23]])).finalize
          evp.toStreamingEvp).1 = .ok []) ∧
      TagSample.engine.decrypt evp.toEvp [0xaf, 0xc5, 0x23]
          (metadataAfter evp stream [ascii "ab", ascii "c"]) = some (.ok (ascii "abc")) := by
  have opens := @opens_of_stream evp [ascii "ab", ascii "c"] [[0xaf, 0xc5], [0x23]] (ascii "h")
    (ascii "h") updates TagSample.engine TagSample.engine rfl random 3 stream rfl rfl
    (by decide) (by decide +kernel)
  exact ⟨opens.1 [[0xaf], [0xc5, 0x23]] rfl (by decide), opens.2 (by decide)⟩

open EncryptionSample in
theorem opensInPieces_of_encrypt_two_pieces :
    ∃ decrypts ∈ createDecryptStream evp.toEvp TagSample.engine metadata, ∃ answers : List Bytes,
      outputs (DecryptionStream.step evp.toStreamingEvp) decrypts
          (chunkCalls [[0xaf], [0xc5, 0x23]]) = answers.map .ok ∧
        answers.flatten = ascii "abc" ∧
        ((decrypts.after evp.toStreamingEvp (chunkCalls [[0xaf], [0xc5, 0x23]])).finalize
          evp.toStreamingEvp).1 = .ok [] :=
  @opensInPieces_of_encrypt evp (ascii "h") (ascii "abc") [0xaf, 0xc5, 0x23] updates
    TagSample.engine TagSample.engine rfl random metadata (by decide) (by decide +kernel)
    [[0xaf], [0xc5, 0x23]] rfl (by decide)

end FileTrans.Encryption
