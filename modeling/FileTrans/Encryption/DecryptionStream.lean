import FileTrans.Encryption.ConfiguredSizes
import FileTrans.Transition.Run

/-!
# Decryption streams

A stream decrypts its ciphertext chunk by chunk and checks the tag at the end.
The constructor drops what `initialize` answers, so that a stream may work on a
cipher context without a key or without a tag; OpenSSL then fails the calls that
need them.  Failing to allocate the context is left out, and so are the fields
that only encryption reads.
-/

namespace FileTrans.Encryption

open FileTrans.Core
open FileTrans.Transition
open AesGcmEngine (seenByCipher)
open ConfiguredEngine (seenAad finalized)

/-- OpenSSL with what `EVP_DecryptUpdate` gives for more bytes of a ciphertext, under the key
and the vector and after the bytes that it has seen. -/
structure StreamingEvp extends Evp where
  deciphering : Key → Bytes → Bytes → Bytes → Bytes

/-- The cipher context of a stream: the vector, if that and the key were set, the additional
data, the bytes of the ciphertext so far, and the tag, which is empty as long as none was set. -/
structure CipherContext where
  nonce : Option Bytes
  aad : Bytes
  seen : Bytes
  tag : Bytes

/-- The context after more bytes of the ciphertext. -/
def CipherContext.see (context : CipherContext) (bytes : Bytes) : CipherContext :=
  { context with seen := context.seen ++ bytes }

@[simp]
theorem CipherContext.see_nil (context : CipherContext) : context.see [] = context := by
  rw [see, List.append_nil]

@[simp]
theorem CipherContext.see_see (context : CipherContext) (first second : Bytes) :
    (context.see first).see second = context.see (first ++ second) := by
  rw [see, see, see, List.append_assoc]

/-- `aes_gcm_stream_context`. -/
structure DecryptionStream where
  key : Key
  metadata : EncryptionMetadata
  context : CipherContext
  bytesProcessed : UInt64
  isFinalized : Bool

inductive StreamCall
  | processChunk (input : Bytes)
  | finalize

namespace DecryptionStream

/-- The decryption part of `initialize`. -/
def initializeContext (evp : Evp) (metadata : EncryptionMetadata) : Result Unit × CipherContext :=
  if ¬ evp.setsIvLength (asInt metadata.iv.length) then
    (unexpected .internalError "Failed to set IV length", ⟨none, [], [], []⟩)
  else
    let nonce := metadata.iv.take (asInt metadata.iv.length).toNat
    match seenAad metadata.aad with
    | none => (unexpected .internalError "Failed to process AAD", ⟨some nonce, [], [], []⟩)
    | some additional =>
        if ¬ metadata.authTag.isEmpty ∧ ¬ tagLengthAllowed (asInt metadata.authTag.length) then
          (unexpected .internalError "Failed to set auth tag", ⟨some nonce, additional, [], []⟩)
        else
          (.ok (), ⟨some nonce, additional, [],
            metadata.authTag.take (asInt metadata.authTag.length).toNat⟩)

def processChunk (evp : StreamingEvp) (stream : DecryptionStream) (input : Bytes) :
    Result Bytes × DecryptionStream :=
  if stream.isFinalized then
    (unexpected .internalError "Stream context invalid or finalized", stream)
  else
    match stream.context.nonce, seenByCipher input with
    | some nonce, some seen =>
        (.ok (evp.deciphering stream.key nonce stream.context.seen seen),
          { stream with
            context := stream.context.see seen
            bytesProcessed := stream.bytesProcessed + UInt64.ofNat input.length })
    | _, _ => (.error ⟨.internalError, evp.opensslError⟩, stream)

/-- `finalize`.  No bytes are left for the end. -/
def finalize (evp : StreamingEvp) (stream : DecryptionStream) :
    Result Bytes × DecryptionStream :=
  if stream.isFinalized then
    (unexpected .internalError "Stream context invalid or already finalized", stream)
  else
    match stream.context.nonce.bind fun nonce => evp.opening stream.key nonce stream.context.aad
        stream.context.seen stream.context.tag with
    | none => (finalized none, stream)
    | some _ => (.ok [], { stream with isFinalized := true })

/-- One call. -/
def step (evp : StreamingEvp) : Step DecryptionStream StreamCall (Result Bytes) :=
  fun stream call =>
    match call with
    | .processChunk input => processChunk evp stream input
    | .finalize => finalize evp stream

/-- The stream after the calls. -/
def after (evp : StreamingEvp) (stream : DecryptionStream) (calls : List StreamCall) :
    DecryptionStream :=
  final (step evp) stream calls

end DecryptionStream

def ConfiguredEngine.createDecryptStream (evp : Evp) (engine : ConfiguredEngine)
    (metadata : EncryptionMetadata) : Option DecryptionStream :=
  engine.key.map fun key =>
    ⟨key, metadata, (DecryptionStream.initializeContext evp metadata).2, 0, false⟩

/-! ## What a stream has seen -/

/-- The chunks that the calls hand over. -/
def chunksOf (calls : List StreamCall) : List Bytes :=
  calls.filterMap fun
    | .processChunk input => some input
    | .finalize => none

/-- The ciphertext: the chunks that are no error. -/
def ciphertextOf (calls : List StreamCall) : Bytes :=
  ((chunksOf calls).filter fun input => (seenByCipher input).isSome).flatten

/-- What the cipher sees of it. -/
def seenOf (calls : List StreamCall) : Bytes :=
  ((chunksOf calls).filterMap seenByCipher).flatten

namespace DecryptionStream

variable {evp : StreamingEvp} {stream : DecryptionStream} {calls : List StreamCall}
  {nonce : Bytes}

theorem after_of_isFinalized (done : stream.isFinalized = true) :
    stream.after evp calls = stream := by
  apply final_invariant (fun later => later = stream) _ rfl
  rintro later call rfl
  cases call with
  | processChunk input =>
      rw [step, processChunk, if_pos done]
  | finalize =>
      rw [step, finalize, if_pos done]

theorem step_cases (ready : stream.context.nonce = some nonce) (call : StreamCall) :
    (step evp stream call).2.isFinalized = true ∨
      (step evp stream call).2.key = stream.key ∧
        (step evp stream call).2.context = stream.context.see (seenOf [call]) := by
  cases call with
  | processChunk input =>
      rw [step, processChunk]
      split
      · rename_i done
        exact .inl done
      · right
        cases sees : seenByCipher input with
        | none => simp [ready, seenOf, chunksOf, sees]
        | some seen => simp [ready, seenOf, chunksOf, sees]
  | finalize =>
      rw [step, finalize]
      split
      · rename_i done
        exact .inl done
      · split
        · exact .inr ⟨rfl, by simp [seenOf, chunksOf]⟩
        · exact .inl rfl

theorem seenOf_cons (call : StreamCall) (calls : List StreamCall) :
    seenOf (call :: calls) = seenOf [call] ++ seenOf calls := by
  cases call with
  | processChunk input => cases sees : seenByCipher input <;> simp [seenOf, chunksOf, sees]
  | finalize => simp [seenOf, chunksOf]

/-- A stream that is not finalized has the key, the vector, the data and the tag of its start,
and has seen the chunks. -/
theorem context_after (ready : stream.context.nonce = some nonce)
    (going : (stream.after evp calls).isFinalized = false) :
    (stream.after evp calls).key = stream.key ∧
      (stream.after evp calls).context = stream.context.see (seenOf calls) := by
  induction calls generalizing stream with
  | nil => exact ⟨rfl, by simp [after, seenOf, chunksOf]⟩
  | cons call calls ih =>
      change ((step evp stream call).2.after evp calls).isFinalized = false at going
      change ((step evp stream call).2.after evp calls).key = _ ∧
        ((step evp stream call).2.after evp calls).context = _
      rcases step_cases ready call with done | ⟨key, context⟩
      · rw [after_of_isFinalized done, done] at going
        contradiction
      · obtain ⟨keyLater, contextLater⟩ := ih (by rw [context]; exact ready) going
        refine ⟨keyLater.trans key, ?_⟩
        rw [contextLater, context, CipherContext.see_see, ← seenOf_cons]

theorem nonce_after_of_none (unready : stream.context.nonce = none) :
    (stream.after evp calls).context.nonce = none := by
  apply final_invariant (fun later : DecryptionStream => later.context.nonce = none) _ unready
  intro later call unready
  cases call with
  | processChunk input =>
      rw [step, processChunk]
      split
      · exact unready
      · rw [unready]
        exact unready
  | finalize =>
      rw [step, finalize, unready]
      split <;> exact unready

end DecryptionStream

end FileTrans.Encryption
