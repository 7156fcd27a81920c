import FileTrans.Encryption.ConfiguredSizes
import FileTrans.Transition.Run

/-!
# Vectors that are used twice

`encrypt` and `generate_iv` draw eight random bytes and append a counter,
`encrypt_chunk` draws eight random bytes and appends the index of the chunk.
The counter keeps the vectors of the first two apart, whatever the random
bytes; nothing keeps those of chunks apart, from each other or from the rest.

A thread draws the random bytes first and reads the counter in a second step;
other threads run in between.
-/

namespace FileTrans.Encryption

open FileTrans.Core FileTrans.Transition

namespace ConfiguredEngine

/-! ## Threads -/

inductive VectorCall where
  | encrypt
  | encryptChunk (chunkIndex : UInt64)
  | generateIv
  deriving DecidableEq

/-- What a thread does: it makes a call, up to the random bytes that it draws, or it goes on
with `fetch_add`. -/
inductive VectorEvent (Thread : Type) where
  | call (thread : Thread) (call : VectorCall) (random : RandomSource)
  | fetchAdd (thread : Thread)

/-- The counter of the engine, and the threads that are between the random bytes and
`fetch_add`. -/
structure VectorState (Thread : Type) where
  ivCounter : UInt64
  drawing : List (Thread × RandomSource)

variable {Thread : Type} [DecidableEq Thread]

def VectorState.drawn (state : VectorState Thread) (thread : Thread) : Option RandomSource :=
  state.drawing.lookup thread

/-- The thread has drawn its random bytes. -/
def VectorState.draw (state : VectorState Thread) (thread : Thread) (random : RandomSource) :
    VectorState Thread :=
  { state with drawing := (thread, random) :: state.drawing }

/-- The thread takes the counter. -/
def VectorState.fetchAdd (state : VectorState Thread) (thread : Thread) : VectorState Thread where
  ivCounter := state.ivCounter + 1
  drawing := state.drawing.filter fun entry => entry.1 ≠ thread

def VectorCall.chunk : VectorCall → Option UInt64
  | .encryptChunk chunkIndex => some chunkIndex
  | .encrypt | .generateIv => none

/-- A call as far as its random bytes.  A chunk has its vector then; without random bytes the
counter is not taken. -/
def beginCall (config : AesGcmConfig) (state : VectorState Thread) (thread : Thread)
    (call : VectorCall) (random : RandomSource) : Option Bytes × VectorState Thread :=
  match call.chunk with
  | some chunkIndex => (deriveChunkIv config random chunkIndex, state)
  | none =>
      if (random.draw 8).isSome then (none, state.draw thread random)
      else (generateCounterIv config random state.ivCounter, state)

/-- The rest of a call that takes the counter. -/
def finishCall (config : AesGcmConfig) (state : VectorState Thread) (thread : Thread) :
    Option Bytes × VectorState Thread :=
  match state.drawn thread with
  | none => (none, state)
  | some random =>
      (generateCounterIv config random state.ivCounter, state.fetchAdd thread)

/-- One step with the vector that it completes; a thread that is in a call makes no other. -/
def vectorStep (config : AesGcmConfig) :
    Step (VectorState Thread) (VectorEvent Thread) (Option Bytes)
  | state, .call thread call random =>
      if (state.drawn thread).isSome then (none, state)
      else beginCall config state thread call random
  | state, .fetchAdd thread => finishCall config state thread

/-- The vector that a call goes on with; an empty one is an error. -/
def generated (output : Option Bytes) : Option Bytes :=
  output.filter fun iv => ¬ iv.isEmpty

/-- The vectors of a run. -/
def vectors (config : AesGcmConfig) (state : VectorState Thread)
    (events : List (VectorEvent Thread)) : List Bytes :=
  (outputs (vectorStep config) state events).filterMap generated

/-- The step makes a call. -/
def VectorEvent.makesCall : VectorEvent Thread → Bool
  | .call _ _ _ => true
  | .fetchAdd _ => false

/-- The number of calls of a run. -/
def callCount (events : List (VectorEvent Thread)) : Nat :=
  events.countP VectorEvent.makesCall

/-! ## Where a vector comes from -/

/-- The random bytes of a vector and the number whose low four bytes follow: a value of the
counter, or the index of a chunk. -/
structure VectorOrigin where
  random : Bytes
  last : UInt64
  counted : Bool
  deriving DecidableEq

/-- The origin of the vector that a step completes. -/
def completes (state : VectorState Thread) : VectorEvent Thread → Option VectorOrigin
  | .call thread call random =>
      if (state.drawn thread).isSome then none
      else
        call.chunk.bind fun chunkIndex =>
          (random.draw 8).map fun bytes => ⟨bytes, chunkIndex, false⟩
  | .fetchAdd thread =>
      (state.drawn thread).bind fun random =>
        (random.draw 8).map fun bytes => ⟨bytes, state.ivCounter, true⟩

/-- The origins of the vectors of a run. -/
def origins (config : AesGcmConfig) :
    VectorState Thread → List (VectorEvent Thread) → List VectorOrigin
  | _, [] => []
  | state, event :: rest =>
      (completes state event).toList ++ origins config (vectorStep config state event).2 rest

/-- The same random bytes are followed by the same low four bytes, and not by two values of the
counter. -/
def VectorOrigin.Meets (first second : VectorOrigin) : Prop :=
  first.random = second.random ∧ first.last.toNat % 2 ^ 32 = second.last.toNat % 2 ^ 32 ∧
    ¬ (first.counted ∧ second.counted)

instance (first second : VectorOrigin) : Decidable (first.Meets second) :=
  inferInstanceAs (Decidable (_ ∧ _))

def VectorOrigin.iv (origin : VectorOrigin) : Bytes :=
  origin.random ++ lowBytes origin.last

section

variable {config : AesGcmConfig} {random : RandomSource}

theorem lowBytes_eq_iff {first second : UInt64} :
    lowBytes first = lowBytes second ↔ first.toNat % 2 ^ 32 = second.toNat % 2 ^ 32 := by
  have eight : (8 : UInt64).toNat % 64 = 8 := rfl
  have sixteen : (16 : UInt64).toNat % 64 = 16 := rfl
  have twentyFour : (24 : UInt64).toNat % 64 = 24 := rfl
  simp only [lowBytes, List.cons.injEq, and_true, ← UInt8.toNat_inj, UInt64.toNat_toUInt8,
    UInt64.toNat_shiftRight, Nat.shiftRight_eq_div_pow, eight, sixteen, twentyFour]
  omega

theorem generateCounterIv_eq (sized : config.ivSize = 12) (random : RandomSource)
    (counter : UInt64) :
    generateCounterIv config random counter =
      some (((random.bytes 8).map (· ++ lowBytes counter)).getD []) := by
  have eight : random.draw 8 = random.bytes 8 := rfl
  unfold generateCounterIv
  rw [eight, sized]
  cases draws : random.bytes 8 with
  | none => rfl
  | some drawn =>
      obtain ⟨first, second⟩ := @writeAt_vector drawn (lowBytes counter)
        (random.length_eq 8 drawn draws) rfl
      change (writeAt (zeros 12) 0 drawn).bind _ = _
      rw [first, Option.bind_some, if_pos (by decide)]
      exact second

theorem deriveChunkIv_eq (sized : config.ivSize = 12) (random : RandomSource)
    (chunkIndex : UInt64) :
    deriveChunkIv config random chunkIndex =
      some (((random.bytes 8).map (· ++ lowBytes chunkIndex)).getD []) := by
  have same : deriveChunkIv config random chunkIndex =
      deriveChunkIv .default random chunkIndex := by
    unfold deriveChunkIv
    rw [sized]
    rfl
  rw [same, deriveChunkIv_default]
  rfl

theorem generated_eq (random : RandomSource) (last : UInt64) :
    generated (some (((random.bytes 8).map (· ++ lowBytes last)).getD [])) =
      (random.bytes 8).map (· ++ lowBytes last) := by
  cases draws : random.bytes 8 with
  | none => rfl
  | some drawn =>
      have filled : ¬ (drawn ++ lowBytes last).isEmpty = true := by
        rw [List.isEmpty_iff_length_eq_zero, List.length_append]
        exact Nat.succ_ne_zero _
      exact if_pos (decide_eq_true filled)

end

/-! ## Runs -/

section

variable {config : AesGcmConfig} {state : VectorState Thread} {event : VectorEvent Thread}
  {events : List (VectorEvent Thread)} {first second : VectorOrigin}

theorem generated_vectorStep (sized : config.ivSize = 12) :
    generated (vectorStep config state event).1 = (completes state event).map (·.iv) := by
  cases event with
  | call thread call random =>
      unfold vectorStep completes
      dsimp only
      split
      · rfl
      · unfold beginCall
        cases call.chunk with
        | some chunkIndex =>
            dsimp only
            rw [deriveChunkIv_eq sized, generated_eq, Option.bind_some, Option.map_map]
            rfl
        | none =>
            dsimp only
            split
            · rfl
            · rename_i failed
              have empty : random.bytes 8 = none := Option.not_isSome_iff_eq_none.mp failed
              rw [generateCounterIv_eq sized, generated_eq, empty]
              rfl
  | fetchAdd thread =>
      unfold vectorStep completes
      dsimp only
      unfold finishCall
      cases state.drawn thread with
      | none => rfl
      | some random =>
          dsimp only
          rw [generateCounterIv_eq sized, generated_eq, Option.bind_some, Option.map_map]
          rfl

theorem vectors_eq (sized : config.ivSize = 12) (state : VectorState Thread)
    (events : List (VectorEvent Thread)) :
    vectors config state events = (origins config state events).map (·.iv) := by
  unfold vectors
  induction events generalizing state with
  | nil => rfl
  | cons event rest ih =>
      rw [outputs_cons, List.filterMap_cons, generated_vectorStep sized, ih, origins,
        List.map_append]
      cases completes state event with
      | none => rfl
      | some origin => rfl

theorem iv_eq_iff :
    first.iv = second.iv ↔ first.random = second.random ∧
      first.last.toNat % 2 ^ 32 = second.last.toNat % 2 ^ 32 := by
  rw [← lowBytes_eq_iff]
  constructor
  · exact fun same => List.append_inj' same rfl
  · rintro ⟨random, last⟩
    rw [VectorOrigin.iv, random, last]
    rfl

variable {random : RandomSource} {engine : ConfiguredEngine}

theorem length_fetchAdd {thread : Thread} (drawn : state.drawn thread = some random) :
    (state.fetchAdd thread).drawing.length < state.drawing.length := by
  obtain ⟨before, after, split, -⟩ := List.lookup_eq_some_iff.mp drawn
  rw [VectorState.fetchAdd, List.length_filter_lt_length_iff_exists]
  refine ⟨(thread, random), ?_, by simp⟩
  rw [split]
  exact List.mem_append_right _ List.mem_cons_self

/-- A step leaves the counter and completes a chunk at most, or it takes the counter, and a
call is no longer between. -/
theorem vectorStep_cases (config : AesGcmConfig) (state : VectorState Thread)
    (event : VectorEvent Thread) :
    ((∀ origin ∈ completes state event, origin.counted = false) ∧
      (vectorStep config state event).2.ivCounter = state.ivCounter ∧
      (vectorStep config state event).2.drawing.length ≤
        state.drawing.length + callCount [event]) ∨
    ((∀ origin ∈ completes state event, origin.last = state.ivCounter) ∧
      (vectorStep config state event).2.ivCounter = state.ivCounter + 1 ∧
      (vectorStep config state event).2.drawing.length < state.drawing.length) := by
  cases event with
  | call thread call random =>
      left
      unfold vectorStep completes
      dsimp only
      split
      · exact ⟨nofun, rfl, Nat.le_add_right _ _⟩
      · unfold beginCall
        cases call.chunk with
        | some chunkIndex =>
            refine ⟨?_, rfl, Nat.le_add_right _ _⟩
            intro origin mem
            obtain ⟨bytes, -, rfl⟩ := Option.map_eq_some_iff.mp mem
            rfl
        | none =>
            refine ⟨nofun, ?_⟩
            dsimp only
            split
            · exact ⟨rfl, Nat.le_refl _⟩
            · exact ⟨rfl, Nat.le_add_right _ _⟩
  | fetchAdd thread =>
      unfold vectorStep completes
      dsimp only
      unfold finishCall
      cases drawn : state.drawn thread with
      | none =>
          left
          exact ⟨nofun, rfl, Nat.le_add_right _ _⟩
      | some random =>
          right
          refine ⟨?_, rfl, length_fetchAdd drawn⟩
          intro origin mem
          obtain ⟨bytes, -, rfl⟩ := Option.map_eq_some_iff.mp mem
          rfl

omit [DecidableEq Thread] in
theorem callCount_cons (event : VectorEvent Thread) (rest : List (VectorEvent Thread)) :
    callCount (event :: rest) = callCount rest + callCount [event] := by
  rw [callCount, callCount, callCount, ← List.singleton_append, List.countP_append, Nat.add_comm]

theorem last_of_mem_origins {origin : VectorOrigin} (mem : origin ∈ origins config state events)
    (counted : origin.counted = true) :
    ∃ taken, taken < callCount events + state.drawing.length ∧
      origin.last.toNat % 2 ^ 32 = (state.ivCounter.toNat + taken) % 2 ^ 32 := by
  induction events generalizing state with
  | nil => contradiction
  | cons event rest ih =>
      rw [callCount_cons]
      rcases vectorStep_cases config state event with
        ⟨uncounted, counter, length⟩ | ⟨last, counter, length⟩
      · rcases List.mem_append.mp mem with mem | mem
        · rw [uncounted origin (Option.mem_toList.mp mem)] at counted
          contradiction
        · obtain ⟨taken, bound, value⟩ := ih mem
          rw [counter] at value
          exact ⟨taken, by omega, value⟩
      · rcases List.mem_append.mp mem with mem | mem
        · rw [last origin (Option.mem_toList.mp mem)]
          exact ⟨0, by omega, rfl⟩
        · obtain ⟨taken, bound, value⟩ := ih mem
          refine ⟨taken + 1, by omega, ?_⟩
          rw [value, counter, UInt64.toNat_add]
          have one : (1 : UInt64).toNat = 1 := rfl
          omega

theorem origins_counted (config : AesGcmConfig) (state : VectorState Thread)
    (events : List (VectorEvent Thread))
    (few : callCount events + state.drawing.length < 2 ^ 32) :
    (origins config state events).Pairwise fun first second =>
      first.counted = true → second.counted = true →
        first.last.toNat % 2 ^ 32 ≠ second.last.toNat % 2 ^ 32 := by
  induction events generalizing state with
  | nil => exact List.Pairwise.nil
  | cons event rest ih =>
      rw [callCount_cons] at few
      have cases := vectorStep_cases config state event
      refine List.pairwise_append.mpr ⟨?_, ih _ (by omega), ?_⟩
      · cases completes state event with
        | none => exact List.Pairwise.nil
        | some origin => exact List.pairwise_singleton _ _
      · intro first mem second later firstCounted secondCounted
        have current := Option.mem_toList.mp mem
        rcases cases with ⟨uncounted, -, -⟩ | ⟨last, counter, length⟩
        · rw [uncounted first current] at firstCounted
          contradiction
        · obtain ⟨taken, bound, value⟩ := last_of_mem_origins later secondCounted
          rw [last first current, value, counter, UInt64.toNat_add]
          have one : (1 : UInt64).toNat = 1 := rfl
          omega

/-- In every run of fewer than 2 ^ 32 calls, in any interleaving, the vectors are distinct
exactly if no two of their origins meet. -/
theorem vectors_nodup_iff (sized : config.ivSize = 12) (counter : UInt64)
    (events : List (VectorEvent Thread)) (few : callCount events < 2 ^ 32) :
    (vectors config ⟨counter, []⟩ events).Nodup ↔
      (origins config ⟨counter, []⟩ events).Pairwise fun first second => ¬ first.Meets second := by
  have apart := origins_counted config ⟨counter, []⟩ events few
  rw [vectors_eq sized, List.Nodup, List.pairwise_map]
  constructor
  · intro distinct
    apply distinct.imp
    intro first second differ meet
    exact differ (iv_eq_iff.mpr ⟨meet.1, meet.2.1⟩)
  · intro clear
    apply (clear.and apart).imp
    rintro first second ⟨clear, apart⟩ same
    obtain ⟨random, last⟩ := iv_eq_iff.mp same
    exact clear ⟨random, last, fun both => apart both.1 both.2 last⟩

theorem vectors_of_generateCounterIv {call : VectorCall} {counter : UInt64} {iv : Bytes}
    (thread : Thread) (counts : call.chunk = none)
    (makes : generateCounterIv config random counter = some iv) (filled : ¬ iv.isEmpty = true) :
    vectors config ⟨counter, []⟩ [.call thread call random, .fetchAdd thread] = [iv] := by
  have draws : (random.draw 8).isSome = true := by
    by_contra failed
    unfold generateCounterIv at makes
    rw [Option.not_isSome_iff_eq_none.mp failed] at makes
    exact filled (congrArg List.isEmpty (Option.some.inj makes.symm))
  have begins : beginCall config ⟨counter, []⟩ thread call random =
      (none, VectorState.draw ⟨counter, []⟩ thread random) := by
    unfold beginCall
    rw [counts]
    exact if_pos draws
  have finishes : (finishCall config (VectorState.draw ⟨counter, []⟩ thread random) thread).1 =
      some iv := by
    have drawn : (VectorState.draw ⟨counter, []⟩ thread random).drawn thread = some random :=
      List.lookup_cons_self
    unfold finishCall
    rw [drawn]
    exact makes
  have generates : generated (some iv) = some iv := if_pos (decide_eq_true filled)
  have first : vectorStep config ⟨counter, []⟩ (.call thread call random) =
      (none, VectorState.draw ⟨counter, []⟩ thread random) := begins
  unfold vectors
  rw [outputs_cons, outputs_cons, outputs_nil, first]
  change List.filterMap generated
    [none, (finishCall config (VectorState.draw ⟨counter, []⟩ thread random) thread).1] = [iv]
  rw [finishes, List.filterMap_cons_none rfl, List.filterMap_cons_some generates]
  rfl

theorem vectors_of_encrypt {evp : Evp} {plaintext aad ciphertext : Bytes}
    {metadata : EncryptionMetadata} (thread : Thread)
    (encrypted : encrypt evp engine random plaintext aad = some (.ok (ciphertext, metadata))) :
    vectors engine.config ⟨engine.ivCounter, []⟩
      [.call thread .encrypt random, .fetchAdd thread] = [metadata.iv] := by
  obtain ⟨_, iv, -, makes, filled, -, done⟩ := encrypt_eq_ok_iff.mp encrypted
  obtain ⟨_, _, _, -, -, -, -, rfl⟩ := sealWith_ok done
  exact vectors_of_generateCounterIv thread rfl makes (mt List.isEmpty_iff.mp filled)

theorem vectors_of_generateIv {iv : Bytes} (thread : Thread)
    (generates : generateIv engine random = some (.ok iv)) :
    vectors engine.config ⟨engine.ivCounter, []⟩
      [.call thread .generateIv random, .fetchAdd thread] = [iv] := by
  obtain ⟨made, makes, result⟩ := Option.map_eq_some_iff.mp generates
  split at result
  · contradiction
  · rename_i filled
    cases result
    exact vectors_of_generateCounterIv thread rfl makes filled

theorem vectors_of_encryptChunk {evp : Evp} {chunkData ciphertext : Bytes} {chunkIndex : UInt64}
    {metadata : EncryptionMetadata} (thread : Thread)
    (encrypted : encryptChunk evp engine random chunkData chunkIndex =
      some (.ok (ciphertext, metadata))) :
    vectors engine.config ⟨engine.ivCounter, []⟩
      [.call thread (.encryptChunk chunkIndex) random] = [metadata.iv] := by
  obtain ⟨_, iv, -, derives, filled, -, done⟩ := encryptChunk_eq_ok_iff.mp encrypted
  obtain ⟨_, _, _, -, -, -, -, rfl⟩ := sealWith_ok done
  have generates : generated (some iv) = some iv :=
    if_pos (decide_eq_true (mt List.isEmpty_iff.mp filled))
  change List.filterMap generated [deriveChunkIv engine.config random chunkIndex] = [iv]
  rw [derives, List.filterMap_cons_some generates]
  rfl

end

/-! ## Two calls with one vector -/

namespace VectorSample

open SizeSample

/-- Two threads take the counter in the order opposite to their random bytes; then a chunk
is encrypted. -/
def apart : List (VectorEvent Bool) :=
  [.call false .encrypt random, .call true .generateIv random, .fetchAdd true,
    .fetchAdd false, .call true (.encryptChunk 2) random]

/-- A chunk is encrypted twice. -/
def sameChunk : List (VectorEvent Bool) :=
  [.call false (.encryptChunk 5) random, .call true (.encryptChunk 5) random]

/-- The first message and the first chunk. -/
def messageAndChunk : List (VectorEvent Bool) :=
  [.call false .encrypt random, .fetchAdd false, .call false (.encryptChunk 0) random]

end VectorSample

open VectorSample in
theorem vectors_nodup_sample : (vectors .default ⟨0, []⟩ apart).Nodup := by
  apply (vectors_nodup_iff rfl 0 apart (by decide)).mpr
  decide

open VectorSample in
/-- With the same random bytes two chunks of one index have one vector, and so have the first
message and the first chunk. -/
theorem vectors_repeat :
    callCount sameChunk < 2 ^ 32 ∧ ¬ (vectors .default ⟨0, []⟩ sameChunk).Nodup ∧
    callCount messageAndChunk < 2 ^ 32 ∧
    ¬ (vectors .default ⟨0, []⟩ messageAndChunk).Nodup := by
  decide

end ConfiguredEngine

end FileTrans.Encryption
