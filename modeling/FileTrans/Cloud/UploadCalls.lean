import FileTrans.Core.Types
import FileTrans.Text.Numeral
import FileTrans.Transition.Buffering
import FileTrans.Transition.Run

/-!
# Calls on upload streams

What the upload streams share: their configuration and results, the calls made
on a stream, and the bytes that a run of calls has written.
-/

namespace FileTrans.Cloud

open FileTrans.Core FileTrans.Text FileTrans.Transition

structure MultipartConfig where
  enabled : Bool
  threshold : Nat
  partSize : Nat
  maxConcurrentParts : Nat

/-- Data that cannot be cut into parts: they have no size, or there is no slot for one. -/
def MultipartConfig.Uncuttable (config : MultipartConfig) (data : Bytes) : Prop :=
  data ≠ [] ∧ (config.partSize = 0 ∨
    config.maxConcurrentParts = 0 ∧ config.partSize ≤ data.length)

theorem MultipartConfig.not_uncuttable_of_fill {config : MultipartConfig} {Rest : Type}
    {flush : Flush UInt8 Rest Error} {passes : Nat} {data held : Bytes} {rest after : Rest}
    (stuck : ∀ piece rest after, config.maxConcurrentParts = 0 →
      flush piece rest ≠ some (.ok (), after))
    (filled : fill config.partSize flush passes data [] rest = some (.ok (), held, after)) :
    ¬ config.Uncuttable data := by
  rintro ⟨nonempty, unusable⟩
  have kept := fill_ok_of_stuck
    (by
      intro piece rest after some_bytes length
      rcases unusable with zero | ⟨none_free, -⟩
      · rw [zero, List.length_eq_zero_iff] at length
        exact absurd length some_bytes
      · exact stuck piece rest after none_free)
    (Nat.zero_le _) filled
  rw [List.nil_append] at kept
  rcases kept with ⟨rfl, le, less⟩
  have some_left : 0 < held.length := List.length_pos_iff.mpr nonempty
  rcases Nat.eq_zero_or_pos config.partSize with zero | positive
  · rw [zero] at le
    exact absurd some_left (Nat.not_lt.mpr le)
  · rcases unusable with zero | ⟨-, long⟩
    · exact absurd zero (Nat.pos_iff_ne_zero.mp positive)
    · exact absurd long (Nat.not_le.mpr (less positive))

abbrev Etag := Bytes

/-- The value of `upload_id_`: empty, one that the server has issued, or sixteen random bytes,
which the server takes for none of its own. -/
inductive UploadId
  | empty
  | issued (number : Nat)
  | random (bytes : Bytes)
  deriving DecidableEq

/-- `upload_result`, without the duration. -/
structure UploadResult where
  key : Bytes
  etag : Etag
  uploadId : Option UploadId
  bytesUploaded : Nat
  deriving DecidableEq

def bytesToHex (bytes : Bytes) : Bytes :=
  bytes.flatMap hexByte

def inQuotes (text : Bytes) : Bytes :=
  ascii "\"" ++ text ++ ascii "\""

/-- An error with a status at the end of its message. -/
def statusError {α : Type} (literal : String) (status : Nat) : Result α :=
  .error ⟨.internalError, ascii literal ++ decimal status⟩

/-! ## Runs -/

/-- A call on an upload stream. -/
inductive UploadCall
  | write (data : Bytes)
  | finalize
  deriving DecidableEq

inductive UploadReturn
  | wrote (result : Result Nat)
  | finished (result : Result UploadResult)

/-- The call reported a completed upload. -/
def ReportsSuccess : Option UploadReturn → Prop
  | some (.finished (.ok _)) => True
  | _ => False

instance (returned : Option UploadReturn) : Decidable (ReportsSuccess returned) :=
  match returned with
  | some (.finished (.ok _)) => inferInstanceAs (Decidable True)
  | some (.finished (.error _)) => inferInstanceAs (Decidable False)
  | some (.wrote _) => inferInstanceAs (Decidable False)
  | none => inferInstanceAs (Decidable False)

/-- The bytes that a call has written when it returns this. -/
def UploadCall.adds : UploadCall → Option UploadReturn → Bytes
  | .write data, some (.wrote (.ok _)) => data
  | _, _ => []

variable {Stream : Type}

/-- The bytes of the writes of a run that returned success. -/
def writtenBytes (step : Step Stream UploadCall (Option UploadReturn)) :
    Stream → List UploadCall → Bytes
  | _, [] => []
  | stream, call :: rest =>
      call.adds (step stream call).1 ++ writtenBytes step (step stream call).2 rest

theorem writtenBytes_invariant {step : Step Stream UploadCall (Option UploadReturn)}
    {guard : Stream → UploadCall → Prop} (invariant : Bytes → Stream → Prop)
    (preserves : ∀ written stream call, invariant written stream → guard stream call →
      invariant (written ++ call.adds (step stream call).1) (step stream call).2)
    {calls : List UploadCall} {stream : Stream} {written : Bytes}
    (guarded : Guarded step guard stream calls) (initial : invariant written stream) :
    invariant (written ++ writtenBytes step stream calls) (final step stream calls) := by
  induction calls generalizing stream written with
  | nil =>
      rw [writtenBytes, List.append_nil]
      exact initial
  | cons call rest ih =>
      have later := ih guarded.2 (preserves written stream call initial guarded.1)
      rw [List.append_assoc] at later
      exact later

/-! ## Uploads -/

/-- Write the data one after the other, and finalize. -/
def uploadCalls (writes : List Bytes) : List UploadCall :=
  writes.map .write ++ [.finalize]

/-- Every `write` has returned the length of its data. -/
def wroteAll (writes : List Bytes) : List (Option UploadReturn) :=
  writes.map fun data => some (.wrote (.ok data.length))

theorem writes_return (step : Step Stream UploadCall (Option UploadReturn)) (total : Bytes)
    (invariant : Bytes → Stream → Prop)
    (goes_through : ∀ written data stream, invariant written stream → written ++ data <+: total →
      (step stream (.write data)).1 = some (.wrote (.ok data.length)) ∧
        invariant (written ++ data) (step stream (.write data)).2)
    {writes : List Bytes} {stream : Stream} {written : Bytes} (initial : invariant written stream)
    (part : written ++ writes.flatten <+: total) :
    outputs step stream (writes.map .write) = wroteAll writes ∧
      invariant (written ++ writes.flatten) (final step stream (writes.map .write)) := by
  induction writes generalizing stream written with
  | nil =>
      rw [List.flatten_nil, List.append_nil]
      exact ⟨rfl, initial⟩
  | cons data rest ih =>
      rw [List.flatten_cons, ← List.append_assoc] at part ⊢
      rcases goes_through written data stream initial ((List.prefix_append _ _).trans part) with
        ⟨returned, later⟩
      rcases ih later part with ⟨others, last⟩
      refine ⟨?_, last⟩
      rw [List.map_cons, outputs_cons, returned, others]
      rfl

end FileTrans.Cloud
