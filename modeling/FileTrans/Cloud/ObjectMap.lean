import FileTrans.Cloud.UploadCalls

/-!
# Cloud storages as maps

What a cloud storage is for: it maps keys to objects.  A call that succeeds has
its effect on the map, one that fails has none, and what is read is what is
there.  An object stays until the next call that succeeds in changing it.
-/

namespace FileTrans.Cloud

open FileTrans.Core FileTrans.Transition

/-- The objects of a storage. -/
abbrev Objects := Bytes → Option Bytes

structure DeleteResult where
  key : Bytes
  versionId : Option Bytes
  deleteMarker : Bool
  deriving DecidableEq

/-- `cloud_object_metadata`, as far as it is filled in here. -/
structure ObjectMetadata where
  key : Bytes
  size : Nat
  etag : Bytes
  contentType : Bytes
  deriving DecidableEq

inductive StorageCall
  | upload (key data : Bytes)
  | copyObject (sourceKey destKey : Bytes)
  | deleteObject (key : Bytes)
  | objectExists (key : Bytes)
  | download (key : Bytes)
  deriving DecidableEq

/-- What a call returned. -/
inductive StorageReturn
  | uploaded (result : Result UploadResult)
  | copied (result : Result ObjectMetadata)
  | deleted (result : Result DeleteResult)
  | found (result : Result Bool)
  | downloaded (result : Result Bytes)

/-- A result without an error. -/
def IsOk {α : Type} : Result α → Prop
  | .ok _ => True
  | .error _ => False

/-- The call returned success. -/
def Succeeded : Option StorageReturn → Prop
  | some (.uploaded result) => IsOk result
  | some (.copied result) => IsOk result
  | some (.deleted result) => IsOk result
  | some (.found result) => IsOk result
  | some (.downloaded result) => IsOk result
  | none => False

namespace StorageCall

/-- What a call does to the map. -/
def effect (call : StorageCall) (objects : Objects) : Objects :=
  match call with
  | .upload key data => Function.update objects key (some data)
  | .copyObject sourceKey destKey => Function.update objects destKey (objects sourceKey)
  | .deleteObject key => Function.update objects key none
  | .objectExists _ => objects
  | .download _ => objects

/-- The call changes this key. -/
def Mutates (call : StorageCall) (key : Bytes) : Prop :=
  match call with
  | .upload changed _ => changed = key
  | .copyObject _ changed => changed = key
  | .deleteObject changed => changed = key
  | .objectExists _ => False
  | .download _ => False

variable {call : StorageCall} {key : Bytes}

theorem effect_of_not_mutates (other : ¬ call.Mutates key) (objects : Objects) :
    call.effect objects key = objects key := by
  cases call with
  | upload changed data => exact Function.update_of_ne (Ne.symm other) _ _
  | copyObject sourceKey changed => exact Function.update_of_ne (Ne.symm other) _ _
  | deleteObject changed => exact Function.update_of_ne (Ne.symm other) _ _
  | objectExists _ => rfl
  | download _ => rfl

end StorageCall

/-- What the call read, if it read something, is in the map. -/
def ReadsFrom (objects : Objects) : StorageCall → Option StorageReturn → Prop
  | .objectExists key, some (.found (.ok flag)) => flag = (objects key).isSome
  | .download key, some (.downloaded (.ok data)) => objects key = some data
  | .download key, some (.downloaded (.error failure)) =>
      failure.code = .fileNotFound → objects key = none
  | _, _ => True

/-- A call is a step of the map. -/
structure Follows (objects : Objects) (call : StorageCall) (returned : Option StorageReturn)
    (after : Objects) : Prop where
  success : Succeeded returned → after = call.effect objects
  failure : ¬ Succeeded returned → after = objects
  reads : ReadsFrom objects call returned

theorem Follows.keeps {objects after : Objects} {call : StorageCall}
    {returned : Option StorageReturn} (follows : Follows objects call returned after)
    {key : Bytes} (unchanged : ¬ (Succeeded returned ∧ call.Mutates key)) :
    after key = objects key := by
  by_cases succeeded : Succeeded returned
  · rw [follows.success succeeded]
    exact StorageCall.effect_of_not_mutates (fun mutates => unchanged ⟨succeeded, mutates⟩) _
  · rw [follows.failure succeeded]

/-! ## Runs -/

section

variable {State Input : Type} (step : Step State Input (Option StorageReturn))
  (objects : State → Objects) (call : Input → StorageCall)

/-- Every call of a run is a step of the map. -/
def RunOfMap (state : State) (inputs : List Input) : Prop :=
  ∀ before input rest, inputs = before ++ input :: rest →
    Follows (objects (final step state before)) (call input)
      (step (final step state before) input).1 (objects (step (final step state before) input).2)

/-- No call of a run changes this key with success. -/
def Unchanged (key : Bytes) (state : State) (inputs : List Input) : Prop :=
  ∀ before input rest, inputs = before ++ input :: rest →
    ¬ (Succeeded (step (final step state before) input).1 ∧ (call input).Mutates key)

variable {step objects call}

theorem runOfMap_iff_guarded {guard : State → Input → Prop}
    (follows_iff : ∀ state input, Follows (objects state) (call input) (step state input).1
      (objects (step state input).2) ↔ guard state input) (state : State)
    (inputs : List Input) :
    RunOfMap step objects call state inputs ↔ Guarded step guard state inputs := by
  rw [guarded_iff_forall_split, RunOfMap]
  simp only [follows_iff]

theorem RunOfMap.keeps {key : Bytes} {state : State} {inputs : List Input}
    (follows : RunOfMap step objects call state inputs)
    (unchanged : Unchanged step call key state inputs) :
    objects (final step state inputs) key = objects state key := by
  induction inputs generalizing state with
  | nil => rfl
  | cons input rest ih =>
      have first := (follows [] input rest rfl).keeps (unchanged [] input rest rfl)
      rw [final_nil] at first
      rw [final_cons, ← first]
      apply ih
      · intro before later after same
        exact follows (input :: before) later after (congrArg (input :: ·) same)
      · intro before later after same
        exact unchanged (input :: before) later after (congrArg (input :: ·) same)

end

end FileTrans.Cloud
