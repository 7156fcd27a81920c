import FileTrans.Server.StorageCopies

/-!
# Reads after writes

`store` succeeds once the primary backend has the object: an error of the
secondary backend is reported and swallowed.  A read that the primary backend
cannot serve falls back to the secondary one, so it may find what an earlier
call left there.
-/

namespace FileTrans.Server

open FileTrans.Core
open FileTrans.Transition

/-- A store that may overwrite, a removal, or a call that writes nothing. -/
def StorageInput.Overwrites : StorageInput → Prop
  | .initializeBackends _ => True
  | .shutdown => True
  | .store _ _ options _ => options.overwrite = true
  | .retrieve _ _ => True
  | .remove _ _ => True
  | .objectExists _ _ => True
  | _ => False

namespace StorageBackend

variable {backend : StorageBackend} {fate : Fate} {key data : Bytes} {options : StoreOptions}

theorem store_of_overwrite (overwrite : options.overwrite = true) :
    backend.store fate key data options =
      match fate with
      | some failure => (.error failure, backend)
      | none => (.ok ⟨key, UInt64.ofNat data.length, backend.type, options.tier⟩,
          { backend with objects := Function.update backend.objects key (some data) }) := by
  unfold store call
  cases fate with
  | some failure => rfl
  | none =>
      have allowed : ¬ (backend.type = .localStorage ∧ (backend.objects key).isSome ∧
          ¬ options.overwrite = true) := fun refused => refused.2.2 overwrite
      simp only [if_neg allowed]

theorem objects_store_self (overwrite : options.overwrite = true) :
    (backend.store fate key data options).2.objects key =
      if fate = none then some data else backend.objects key := by
  rw [store_of_overwrite overwrite]
  cases fate with
  | some failure => rfl
  | none => exact Function.update_self _ _ _

theorem retrieve_ok_iff :
    backend.retrieve fate key = .ok data ↔ fate = none ∧ backend.objects key = some data := by
  unfold retrieve
  split <;> simp_all

end StorageBackend

namespace StorageManager

/-- The store reaches the secondary backend. -/
def Replicates (manager : StorageManager) (fates : Fates) : Prop :=
  manager.config.replicateWrites = true ∧ fates.secondary = none

instance (manager : StorageManager) (fates : Fates) : Decidable (manager.Replicates fates) :=
  inferInstanceAs (Decidable (_ ∧ _))

/-- The primary backend serves the read. -/
def PrimaryServes (manager : StorageManager) (key : Bytes) (fates : Fates) : Prop :=
  fates.primary = none ∧ (manager.copies key).1 ≠ none

instance (manager : StorageManager) (key : Bytes) (fates : Fates) :
    Decidable (manager.PrimaryServes key fates) :=
  inferInstanceAs (Decidable (_ ∧ _))

/-- The call is a store of the key, and succeeds. -/
def Stores (key : Bytes) (manager : StorageManager) (input : StorageInput) : Prop :=
  ∃ data options fates result, input = .store key data options fates ∧
    (step manager input).1 = .stored (.ok result)

section

variable {manager : StorageManager} {key data : Bytes} {options : StoreOptions} {fates : Fates}

theorem store_ok_iff (overwrite : options.overwrite = true) :
    (∃ result, (manager.store key data options fates).1 = .ok result) ↔
      manager.initialized = true ∧ fates.primary = none := by
  unfold store storeWith
  by_cases ready : manager.initialized = true
  · rw [if_neg (not_not.mpr ready)]
    dsimp only
    rw [StorageBackend.store_of_overwrite overwrite]
    cases fates.primary with
    | some failure => simp
    | none =>
        dsimp only
        split <;> simp [ready]
  · simp [ready, notInitialized, unexpected]

theorem recordStore_eq (manager : StorageManager) (bytes : UInt64) (type : StorageBackendType) :
    ∃ stats, manager.recordStore bytes type = { manager with stats } := by
  unfold recordStore
  dsimp only
  split <;> exact ⟨_, rfl⟩

variable (key data) in
theorem copies_store (overwrite : options.overwrite = true)
    (ready : manager.initialized = true) (goes : fates.primary = none) :
    (manager.store key data options fates).2.config = manager.config ∧
    (manager.store key data options fates).2.copies key =
      (some data, if manager.Replicates fates then manager.secondaryBackend.map fun _ => data
        else (manager.copies key).2) := by
  unfold store storeWith
  rw [if_neg (not_not.mpr ready)]
  dsimp only
  rw [StorageBackend.store_of_overwrite overwrite, goes]
  dsimp only
  obtain ⟨stats, recorded⟩ := recordStore_eq { manager with
    primaryBackend := { manager.primaryBackend with
      objects := Function.update manager.primaryBackend.objects key (some data) } }
    (UInt64.ofNat data.length) manager.primaryBackend.type
  rw [recorded]
  have first : Function.update manager.primaryBackend.objects key (some data) key = some data :=
    Function.update_self _ _ _
  by_cases replicate : manager.config.replicateWrites = true
  · rw [if_pos replicate]
    refine ⟨rfl, Prod.ext first ?_⟩
    unfold copies Replicates
    dsimp only
    cases manager.secondaryBackend with
    | none => exact (ite_self none).symm
    | some secondary =>
        dsimp only [Option.map, Option.bind]
        rw [StorageBackend.objects_store_self overwrite]
        simp only [replicate, true_and]
  · rw [if_neg replicate, if_neg fun reaches : manager.Replicates fates => replicate reaches.1]
    exact ⟨rfl, Prod.ext first rfl⟩

theorem sameCopies_of_failed (overwrite : options.overwrite = true)
    (fails : ¬ (manager.initialized = true ∧ fates.primary = none)) :
    SameCopies key manager (manager.store key data options fates).2 := by
  unfold store storeWith
  by_cases ready : manager.initialized = true
  · rw [if_neg (not_not.mpr ready)]
    dsimp only
    rw [StorageBackend.store_of_overwrite overwrite]
    cases failed : fates.primary with
    | some failure => exact ⟨rfl, rfl⟩
    | none => exact absurd ⟨ready, failed⟩ fails
  · rw [if_pos ready]
    exact .refl key manager

end

/-! ## Copies since the last store -/

/-- Each copy of the object is the given one, or is gone. -/
structure CopiesWithin (key : Bytes) (first second : Option Bytes) (manager : StorageManager) :
    Prop where
  primary : (manager.copies key).1 = none ∨ (manager.copies key).1 = first
  secondary : (manager.copies key).2 = none ∨ (manager.copies key).2 = second

section

variable {manager after : StorageManager} {key : Bytes} {first second : Option Bytes}
  {fates : Fates}

theorem CopiesWithin.refl (key : Bytes) (manager : StorageManager) :
    CopiesWithin key (manager.copies key).1 (manager.copies key).2 manager :=
  ⟨.inr rfl, .inr rfl⟩

theorem CopiesWithin.of_same (within : CopiesWithin key first second manager)
    (same : SameCopies key manager after) : CopiesWithin key first second after :=
  ⟨same.copies ▸ within.primary, same.copies ▸ within.secondary⟩

theorem CopiesWithin.remove (within : CopiesWithin key first second manager) :
    CopiesWithin key first second (manager.remove key fates).2 := by
  by_cases ready : manager.initialized = true
  · constructor
    · rw [copies_remove ready]
      dsimp only
      split
      · exact .inl rfl
      · exact within.primary
    · rw [copies_remove ready]
      dsimp only
      split
      · exact .inl rfl
      · exact within.secondary
  · have unchanged : (manager.remove key fates).2 = manager := by
      unfold StorageManager.remove
      rw [if_pos ready]
    rwa [unchanged]

theorem sameCopies_initializeBackends :
    SameCopies key manager (manager.initializeBackends fates).2 := by
  unfold initializeBackends
  split
  · exact .refl key manager
  · split
    · exact .refl key manager
    · exact ⟨rfl, rfl⟩

theorem CopiesWithin.step {input : StorageInput} (within : CopiesWithin key first second manager)
    (overwrites : input.Overwrites) (other : ¬ Stores key manager input) :
    CopiesWithin key first second (step manager input).2 := by
  cases input with
  | initializeBackends fates => exact within.of_same sameCopies_initializeBackends
  | shutdown => exact within.of_same ⟨rfl, rfl⟩
  | store target data options fates =>
      by_cases same : target = key
      · subst same
        apply within.of_same
        apply sameCopies_of_failed overwrites
        intro goes
        obtain ⟨result, succeeds⟩ := (store_ok_iff overwrites).mpr goes
        exact other ⟨data, options, fates, result, rfl, congrArg StorageOutput.stored succeeds⟩
      · exact within.of_same (sameCopies_store same data options)
  | retrieve target fates => exact within.of_same sameCopies_retrieve
  | remove target fates =>
      by_cases same : target = key
      · subst same
        exact within.remove
      · exact within.of_same (sameCopies_remove same)
  | objectExists target fates => exact within
  | storeFile target file options fates => contradiction
  | changeTier target targetTier reads writes => contradiction
  | copyBetweenBackends target source destination read write => contradiction

theorem secondaryBackend_of_fallback {secondary : StorageBackend}
    (found : manager.fallback = some secondary) : manager.secondaryBackend = some secondary := by
  unfold fallback at found
  split at found
  · exact found
  · contradiction

theorem retrieved_copy {data : Bytes} (retrieved : (manager.retrieve key fates).1 = .ok data) :
    some data = if manager.PrimaryServes key fates then (manager.copies key).1
      else (manager.copies key).2 := by
  unfold retrieve at retrieved
  by_cases ready : manager.initialized = true
  · rw [if_neg (not_not.mpr ready)] at retrieved
    cases answer : manager.primaryBackend.retrieve fates.primary key with
    | ok copy =>
        obtain ⟨goes, held⟩ := StorageBackend.retrieve_ok_iff.mp answer
        have serves : manager.PrimaryServes key fates := by
          refine ⟨goes, ?_⟩
          change manager.primaryBackend.objects key ≠ none
          simp [held]
        rw [answer] at retrieved
        rw [if_pos serves, ← Except.ok.inj retrieved]
        exact held.symm
    | error failure =>
        have fails : ¬ manager.PrimaryServes key fates := by
          rintro ⟨goes, present⟩
          obtain ⟨copy, held⟩ := Option.ne_none_iff_exists'.mp present
          rw [StorageBackend.retrieve_ok_iff.mpr ⟨goes, held⟩] at answer
          contradiction
        rw [answer] at retrieved
        rw [if_neg fails]
        dsimp only at retrieved
        split at retrieved
        · rename_i copy found
          obtain ⟨secondary, isFallback, answered⟩ := Option.map_eq_some_iff.mp found
          have held := (StorageBackend.retrieve_ok_iff.mp answered).2
          unfold copies
          rw [secondaryBackend_of_fallback isFallback, ← Except.ok.inj retrieved]
          exact held.symm
        · contradiction
  · rw [if_pos ready] at retrieved
    contradiction

theorem CopiesWithin.retrieved {inputs : List StorageInput} {data : Bytes}
    (within : CopiesWithin key first second manager)
    (overwrite : ∀ input ∈ inputs, input.Overwrites)
    (others : Guarded StorageManager.step (fun manager input => ¬ Stores key manager input)
      manager inputs)
    (retrieved :
      ((final StorageManager.step manager inputs).retrieve key fates).1 = .ok data) :
    some data = if (final StorageManager.step manager inputs).PrimaryServes key fates then first
      else second := by
  have kept : CopiesWithin key first second (final StorageManager.step manager inputs) := by
    apply (others.and_mem overwrite).invariant (CopiesWithin key first second) _ within
    intro state input holds allowed
    exact holds.step allowed.2 allowed.1
  have copy := retrieved_copy retrieved
  split at copy
  · rename_i serves
    rw [if_pos serves]
    rcases kept.primary with absent | held
    · rw [absent] at copy
      contradiction
    · rwa [held] at copy
  · rename_i fails
    rw [if_neg fails]
    rcases kept.secondary with absent | held
    · rw [absent] at copy
      contradiction
    · rwa [held] at copy

end

/-! ## What a read returns -/

/-- Every read of a stored object returns the bytes of the last store of it that succeeded. -/
def ReadsLatest (manager : StorageManager) (inputs : List StorageInput) : Prop :=
  ∀ before key stored options storeFates between fates rest data,
    inputs = before ++ .store key stored options storeFates ::
      (between ++ .retrieve key fates :: rest) →
    Stores key (final step manager before) (.store key stored options storeFates) →
    Guarded step (fun manager input => ¬ Stores key manager input)
      (final step manager (before ++ [.store key stored options storeFates])) between →
    (step (final step manager (before ++ .store key stored options storeFates :: between))
      (.retrieve key fates)).1 = .retrieved (.ok data) →
    data = stored

theorem ready_of_stores {manager : StorageManager} {key data : Bytes} {options : StoreOptions}
    {fates : Fates} (overwrite : options.overwrite = true)
    (stores : Stores key manager (.store key data options fates)) :
    manager.initialized = true ∧ fates.primary = none := by
  obtain ⟨_, _, _, result, same, succeeds⟩ := stores
  exact (store_ok_iff overwrite).mp ⟨result, StorageOutput.stored.inj succeeds⟩

/-- A read returns the bytes of the last store that succeeded, unless the primary backend
cannot serve it and that store did not reach the secondary one; then it returns what the
secondary backend held before that store.  With no store in the run, it returns the copy that
the run began with. -/
theorem retrieved_after_store {manager : StorageManager} {key data : Bytes} {fates : Fates}
    {inputs : List StorageInput} (overwrite : ∀ input ∈ inputs, input.Overwrites)
    (retrieved : ((final step manager inputs).retrieve key fates).1 = .ok data) :
    (∀ before stored options storeFates between,
      inputs = before ++ .store key stored options storeFates :: between →
      Stores key (final step manager before) (.store key stored options storeFates) →
      Guarded step (fun manager input => ¬ Stores key manager input)
        (final step manager (before ++ [.store key stored options storeFates])) between →
      if (final step manager inputs).PrimaryServes key fates ∨
          (final step manager before).Replicates storeFates then data = stored
      else some data = ((final step manager before).copies key).2) ∧
    (Guarded step (fun manager input => ¬ Stores key manager input) manager inputs →
      some data = if (final step manager inputs).PrimaryServes key fates then
        (manager.copies key).1 else (manager.copies key).2) := by
  constructor
  · intro before stored options storeFates between split stores others
    subst split
    have writes : options.overwrite = true :=
      overwrite (.store key stored options storeFates) (by simp)
    have later : ∀ input ∈ between, input.Overwrites :=
      fun input mem => overwrite input (by simp [mem])
    obtain ⟨ready, goes⟩ := ready_of_stores writes stores
    have written := (copies_store key stored writes ready goes).2
    have within : CopiesWithin key (some stored)
        (if (final step manager before).Replicates storeFates then
          (final step manager before).secondaryBackend.map fun _ => stored
        else ((final step manager before).copies key).2)
        (final step manager (before ++ [.store key stored options storeFates])) := by
      rw [final_concat]
      exact ⟨.inr (congrArg Prod.fst written), .inr (congrArg Prod.snd written)⟩
    rw [List.append_cons, final_append] at retrieved ⊢
    have copy := within.retrieved later others retrieved
    by_cases serves : (final step (final step manager (before ++
        [.store key stored options storeFates])) between).PrimaryServes key fates
    · rw [if_pos serves] at copy
      rw [if_pos (.inl serves)]
      exact Option.some.inj copy
    · rw [if_neg serves] at copy
      by_cases reaches : (final step manager before).Replicates storeFates
      · rw [if_pos reaches] at copy
        rw [if_pos (.inr reaches)]
        obtain ⟨secondary, -, same⟩ := Option.map_eq_some_iff.mp copy.symm
        exact same.symm
      · rw [if_neg reaches] at copy
        rwa [if_neg (not_or.mpr ⟨serves, reaches⟩)]
  · intro others
    exact (CopiesWithin.refl key manager).retrieved overwrite others retrieved

/-! ## A write that one backend misses -/

namespace StaleSample

def key : Bytes := [0x6b]

/-- Two empty backends, with replication and fallback reads. -/
def manager : StorageManager where
  config := ⟨true, true, true⟩
  primaryBackend := ⟨.localStorage, fun _ => none⟩
  secondaryBackend := some ⟨.cloudS3, fun _ => none⟩
  initialized := true
  stats := ⟨0, 0, 0, 0, 0, 0, 0, 0, 0, 0, 0⟩

/-- Options with `overwrite`. -/
def options : StoreOptions :=
  { StoreOptions.default with overwrite := true }

/-- A backend that refuses. -/
def refusal : Error :=
  ⟨.fileAccessDenied, Text.ascii "Cloud upload failed"⟩

/-- The second store does not reach the secondary backend. -/
def inputs : List StorageInput :=
  [.store key [1] options ⟨none, none⟩, .store key [2] options ⟨none, some refusal⟩]

end StaleSample

open StaleSample in
theorem retrieved_after_store_sample :
    if (final step manager inputs).PrimaryServes key ⟨some refusal, none⟩ ∨
        (final step manager [.store key [1] options ⟨none, none⟩]).Replicates
          ⟨none, some refusal⟩ then ([1] : Bytes) = [2]
    else some [1] =
      ((final step manager [.store key [1] options ⟨none, none⟩]).copies key).2 := by
  have overwrite : ∀ input ∈ inputs, input.Overwrites := by
    intro input mem
    rcases List.mem_pair.mp mem with rfl | rfl <;> rfl
  have retrieved : ((final step manager inputs).retrieve key ⟨some refusal, none⟩).1 =
      .ok [1] := rfl
  exact (retrieved_after_store overwrite retrieved).1
    [.store key [1] options ⟨none, none⟩] [2] options ⟨none, some refusal⟩ [] rfl
    ⟨[2], options, ⟨none, some refusal⟩, _, rfl, rfl⟩ trivial

open StaleSample in
/-- The read falls back to the secondary copy, which the second store did not reach. -/
theorem stale_copy_read :
    (∀ input ∈ inputs ++ [.retrieve key ⟨some refusal, none⟩], input.Overwrites) ∧
      ¬ manager.ReadsLatest (inputs ++ [.retrieve key ⟨some refusal, none⟩]) := by
  refine ⟨by simp [inputs, StorageInput.Overwrites, options], ?_⟩
  intro latest
  have stale : ([1] : Bytes) = [2] := latest [.store key [1] options ⟨none, none⟩] key [2] options
    ⟨none, some refusal⟩ [] ⟨some refusal, none⟩ [] [1] rfl
    ⟨[2], options, ⟨none, some refusal⟩, _, rfl, rfl⟩ trivial rfl
  contradiction

end StorageManager

end FileTrans.Server
