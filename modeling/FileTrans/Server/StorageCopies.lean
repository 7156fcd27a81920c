import FileTrans.Server.StorageManager

/-!
# What the calls do to the copies of an object

An object has up to two copies, one in each backend.  A call about one key
leaves the copies of the other keys as they are, and a read leaves all of them.
-/

namespace FileTrans.Server

open FileTrans.Core
open FileTrans.Transition

namespace StorageBackend

variable {backend : StorageBackend} {fate : Fate} {key other data : Bytes}

theorem objects_store_of_ne (different : other ≠ key) (options : StoreOptions) :
    (backend.store fate other data options).2.objects key = backend.objects key := by
  unfold store call
  cases fate with
  | some failure => rfl
  | none =>
      dsimp only
      split
      · rfl
      · exact Function.update_of_ne different.symm _ _

theorem objects_remove : (backend.remove fate key).2.objects =
    if fate = none then Function.update backend.objects key none else backend.objects := by
  unfold remove call
  cases fate with
  | some failure => rfl
  | none =>
      dsimp only
      rw [if_pos rfl]
      split
      · rename_i missing
        rw [eq_comm, Function.update_eq_self_iff, eq_comm]
        exact Option.isNone_iff_eq_none.mp missing.2
      · rfl

/-- The call removes the object; a local backend has to have it. -/
def Removes (backend : StorageBackend) (fate : Fate) (key : Bytes) : Prop :=
  fate = none ∧ (backend.type = .localStorage → backend.objects key ≠ none)

theorem remove_ok_iff : (backend.remove fate key).1 = .ok () ↔ backend.Removes fate key := by
  unfold remove call Removes
  cases fate with
  | some failure => simp
  | none =>
      dsimp only
      split
      · rename_i missing
        simp [missing.1, Option.isNone_iff_eq_none.mp missing.2]
      · rename_i present
        simpa [Option.isNone_iff_eq_none] using present

theorem remove_of_not_removes (refused : ¬ backend.Removes fate key) :
    ∃ failure, backend.remove fate key = (.error failure, backend) := by
  unfold remove call
  cases fate with
  | some failure => exact ⟨failure, rfl⟩
  | none =>
      have missing : backend.type = .localStorage ∧ (backend.objects key).isNone := by
        simpa [Removes] using refused
      exact ⟨_, if_pos missing⟩

theorem retrieve_of_none (fate : Fate) (absent : backend.objects key = none) :
    ∃ failure, backend.retrieve fate key = .error failure := by
  unfold retrieve
  cases fate with
  | some failure => exact ⟨failure, rfl⟩
  | none =>
      rw [absent]
      exact ⟨_, rfl⟩

end StorageBackend

namespace StorageManager

/-- The copies of an object in the primary and in the secondary backend. -/
def copies (manager : StorageManager) (key : Bytes) : Option Bytes × Option Bytes :=
  (manager.primaryBackend.objects key,
    manager.secondaryBackend.bind fun secondary => secondary.objects key)

/-- The configuration and the copies of an object are the same. -/
structure SameCopies (key : Bytes) (before after : StorageManager) : Prop where
  config : after.config = before.config
  copies : after.copies key = before.copies key

theorem SameCopies.refl (key : Bytes) (manager : StorageManager) :
    SameCopies key manager manager :=
  ⟨rfl, rfl⟩

theorem SameCopies.trans {key : Bytes} {first second third : StorageManager}
    (left : SameCopies key first second) (right : SameCopies key second third) :
    SameCopies key first third :=
  ⟨right.config.trans left.config, right.copies.trans left.copies⟩

variable {manager : StorageManager} {key other : Bytes} {fates : Fates}

theorem sameCopies_recordStore (bytes : UInt64) (type : StorageBackendType) :
    SameCopies key manager (manager.recordStore bytes type) := by
  unfold recordStore
  dsimp only
  split <;> exact ⟨rfl, rfl⟩

theorem sameCopies_storeWith
    {write : StorageBackend → Fate → Result StoreResult × StorageBackend}
    (leaves : ∀ backend fate, (write backend fate).2.objects key = backend.objects key) :
    SameCopies key manager (manager.storeWith write fates).2 := by
  unfold storeWith
  by_cases ready : manager.initialized = true
  · rw [if_neg (not_not.mpr ready)]
    have left := leaves manager.primaryBackend fates.primary
    cases answer : write manager.primaryBackend fates.primary with
    | mk result primary =>
        rw [answer] at left
        have moved : SameCopies key manager { manager with primaryBackend := primary } :=
          ⟨rfl, Prod.ext left rfl⟩
        cases result with
        | error failure => exact moved.trans ⟨rfl, rfl⟩
        | ok result =>
            have stored := moved.trans
              (sameCopies_recordStore result.bytesStored result.backend)
            dsimp only
            split
            · apply stored.trans
              refine ⟨rfl, Prod.ext rfl ?_⟩
              have second := congrArg Prod.snd stored.copies
              change ((manager.secondaryBackend.map _).bind _) = _
              rw [second, Option.bind_map]
              exact Option.bind_congr fun secondary _ => leaves secondary fates.secondary
            · exact stored
  · rw [if_pos ready]
    exact .refl key manager

theorem sameCopies_store (different : other ≠ key) (data : Bytes) (options : StoreOptions) :
    SameCopies key manager (manager.store other data options fates).2 :=
  sameCopies_storeWith fun _ _ => StorageBackend.objects_store_of_ne different options

theorem sameCopies_storeFile (different : other ≠ key) (file : Bytes) (options : StoreOptions) :
    SameCopies key manager (manager.storeFile other file options fates).2 :=
  sameCopies_storeWith fun _ _ => StorageBackend.objects_store_of_ne different options

theorem sameCopies_retrieve : SameCopies key manager (manager.retrieve other fates).2 := by
  unfold retrieve
  by_cases ready : manager.initialized = true
  · rw [if_neg (not_not.mpr ready)]
    cases manager.primaryBackend.retrieve fates.primary other with
    | ok data => exact ⟨rfl, rfl⟩
    | error failure =>
        dsimp only
        split <;> exact ⟨rfl, rfl⟩
  · rw [if_pos ready]
    exact .refl key manager

variable (key fates) in
theorem backends_remove (ready : manager.initialized = true) :
    (manager.remove key fates).2.config = manager.config ∧
    (manager.remove key fates).2.primaryBackend =
      (manager.primaryBackend.remove fates.primary key).2 ∧
    (manager.remove key fates).2.secondaryBackend =
      manager.secondaryBackend.map fun secondary =>
        (secondary.remove fates.secondary key).2 := by
  unfold remove
  rw [if_neg (not_not.mpr ready)]
  dsimp only
  split <;> exact ⟨rfl, rfl, rfl⟩

theorem copies_remove (ready : manager.initialized = true) :
    (manager.remove key fates).2.copies key =
      (if fates.primary = none then none else (manager.copies key).1,
        if fates.secondary = none then none else (manager.copies key).2) := by
  obtain ⟨-, primary, secondary⟩ := backends_remove key fates ready
  unfold copies
  rw [primary, secondary, Option.bind_map, StorageBackend.objects_remove]
  apply Prod.ext
  · dsimp only
    split
    · rw [Function.update_self]
    · rfl
  · cases manager.secondaryBackend with
    | none => exact (ite_self none).symm
    | some backend =>
        dsimp only [Option.bind, Function.comp]
        rw [StorageBackend.objects_remove]
        split
        · rw [Function.update_self]
        · rfl

theorem sameCopies_remove (different : other ≠ key) :
    SameCopies key manager (manager.remove other fates).2 := by
  by_cases ready : manager.initialized = true
  · obtain ⟨config, primary, secondary⟩ := backends_remove other fates ready
    refine ⟨config, ?_⟩
    have leaves (backend : StorageBackend) (fate : Fate) :
        (backend.remove fate other).2.objects key = backend.objects key := by
      rw [StorageBackend.objects_remove]
      split
      · exact Function.update_of_ne different.symm _ _
      · rfl
    unfold copies
    rw [primary, secondary, Option.bind_map, leaves]
    exact congrArg _ (Option.bind_congr fun secondary _ => leaves secondary fates.secondary)
  · unfold remove
    rw [if_pos ready]
    exact .refl key manager

theorem sameCopies_changeTier (different : other ≠ key) (targetTier : StorageTier)
    (reads writes : Fates) :
    SameCopies key manager (manager.changeTier other targetTier reads writes).2 := by
  unfold changeTier
  by_cases ready : manager.initialized = true
  · rw [if_neg (not_not.mpr ready)]
    have read : SameCopies key manager (manager.retrieve other reads).2 := sameCopies_retrieve
    cases answer : manager.retrieve other reads with
    | mk result after =>
        rw [answer] at read
        cases result with
        | error failure => exact read
        | ok data =>
            dsimp only
            have stored : SameCopies key manager
                (after.store other data (tierOptions targetTier) writes).2 :=
              read.trans (sameCopies_store different data (tierOptions targetTier))
            split
            · rename_i written
              rw [written] at stored
              exact stored
            · rename_i written
              rw [written] at stored
              exact stored.trans ⟨rfl, rfl⟩
  · rw [if_pos ready]
    exact .refl key manager

theorem setBackend_backendOf {type : StorageBackendType} {role : BackendRole}
    {backend : StorageBackend} (found : manager.backendOf type = some (role, backend)) :
    manager.setBackend role backend = manager := by
  unfold backendOf at found
  split at found
  · obtain ⟨rfl, rfl⟩ := Prod.mk.inj (Option.some.inj found)
    rfl
  · split at found
    · rename_i secondary present
      split at found
      · obtain ⟨rfl, rfl⟩ := Prod.mk.inj (Option.some.inj found)
        rw [setBackend, ← present]
      · contradiction
    · contradiction

theorem sameCopies_setBackend (role : BackendRole) {before after : StorageBackend}
    (same : after.objects key = before.objects key) :
    SameCopies key (manager.setBackend role before) (manager.setBackend role after) := by
  cases role with
  | primary => exact ⟨rfl, Prod.ext same rfl⟩
  | secondary => exact ⟨rfl, Prod.ext rfl same⟩

theorem sameCopies_copyBetweenBackends (different : other ≠ key)
    (source destination : StorageBackendType) (read write : Fate) :
    SameCopies key manager
      (manager.copyBetweenBackends other source destination read write).2 := by
  unfold copyBetweenBackends
  by_cases ready : manager.initialized = true
  · rw [if_neg (not_not.mpr ready)]
    split
    · rename_i role dst _ found
      dsimp only
      split
      · exact .refl key manager
      · rename_i data _
        have written : SameCopies key (manager.setBackend role dst) (manager.setBackend role
            (dst.store write other data { StoreOptions.default with overwrite := true }).2) :=
          sameCopies_setBackend role (StorageBackend.objects_store_of_ne different _)
        rw [setBackend_backendOf found] at written
        split
        · rename_i answer
          rwa [answer] at written
        · rename_i answer
          rwa [answer] at written
    · exact .refl key manager
  · rw [if_pos ready]
    exact .refl key manager

end StorageManager

end FileTrans.Server
