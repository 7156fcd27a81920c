import FileTrans.Server.StorageCopies

/-!
# Removed objects

`remove` answers with what the primary backend answered.  A secondary copy that
survives a successful removal comes back through the fallback of the reads, and
a removal that failed may have taken the secondary copy.
-/

namespace FileTrans.Server

open FileTrans.Core
open FileTrans.Transition

/-- The call stores an object under the key.  A change of the tier counts as a read: it stores
only what it retrieved. -/
def StorageInput.Stores (key : Bytes) : StorageInput → Prop
  | .store other _ _ _ => other = key
  | .storeFile other _ _ _ => other = key
  | .copyBetweenBackends other _ _ _ _ => other = key
  | _ => False

namespace StorageManager

/-- No read sees the object: an answer to `exists` is `false`, and a retrieval fails. -/
structure Gone (manager : StorageManager) (key : Bytes) : Prop where
  absent : manager.initialized = true → ∀ fates, manager.objectExists key fates = .ok false
  unreadable : ∀ fates, ∃ failure, (manager.retrieve key fates).1 = .error failure

/-- No backend that reads go to has a copy. -/
def Hidden (manager : StorageManager) (key : Bytes) : Prop :=
  (manager.copies key).1 = none ∧
    (manager.config.fallbackReads = true → (manager.copies key).2 = none)

section

variable {manager : StorageManager} {key : Bytes}

theorem SameCopies.hidden {before after : StorageManager} (same : SameCopies key before after)
    (hidden : before.Hidden key) : after.Hidden key := by
  unfold Hidden
  rw [same.config, same.copies]
  exact hidden

theorem Hidden.primary (hidden : manager.Hidden key) :
    manager.primaryBackend.objects key = none :=
  hidden.1

theorem Hidden.fallback (hidden : manager.Hidden key) {secondary : StorageBackend}
    (found : manager.fallback = some secondary) : secondary.objects key = none := by
  unfold StorageManager.fallback at found
  split at found
  · rename_i enabled
    have copy := hidden.2 enabled
    unfold copies at copy
    rwa [found] at copy
  · contradiction

theorem Hidden.retrieve (hidden : manager.Hidden key) (fates : Fates) :
    ∃ failure, (manager.retrieve key fates).1 = .error failure := by
  unfold StorageManager.retrieve
  by_cases ready : manager.initialized = true
  · rw [if_neg (not_not.mpr ready)]
    obtain ⟨failure, primary⟩ := StorageBackend.retrieve_of_none fates.primary hidden.primary
    rw [primary]
    dsimp only
    cases found : manager.fallback with
    | none => exact ⟨failure, rfl⟩
    | some secondary =>
        obtain ⟨second, answer⟩ :=
          StorageBackend.retrieve_of_none fates.secondary (hidden.fallback found)
        rw [Option.map_some, answer]
        exact ⟨failure, rfl⟩
  · rw [if_pos ready]
    exact ⟨_, rfl⟩

theorem Hidden.objectExists (hidden : manager.Hidden key)
    (ready : manager.initialized = true) (fates : Fates) :
    manager.objectExists key fates = .ok false := by
  have missing {backend : StorageBackend} (fate : Fate) (absent : backend.objects key = none) :
      backend.objectExists fate key ≠ .ok true := by
    unfold StorageBackend.objectExists
    cases fate with
    | some failure => simp
    | none => simp [absent]
  unfold StorageManager.objectExists
  rw [if_neg (not_not.mpr ready)]
  split
  · rename_i answer
    exact absurd answer (missing _ hidden.primary)
  · cases found : manager.fallback with
    | none => rfl
    | some secondary =>
        split
        · rename_i answer
          exact absurd (Option.some.inj answer) (missing _ (hidden.fallback found))
        · rfl

theorem Hidden.gone (hidden : manager.Hidden key) : manager.Gone key :=
  ⟨hidden.objectExists, hidden.retrieve⟩

theorem gone_iff_hidden (ready : manager.initialized = true) :
    manager.Gone key ↔ manager.Hidden key := by
  constructor
  · intro gone
    have absent := gone.absent ready ⟨none, none⟩
    unfold StorageManager.objectExists at absent
    rw [if_neg (not_not.mpr ready)] at absent
    have primary : manager.primaryBackend.objects key = none := by
      cases present : manager.primaryBackend.objects key with
      | none => rfl
      | some data => simp [StorageBackend.objectExists, present] at absent
    refine ⟨primary, ?_⟩
    intro enabled
    cases found : manager.secondaryBackend with
    | none => simp [copies, found]
    | some secondary =>
        cases present : secondary.objects key with
        | none => simp [copies, found, present]
        | some data =>
            simp [StorageBackend.objectExists, primary, StorageManager.fallback, enabled, found,
              present] at absent
  · exact Hidden.gone

theorem Hidden.remove (hidden : manager.Hidden key) (other : Bytes) (fates : Fates) :
    (manager.remove other fates).2.Hidden key := by
  by_cases different : other = key
  · subst different
    by_cases ready : manager.initialized = true
    · unfold Hidden
      rw [copies_remove ready, (backends_remove other fates ready).1]
      constructor
      · rw [hidden.1]
        exact ite_self none
      · intro enabled
        rw [hidden.2 enabled]
        exact ite_self none
    · unfold StorageManager.remove
      rw [if_pos ready]
      exact hidden
  · exact (sameCopies_remove different).hidden hidden

theorem Hidden.changeTier (hidden : manager.Hidden key) (other : Bytes)
    (targetTier : StorageTier) (reads writes : Fates) :
    (manager.changeTier other targetTier reads writes).2.Hidden key := by
  by_cases different : other = key
  · subst different
    obtain ⟨failure, answer⟩ := hidden.retrieve reads
    have read : (manager.retrieve other reads).2.Hidden other := sameCopies_retrieve.hidden hidden
    unfold StorageManager.changeTier
    split
    · exact hidden
    · split
      · rename_i result
        rwa [result] at read
      · rename_i result
        rw [result] at answer
        contradiction
  · exact (sameCopies_changeTier different targetTier reads writes).hidden hidden

theorem Hidden.step (hidden : manager.Hidden key) (input : StorageInput)
    (foreign : ¬ input.Stores key) : (StorageManager.step manager input).2.Hidden key := by
  cases input with
  | initializeBackends fates =>
      have same : SameCopies key manager (manager.initializeBackends fates).2 := by
        unfold initializeBackends
        split
        · exact .refl key manager
        · split <;> exact ⟨rfl, rfl⟩
      exact same.hidden hidden
  | shutdown => exact hidden
  | store other data options fates => exact (sameCopies_store foreign data options).hidden hidden
  | storeFile other file options fates =>
      exact (sameCopies_storeFile foreign file options).hidden hidden
  | retrieve other fates => exact sameCopies_retrieve.hidden hidden
  | remove other fates => exact hidden.remove other fates
  | objectExists other fates => exact hidden
  | changeTier other targetTier reads writes =>
      exact hidden.changeTier other targetTier reads writes
  | copyBetweenBackends other source destination read write =>
      exact (sameCopies_copyBetweenBackends foreign source destination read write).hidden hidden

theorem Hidden.final (hidden : manager.Hidden key) {inputs : List StorageInput}
    (foreign : ∀ input ∈ inputs, ¬ input.Stores key) :
    (Transition.final StorageManager.step manager inputs).Hidden key := by
  induction inputs generalizing manager with
  | nil => exact hidden
  | cons input rest ih =>
      have first : ¬ input.Stores key := foreign input List.mem_cons_self
      exact ih (hidden.step input first) fun later mem =>
        foreign later (List.mem_cons_of_mem input mem)

end

/-! ## The law of removals -/

/-- What a removal promises, given the calls that follow it. -/
structure RemovalLaw (manager : StorageManager) (key : Bytes) (fates : Fates)
    (after : List StorageInput) : Prop where
  gone : (manager.remove key fates).1 = .ok () → ∀ window rest, after = window ++ rest →
    (∀ input ∈ window, ¬ input.Stores key) →
      (final step (manager.remove key fates).2 window).Gone key
  kept : ∀ failure, (manager.remove key fates).1 = .error failure →
    (manager.remove key fates).2.copies key = manager.copies key

/-- Where the secondary backend has a copy, its call goes through if that of the primary one
does and reads fall back, and fails if that of the primary one does not go through. -/
def SafeRemoval (manager : StorageManager) : StorageInput → Prop
  | .remove key fates => manager.initialized = true → (manager.copies key).2 ≠ none →
      (manager.primaryBackend.Removes fates.primary key → manager.config.fallbackReads = true →
        fates.secondary = none) ∧
      (¬ manager.primaryBackend.Removes fates.primary key → fates.secondary ≠ none)
  | _ => True

section

variable {manager : StorageManager} {key : Bytes} {fates : Fates}

variable (key fates) in
theorem remove_fst (ready : manager.initialized = true) :
    (manager.remove key fates).1 = (manager.primaryBackend.remove fates.primary key).1 := by
  unfold StorageManager.remove
  rw [if_neg (not_not.mpr ready)]
  dsimp only
  cases (manager.primaryBackend.remove fates.primary key).1 <;> rfl

theorem initialized_remove : (manager.remove key fates).2.initialized = manager.initialized := by
  unfold StorageManager.remove
  split
  · rfl
  · dsimp only
    split <;> rfl

/-- A removal that the primary backend made hides the object if it also takes the copy that
reads fall back to. -/
theorem hidden_remove_iff (ready : manager.initialized = true)
    (removes : manager.primaryBackend.Removes fates.primary key) :
    (manager.remove key fates).2.Hidden key ↔
      ((manager.copies key).2 ≠ none → manager.config.fallbackReads = true →
        fates.secondary = none) := by
  unfold Hidden
  rw [copies_remove ready, (backends_remove key fates ready).1, if_pos removes.1]
  constructor
  · rintro ⟨-, taken⟩ copy enabled
    by_contra failed
    have left := taken enabled
    rw [if_neg failed] at left
    contradiction
  · intro takes
    refine ⟨rfl, ?_⟩
    intro enabled
    by_cases copy : (manager.copies key).2 = none
    · rw [copy]
      exact ite_self none
    · exact if_pos (takes copy enabled)

theorem copies_remove_iff (ready : manager.initialized = true)
    (refused : ¬ manager.primaryBackend.Removes fates.primary key) :
    (manager.remove key fates).2.copies key = manager.copies key ↔
      ((manager.copies key).2 ≠ none → fates.secondary ≠ none) := by
  obtain ⟨-, primary, -⟩ := backends_remove key fates ready
  obtain ⟨failure, unchanged⟩ := StorageBackend.remove_of_not_removes refused
  have first : ((manager.remove key fates).2.copies key).1 = (manager.copies key).1 := by
    unfold copies
    rw [primary, unchanged]
  rw [Prod.ext_iff, and_iff_right first, copies_remove ready]
  constructor
  · intro same copy through
    rw [if_pos through] at same
    exact copy same.symm
  · intro fails
    by_cases copy : (manager.copies key).2 = none
    · rw [copy]
      exact ite_self none
    · exact if_neg (fails copy)

theorem removalLaw_iff (after : List StorageInput) :
    manager.RemovalLaw key fates after ↔ manager.SafeRemoval (.remove key fates) := by
  by_cases ready : manager.initialized = true
  · have still : (manager.remove key fates).2.initialized = true := by
      rw [initialized_remove, ready]
    have answer := remove_fst key fates ready
    by_cases removes : manager.primaryBackend.Removes fates.primary key
    · have done := StorageBackend.remove_ok_iff.mpr removes
      rw [← answer] at done
      have hidden_iff := hidden_remove_iff ready removes
      constructor
      · intro law _ copy
        have gone := law.gone done [] after rfl (by simp)
        have hidden := (gone_iff_hidden still).mp gone
        exact ⟨fun _ => hidden_iff.mp hidden copy, fun refused => absurd removes refused⟩
      · intro safe
        have hidden := hidden_iff.mpr fun copy => (safe ready copy).1 removes
        constructor
        · intro _ window rest _ foreign
          exact (hidden.final foreign).gone
        · intro failure failed
          rw [done] at failed
          contradiction
    · obtain ⟨failure, unchanged⟩ := StorageBackend.remove_of_not_removes removes
      rw [unchanged] at answer
      have kept_iff := copies_remove_iff ready removes
      constructor
      · intro law _ copy
        have kept := law.kept failure answer
        exact ⟨fun done => absurd done removes, fun _ => kept_iff.mp kept copy⟩
      · intro safe
        constructor
        · intro done
          rw [answer] at done
          contradiction
        · intro _ _
          exact kept_iff.mpr fun copy => (safe ready copy).2 removes
  · have unchanged : manager.remove key fates = (notInitialized, manager) := by
      unfold StorageManager.remove
      exact if_pos ready
    constructor
    · intro _ running
      exact absurd running ready
    · intro _
      constructor
      · intro done
        rw [unchanged] at done
        contradiction
      · intro _ _
        rw [unchanged]

end

/-- In a run from any manager every removal keeps its promise, if and only if every removal is
safe. -/
theorem removals_iff (manager : StorageManager) (inputs : List StorageInput) :
    (∀ before key fates after, inputs = before ++ .remove key fates :: after →
      (final step manager before).RemovalLaw key fates after) ↔
      Guarded step SafeRemoval manager inputs := by
  rw [guarded_iff_forall_split]
  constructor
  · intro law before input after split
    cases input with
    | remove key fates => exact (removalLaw_iff after).mp (law before key fates after split)
    | _ => trivial
  · intro safe before key fates after split
    exact (removalLaw_iff after).mpr (safe before (.remove key fates) after split)

/-! ## Copies in both backends -/

namespace RemovalSample

def key : Bytes := [0x6b]

/-- A local primary and a cloud secondary backend, both with the object. -/
def manager : StorageManager where
  config := ⟨true, true, true⟩
  primaryBackend := ⟨.localStorage, fun other => if other = key then some [1, 2, 3] else none⟩
  secondaryBackend := some ⟨.cloudS3, fun other => if other = key then some [1, 2, 3] else none⟩
  initialized := true
  stats := ⟨0, 0, 0, 0, 0, 0, 0, 0, 0, 0, 0⟩

/-- A backend that refuses. -/
def refusal : Error :=
  ⟨.fileAccessDenied, Text.ascii "Cloud delete failed"⟩

end RemovalSample

open RemovalSample in
/-- The secondary call fails: the removal succeeds, and the object is still read.  The primary
call fails: the removal fails, and the secondary copy is gone. -/
theorem removal_breaks_both_promises :
    ((manager.remove key ⟨none, some refusal⟩).1 = .ok () ∧
      (manager.remove key ⟨none, some refusal⟩).2.objectExists key ⟨none, none⟩ = .ok true ∧
      ((manager.remove key ⟨none, some refusal⟩).2.retrieve key ⟨none, none⟩).1 =
        .ok [1, 2, 3]) ∧
    (manager.remove key ⟨some refusal, none⟩).1 = .error refusal ∧
    manager.copies key = (some [1, 2, 3], some [1, 2, 3]) ∧
    (manager.remove key ⟨some refusal, none⟩).2.copies key = (some [1, 2, 3], none) ∧
    ¬ (final step manager []).RemovalLaw key ⟨none, some refusal⟩ [] ∧
    ¬ (final step manager []).RemovalLaw key ⟨some refusal, none⟩ [] := by
  have resurrected : ¬ manager.RemovalLaw key ⟨none, some refusal⟩ [] := by
    intro law
    have gone := law.gone rfl [] [] rfl (by simp)
    exact absurd (gone.absent rfl ⟨none, none⟩) (by decide)
  have lost : ¬ manager.RemovalLaw key ⟨some refusal, none⟩ [] := by
    intro law
    exact absurd (law.kept refusal rfl) (by decide)
  exact ⟨⟨by decide, by decide, by decide⟩, by decide, by decide, by decide, resurrected, lost⟩

end StorageManager

end FileTrans.Server
