import FileTrans.Cloud.PendingUploads
import FileTrans.Transition.Returning

/-!
# When room is made

A wait for a slot ends once the uploads under way have finished, if there is any
slot at all; without one it ends only by a failure.  A failure that is under way
is delivered by some collection.
-/

namespace FileTrans.Cloud

open FileTrans.Core FileTrans.Transition

namespace Uploads

variable {ι τ : Type} {uploads after : Uploads ι τ} {maxConcurrent passes more time : Nat}
  {result : Result Unit} {failure : Error}

/-- An upload under way is to fail by then. -/
def FailsBy (uploads : Uploads ι τ) (time : Nat) : Prop :=
  ∃ upload ∈ uploads.pending, upload.valid = true ∧ upload.finishes ≤ time ∧
    ∃ failure, upload.answer = .error failure

/-- An upload under way is to fail. -/
def Fails (uploads : Uploads ι τ) : Prop :=
  ∃ upload ∈ uploads.pending, upload.valid = true ∧ ∃ failure, upload.answer = .error failure

theorem Fails.failsBy (fails : uploads.Fails) : ∃ time, uploads.FailsBy time := by
  obtain ⟨upload, mem, valid, failed⟩ := fails
  exact ⟨upload.finishes, upload, mem, valid, Nat.le_refl _, failed⟩

theorem FailsBy.look (fails : uploads.FailsBy time) : uploads.look.FailsBy time :=
  fails

/-! ## Collections -/

theorem now_collectCompletedUploads
    (outcome : uploads.collectCompletedUploads = (result, after)) : after.now = uploads.now := by
  rcases Prod.mk.inj outcome with ⟨-, rfl⟩
  rfl

theorem mem_collect_of_failed {now : Nat} {pending : List (PendingUpload ι τ)}
    {upload : PendingUpload ι τ} (outcome : (collect now pending).1 = .ok ())
    (mem : upload ∈ pending) (valid : upload.valid = true)
    (failed : upload.answer = .error failure) :
    upload ∈ (collect now pending).2.2 ∧ now < upload.finishes := by
  induction pending with
  | nil => contradiction
  | cons first rest ih =>
      rw [collect] at outcome ⊢
      split at outcome
      · rename_i invalid
        rw [if_pos invalid]
        rcases List.mem_cons.mp mem with rfl | mem
        · exact absurd valid invalid
        · exact ih outcome mem
      · rename_i present
        rw [if_neg present]
        split at outcome
        · rename_i finished
          rw [if_pos finished]
          split at outcome
          · contradiction
          · rename_i value answered
            rcases List.mem_cons.mp mem with rfl | mem
            · rw [failed] at answered
              contradiction
            · exact ih outcome mem
        · rename_i running
          rw [if_neg running]
          rcases List.mem_cons.mp mem with rfl | mem
          · exact ⟨List.mem_cons_self, Nat.lt_of_not_le running⟩
          · exact ⟨List.mem_cons_of_mem _ (ih outcome mem).1, (ih outcome mem).2⟩

theorem FailsBy.collect (fails : uploads.FailsBy time)
    (outcome : uploads.collectCompletedUploads = (.ok (), after)) :
    after.FailsBy time ∧ after.now < time := by
  obtain ⟨upload, mem, valid, by_then, failure, failed⟩ := fails
  rcases Prod.mk.inj outcome with ⟨first, rfl⟩
  have left := mem_collect_of_failed first mem valid failed
  exact ⟨⟨upload, left.1, valid, by_then, failure, failed⟩, Nat.lt_of_lt_of_le left.2 by_then⟩

theorem fails_of_mem_outstanding {label : ι}
    (mem : (label, .error failure) ∈ outstanding uploads.pending) : uploads.Fails := by
  obtain ⟨upload, present, entry⟩ := List.mem_map.mp mem
  obtain ⟨found, valid⟩ := List.mem_filter.mp present
  exact ⟨upload, found, valid, failure, congrArg Prod.snd entry⟩

theorem fails_of_collect_error
    (outcome : uploads.collectCompletedUploads = (.error failure, after)) : uploads.Fails := by
  rcases Prod.mk.inj outcome with ⟨first, -⟩
  obtain ⟨⟨label, same⟩, -⟩ := collect_error first
  have mem : (label, .error failure) ∈ outstanding uploads.pending := by
    rw [same.mem_iff]
    exact List.mem_append_right _ List.mem_cons_self
  exact fails_of_mem_outstanding mem

theorem fails_of_collect_ok (outcome : uploads.collectCompletedUploads = (.ok (), after))
    (fails : after.Fails) : uploads.Fails := by
  obtain ⟨upload, mem, valid, failed⟩ := fails
  exact ⟨upload, mem_collectCompletedUploads outcome mem, valid, failed⟩

theorem not_fails_waitAllUploads (sound : ¬ uploads.Fails)
    (outcome : uploads.waitAllUploads = (result, after)) : ¬ after.Fails := by
  rcases Prod.mk.inj outcome with ⟨first, rfl⟩
  cases result with
  | ok value =>
      rintro ⟨upload, mem, -⟩
      rw [first] at mem
      contradiction
  | error failure =>
      obtain ⟨⟨label, entry⟩, -⟩ := takeAll_error first
      exact absurd (fails_of_mem_outstanding entry) sound

/-! ## Waits -/

theorem waitForSlot_sound (sound : ¬ uploads.Fails)
    (outcome : uploads.waitForSlot maxConcurrent passes = some (result, after)) :
    result = .ok () ∧ ¬ after.Fails ∧ 0 < maxConcurrent := by
  have keeps (waiting next : Uploads ι τ) (sound : ¬ waiting.Fails)
      (collected : waiting.look.look.collectCompletedUploads = (.ok (), next)) :
      ¬ next.Fails := by
    intro fails
    have before : waiting.look.look.Fails := fails_of_collect_ok collected fails
    exact sound before
  obtain ⟨last, sound, ⟨slot, rfl, rfl⟩ | ⟨failure, -, collected⟩⟩ :=
    exists_exit_waitForSlot (fun waiting => ¬ waiting.Fails) keeps sound outcome
  · exact ⟨rfl, sound, Nat.lt_of_le_of_lt (Nat.zero_le _) slot⟩
  · exact absurd (fails_of_collect_error collected) sound

theorem FailsBy.waitForSlot (fails : uploads.FailsBy time)
    (outcome : uploads.waitForSlot maxConcurrent passes = some (.ok (), after)) :
    after.FailsBy time ∧ uploads.now < after.now := by
  have keeps (waiting next : Uploads ι τ)
      (holds : waiting.FailsBy time ∧ uploads.now ≤ waiting.now)
      (collected : waiting.look.look.collectCompletedUploads = (.ok (), next)) :
      next.FailsBy time ∧ uploads.now ≤ next.now := by
    refine ⟨(holds.1.look.look.collect collected).1, ?_⟩
    rw [now_collectCompletedUploads collected]
    exact holds.2.trans (Nat.le_add_right waiting.now 2)
  obtain ⟨last, ⟨fails, le⟩, ⟨-, -, rfl⟩ | ⟨failure, failed, -⟩⟩ :=
    exists_exit_waitForSlot _ keeps ⟨fails, Nat.le_refl _⟩ outcome
  · exact ⟨fails.look, Nat.lt_succ_of_le le⟩
  · contradiction

theorem waitForSlot_ends (positive : 0 < maxConcurrent) (uploads : Uploads ι τ) :
    ∃ passes, (uploads.waitForSlot maxConcurrent passes).isSome := by
  have bounded : ∃ bound, ∀ upload ∈ uploads.pending, upload.finishes ≤ bound := by
    induction uploads.pending with
    | nil => exact ⟨0, fun _ mem => absurd mem List.not_mem_nil⟩
    | cons first rest ih =>
        obtain ⟨bound, bounded⟩ := ih
        refine ⟨max first.finishes bound, fun upload mem => ?_⟩
        rcases List.mem_cons.mp mem with rfl | mem
        · exact Nat.le_max_left _ _
        · exact (bounded upload mem).trans (Nat.le_max_right _ _)
  obtain ⟨bound, bounded⟩ := bounded
  refine ⟨bound + 1, waitForSlot_isSome positive fun upload mem => ?_⟩
  exact (bounded upload mem).trans (Nat.le_add_left _ _)

theorem waitForSlot_ends_of_fails (maxConcurrent : Nat) (fails : uploads.FailsBy time) :
    ∃ passes, (uploads.waitForSlot maxConcurrent passes).isSome := by
  apply loop_returns_of_measure (fun waiting => waiting.FailsBy time)
    (fun waiting => time - waiting.now) _ fails
  intro waiting next fails goes
  have collected := waitPass_inr goes
  obtain ⟨still, later⟩ := fails.look.look.collect collected
  have now : next.now = waiting.now + 2 := now_collectCompletedUploads collected
  exact ⟨still, by omega⟩

/-! ## Room -/

theorem makeRoom_of_le (le : passes ≤ more)
    (outcome : uploads.makeRoom maxConcurrent passes = some (result, after)) :
    uploads.makeRoom maxConcurrent more = some (result, after) := by
  rw [makeRoom] at outcome ⊢
  cases waited : uploads.waitForSlot maxConcurrent passes with
  | none =>
      rw [waited] at outcome
      contradiction
  | some ended =>
      have longer : uploads.waitForSlot maxConcurrent more = some ended := loop_of_le le waited
      rw [waited] at outcome
      rw [longer]
      exact outcome

theorem makeRoom_ends (ends : (uploads.waitForSlot maxConcurrent passes).isSome) :
    ∃ result after, uploads.makeRoom maxConcurrent passes = some (result, after) := by
  obtain ⟨⟨outcome, waited⟩, slot⟩ := Option.isSome_iff_exists.mp ends
  rw [makeRoom, slot]
  cases outcome with
  | error failure => exact ⟨_, _, rfl⟩
  | ok value => exact ⟨_, _, rfl⟩

theorem makeRoom_sound (sound : ¬ uploads.Fails)
    (outcome : uploads.makeRoom maxConcurrent passes = some (result, after)) :
    result = .ok () ∧ ¬ after.Fails ∧ 0 < maxConcurrent := by
  rw [makeRoom] at outcome
  split at outcome
  · contradiction
  · rename_i failed
    have went := (waitForSlot_sound sound failed).1
    contradiction
  · rename_i waited slot
    obtain ⟨-, sound, positive⟩ := waitForSlot_sound sound slot
    have collected := Option.some.inj outcome
    cases result with
    | error failure => exact absurd (fails_of_collect_error collected) sound
    | ok value =>
        refine ⟨rfl, fun fails => ?_, positive⟩
        have before : waited.look.Fails := fails_of_collect_ok collected fails
        exact sound before

theorem makeRoom_zero_eq_none (sound : ¬ uploads.Fails) : uploads.makeRoom 0 passes = none := by
  cases outcome : uploads.makeRoom 0 passes with
  | none => rfl
  | some ended => exact absurd (makeRoom_sound sound outcome).2.2 (Nat.lt_irrefl 0)

theorem FailsBy.makeRoom (fails : uploads.FailsBy time)
    (outcome : uploads.makeRoom maxConcurrent passes = some (.ok (), after)) :
    after.FailsBy time ∧ uploads.now < after.now ∧ after.now < time := by
  rw [Uploads.makeRoom] at outcome
  split at outcome
  · contradiction
  · simp at outcome
  · rename_i waited slot
    obtain ⟨fails, passed⟩ := fails.waitForSlot slot
    have collected := Option.some.inj outcome
    obtain ⟨still, later⟩ := fails.look.collect collected
    have now : after.now = waited.now + 1 := now_collectCompletedUploads collected
    exact ⟨still, by omega, later⟩

end Uploads

end FileTrans.Cloud
