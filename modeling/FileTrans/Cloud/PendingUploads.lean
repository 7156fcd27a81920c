import FileTrans.Core.Types
import FileTrans.Transition.Loop

/-!
# Uploads under way

An upload stream sends a full part on a thread of its own, and keeps the future
of its answer.  A failure is delivered once, to the call that takes it from its
future; the entry stays behind without a future, and the next pass over the
list drops it.

The clock counts the looks at the futures: an upload is finished from some look
on.  A pass over the list sees all futures at one look; one that finishes during
the pass is seen as if it had finished before or after it.
-/

namespace FileTrans.Cloud

open FileTrans.Core FileTrans.Transition

/-- `pending_part`, `pending_block`: a label, and the future of the answer. -/
structure PendingUpload (ι τ : Type) where
  label : ι
  answer : Result τ
  finishes : Nat
  /-- `future.valid()`: the answer has not been taken. -/
  valid : Bool

/-- The uploads of a stream: the clock, the answers taken so far (`completed_parts`), and
`pending_uploads`. -/
structure Uploads (ι τ : Type) where
  now : Nat
  completed : List (ι × τ)
  pending : List (PendingUpload ι τ)

variable {ι τ : Type}

/-- The future with its answer taken. -/
def PendingUpload.taken (upload : PendingUpload ι τ) : PendingUpload ι τ :=
  { upload with valid := false }

/-- The loop of `collect_completed_uploads`: the outcome, the answers that were taken, and the
entries that are left. -/
def collect (now : Nat) :
    List (PendingUpload ι τ) → Result Unit × List (ι × τ) × List (PendingUpload ι τ)
  | [] => (.ok (), [], [])
  | upload :: rest =>
      if ¬ upload.valid then collect now rest
      else if upload.finishes ≤ now then
        match upload.answer with
        | .error failure => (.error failure, [], upload.taken :: rest)
        | .ok value =>
            let later := collect now rest
            (later.1, (upload.label, value) :: later.2.1, later.2.2)
      else
        let later := collect now rest
        (later.1, later.2.1, upload :: later.2.2)

/-- The loop of `wait_all_uploads`: the outcome, the answers that were taken, and the entries
as they are then. -/
def takeAll :
    List (PendingUpload ι τ) → Result Unit × List (ι × τ) × List (PendingUpload ι τ)
  | [] => (.ok (), [], [])
  | upload :: rest =>
      if ¬ upload.valid then
        let later := takeAll rest
        (later.1, later.2.1, upload :: later.2.2)
      else
        match upload.answer with
        | .error failure => (.error failure, [], upload.taken :: rest)
        | .ok value =>
            let later := takeAll rest
            (later.1, (upload.label, value) :: later.2.1, upload.taken :: later.2.2)

namespace Uploads

/-- No uploads. -/
def start : Uploads ι τ where
  now := 0
  completed := []
  pending := []

/-- The clock at the next look. -/
def look (uploads : Uploads ι τ) : Uploads ι τ :=
  { uploads with now := uploads.now + 1 }

/-- `get_active_upload_count`. -/
def activeUploadCount (uploads : Uploads ι τ) : Nat :=
  uploads.pending.countP fun upload => upload.valid && uploads.now < upload.finishes

def collectCompletedUploads (uploads : Uploads ι τ) : Result Unit × Uploads ι τ :=
  let found := collect uploads.now uploads.pending
  (found.1, { uploads with
    completed := uploads.completed ++ found.2.1
    pending := found.2.2 })

/-- `wait_all_uploads`: a call of `get` blocks until the future is ready. -/
def waitAllUploads (uploads : Uploads ι τ) : Result Unit × Uploads ι τ :=
  let found := takeAll uploads.pending
  (found.1, { uploads with
    completed := uploads.completed ++ found.2.1
    pending := match found.1 with
      | .ok () => []
      | .error _ => found.2.2 })

/-- One pass of the loop of `wait_for_slot`. -/
def waitPass (maxConcurrent : Nat) : Body (Uploads ι τ) (Result Unit × Uploads ι τ) :=
  fun uploads =>
    if uploads.look.activeUploadCount < maxConcurrent then .inl (.ok (), uploads.look)
    else
      match uploads.look.look.collectCompletedUploads with
      | (.error failure, uploads) => .inl (.error failure, uploads)
      | (.ok (), uploads) => .inr uploads

/-- `wait_for_slot`, if it returns within so many passes. -/
def waitForSlot (maxConcurrent passes : Nat) (uploads : Uploads ι τ) :
    Option (Result Unit × Uploads ι τ) :=
  loop (waitPass maxConcurrent) passes uploads

/-- What `write` does with a full buffer before it begins the next part: wait for a slot, and
collect. -/
def makeRoom (maxConcurrent passes : Nat) (uploads : Uploads ι τ) :
    Option (Result Unit × Uploads ι τ) :=
  match uploads.waitForSlot maxConcurrent passes with
  | none => none
  | some (.error failure, uploads) => some (.error failure, uploads)
  | some (.ok (), uploads) => some uploads.look.collectCompletedUploads

/-- An upload on a thread of its own. -/
def add (uploads : Uploads ι τ) (label : ι) (answer : Result τ) (finishes : Nat) :
    Uploads ι τ :=
  { uploads with pending := uploads.pending ++ [⟨label, answer, finishes, true⟩] }

end Uploads

/-! ## Nothing is lost but a failure that was delivered -/

/-- The labels and answers of the futures that have not been taken. -/
def outstanding (pending : List (PendingUpload ι τ)) : List (ι × Result τ) :=
  (pending.filter PendingUpload.valid).map fun upload => (upload.label, upload.answer)

/-- Answers that were taken and are good. -/
def good (completed : List (ι × τ)) : List (ι × Result τ) :=
  completed.map fun entry => (entry.1, .ok entry.2)

@[simp]
theorem outstanding_nil : outstanding ([] : List (PendingUpload ι τ)) = [] :=
  rfl

theorem outstanding_cons_of_valid {upload : PendingUpload ι τ} (valid : upload.valid = true)
    (rest : List (PendingUpload ι τ)) :
    outstanding (upload :: rest) = (upload.label, upload.answer) :: outstanding rest := by
  rw [outstanding, List.filter_cons, if_pos valid]
  rfl

theorem outstanding_cons_of_not_valid {upload : PendingUpload ι τ} (valid : ¬ upload.valid = true)
    (rest : List (PendingUpload ι τ)) : outstanding (upload :: rest) = outstanding rest := by
  rw [outstanding, List.filter_cons, if_neg valid]
  rfl

theorem outstanding_append (first second : List (PendingUpload ι τ)) :
    outstanding (first ++ second) = outstanding first ++ outstanding second := by
  simp [outstanding]

@[simp]
theorem good_nil : good ([] : List (ι × τ)) = [] :=
  rfl

@[simp]
theorem good_cons (entry : ι × τ) (rest : List (ι × τ)) :
    good (entry :: rest) = (entry.1, .ok entry.2) :: good rest :=
  rfl

theorem good_append (first second : List (ι × τ)) :
    good (first ++ second) = good first ++ good second :=
  List.map_append

/-- No answer has been taken from an entry that is still in the list. -/
def Untaken (pending : List (PendingUpload ι τ)) : Prop :=
  ∀ upload ∈ pending, upload.valid = true

instance (pending : List (PendingUpload ι τ)) : Decidable (Untaken pending) :=
  inferInstanceAs (Decidable (∀ upload ∈ pending, _))

variable {pending : List (PendingUpload ι τ)}

theorem collect_ok {now : Nat} (outcome : (collect now pending).1 = .ok ()) :
    (outstanding pending).Perm
        (good (collect now pending).2.1 ++ outstanding (collect now pending).2.2) ∧
      Untaken (collect now pending).2.2 := by
  induction pending with
  | nil => simp [collect, Untaken]
  | cons upload rest ih =>
      rw [collect] at outcome ⊢
      split at outcome
      · rename_i invalid
        rw [if_pos invalid, outstanding_cons_of_not_valid invalid]
        exact ih outcome
      · rename_i valid
        rw [if_neg valid]
        rw [not_not] at valid
        rw [outstanding_cons_of_valid valid]
        split at outcome
        · rename_i finished
          rw [if_pos finished]
          split at outcome
          · contradiction
          · rename_i value answered
            rcases ih outcome with ⟨same, untaken⟩
            rw [answered]
            exact ⟨same.cons _, untaken⟩
        · rename_i running
          rw [if_neg running]
          rcases ih outcome with ⟨same, untaken⟩
          constructor
          · rw [outstanding_cons_of_valid valid]
            exact (same.cons _).trans List.perm_middle.symm
          · intro other mem
            rcases List.mem_cons.mp mem with rfl | mem
            · exact valid
            · exact untaken other mem

theorem collect_error {now : Nat} {failure : Error}
    (outcome : (collect now pending).1 = .error failure) :
    (∃ label, (outstanding pending).Perm
        (good (collect now pending).2.1 ++
          (label, .error failure) :: outstanding (collect now pending).2.2)) ∧
      ¬ Untaken (collect now pending).2.2 := by
  induction pending with
  | nil => contradiction
  | cons upload rest ih =>
      rw [collect] at outcome ⊢
      split at outcome
      · rename_i invalid
        rw [if_pos invalid, outstanding_cons_of_not_valid invalid]
        exact ih outcome
      · rename_i valid
        rw [if_neg valid]
        rw [not_not] at valid
        rw [outstanding_cons_of_valid valid]
        split at outcome
        · rename_i finished
          rw [if_pos finished]
          split at outcome
          · rename_i found answered
            cases outcome
            rw [answered]
            constructor
            · refine ⟨upload.label, ?_⟩
              have gone : ¬ upload.taken.valid = true := by simp [PendingUpload.taken]
              rw [outstanding_cons_of_not_valid gone]
              exact List.Perm.refl _
            · intro untaken
              simpa [PendingUpload.taken] using untaken upload.taken List.mem_cons_self
          · rename_i value answered
            rcases ih outcome with ⟨⟨label, same⟩, taken⟩
            rw [answered]
            exact ⟨⟨label, same.cons _⟩, taken⟩
        · rename_i running
          rw [if_neg running]
          rcases ih outcome with ⟨⟨label, same⟩, taken⟩
          constructor
          · refine ⟨label, ?_⟩
            rw [outstanding_cons_of_valid valid]
            apply (same.cons _).trans
            apply List.perm_middle.symm.trans
            exact (List.Perm.swap _ _ _).append_left _
          · intro untaken
            apply taken
            intro other mem
            exact untaken other (List.mem_cons_of_mem _ mem)

theorem takeAll_ok (outcome : (takeAll pending).1 = .ok ()) :
    outstanding pending = good (takeAll pending).2.1 := by
  induction pending with
  | nil => rfl
  | cons upload rest ih =>
      rw [takeAll] at outcome ⊢
      split at outcome
      · rename_i invalid
        rw [if_pos invalid, outstanding_cons_of_not_valid invalid]
        exact ih outcome
      · rename_i valid
        rw [if_neg valid]
        rw [not_not] at valid
        rw [outstanding_cons_of_valid valid]
        split at outcome
        · contradiction
        · rename_i value answered
          rw [answered]
          exact congrArg _ (ih outcome)

theorem takeAll_error {failure : Error} (outcome : (takeAll pending).1 = .error failure) :
    (∃ label, (label, .error failure) ∈ outstanding pending) ∧
      ¬ Untaken (takeAll pending).2.2 := by
  induction pending with
  | nil => contradiction
  | cons upload rest ih =>
      rw [takeAll] at outcome ⊢
      split at outcome
      · rename_i invalid
        rw [if_pos invalid, outstanding_cons_of_not_valid invalid]
        rcases ih outcome with ⟨found, taken⟩
        refine ⟨found, fun untaken => taken ?_⟩
        intro other mem
        exact untaken other (List.mem_cons_of_mem _ mem)
      · rename_i valid
        rw [if_neg valid]
        rw [not_not] at valid
        rw [outstanding_cons_of_valid valid]
        split at outcome
        · rename_i found answered
          cases outcome
          rw [answered]
          refine ⟨⟨upload.label, List.mem_cons_self⟩, fun untaken => ?_⟩
          simpa [PendingUpload.taken] using untaken upload.taken List.mem_cons_self
        · rename_i value answered
          rw [answered]
          rcases ih outcome with ⟨⟨label, mem⟩, taken⟩
          refine ⟨⟨label, List.mem_cons_of_mem _ mem⟩, fun untaken => taken ?_⟩
          intro other mem
          exact untaken other (List.mem_cons_of_mem _ mem)

/-! ## The calls on the uploads of a stream -/

namespace Uploads

/-- Every upload begun has its good answer in the list, or its future is still to be taken. -/
def Accounts (begun : List (ι × Result τ)) (uploads : Uploads ι τ) : Prop :=
  begun.Perm (good uploads.completed ++ outstanding uploads.pending)

variable {begun : List (ι × Result τ)} {uploads after : Uploads ι τ} {failure : Error}
  {maxConcurrent passes : Nat}

theorem accounts_start : Accounts [] (start : Uploads ι τ) :=
  List.Perm.refl []

theorem Accounts.look (accounts : Accounts begun uploads) : Accounts begun uploads.look :=
  accounts

theorem Accounts.add (accounts : Accounts begun uploads) (label : ι) (answer : Result τ)
    (finishes : Nat) :
    Accounts (begun ++ [(label, answer)]) (uploads.add label answer finishes) := by
  rw [Accounts, Uploads.add, outstanding_append, ← List.append_assoc]
  exact List.Perm.append_right _ accounts

theorem Accounts.complete (accounts : Accounts begun uploads) (label : ι) (value : τ) :
    Accounts (begun ++ [(label, .ok value)])
      { uploads with completed := uploads.completed ++ [(label, value)] } := by
  rw [Accounts, good_append, List.append_assoc]
  apply (List.Perm.append_right _ accounts).trans
  rw [List.append_assoc]
  exact List.perm_append_comm.append_left _

theorem untaken_add (untaken : Untaken uploads.pending) (label : ι) (answer : Result τ)
    (finishes : Nat) : Untaken (uploads.add label answer finishes).pending := by
  intro upload mem
  rcases List.mem_append.mp mem with mem | mem
  · exact untaken upload mem
  · rw [List.mem_singleton.mp mem]

theorem collectCompletedUploads_ok (accounts : Accounts begun uploads)
    (outcome : uploads.collectCompletedUploads = (.ok (), after)) :
    Accounts begun after ∧ Untaken after.pending := by
  rcases Prod.mk.inj outcome with ⟨first, rfl⟩
  rcases collect_ok first with ⟨same, untaken⟩
  refine ⟨?_, untaken⟩
  rw [Accounts, good_append, List.append_assoc]
  exact accounts.trans (same.append_left _)

theorem collectCompletedUploads_error (accounts : Accounts begun uploads)
    (outcome : uploads.collectCompletedUploads = (.error failure, after)) :
    (∃ label, begun.Perm
      (good after.completed ++ (label, .error failure) :: outstanding after.pending)) ∧
      ¬ Untaken after.pending := by
  rcases Prod.mk.inj outcome with ⟨first, rfl⟩
  rcases collect_error first with ⟨⟨label, same⟩, taken⟩
  refine ⟨⟨label, ?_⟩, taken⟩
  rw [good_append, List.append_assoc]
  exact accounts.trans (same.append_left _)

theorem exists_error_of_perm {label : ι} {completed : List (ι × τ)}
    {pending : List (PendingUpload ι τ)}
    (same : begun.Perm (good completed ++ (label, .error failure) :: outstanding pending)) :
    ∃ label, (label, .error failure) ∈ begun := by
  refine ⟨label, same.mem_iff.mpr ?_⟩
  exact List.mem_append_right _ List.mem_cons_self

theorem waitPass_inl {result : Result Unit}
    (exits : waitPass maxConcurrent uploads = .inl (result, after)) :
    (uploads.look.activeUploadCount < maxConcurrent ∧ result = .ok () ∧ after = uploads.look) ∨
      ∃ failure, result = .error failure ∧
        uploads.look.look.collectCompletedUploads = (.error failure, after) := by
  rw [waitPass] at exits
  split at exits
  · rename_i slot
    cases exits
    exact .inl ⟨slot, rfl, rfl⟩
  · split at exits
    · rename_i collected
      cases exits
      exact .inr ⟨_, rfl, collected⟩
    · contradiction

theorem waitPass_inr (goes : waitPass maxConcurrent uploads = .inr after) :
    uploads.look.look.collectCompletedUploads = (.ok (), after) := by
  rw [waitPass] at goes
  split at goes
  · contradiction
  · split at goes
    · contradiction
    · rename_i collected
      cases goes
      exact collected

theorem exists_exit_waitForSlot {result : Result Unit} (invariant : Uploads ι τ → Prop)
    (keeps : ∀ uploads after, invariant uploads →
      uploads.look.look.collectCompletedUploads = (.ok (), after) → invariant after)
    (initial : invariant uploads)
    (outcome : uploads.waitForSlot maxConcurrent passes = some (result, after)) :
    ∃ last, invariant last ∧
      ((last.look.activeUploadCount < maxConcurrent ∧ result = .ok () ∧ after = last.look) ∨
        ∃ failure, result = .error failure ∧
          last.look.look.collectCompletedUploads = (.error failure, after)) := by
  obtain ⟨last, kept, exits⟩ := exists_exit_of_invariant invariant
    (fun _ _ holds goes => keeps _ _ holds (waitPass_inr goes)) initial outcome
  exact ⟨last, kept, waitPass_inl exits⟩

theorem waitForSlot_ok (accounts : Accounts begun uploads) (untaken : Untaken uploads.pending)
    (outcome : uploads.waitForSlot maxConcurrent passes = some (.ok (), after)) :
    Accounts begun after ∧ Untaken after.pending := by
  obtain ⟨last, ⟨kept, whole⟩, ⟨-, -, rfl⟩ | ⟨failure, fails, -⟩⟩ := exists_exit_waitForSlot
    (fun waiting => Accounts begun waiting ∧ Untaken waiting.pending)
    (fun _ _ holds collected => collectCompletedUploads_ok holds.1.look.look collected)
    ⟨accounts, untaken⟩ outcome
  · exact ⟨kept.look, whole⟩
  · contradiction

theorem waitForSlot_error (accounts : Accounts begun uploads)
    (outcome : uploads.waitForSlot maxConcurrent passes = some (.error failure, after)) :
    (∃ label, begun.Perm
      (good after.completed ++ (label, .error failure) :: outstanding after.pending)) ∧
      ¬ Untaken after.pending := by
  obtain ⟨last, kept, ⟨-, ends, -⟩ | ⟨other, same, collected⟩⟩ := exists_exit_waitForSlot
    (Accounts begun)
    (fun _ _ holds collected => (collectCompletedUploads_ok holds.look.look collected).1)
    accounts outcome
  · contradiction
  · cases same
    exact collectCompletedUploads_error kept.look.look collected

theorem makeRoom_ok (accounts : Accounts begun uploads) (untaken : Untaken uploads.pending)
    (outcome : uploads.makeRoom maxConcurrent passes = some (.ok (), after)) :
    Accounts begun after ∧ Untaken after.pending := by
  rw [makeRoom] at outcome
  split at outcome
  · contradiction
  · simp at outcome
  · rename_i waited slot
    have kept := (waitForSlot_ok accounts untaken slot).1
    exact collectCompletedUploads_ok kept.look (Option.some.inj outcome)

theorem makeRoom_error (accounts : Accounts begun uploads) (untaken : Untaken uploads.pending)
    (outcome : uploads.makeRoom maxConcurrent passes = some (.error failure, after)) :
    (∃ label, begun.Perm
      (good after.completed ++ (label, .error failure) :: outstanding after.pending)) ∧
      ¬ Untaken after.pending := by
  rw [makeRoom] at outcome
  split at outcome
  · contradiction
  · rename_i failed
    cases outcome
    exact waitForSlot_error accounts failed
  · rename_i waited slot
    have kept := (waitForSlot_ok accounts untaken slot).1
    exact collectCompletedUploads_error kept.look (Option.some.inj outcome)

theorem waitAllUploads_ok (accounts : Accounts begun uploads)
    (outcome : uploads.waitAllUploads = (.ok (), after)) :
    begun.Perm (good after.completed) ∧ after.pending = [] := by
  rcases Prod.mk.inj outcome with ⟨first, rfl⟩
  constructor
  · rw [good_append, ← takeAll_ok first]
    exact accounts
  · simp only
    rw [first]

theorem waitAllUploads_error (accounts : Accounts begun uploads)
    (outcome : uploads.waitAllUploads = (.error failure, after)) :
    (∃ label, (label, .error failure) ∈ begun) ∧ ¬ Untaken after.pending := by
  rcases Prod.mk.inj outcome with ⟨first, rfl⟩
  rcases takeAll_error first with ⟨⟨label, mem⟩, taken⟩
  constructor
  · exact ⟨label, accounts.mem_iff.mpr (List.mem_append_right _ mem)⟩
  · simp only
    rw [first]
    exact taken

/-! ## Waiting ends -/

theorem activeUploadCount_eq_zero
    (finished : ∀ upload ∈ uploads.pending, upload.finishes ≤ uploads.now) :
    uploads.activeUploadCount = 0 := by
  rw [activeUploadCount, List.countP_eq_zero]
  intro upload mem
  have le := finished upload mem
  simp [Nat.not_lt.mpr le]

variable {upload : PendingUpload ι τ}

theorem mem_collect {now : Nat} {pending : List (PendingUpload ι τ)}
    (outcome : (collect now pending).1 = .ok ()) (mem : upload ∈ (collect now pending).2.2) :
    upload ∈ pending := by
  induction pending with
  | nil => contradiction
  | cons first rest ih =>
      rw [collect] at outcome mem
      split at outcome
      · rename_i invalid
        rw [if_pos invalid] at mem
        exact List.mem_cons_of_mem _ (ih outcome mem)
      · rename_i valid
        rw [if_neg valid] at mem
        split at outcome
        · rename_i finished
          rw [if_pos finished] at mem
          split at outcome
          · contradiction
          · rename_i value answered
            rw [answered] at mem
            exact List.mem_cons_of_mem _ (ih outcome mem)
        · rename_i running
          rw [if_neg running] at mem
          rcases List.mem_cons.mp mem with rfl | mem
          · exact List.mem_cons_self
          · exact List.mem_cons_of_mem _ (ih outcome mem)

theorem mem_collectCompletedUploads (outcome : uploads.collectCompletedUploads = (.ok (), after))
    (mem : upload ∈ after.pending) : upload ∈ uploads.pending := by
  rcases Prod.mk.inj outcome with ⟨first, rfl⟩
  exact mem_collect first mem

theorem mem_waitForSlot
    (outcome : uploads.waitForSlot maxConcurrent passes = some (.ok (), after))
    (mem : upload ∈ after.pending) : upload ∈ uploads.pending := by
  have keeps (waiting next : Uploads ι τ)
      (among : ∀ entry ∈ waiting.pending, entry ∈ uploads.pending)
      (collected : waiting.look.look.collectCompletedUploads = (.ok (), next)) :
      ∀ entry ∈ next.pending, entry ∈ uploads.pending := by
    intro entry later
    have kept : entry ∈ waiting.look.look.pending := mem_collectCompletedUploads collected later
    exact among entry kept
  obtain ⟨last, among, ⟨-, -, rfl⟩ | ⟨failure, fails, -⟩⟩ :=
    exists_exit_waitForSlot _ keeps (fun _ => id) outcome
  · exact among upload mem
  · contradiction

theorem waitForSlot_zero_ne_ok : uploads.waitForSlot 0 passes ≠ some (.ok (), after) := by
  intro outcome
  obtain ⟨last, -, ⟨slot, -, -⟩ | ⟨failure, fails, -⟩⟩ := exists_exit_waitForSlot
    (fun _ => True) (fun _ _ _ _ => trivial) trivial outcome
  · exact absurd slot (Nat.not_lt_zero _)
  · contradiction

theorem waitForSlot_isSome (positive : 0 < maxConcurrent)
    (finished : ∀ upload ∈ uploads.pending, upload.finishes ≤ uploads.now + passes) :
    (uploads.waitForSlot maxConcurrent (passes + 1)).isSome := by
  rw [waitForSlot]
  induction passes generalizing uploads with
  | zero =>
      have none_active : uploads.look.activeUploadCount = 0 := by
        apply activeUploadCount_eq_zero
        intro upload mem
        exact (finished upload mem).trans (Nat.le_succ _)
      rw [loop, waitPass, if_pos (by rw [none_active]; exact positive)]
      rfl
  | succ passes ih =>
      cases pass : waitPass maxConcurrent uploads with
      | inl value =>
          rw [loop_of_exit pass]
          rfl
      | inr next =>
          have collected := waitPass_inr pass
          rw [loop_of_next pass]
          apply ih
          intro upload mem
          have kept : upload ∈ uploads.look.look.pending :=
            mem_collectCompletedUploads collected mem
          have le := finished upload kept
          rcases Prod.mk.inj collected with ⟨-, rfl⟩
          simp only [look]
          omega

theorem mem_makeRoom (outcome : uploads.makeRoom maxConcurrent passes = some (.ok (), after))
    (mem : upload ∈ after.pending) : upload ∈ uploads.pending := by
  rw [makeRoom] at outcome
  split at outcome
  · contradiction
  · simp at outcome
  · rename_i waited slot
    have kept : upload ∈ waited.look.pending :=
      mem_collectCompletedUploads (Option.some.inj outcome) mem
    exact mem_waitForSlot slot kept

theorem makeRoom_zero_ne_ok : uploads.makeRoom 0 passes ≠ some (.ok (), after) := by
  intro outcome
  rw [makeRoom] at outcome
  split at outcome
  · contradiction
  · simp at outcome
  · rename_i waited slot
    exact absurd slot waitForSlot_zero_ne_ok

theorem makeRoom_returns (accounts : Accounts begun uploads) (untaken : Untaken uploads.pending)
    (positive : 0 < maxConcurrent)
    (finished : ∀ upload ∈ uploads.pending, upload.finishes ≤ uploads.now + passes)
    (succeeded : ¬ ∃ label failure, (label, .error failure) ∈ begun) :
    ∃ after, uploads.makeRoom maxConcurrent (passes + 1) = some (.ok (), after) := by
  have waits := Option.isSome_iff_exists.mp (waitForSlot_isSome positive finished)
  have returns : ∃ returned, uploads.makeRoom maxConcurrent (passes + 1) = some returned := by
    rcases waits with ⟨⟨outcome, waited⟩, slot⟩
    rw [makeRoom, slot]
    cases outcome with
    | error failure => exact ⟨_, rfl⟩
    | ok value => exact ⟨_, rfl⟩
  rcases returns with ⟨⟨outcome, after⟩, returned⟩
  cases outcome with
  | error failure =>
      rcases makeRoom_error accounts untaken returned with ⟨⟨label, same⟩, -⟩
      rcases exists_error_of_perm same with ⟨label, mem⟩
      exact absurd ⟨label, failure, mem⟩ succeeded
  | ok value => exact ⟨after, returned⟩

end Uploads

end FileTrans.Cloud
