import FileTrans.Server.QuotaLedger

/-!
# Uploads that check the quota before they record

An uploader calls `check_quota`, goes on when it succeeds, and calls
`record_bytes_added` when its upload is done.  The two calls are separate
critical sections, and nothing reserves the bytes of an admitted upload until
they are recorded.
-/

namespace FileTrans.Server

open FileTrans.Core
open FileTrans.Transition

/-- A call of one uploader. -/
inductive AdmissionInput
  | check (uploader : Nat)
  | record (uploader : Nat)
  deriving DecidableEq

/-- The manager, the uploaders that were answered, and those that were admitted and have not
yet recorded their bytes. -/
structure Admission where
  manager : QuotaManager
  checked : List Nat
  admitted : List Nat

namespace Admission

/-- Before the first call. -/
def start (manager : QuotaManager) : Admission :=
  ⟨manager, [], []⟩

variable (size : Nat → UInt64)

/-- An uploader checks once, and records once if it was admitted. -/
def step : Step Admission AdmissionInput (Option (Result Unit)) := fun state input =>
  match input with
  | .check uploader =>
      if uploader ∈ state.checked then (none, state)
      else
        match state.manager.checkQuota (size uploader) with
        | .ok () => (some (.ok ()), { state with
            checked := uploader :: state.checked
            admitted := uploader :: state.admitted })
        | .error failure => (some (.error failure), { state with
            checked := uploader :: state.checked })
  | .record uploader =>
      if uploader ∈ state.admitted then
        (none, { state with
          manager := state.manager.recordBytesAdded (size uploader)
          admitted := state.admitted.erase uploader })
      else (none, state)

/-- The bytes of the admitted uploads that are not recorded yet. -/
def outstanding (state : Admission) : Nat :=
  (state.admitted.map fun uploader => (size uploader).toNat).sum

/-- The recorded bytes and the outstanding ones. -/
def committed (state : Admission) : Nat :=
  state.manager.currentUsage.usedBytes.toNat + state.outstanding size

/-- A check that admits an uploader leaves room for the outstanding bytes of the others. -/
def LeavesRoom (state : Admission) : AdmissionInput → Prop
  | .check uploader =>
      uploader ∉ state.checked → state.manager.checkQuota (size uploader) = .ok () →
        state.committed size + (size uploader).toNat ≤ state.manager.totalQuota.toNat
  | .record _ => True

/-- The recorded bytes do not exceed the quota. -/
def WithinQuota (state : Admission) : Prop :=
  state.manager.currentUsage.usedBytes.toNat ≤ state.manager.totalQuota.toNat

instance (state : Admission) : Decidable state.WithinQuota :=
  inferInstanceAs (Decidable (_ ≤ _))

/-- The bytes that an input can commit. -/
def demand : AdmissionInput → Nat
  | .check uploader => (size uploader).toNat
  | .record _ => 0

/-! ## One call -/

section

variable {state : Admission}

theorem outstanding_cons (uploader : Nat) (checked admitted : List Nat) (manager : QuotaManager) :
    outstanding size ⟨manager, checked, uploader :: admitted⟩ =
      (size uploader).toNat + outstanding size ⟨manager, checked, admitted⟩ := by
  rw [outstanding, List.map_cons, List.sum_cons]
  rfl

theorem step_cases (state : Admission) (input : AdmissionInput) :
    ((step size state input).2 = state ∧ LeavesRoom size state input) ∨
    (∃ uploader, input = .check uploader ∧ uploader ∉ state.checked ∧
      state.manager.checkQuota (size uploader) = .ok () ∧
      (step size state input).2 =
        ⟨state.manager, uploader :: state.checked, uploader :: state.admitted⟩) ∨
    (∃ uploader, (step size state input).2 =
        ⟨state.manager, uploader :: state.checked, state.admitted⟩ ∧
      LeavesRoom size state input) ∨
    ∃ uploader, uploader ∈ state.admitted ∧ LeavesRoom size state input ∧
      (step size state input).2 =
        ⟨state.manager.recordBytesAdded (size uploader), state.checked,
          state.admitted.erase uploader⟩ := by
  cases input with
  | check uploader =>
      by_cases again : uploader ∈ state.checked
      · left
        exact ⟨by simp only [step, if_pos again], fun first => absurd again first⟩
      · right
        cases answer : state.manager.checkQuota (size uploader) with
        | ok _ =>
            left
            exact ⟨uploader, rfl, again, answer, by simp only [step, if_neg again, answer]⟩
        | error failure =>
            right
            left
            refine ⟨uploader, by simp only [step, if_neg again, answer], ?_⟩
            intro _ admitted
            rw [answer] at admitted
            contradiction
  | record uploader =>
      by_cases admitted : uploader ∈ state.admitted
      · right
        right
        right
        exact ⟨uploader, admitted, trivial, by simp only [step, if_pos admitted]⟩
      · left
        exact ⟨by simp only [step, if_neg admitted], trivial⟩

theorem outstanding_erase {uploader : Nat} (admitted : uploader ∈ state.admitted)
    (manager : QuotaManager) :
    (size uploader).toNat +
      outstanding size ⟨manager, state.checked, state.admitted.erase uploader⟩ =
        state.outstanding size := by
  have parts := (List.perm_cons_erase admitted).map fun other => (size other).toNat
  exact parts.sum_nat.symm

theorem committed_record {uploader : Nat} (admitted : uploader ∈ state.admitted)
    (fits : state.committed size < 2 ^ 64) :
    committed size ⟨state.manager.recordBytesAdded (size uploader), state.checked,
      state.admitted.erase uploader⟩ = state.committed size := by
  have moved := outstanding_erase size admitted
    (state.manager.recordBytesAdded (size uploader))
  unfold committed at fits ⊢
  dsimp only at fits ⊢
  rw [QuotaLedger.usedBytes_recordBytesAdded, UInt64.toNat_add, Nat.mod_eq_of_lt (by omega)]
  omega

/-- The outstanding and recorded bytes fit into the quota. -/
def Reserved (state : Admission) : Prop :=
  state.committed size ≤ state.manager.totalQuota.toNat

variable {size}

theorem Reserved.fits (reserved : state.Reserved size) : state.committed size < 2 ^ 64 :=
  Nat.lt_of_le_of_lt reserved state.manager.totalQuota.toNat_lt

theorem Reserved.withinQuota (reserved : state.Reserved size) : state.WithinQuota :=
  Nat.le_trans (Nat.le_add_right _ _) reserved

variable (size) in
theorem committed_admit (state : Admission) (uploader : Nat) :
    committed size ⟨state.manager, uploader :: state.checked, uploader :: state.admitted⟩ =
      state.committed size + (size uploader).toNat := by
  unfold committed
  rw [outstanding_cons, Nat.add_comm (size uploader).toNat, ← Nat.add_assoc]
  rfl

theorem Reserved.step (reserved : state.Reserved size) (input : AdmissionInput)
    (room : LeavesRoom size state input) : (Admission.step size state input).2.Reserved size := by
  rcases step_cases size state input with
    ⟨same, -⟩ | ⟨uploader, rfl, first, answer, admitted⟩ | ⟨uploader, refused, -⟩ |
      ⟨uploader, admitted, -, recorded⟩
  · rwa [same]
  · rw [admitted, Reserved, committed_admit]
    exact room first answer
  · rw [refused]
    exact reserved
  · rw [recorded, Reserved, committed_record size admitted reserved.fits,
      (QuotaLedger.sameQuota_recordBytesAdded _ _).totalQuota]
    exact reserved

variable (size state) in
theorem committed_step_le (input : AdmissionInput)
    (fits : state.committed size + demand size input < 2 ^ 64) :
    state.committed size ≤ (Admission.step size state input).2.committed size ∧
      (Admission.step size state input).2.committed size ≤
        state.committed size + demand size input := by
  rcases step_cases size state input with
    ⟨same, -⟩ | ⟨uploader, rfl, first, answer, admitted⟩ | ⟨uploader, refused, -⟩ |
      ⟨uploader, admitted, -, recorded⟩
  · rw [same]
    exact ⟨Nat.le_refl _, Nat.le_add_right _ _⟩
  · rw [admitted, committed_admit]
    exact ⟨Nat.le_add_right _ _, Nat.le_refl _⟩
  · rw [refused]
    exact ⟨Nat.le_refl _, Nat.le_add_right _ _⟩
  · rw [recorded, committed_record size admitted (by omega)]
    exact ⟨Nat.le_refl _, Nat.le_add_right _ _⟩

theorem totalQuota_step (input : AdmissionInput) :
    (Admission.step size state input).2.manager.totalQuota = state.manager.totalQuota := by
  rcases step_cases size state input with
    ⟨same, -⟩ | ⟨uploader, -, -, -, admitted⟩ | ⟨uploader, refused, -⟩ |
      ⟨uploader, -, -, recorded⟩
  · rw [same]
  · rw [admitted]
  · rw [refused]
  · rw [recorded, (QuotaLedger.sameQuota_recordBytesAdded _ _).totalQuota]

end

/-! ## Runs -/

section

variable {size : Nat → UInt64}

/-- Where nothing wraps around and the bytes committed at the end fit into the quota, every
check left room. -/
theorem guarded_of_reserved {state : Admission} {inputs : List AdmissionInput}
    (addressable : state.committed size + (inputs.map (demand size)).sum < 2 ^ 64)
    (reserved : (final (step size) state inputs).Reserved size) :
    Guarded (step size) (LeavesRoom size) state inputs ∧ state.Reserved size := by
  induction inputs generalizing state with
  | nil => exact ⟨trivial, reserved⟩
  | cons input rest ih =>
      rw [List.map_cons, List.sum_cons] at addressable
      obtain ⟨grows, bounded⟩ := committed_step_le size state input (by omega)
      obtain ⟨guarded, later⟩ := ih (by omega) reserved
      rw [Reserved, totalQuota_step] at later
      refine ⟨⟨?_, guarded⟩, Nat.le_trans grows later⟩
      cases input with
      | record uploader => trivial
      | check uploader =>
          intro first answer
          have admitted : (step size state (.check uploader)).2 =
              ⟨state.manager, uploader :: state.checked, uploader :: state.admitted⟩ := by
            simp only [step, if_neg first, answer]
          rwa [admitted, committed_admit] at later

/-- The recorded bytes never exceed a quota that they did not exceed at the start, if every
check that admits an uploader leaves room for the outstanding bytes of the others; and in a
complete run in which nothing wraps around they exceed it otherwise. -/
theorem quota_kept (size : Nat → UInt64) (manager : QuotaManager)
    (within : (start manager).WithinQuota) (inputs : List AdmissionInput) :
    (Guarded (step size) (LeavesRoom size) (start manager) inputs →
      ∀ first rest, inputs = first ++ rest →
        (final (step size) (start manager) first).WithinQuota) ∧
    ((final (step size) (start manager) inputs).admitted = [] →
      manager.currentUsage.usedBytes.toNat + (inputs.map (demand size)).sum < 2 ^ 64 →
      (∀ first rest, inputs = first ++ rest →
        (final (step size) (start manager) first).WithinQuota) →
      Guarded (step size) (LeavesRoom size) (start manager) inputs) := by
  have initial : (start manager).Reserved size := within
  constructor
  · rintro guarded first rest rfl
    exact (guarded.firstPart.invariant (Reserved size)
      (fun _ input reserved room => reserved.step input room) initial).withinQuota
  · intro complete addressable kept
    have reserved : (final (step size) (start manager) inputs).Reserved size := by
      have settled := kept inputs [] (List.append_nil _).symm
      rw [Reserved, committed, outstanding, complete]
      exact settled
    have budget : (start manager).committed size + (inputs.map (demand size)).sum < 2 ^ 64 :=
      addressable
    exact (guarded_of_reserved budget reserved).1

/-- Two uploaders of 40 bytes are admitted before either records, and stay within a quota of
100. -/
theorem quota_kept_by_two_uploaders :
    (final (step fun _ => 40) (start (.create 100 ⟨some [], none⟩))
      [.check 0, .check 1, .record 1, .record 0]).WithinQuota := by
  have guarded : Guarded (step fun _ => 40) (LeavesRoom fun _ => 40)
      (start (.create 100 ⟨some [], none⟩)) [.check 0, .check 1, .record 1, .record 0] :=
    ⟨fun _ _ => by decide, fun _ _ => by decide, trivial, trivial, trivial⟩
  exact (quota_kept (fun _ => 40) (.create 100 ⟨some [], none⟩) (by decide)
    [.check 0, .check 1, .record 1, .record 0]).1 guarded
      [.check 0, .check 1, .record 1, .record 0] [] rfl

/-- Two uploaders of 60 bytes are both admitted to a quota of 100 before either records. -/
theorem quota_exceeded_by_two_uploaders :
    outputs (step fun _ => 60) (start (.create 100 ⟨some [], none⟩))
      [.check 0, .check 1, .record 0, .record 1] =
        [some (.ok ()), some (.ok ()), none, none] ∧
    (final (step fun _ => 60) (start (.create 100 ⟨some [], none⟩))
      [.check 0, .check 1, .record 0, .record 1]).manager.currentUsage.usedBytes = 120 ∧
    ¬ (final (step fun _ => 60) (start (.create 100 ⟨some [], none⟩))
      [.check 0, .check 1, .record 0, .record 1]).WithinQuota := by
  decide

end

end Admission

end FileTrans.Server
