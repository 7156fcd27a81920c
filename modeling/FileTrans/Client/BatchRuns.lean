import FileTrans.Client.Batch
import FileTrans.Transition.Run
import Mathlib.Data.List.GetD

/-!
# Waiting for a batch

Every call of `wait_for_batch` passes over the transfers of the batch and counts each of
them anew: it raises `completed_count` or `failed_count`, stores the result of the file, and
lowers `in_progress_count`.  Calls run next to each other, and the two updates of a counted
transfer are separate steps.

A run keeps, next to the batch, which transfers were counted, with what outcome, and for
which ones `in_progress_count` was lowered.  `Sound` is what the counters should say;
`sound_iff` says in which states they do.
-/

namespace FileTrans.Client

open Core Transition

/-- `transfer_result_info`, without the time it took. -/
structure TransferResultInfo where
  success : Bool
  bytesTransferred : UInt64
  errorMessage : Option Bytes
  deriving DecidableEq

/-- Where a call of `wait_for_batch` is: before the next of its pending transfers, between
the two updates for one, or at its end. -/
inductive WaitCall
  | scanning (timed : Bool) (pending : List Nat)
  | counted (timed : Bool) (index : Nat) (pending : List Nat)
  | ended
  deriving DecidableEq

/-- The transfer that the call has counted, but not yet taken out of the ones in progress. -/
def WaitCall.between : WaitCall → Option Nat
  | counted _ index _ => some index
  | _ => none

namespace BatchContext

/-- The indices at which the loop of `wait_for_batch` does not continue at once. -/
def activeIndices (batch : BatchContext) : List Nat :=
  (List.range batch.transferIds.length).filter fun index => batch.transferIds.getD index 0 != 0

/-- The first update for a transfer: its outcome is counted and stored. -/
def countTransfer (batch : BatchContext) (index : Nat) (outcome : Result TransferResultInfo) :
    BatchContext :=
  let filename := batch.filenames.getD index []
  match outcome with
  | .ok info =>
      let fileResult := ⟨filename, info.success, info.bytesTransferred, info.errorMessage⟩
      if info.success then
        { batch with
          completedCount := batch.completedCount + 1
          fileResults := batch.fileResults.set index fileResult }
      else
        { batch with
          failedCount := batch.failedCount + 1
          fileResults := batch.fileResults.set index fileResult }
  | .error error =>
      { batch with
        failedCount := batch.failedCount + 1
        fileResults := batch.fileResults.set index ⟨filename, false, 0, some error.message⟩ }

/-- The second update for a transfer. -/
def dropInProgress (batch : BatchContext) : BatchContext :=
  { batch with inProgressCount := batch.inProgressCount - 1 }

end BatchContext

/-- Whether an outcome is counted as completed. -/
def isSuccess : Result TransferResultInfo → Bool
  | .ok info => info.success
  | .error _ => false

/-- A batch, the calls that wait for it, and what they have counted so far. -/
structure BatchRun where
  batch : BatchContext
  calls : List WaitCall
  counted : List (Nat × Bool)
  dropped : List Nat

/-- A step of some call of `wait_for_batch`, `calls` being numbered from zero. -/
inductive BatchEvent
  | waits (timed : Bool)
  | finishes (call : Nat) (outcome : Result TransferResultInfo)
  | drops (call : Nat)
  | timesOut (call : Nat)
  | returns (call : Nat)

namespace BatchRun

/-- A batch that nobody waits for yet. -/
def start (batch : BatchContext) : BatchRun :=
  ⟨batch, [], [], []⟩

/-- The indices of the counted transfers. -/
def countedIndices (run : BatchRun) : List Nat :=
  run.counted.map Prod.fst

/-- One step, and what the call returns if it ends. -/
def step : Step BatchRun BatchEvent (Option (Result BatchResult)) := fun run event =>
  match event with
  | .waits timed =>
      (none, { run with calls := run.calls ++ [.scanning timed run.batch.activeIndices] })
  | .finishes call outcome =>
      match run.calls[call]? with
      | some (.scanning timed (index :: pending)) =>
          (none, { run with
            batch := run.batch.countTransfer index outcome
            calls := run.calls.set call (.counted timed index pending)
            counted := run.counted ++ [(index, isSuccess outcome)] })
      | _ => (none, run)
  | .drops call =>
      match run.calls[call]? with
      | some (.counted timed index pending) =>
          (none, { run with
            batch := run.batch.dropInProgress
            calls := run.calls.set call (.scanning timed pending)
            dropped := run.dropped ++ [index] })
      | _ => (none, run)
  | .timesOut call =>
      match run.calls[call]? with
      | some (.scanning true (_ :: _)) =>
          (some (unexpected .transferTimeout "Batch wait timed out"),
            { run with calls := run.calls.set call .ended })
      | _ => (none, run)
  | .returns call =>
      match run.calls[call]? with
      | some (.scanning _ []) =>
          (some (.ok run.batch.getResult), { run with calls := run.calls.set call .ended })
      | _ => (none, run)

/-! ## What the counters should say -/

/-- How often a file is counted among the failed, the completed and the ones in progress. -/
def timesCounted (run : BatchRun) (index : Nat) : Nat :=
  (if run.batch.wasRefused index then 1 else 0) + run.countedIndices.count index +
    if run.batch.wasStarted index ∧ index ∉ run.dropped then 1 else 0

/-- Every file is counted at most once, no counter has wrapped, and together they do not
exceed the number of files, so that the pending ones are those that are left. -/
structure Sound (run : BatchRun) : Prop where
  once : ∀ index, run.timesCounted index ≤ 1
  completed_eq : run.batch.completedCount.toNat = run.counted.countP Prod.snd
  failed_eq : run.batch.failedCount.toNat =
    run.batch.attempts.countP Option.isNone + run.counted.countP fun entry => !entry.2
  inProgress_eq : run.batch.inProgressCount.toNat + run.dropped.length =
    run.batch.attempts.countP Option.isSome
  sum_le : run.batch.completedCount.toNat + run.batch.failedCount.toNat +
    run.batch.inProgressCount.toNat ≤ run.batch.transferIds.length
  pending_eq : run.batch.getProgress.pendingFiles.toNat + (run.batch.completedCount.toNat +
    run.batch.failedCount.toNat + run.batch.inProgressCount.toNat) =
      run.batch.transferIds.length

/-- No call is between the two updates for a transfer. -/
def Settled (run : BatchRun) : Prop :=
  ∀ call ∈ run.calls, call.between = none

end BatchRun

/-! ## The transfers of a started batch -/

theorem BatchContext.wasRefused_of_wasStarted {batch : BatchContext} {index : Nat}
    (given : batch.wasStarted index = true) : batch.wasRefused index = false := by
  rw [wasStarted, List.getD_eq_getElem?_getD] at given
  rw [wasRefused]
  cases known : batch.attempts[index]? with
  | none => rfl
  | some attempt =>
      rw [known] at given
      cases attempt with
      | none => cases given
      | some handle => rfl

namespace BatchContext.Started

variable {batch : BatchContext} {count : Nat}

theorem attempts_split (batch : BatchContext) :
    batch.attempts.countP Option.isSome + batch.attempts.countP Option.isNone =
      batch.attempts.length := by
  have split := List.length_eq_countP_add_countP (l := batch.attempts) Option.isSome
  rw [split]
  congr 1
  apply List.countP_congr
  intro attempt _
  cases attempt <;> simp

theorem length_transferIds (started : batch.Started count) :
    batch.transferIds.length = count + batch.attempts.countP Option.isNone := by
  have split := attempts_split batch
  have bounded := started.attempts_le
  rw [started.ids_eq, List.length_append, List.length_map, List.length_replicate]
  omega

theorem wasStarted_of_id (started : batch.Started count) {index : Nat}
    (active : batch.transferIds.getD index 0 ≠ 0) : batch.wasStarted index = true := by
  rw [wasStarted]
  rw [started.ids_eq] at active
  by_cases inside : index < batch.attempts.length
  · rw [List.getD_append _ _ _ _ (by rwa [List.length_map]),
      List.getD_eq_getElem _ _ (by rwa [List.length_map]), List.getElem_map] at active
    rw [List.getD_eq_getElem _ _ inside]
    cases known : batch.attempts[index] with
    | none =>
        rw [known] at active
        exact absurd rfl active
    | some handle => rfl
  · have outside : batch.attempts.length ≤ index := Nat.le_of_not_lt inside
    rw [List.getD_append_right _ _ _ _ (by rwa [List.length_map])] at active
    apply absurd _ active
    rw [List.getD_eq_getElem?_getD, List.getElem?_replicate]
    split <;> rfl

theorem mem_activeIndices_iff (index : Nat) :
    index ∈ batch.activeIndices ↔ batch.transferIds.getD index 0 ≠ 0 := by
  rw [activeIndices, List.mem_filter, List.mem_range, bne_iff_ne]
  constructor
  · exact And.right
  · intro active
    refine ⟨?_, active⟩
    apply Nat.lt_of_not_le
    intro outside
    exact active (List.getD_eq_default _ _ outside)

theorem nodup_activeIndices (batch : BatchContext) : batch.activeIndices.Nodup :=
  List.nodup_range.filter _

theorem startedIndices_length (batch : BatchContext) :
    ((List.range batch.attempts.length).filter fun index => batch.wasStarted index).length =
      batch.attempts.countP Option.isSome := by
  have attempts_eq : batch.attempts =
      (List.range batch.attempts.length).map fun index => batch.attempts.getD index none := by
    apply List.ext_getElem
    · rw [List.length_map, List.length_range]
    · intro index inside _
      rw [List.getElem_map, List.getElem_range, List.getD_eq_getElem _ _ inside]
  rw [← List.countP_eq_length_filter]
  conv => rhs; rw [attempts_eq]
  rw [List.countP_map]
  rfl

theorem wasStarted_lt {index : Nat} (given : batch.wasStarted index = true) :
    index < batch.attempts.length := by
  apply Nat.lt_of_not_le
  intro outside
  rw [wasStarted, List.getD_eq_default _ _ outside] at given
  cases given

theorem length_le_of_wasStarted {indices : List Nat} (distinct : indices.Nodup)
    (given : ∀ index ∈ indices, batch.wasStarted index = true) :
    indices.length ≤ batch.attempts.countP Option.isSome := by
  rw [← startedIndices_length]
  apply (distinct.subperm ?_).length_le
  intro index mem
  rw [List.mem_filter, List.mem_range]
  exact ⟨wasStarted_lt (given index mem), given index mem⟩

theorem length_activeIndices_eq_iff (started : batch.Started count) :
    batch.activeIndices.length = count ↔
      ∀ index < count, batch.transferIds.getD index 0 ≠ 0 := by
  have given : ∀ index ∈ batch.activeIndices, batch.wasStarted index = true := fun index mem =>
    started.wasStarted_of_id ((mem_activeIndices_iff index).mp mem)
  have below : ∀ index ∈ batch.activeIndices, index < count := fun index mem =>
    Nat.lt_of_lt_of_le (wasStarted_lt (given index mem)) started.attempts_le
  have inRange : batch.activeIndices ⊆ List.range count := fun index mem =>
    List.mem_range.mpr (below index mem)
  have subperm := (nodup_activeIndices batch).subperm inRange
  constructor
  · intro full index inside
    rw [← mem_activeIndices_iff]
    have same := subperm.perm_of_length_le (by rw [List.length_range, full])
    exact same.mem_iff.mpr (List.mem_range.mpr inside)
  · intro every
    apply Nat.le_antisymm
    · exact subperm.length_le.trans_eq List.length_range
    · have all : List.range count ⊆ batch.activeIndices := fun index mem =>
        (mem_activeIndices_iff index).mpr (every index (List.mem_range.mp mem))
      have counted := (List.nodup_range.subperm all).length_le
      rwa [List.length_range] at counted

end BatchContext.Started

/-! ## The invariant -/

/-- What a call still has to do is what is left of the active transfers after those it has
counted. -/
def WaitCall.Accounts (active counted : List Nat) : WaitCall → Prop
  | scanning _ pending => ∃ done, active = done ++ pending ∧ done ⊆ counted
  | WaitCall.counted _ index pending =>
      ∃ done, active = done ++ index :: pending ∧ done ⊆ counted ∧ index ∈ counted
  | ended => True

theorem WaitCall.Accounts.mono {active counted more : List Nat} {call : WaitCall}
    (accounts : call.Accounts active counted) (subset : counted ⊆ more) :
    call.Accounts active more := by
  cases call with
  | scanning timed pending =>
      obtain ⟨done, split, mem⟩ := accounts
      exact ⟨done, split, List.Subset.trans mem subset⟩
  | counted timed index pending =>
      obtain ⟨done, split, mem, here⟩ := accounts
      exact ⟨done, split, List.Subset.trans mem subset, subset here⟩
  | ended => trivial

theorem perm_between_set {calls : List WaitCall} {call : Nat} {old : WaitCall}
    (found : calls[call]? = some old) (new : WaitCall) :
    (new.between.toList ++ calls.filterMap WaitCall.between).Perm
      (old.between.toList ++ (calls.set call new).filterMap WaitCall.between) := by
  obtain ⟨inside, here⟩ := List.getElem?_eq_some_iff.mp found
  have before : calls.Perm (old :: calls.eraseIdx call) := by
    rw [← here]
    exact (List.getElem_cons_eraseIdx_perm inside).symm
  have after := List.set_perm_cons_eraseIdx inside new
  have cons_eq (one : WaitCall) (rest : List WaitCall) :
      (one :: rest).filterMap WaitCall.between =
        one.between.toList ++ rest.filterMap WaitCall.between := by
    rw [List.filterMap_cons]
    cases one.between <;> rfl
  calc (new.between.toList ++ calls.filterMap WaitCall.between).Perm
        (new.between.toList ++ (old.between.toList ++
          (calls.eraseIdx call).filterMap WaitCall.between)) := by
          rw [← cons_eq old]
          exact (before.filterMap _).append_left _
    _ |>.Perm (old.between.toList ++ (new.between.toList ++
          (calls.eraseIdx call).filterMap WaitCall.between)) := List.perm_append_comm_assoc _ _ _
    _ |>.Perm (old.between.toList ++ (calls.set call new).filterMap WaitCall.between) := by
          rw [← cons_eq new]
          exact (after.symm.filterMap _).append_left _

namespace BatchRun

/-- The counters of a run follow from what was counted and dropped. -/
structure Follows (batch : BatchContext) (run : BatchRun) : Prop where
  ids_eq : run.batch.transferIds = batch.transferIds
  attempts_eq : run.batch.attempts = batch.attempts
  completed_eq : run.batch.completedCount = UInt64.ofNat (run.counted.countP Prod.snd)
  failed_eq : run.batch.failedCount = UInt64.ofNat
    (batch.attempts.countP Option.isNone + run.counted.countP fun entry => !entry.2)
  inProgress_eq : run.batch.inProgressCount + UInt64.ofNat run.dropped.length =
    UInt64.ofNat (batch.attempts.countP Option.isSome)
  perm : run.countedIndices.Perm (run.dropped ++ run.calls.filterMap WaitCall.between)
  active : run.countedIndices ⊆ batch.activeIndices
  accounts : ∀ call ∈ run.calls, call.Accounts batch.activeIndices run.countedIndices

variable {batch : BatchContext} {count : Nat} {run : BatchRun}

theorem Follows.start (started : batch.Started count) : Follows batch (start batch) where
  ids_eq := rfl
  attempts_eq := rfl
  completed_eq := started.completed_eq
  failed_eq := started.failed_eq
  inProgress_eq := by
    rw [BatchRun.start, started.inProgress_eq]
    exact UInt64.add_zero _
  perm := List.Perm.refl _
  active := List.nil_subset _
  accounts := fun call mem => by cases mem

theorem countTransfer_spec (batch : BatchContext) (index : Nat)
    (outcome : Result TransferResultInfo) :
    (batch.countTransfer index outcome).transferIds = batch.transferIds ∧
      (batch.countTransfer index outcome).attempts = batch.attempts ∧
      (batch.countTransfer index outcome).inProgressCount = batch.inProgressCount ∧
      (batch.countTransfer index outcome).completedCount =
        batch.completedCount + UInt64.ofNat (isSuccess outcome).toNat ∧
      (batch.countTransfer index outcome).failedCount =
        batch.failedCount + UInt64.ofNat (!isSuccess outcome).toNat := by
  cases outcome with
  | error error => exact ⟨rfl, rfl, rfl, (UInt64.add_zero _).symm, rfl⟩
  | ok info =>
      rcases info with ⟨_ | _, bytes, message⟩
      · exact ⟨rfl, rfl, rfl, (UInt64.add_zero _).symm, rfl⟩
      · exact ⟨rfl, rfl, rfl, rfl, (UInt64.add_zero _).symm⟩

theorem accounts_set {active counted : List Nat} {calls : List WaitCall} {call : Nat}
    {new : WaitCall} (accounts : ∀ call ∈ calls, call.Accounts active counted)
    (fresh : new.Accounts active counted) :
    ∀ other ∈ calls.set call new, other.Accounts active counted := by
  intro other mem
  rcases List.mem_or_eq_of_mem_set mem with old | rfl
  · exact accounts other old
  · exact fresh

theorem Follows.ended (follows : Follows batch run) {call : Nat} {timed : Bool}
    {pending : List Nat} (found : run.calls[call]? = some (.scanning timed pending)) :
    Follows batch { run with calls := run.calls.set call .ended } where
  ids_eq := follows.ids_eq
  attempts_eq := follows.attempts_eq
  completed_eq := follows.completed_eq
  failed_eq := follows.failed_eq
  inProgress_eq := follows.inProgress_eq
  perm := follows.perm.trans ((perm_between_set found .ended).append_left _)
  active := follows.active
  accounts := accounts_set follows.accounts trivial

theorem Follows.step (follows : Follows batch run) (event : BatchEvent) :
    Follows batch (step run event).2 := by
  cases event with
  | waits timed =>
      have activeIndices_eq : run.batch.activeIndices = batch.activeIndices := by
        rw [BatchContext.activeIndices, BatchContext.activeIndices, follows.ids_eq]
      constructor
      case perm =>
        have unchanged : (run.calls ++
            [WaitCall.scanning timed run.batch.activeIndices]).filterMap WaitCall.between =
              run.calls.filterMap WaitCall.between := by
          rw [List.filterMap_append]
          exact List.append_nil _
        dsimp only [BatchRun.step]
        rw [unchanged]
        exact follows.perm
      case accounts =>
        intro call mem
        rcases List.mem_append.mp mem with old | new
        · exact follows.accounts call old
        · rw [List.mem_singleton.mp new, activeIndices_eq]
          exact ⟨[], rfl, List.nil_subset _⟩
      case ids_eq => exact follows.ids_eq
      case attempts_eq => exact follows.attempts_eq
      case completed_eq => exact follows.completed_eq
      case failed_eq => exact follows.failed_eq
      case inProgress_eq => exact follows.inProgress_eq
      case active => exact follows.active
  | finishes call outcome =>
      rw [BatchRun.step]
      split
      · rename_i timed index pending found
        obtain ⟨ids, attempts, inProgress, completed, failed⟩ :=
          countTransfer_spec run.batch index outcome
        have extended : (run.counted ++ [(index, isSuccess outcome)]).map Prod.fst =
            run.countedIndices ++ [index] := by
          rw [List.map_append]
          rfl
        obtain ⟨done, split, mem⟩ := follows.accounts _ (List.mem_of_getElem? found)
        constructor
        case ids_eq => exact ids.trans follows.ids_eq
        case attempts_eq => exact attempts.trans follows.attempts_eq
        case completed_eq =>
          dsimp only
          have last : [(index, isSuccess outcome)].countP Prod.snd = (isSuccess outcome).toNat := by
            cases isSuccess outcome <;> rfl
          rw [completed, follows.completed_eq, List.countP_append, last, UInt64.ofNat_add]
        case failed_eq =>
          dsimp only
          have last : ([(index, isSuccess outcome)].countP fun entry => !entry.2) =
              (!isSuccess outcome).toNat := by
            cases isSuccess outcome <;> rfl
          rw [failed, follows.failed_eq, List.countP_append, last, ← Nat.add_assoc,
            ← UInt64.ofNat_add]
        case inProgress_eq =>
          dsimp only
          rw [inProgress, follows.inProgress_eq]
        case perm =>
          rw [countedIndices, extended]
          have replaced := perm_between_set found (.counted timed index pending)
          calc (run.countedIndices ++ [index]).Perm (index :: run.countedIndices) :=
                List.perm_append_singleton _ _
            _ |>.Perm (index :: (run.dropped ++ run.calls.filterMap WaitCall.between)) :=
                follows.perm.cons index
            _ |>.Perm (run.dropped ++ index :: run.calls.filterMap WaitCall.between) :=
                List.perm_middle.symm
            _ |>.Perm (run.dropped ++
                (run.calls.set call (.counted timed index pending)).filterMap
                  WaitCall.between) := replaced.append_left _
        case active =>
          rw [countedIndices, extended]
          intro other member
          rcases List.mem_append.mp member with old | new
          · exact follows.active old
          · rw [List.mem_singleton.mp new, split]
            exact List.mem_append_right _ List.mem_cons_self
        case accounts =>
          rw [countedIndices, extended]
          apply accounts_set
          · intro other member
            exact (follows.accounts other member).mono (List.subset_append_left _ _)
          · exact ⟨done, split, List.Subset.trans mem (List.subset_append_left _ _),
              List.mem_append_right _ (List.mem_singleton_self _)⟩
      · exact follows
  | drops call =>
      rw [BatchRun.step]
      split
      · rename_i timed index pending found
        obtain ⟨done, split, mem, here⟩ := follows.accounts _ (List.mem_of_getElem? found)
        constructor
        case ids_eq => exact follows.ids_eq
        case attempts_eq => exact follows.attempts_eq
        case completed_eq => exact follows.completed_eq
        case failed_eq => exact follows.failed_eq
        case inProgress_eq =>
          dsimp only [BatchContext.dropInProgress]
          have one : UInt64.ofNat [index].length = 1 := rfl
          rw [← follows.inProgress_eq, List.length_append, UInt64.ofNat_add, one,
            UInt64.add_comm _ 1, ← UInt64.add_assoc, UInt64.sub_add_cancel]
        case perm =>
          have replaced := perm_between_set found (.scanning timed pending)
          calc run.countedIndices.Perm
                (run.dropped ++ run.calls.filterMap WaitCall.between) := follows.perm
            _ |>.Perm (run.dropped ++ index ::
                (run.calls.set call (.scanning timed pending)).filterMap WaitCall.between) :=
                replaced.append_left _
            _ |>.Perm (run.dropped ++ [index] ++
                (run.calls.set call (.scanning timed pending)).filterMap
                  WaitCall.between) := by
                rw [List.append_assoc]
                exact List.Perm.refl _
        case active => exact follows.active
        case accounts =>
          apply accounts_set follows.accounts
          refine ⟨done ++ [index], ?_, ?_⟩
          · rw [split, List.append_assoc]
            rfl
          · intro other member
            rcases List.mem_append.mp member with old | new
            · exact mem old
            · rwa [List.mem_singleton.mp new]
      · exact follows
  | timesOut call =>
      rw [BatchRun.step]
      split
      · rename_i index pending found
        exact follows.ended found
      · exact follows
  | returns call =>
      rw [BatchRun.step]
      split
      · rename_i timed found
        exact follows.ended found
      · exact follows

theorem follows_run (started : batch.Started count) (events : List BatchEvent) :
    Follows batch (final step (start batch) events) := by
  have unguarded : Guarded step (fun _ _ => True) (start batch) events :=
    guarded_of_forall_mem _ _ fun _ _ => trivial
  apply unguarded.invariant (Follows batch)
  · intro run event follows _
    exact follows.step event
  · exact .start started

/-! ## When the counters are right -/

theorem countP_snd_add (counted : List (Nat × Bool)) :
    counted.countP Prod.snd + (counted.countP fun entry => !entry.2) = counted.length := by
  rw [List.length_eq_countP_add_countP Prod.snd]
  congr 1
  apply List.countP_congr
  intro entry _
  simp

namespace Follows

variable (follows : Follows batch run) (started : batch.Started count)

include follows

theorem wasStarted_eq (index : Nat) : run.batch.wasStarted index = batch.wasStarted index := by
  rw [BatchContext.wasStarted, BatchContext.wasStarted, follows.attempts_eq]

include started in
theorem wasStarted_of_counted {index : Nat} (mem : index ∈ run.countedIndices) :
    run.batch.wasStarted index = true := by
  rw [follows.wasStarted_eq]
  exact started.wasStarted_of_id
    ((BatchContext.Started.mem_activeIndices_iff index).mp (follows.active mem))

theorem count_eq (index : Nat) :
    run.countedIndices.count index = run.dropped.count index +
      (run.calls.filterMap WaitCall.between).count index := by
  rw [follows.perm.count_eq, List.count_append]

include started in
theorem settled_of_once (once : ∀ index, run.timesCounted index ≤ 1) :
    run.Settled ∧ run.countedIndices.Nodup := by
  have atMostOnce (index : Nat) : run.countedIndices.count index ≤ 1 := by
    have total := once index
    rw [timesCounted] at total
    omega
  refine ⟨?_, List.nodup_iff_count_le_one.mpr atMostOnce⟩
  intro call mem
  cases known : call.between with
  | none => rfl
  | some index =>
      have open_ : index ∈ run.calls.filterMap WaitCall.between :=
        List.mem_filterMap.mpr ⟨call, mem, known⟩
      have positive := List.count_pos_iff.mpr open_
      have balance := follows.count_eq index
      have single := atMostOnce index
      have counted : index ∈ run.countedIndices := by
        apply List.count_pos_iff.mp
        omega
      have undropped : index ∉ run.dropped := by
        rw [← List.count_eq_zero]
        omega
      have running : (if run.batch.wasStarted index = true ∧ index ∉ run.dropped then 1 else 0) =
          1 := if_pos ⟨follows.wasStarted_of_counted started counted, undropped⟩
      have total := once index
      rw [timesCounted, running] at total
      have positive := List.count_pos_iff.mpr counted
      omega

include started in
theorem once_of_settled (settled : run.Settled) (distinct : run.countedIndices.Nodup)
    (index : Nat) : run.timesCounted index ≤ 1 := by
  have nothing : run.calls.filterMap WaitCall.between = [] :=
    List.filterMap_eq_nil_iff.mpr settled
  have balance := follows.count_eq index
  rw [nothing, List.count_nil, Nat.add_zero] at balance
  have single := List.nodup_iff_count_le_one.mp distinct index
  rw [timesCounted]
  cases given : run.batch.wasStarted index with
  | false =>
      have never : run.countedIndices.count index = 0 := by
        apply List.count_eq_zero.mpr
        intro counted
        rw [follows.wasStarted_of_counted started counted] at given
        cases given
      have idle : ¬ (false = true ∧ index ∉ run.dropped) := fun running =>
        Bool.false_ne_true running.1
      rw [never, if_neg idle]
      split <;> decide
  | true =>
      rw [BatchContext.wasRefused_of_wasStarted given, if_neg Bool.false_ne_true, balance]
      rw [balance] at single
      by_cases dropped : index ∈ run.dropped
      · rw [if_neg fun running => running.2 dropped]
        omega
      · rw [if_pos ⟨rfl, dropped⟩, List.count_eq_zero.mpr dropped]

omit follows in
theorem toNat_ofNat_of_le (bound : Nat) {value : Nat} (below : value ≤ bound)
    (small : bound < 2 ^ 63) : (UInt64.ofNat value).toNat = value :=
  UInt64.toNat_ofNat_of_lt (by simp only [UInt64.size]; omega)

include started in
/-- The counters are right as long as no call is between its updates and no transfer was
counted by two passes. -/
theorem sound_of_settled (addressable : count < 2 ^ 63) (settled : run.Settled)
    (distinct : run.countedIndices.Nodup) : run.Sound := by
  have nothing : run.calls.filterMap WaitCall.between = [] :=
    List.filterMap_eq_nil_iff.mpr settled
  have dropped_eq : run.dropped.length = run.counted.length := by
    have same := follows.perm.length_eq
    rw [nothing, List.append_nil, countedIndices, List.length_map] at same
    exact same.symm
  have outcomes := countP_snd_add run.counted
  have given : run.counted.length ≤ batch.attempts.countP Option.isSome := by
    have bound := BatchContext.Started.length_le_of_wasStarted distinct fun index mem =>
      (follows.wasStarted_eq index).symm.trans (follows.wasStarted_of_counted started mem)
    rwa [countedIndices, List.length_map] at bound
  have attempts := BatchContext.Started.attempts_split batch
  have bounded := started.attempts_le
  have completed : run.batch.completedCount.toNat = run.counted.countP Prod.snd := by
    rw [follows.completed_eq]
    exact toNat_ofNat_of_le count (by omega) addressable
  have failed : run.batch.failedCount.toNat = batch.attempts.countP Option.isNone +
      run.counted.countP fun entry => !entry.2 := by
    rw [follows.failed_eq]
    exact toNat_ofNat_of_le count (by omega) addressable
  have inProgress : run.batch.inProgressCount.toNat + run.dropped.length =
      batch.attempts.countP Option.isSome := by
    have remaining := UInt64.eq_sub_iff_add_eq.mpr follows.inProgress_eq
    rw [← UInt64.ofNat_sub (by omega)] at remaining
    rw [remaining, toNat_ofNat_of_le count (by omega) addressable]
    omega
  have total : run.batch.transferIds.length =
      count + batch.attempts.countP Option.isNone := by
    rw [follows.ids_eq, started.length_transferIds]
  have sum_le : run.batch.completedCount.toNat + run.batch.failedCount.toNat +
      run.batch.inProgressCount.toNat ≤ run.batch.transferIds.length := by
    omega
  refine ⟨follows.once_of_settled started settled distinct, completed, ?_, ?_, sum_le, ?_⟩
  · rw [follows.attempts_eq]
    exact failed
  · rw [follows.attempts_eq]
    exact inProgress
  · have files : (UInt64.ofNat run.batch.transferIds.length).toNat =
        run.batch.transferIds.length :=
      UInt64.toNat_ofNat_of_lt (by simp only [UInt64.size]; omega)
    have fits : run.batch.getProgress.completedFiles.toNat +
        run.batch.getProgress.failedFiles.toNat + run.batch.getProgress.inProgressFiles.toNat ≤
          run.batch.getProgress.totalFiles.toNat := sum_le.trans_eq files.symm
    rw [BatchProgress.pendingFiles_of_le fits]
    simp only [BatchContext.getProgress, files]
    omega

end Follows

/-- When the counters are right, a call that ends returns all files as succeeded or failed
exactly if every file was given a transfer. -/
theorem Follows.returned_iff (follows : Follows batch run) (started : batch.Started count)
    (sound : run.Sound) {event : BatchEvent} {result : BatchResult}
    (returned : (BatchRun.step run event).1 = some (.ok result)) :
    result.succeeded.toNat + result.failed.toNat = result.totalFiles ↔
      ∀ index < count, run.batch.transferIds.getD index 0 ≠ 0 := by
  have returns : ∃ timed, .scanning timed [] ∈ run.calls ∧ result = run.batch.getResult := by
    cases event with
    | waits timed => cases returned
    | finishes call outcome =>
        rw [BatchRun.step] at returned
        split at returned <;> cases returned
    | drops call =>
        rw [BatchRun.step] at returned
        split at returned <;> cases returned
    | timesOut call =>
        rw [BatchRun.step] at returned
        split at returned <;> cases returned
    | returns call =>
        rw [BatchRun.step] at returned
        split at returned
        · rename_i timed found
          exact ⟨timed, List.mem_of_getElem? found,
            (Except.ok.inj (Option.some.inj returned)).symm⟩
        · cases returned
  obtain ⟨timed, mem, rfl⟩ := returns
  obtain ⟨done, split, allCounted⟩ := follows.accounts _ mem
  rw [List.append_nil] at split
  rw [← split] at allCounted
  obtain ⟨-, distinct⟩ := follows.settled_of_once started sound.once
  have same : run.counted.length = batch.activeIndices.length := by
    have fewer := (distinct.subperm follows.active).length_le
    have more := ((BatchContext.Started.nodup_activeIndices batch).subperm allCounted).length_le
    rw [countedIndices, List.length_map] at fewer more
    exact Nat.le_antisymm fewer more
  have outcomes := countP_snd_add run.counted
  have total : run.batch.transferIds.length =
      count + batch.attempts.countP Option.isNone := by
    rw [follows.ids_eq, started.length_transferIds]
  have failed := sound.failed_eq
  rw [follows.attempts_eq] at failed
  rw [follows.ids_eq, ← started.length_activeIndices_eq_iff]
  simp only [BatchContext.getResult]
  rw [sound.completed_eq, failed, total]
  omega

/-- A batch that was started with either call, waited for by any number of calls one after
the other or next to each other, with any outcomes and timeouts.  The counters are right in
exactly those states in which no call is between its two updates for a transfer and no
transfer was counted by two passes; and a batch result that is returned in such a state
accounts for all files exactly if every file was given a transfer. -/
theorem sound_iff {count : Nat} {batch : BatchContext} (starts : StartsBatch count batch)
    (events : List BatchEvent) :
    let run := final step (start batch) events
    (run.Sound ↔ run.Settled ∧ run.countedIndices.Nodup) ∧
      ∀ event result, (step run event).1 = some (.ok result) → run.Sound →
        (result.succeeded.toNat + result.failed.toNat = result.totalFiles ↔
          ∀ index < count, run.batch.transferIds.getD index 0 ≠ 0) := by
  intro run
  obtain ⟨started, addressable⟩ := starts.started
  have follows : Follows batch run := follows_run started events
  constructor
  · constructor
    · exact fun sound => follows.settled_of_once started sound.once
    · rintro ⟨settled, distinct⟩
      exact follows.sound_of_settled started addressable settled distinct
  · exact fun event result returned sound => follows.returned_iff started sound returned

/-! ## Batches of one and two files -/

/-- An entry of an upload; the size of a broken one cannot be read. -/
def sampleEntry (broken : Bool) : UploadEntry :=
  ⟨Text.ascii "dir/a", [], if broken then some (Text.ascii "I/O error") else none,
    TransferId.zero⟩

/-- The batch that an upload of the entries starts. -/
def sampleBatch (entries : List UploadEntry) (maxConcurrent : Nat) : BatchContext :=
  match ((FileTransferClient.initial 65536 fun _ => some [7]).uploadFiles entries
    ⟨maxConcurrent, true, false⟩).1 with
  | .ok batch => batch
  | .error _ => .initial .upload ⟨maxConcurrent, true, false⟩ [] 0

/-- A call that waits, and the two updates for one successful transfer. -/
def waitOnce (call : Nat) : List BatchEvent :=
  [.waits false, .finishes call (.ok ⟨true, 1, none⟩), .drops call]

/-- A call that waits for two transfers. -/
def waitForTwo : List BatchEvent :=
  waitOnce 0 ++ [.finishes 0 (.ok ⟨true, 1, none⟩), .drops 0]

/-- Two files, waited for by one call. -/
theorem two_files_sound :
    (final step (start (sampleBatch [sampleEntry false, sampleEntry false] 4))
      waitForTwo).Sound := by
  have starts : StartsBatch 2 (sampleBatch [sampleEntry false, sampleEntry false] 4) :=
    .upload (FileTransferClient.initial 65536 fun _ => some [7]) _
      [sampleEntry false, sampleEntry false] ⟨4, true, false⟩ rfl (by decide) (Prod.ext rfl rfl)
  apply (sound_iff starts waitForTwo).1.mpr
  constructor
  · intro call mem
    rw [List.mem_singleton.mp mem]
    rfl
  · change List.Nodup [0, 1]
    decide

/-- One file between its two updates, and waited for twice; two files of which one is never
started, and two of which one cannot be started. -/
theorem batch_counters_wrong :
    let between := (final step (start (sampleBatch [sampleEntry false] 4))
      [.waits false, .finishes 0 (.ok ⟨true, 1, none⟩)]).batch
    let twice := (final step (start (sampleBatch [sampleEntry false] 4))
      (waitOnce 0 ++ waitOnce 1)).batch
    (between.completedCount = 1 ∧ between.inProgressCount = 1 ∧
      between.getProgress.totalFiles = 1 ∧
      between.getProgress.pendingFiles = 18446744073709551615) ∧
    (twice.completedCount = 2 ∧ twice.inProgressCount = 18446744073709551615 ∧
      twice.getProgress.totalFiles = 1) ∧
    (step (final step (start (sampleBatch [sampleEntry false, sampleEntry false] 1))
      (waitOnce 0)) (.returns 0)).1.map (fun result => result.map fun result =>
        (result.totalFiles, result.succeeded, result.failed)) = some (.ok (2, 1, 0)) ∧
    (step (final step (start (sampleBatch [sampleEntry true, sampleEntry false] 4))
      (waitOnce 0)) (.returns 0)).1.map (fun result => result.map fun result =>
        (result.totalFiles, result.succeeded, result.failed)) = some (.ok (3, 1, 1)) :=
  ⟨⟨rfl, rfl, rfl, rfl⟩, ⟨rfl, rfl, rfl⟩, rfl, rfl⟩

end BatchRun

end FileTrans.Client
