import FileTrans.Client.FileTransferClient
import FileTrans.Concurrency.Monitor

/-!
# Waiting for a transfer

`wait_for_transfer` without a timeout sleeps on the condition variable of the context until
the state is terminal.  Every other operation on the context is taken apart into what it
assigns and when it notifies, all under the mutex of the context.  `cancel_download`,
`cancel_transfer` and the successful exit of `finalize_download` notify; its two failing
exits do not.
-/

namespace FileTrans.Client

open Core Storage Transition Concurrency
open InternalTransferState

/-- The context of an upload or of a download. -/
inductive TransferContext
  | upload (ctx : UploadContext)
  | download (ctx : DownloadContext)
  deriving DecidableEq

namespace TransferContext

/-- The state of either context. -/
def state : TransferContext → InternalTransferState
  | upload ctx => ctx.state
  | download ctx => ctx.state

/-- The test in the loop of `wait_for_transfer`. -/
def finished (ctx : TransferContext) : Bool :=
  ctx.state.toTransferStatus.isTerminalStatus

end TransferContext

/-- An operation on the context of a handle, with the disk and the files it finds. -/
inductive ContextOperation
  | processDownloadChunk (disk : DiskOutcome) (files : FileSystem) (chunk : Chunk)
  | finalizeDownload (disk : DiskOutcome) (files : FileSystem)
  | setDownloadMetadata (disk : DiskOutcome) (files : FileSystem) (fileSize totalChunks : UInt64)
      (chunkSize : UInt32) (sha256Hash : Bytes)
  | pauseTransfer
  | resumeTransfer
  | cancelTransfer
  | cancelDownload

/-! ## What the operations do under the mutex -/

/-- `finalize_download`. -/
def finalizeActions (ctx : DownloadContext) (disk : DiskOutcome) (files : FileSystem) :
    List (Action TransferContext) :=
  let verifying := ctx.setState .verifying
  .set (.download verifying) ::
    if ctx.hashMismatch disk files then
      [.set (.download { verifying.setState .failed with
        errorMessage := Text.ascii "SHA-256 hash mismatch" })]
    else
      let completing := verifying.setState .completing
      let files := if ctx.options.overwrite ∧ files.exist ctx.localPath then
        files.remove ctx.localPath else files
      .set (.download completing) ::
        match files.rename disk ctx.tempPath ctx.localPath with
        | .error message =>
            [.set (.download { completing.setState .failed with
              errorMessage := Text.ascii "Cannot move file: " ++ message })]
        | .ok _ => [.set (.download (completing.setState .completed)), .notifyAll]

/-- `process_download_chunk`, which finalizes under the mutex that it holds. -/
def processChunkActions (relock : Relock) (lz4 : Option Lz4) (ctx : DownloadContext)
    (disk : DiskOutcome) (files : FileSystem) (chunk : Chunk) : List (Action TransferContext) :=
  match ctx.receiveChunk lz4 disk files chunk with
  | (.error _, _) => []
  | (.ok received, files) =>
      .set (.download received) ::
        if received.transferredChunks ≥ received.totalChunks then
          match relock with
          | .blocks => [.block]
          | .proceeds => finalizeActions received disk files
        else []

/-- `cancel_download`. -/
def cancelDownloadActions (ctx : DownloadContext) : List (Action TransferContext) :=
  [.set (.download ctx.cancel), .notifyAll]

/-- What `pause_transfer`, `resume_transfer` and the upload branch of `cancel_transfer`
share: an assignment that the table has to allow. -/
def changeStateActions (ctx : TransferContext) (target : InternalTransferState)
    (afterwards : List (Action TransferContext)) : List (Action TransferContext) :=
  if ¬ isValidTransition ctx.state target then []
  else
    match ctx with
    | .upload ctx => .set (.upload (ctx.setState target)) :: afterwards
    | .download ctx => .set (.download (ctx.setState target)) :: afterwards

/-- What an operation does under the mutex of the context; one on downloads does not find
an upload, and locks nothing. -/
def ContextOperation.actions (relock : Relock) (lz4 : Option Lz4) :
    ContextOperation → TransferContext → List (Action TransferContext)
  | processDownloadChunk disk files chunk, .download ctx =>
      processChunkActions relock lz4 ctx disk files chunk
  | finalizeDownload disk files, .download ctx => finalizeActions ctx disk files
  | setDownloadMetadata disk files fileSize totalChunks chunkSize sha256Hash, .download ctx =>
      [.set (.download
        (ctx.setMetadata disk files fileSize totalChunks chunkSize sha256Hash).1)]
  | cancelDownload, .download ctx => cancelDownloadActions ctx
  | cancelTransfer, .download ctx => cancelDownloadActions ctx
  | cancelTransfer, .upload ctx => changeStateActions (.upload ctx) cancelled [.notifyAll]
  | pauseTransfer, ctx => changeStateActions ctx paused []
  | resumeTransfer, ctx => changeStateActions ctx transferring [.notifyAll]
  | _, .upload _ => []

/-! ## Which assignments are announced -/

/-- The states that are assigned without a notification. -/
def SetsFailed (ctx : TransferContext) : Prop :=
  ctx.state = failed

theorem announces_finalizeActions (ctx : DownloadContext) (disk : DiskOutcome)
    (files : FileSystem) :
    Monitor.Announces TransferContext.finished SetsFailed (finalizeActions ctx disk files) := by
  refine ⟨(fun isDone => by cases isDone), ?_⟩
  split
  · refine ⟨fun _ => ?_, trivial⟩
    exact iff_of_false (fun notifies => by cases notifies) (not_not.mpr rfl)
  · refine ⟨(fun isDone => by cases isDone), ?_⟩
    split
    · refine ⟨fun _ => ?_, trivial⟩
      exact iff_of_false (fun notifies => by cases notifies) (not_not.mpr rfl)
    · refine ⟨fun _ => ?_, trivial⟩
      exact iff_of_true (List.mem_singleton_self _) (fun isFailed => by cases isFailed)

theorem announces_changeStateActions (ctx : TransferContext) {target : InternalTransferState}
    {afterwards : List (Action TransferContext)}
    (announced : target.toTransferStatus.isTerminalStatus = true →
      (Action.notifyAll ∈ afterwards ↔ target ≠ failed))
    (quiet : Monitor.Announces TransferContext.finished SetsFailed afterwards) :
    Monitor.Announces TransferContext.finished SetsFailed
      (changeStateActions ctx target afterwards) := by
  unfold changeStateActions
  split
  · trivial
  · cases ctx with
    | upload ctx => exact ⟨announced, quiet⟩
    | download ctx => exact ⟨announced, quiet⟩

theorem ContextOperation.announces (relock : Relock) (lz4 : Option Lz4)
    (operation : ContextOperation) (ctx : TransferContext) :
    Monitor.Announces TransferContext.finished SetsFailed
      (operation.actions relock lz4 ctx) := by
  have cancels : ∀ ctx : DownloadContext,
      Monitor.Announces TransferContext.finished SetsFailed (cancelDownloadActions ctx) := by
    intro ctx
    refine ⟨fun _ => ?_, trivial⟩
    exact iff_of_true (List.mem_singleton_self _) (fun isFailed => by cases isFailed)
  cases operation with
  | processDownloadChunk disk files chunk =>
      cases ctx with
      | upload ctx => trivial
      | download ctx =>
          simp only [actions, processChunkActions]
          split
          · trivial
          · rename_i received files' taken
            obtain ⟨-, -, data, -, same⟩ := DownloadContext.receiveChunk_eq_ok taken
            constructor
            · intro isDone
              rw [same] at isDone
              cases isDone
            · split
              · cases relock with
                | blocks => trivial
                | proceeds => exact announces_finalizeActions received disk files'
              · trivial
  | finalizeDownload disk files =>
      cases ctx with
      | upload ctx => trivial
      | download ctx => exact announces_finalizeActions ctx disk files
  | setDownloadMetadata disk files fileSize totalChunks chunkSize sha256Hash =>
      cases ctx with
      | upload ctx => trivial
      | download ctx => exact ⟨(fun isDone => by cases isDone), trivial⟩
  | pauseTransfer =>
      apply announces_changeStateActions ctx
      · intro isDone
        cases isDone
      · trivial
  | resumeTransfer =>
      apply announces_changeStateActions ctx
      · intro isDone
        cases isDone
      · trivial
  | cancelTransfer =>
      cases ctx with
      | upload ctx =>
          apply announces_changeStateActions (.upload ctx)
          · exact fun _ => iff_of_true (List.mem_singleton_self _) (by decide)
          · trivial
      | download ctx => exact cancels ctx
  | cancelDownload =>
      cases ctx with
      | upload ctx => trivial
      | download ctx => exact cancels ctx

/-! ## Runs -/

section

variable (relock : Relock) (lz4 : Option Lz4)

/-- A step of the thread in `wait_for_transfer`, or of a thread with an operation. -/
abbrev waitStep : Step (Monitor TransferContext) (MonitorEvent ContextOperation) Unit :=
  Monitor.step (ContextOperation.actions relock lz4) TransferContext.finished

/-- The step sets the state to failed while the waiter sleeps: a failing exit of
`finalize_download`. -/
abbrev FailsAsleep (monitor : Monitor TransferContext) (event : MonitorEvent ContextOperation) :
    Prop :=
  monitor.QuietlyDone TransferContext.finished SetsFailed event

/-- In every interleaving on every context, no state is reached that is terminal, with the
waiter asleep and no notification to come, exactly if no step sets the state to failed
while the waiter sleeps. -/
theorem wait_noLostWakeup_iff (ctx : TransferContext)
    (events : List (MonitorEvent ContextOperation)) :
    (∀ first rest, events = first ++ rest →
      (final (waitStep relock lz4) (Monitor.start ctx) first).NoLostWakeup
        TransferContext.finished) ↔
    Guarded (waitStep relock lz4) (fun monitor event => ¬ FailsAsleep monitor event)
      (Monitor.start ctx) events :=
  Monitor.noLostWakeup_iff_not_quietlyDone (ContextOperation.announces relock lz4) ctx events

end

/-! ## A waiter that sleeps on -/

def newHashedDownload (expectedSha256 : Bytes) : TransferContext :=
  .download { FileTransferClient.newDownload TransferId.zero (Text.ascii "remote")
    (Text.ascii "copy") ⟨false, true⟩ with expectedSha256 }

/-- The waiter falls asleep, and `finalize_download` runs from its start to its end on a
disk without the temporary file. -/
def finalizeWhileAsleep (count : Nat) : List (MonitorEvent ContextOperation) :=
  [.waiterLocks, .waiterChecks, .begins (.finalizeDownload .success fun _ => none)] ++
    List.replicate count .acts ++ [.returns]

/-- After a hash mismatch and after a file that cannot be moved, the state is failed, no
operation runs, and the waiter sleeps. -/
theorem failed_download_not_announced :
    (∀ relock expected count, (expected, count) ∈ [(Text.ascii "00", 2), ([], 3)] →
      let reached := final (waitStep relock none) (Monitor.start (newHashedDownload expected))
        (finalizeWhileAsleep count)
      reached.shared.state = failed ∧ reached.running = none ∧ reached.waiter = .asleep) ∧
    ∀ relock, ¬ ∀ ctx events, (final (waitStep relock none) (Monitor.start ctx)
      events).NoLostWakeup TransferContext.finished := by
  constructor
  · intro relock expected count mem
    rcases List.mem_cons.mp mem with first | second
    · obtain ⟨rfl, rfl⟩ := Prod.mk.inj first
      exact ⟨rfl, rfl, rfl⟩
    · obtain ⟨rfl, rfl⟩ := Prod.mk.inj (List.mem_singleton.mp second)
      exact ⟨rfl, rfl, rfl⟩
  · intro relock every
    obtain ⟨rest, running, -⟩ := every (newHashedDownload (Text.ascii "00"))
      (finalizeWhileAsleep 2) rfl rfl
    cases running

end FileTrans.Client
