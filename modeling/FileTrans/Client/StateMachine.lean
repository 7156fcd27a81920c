import FileTrans.Client.FileTransferClient
import FileTrans.Transition.Run

/-!
# The state machine of the client

Every call of a run is a `Call`, and `step` executes it.  `Visits` says once
which states a call takes a download through, and `UploadVisits` does so for an
upload; the table of valid transitions is then compared with these lists.

The client consults the table only when it pauses or resumes a transfer or
cancels an upload.  `Permits` is the condition under which the other calls,
which assign the state directly, stay within the table.
-/

namespace FileTrans.Client

open FileTrans.Core
open FileTrans.Storage
open FileTrans.Transition
open InternalTransferState

inductive Call
  | uploadFile (sizeError : Option Bytes) (tid : TransferId) (localPath : Path)
      (remoteName : Bytes) (options : UploadOptions)
  | downloadFile (parent : ParentDirectory) (tid : TransferId) (remoteName : Bytes)
      (localPath : Path) (options : DownloadOptions)
  | setDownloadMetadata (disk : DiskOutcome) (handle fileSize totalChunks : UInt64)
      (chunkSize : UInt32) (sha256Hash : Bytes)
  | processDownloadChunk (disk : DiskOutcome) (handle : UInt64) (chunk : Chunk)
  | finalizeDownload (disk : DiskOutcome) (handle : UInt64)
  | pauseTransfer (handle : UInt64)
  | resumeTransfer (handle : UInt64)
  | cancelTransfer (handle : UInt64)
  | cancelDownload (handle : UInt64)

section

variable (relock : Relock) (lz4 : Option Lz4)

/-- Execute a call; the handle of a started transfer is the next free one. -/
def step : Step FileTransferClient Call (Completion Unit) := fun client call =>
  match call with
  | .uploadFile sizeError tid localPath remoteName options =>
      let (started, client) := client.uploadFile sizeError tid localPath remoteName options
      (.returned (started.map fun _ => ()), client)
  | .downloadFile parent tid remoteName localPath options =>
      let (started, client) := client.downloadFile parent tid remoteName localPath options
      (.returned (started.map fun _ => ()), client)
  | .setDownloadMetadata disk handle fileSize totalChunks chunkSize sha256Hash =>
      client.setDownloadMetadata disk handle fileSize totalChunks chunkSize sha256Hash
  | .processDownloadChunk disk handle chunk =>
      client.processDownloadChunk relock lz4 disk handle chunk
  | .finalizeDownload disk handle => client.finalizeDownload disk handle
  | .pauseTransfer handle => client.pauseTransfer handle
  | .resumeTransfer handle => client.resumeTransfer handle
  | .cancelTransfer handle => client.cancelTransfer handle
  | .cancelDownload handle => client.cancelDownload handle

/-! ## What a call does to a context -/

/-- The states that a finalization takes a download through, the latest first. -/
inductive Finalizes : List InternalTransferState → Prop
  | hashMismatch : Finalizes [failed, verifying]
  | notMoved : Finalizes [failed, completing, verifying]
  | completed : Finalizes [completed, completing, verifying]

/-- The states that a call takes the download under a handle through, the
latest first. -/
inductive Visits (client : FileTransferClient) (handle : UInt64) (ctx : DownloadContext) :
    Call → List InternalTransferState → Prop
  | describe (disk fileSize totalChunks chunkSize sha256Hash) :
      Visits client handle ctx
        (.setDownloadMetadata disk handle fileSize totalChunks chunkSize sha256Hash)
        [transferring]
  | receive (disk chunk) (accepted : client.accepts lz4 disk handle chunk = true) :
      Visits client handle ctx (.processDownloadChunk disk handle chunk) [transferring]
  | receiveLast (disk chunk visited) (accepted : client.accepts lz4 disk handle chunk = true)
      (finalizes : Finalizes visited) :
      Visits client handle ctx (.processDownloadChunk disk handle chunk)
        (visited ++ [transferring])
  | finalize (disk visited) (finalizes : Finalizes visited) :
      Visits client handle ctx (.finalizeDownload disk handle) visited
  | pause (valid : isValidTransition ctx.state paused = true) :
      Visits client handle ctx (.pauseTransfer handle) [paused]
  | resume (valid : isValidTransition ctx.state transferring = true) :
      Visits client handle ctx (.resumeTransfer handle) [transferring]
  | cancelTransfer (notUpload : client.uploadContexts handle = none) :
      Visits client handle ctx (.cancelTransfer handle) [cancelled]
  | cancelDownload : Visits client handle ctx (.cancelDownload handle) [cancelled]

/-- The states that a call takes the upload under a handle through. -/
inductive UploadVisits (handle : UInt64) (ctx : UploadContext) :
    Call → List InternalTransferState → Prop
  | pause (valid : isValidTransition ctx.state paused = true) :
      UploadVisits handle ctx (.pauseTransfer handle) [paused]
  | resume (valid : isValidTransition ctx.state transferring = true) :
      UploadVisits handle ctx (.resumeTransfer handle) [transferring]
  | cancel (valid : isValidTransition ctx.state cancelled = true) :
      UploadVisits handle ctx (.cancelTransfer handle) [cancelled]

/-- What a call does to the downloads. -/
inductive DownloadEffect (client next : FileTransferClient) (call : Call) : Prop
  | unchanged (same : next.downloadContexts = client.downloadContexts)
  | started (ctx : DownloadContext) (states : ctx.states = [initializing, idle])
      (starts : ∃ parent tid remoteName localPath options,
        call = .downloadFile parent tid remoteName localPath options)
      (updated : next.downloadContexts =
        Function.update client.downloadContexts client.nextTransferId (some ctx))
  | visited (handle : UInt64) (ctx ctx' : DownloadContext) (states : List InternalTransferState)
      (present : client.downloadContexts handle = some ctx) (unlocked : ctx.locked = false)
      (visits : Visits lz4 client handle ctx call states)
      (states_eq : ctx'.states = states ++ ctx.states)
      (updated : next.downloadContexts =
        Function.update client.downloadContexts handle (some ctx'))

/-- What a call does to the uploads. -/
inductive UploadEffect (client next : FileTransferClient) (call : Call) : Prop
  | unchanged (same : next.uploadContexts = client.uploadContexts)
  | started (ctx : UploadContext) (states : ctx.states = [transferring, initializing, idle])
      (starts : ∃ sizeError tid localPath remoteName options,
        call = .uploadFile sizeError tid localPath remoteName options)
      (updated : next.uploadContexts =
        Function.update client.uploadContexts client.nextTransferId (some ctx))
  | visited (handle : UInt64) (ctx ctx' : UploadContext) (states : List InternalTransferState)
      (present : client.uploadContexts handle = some ctx)
      (visits : UploadVisits handle ctx call states)
      (states_eq : ctx'.states = states ++ ctx.states)
      (updated : next.uploadContexts =
        Function.update client.uploadContexts handle (some ctx'))

variable {relock lz4}

theorem DownloadContext.finalizes (ctx : DownloadContext) (disk : DiskOutcome)
    (files : FileSystem) :
    ∃ visited, Finalizes visited ∧
      (ctx.finalize disk files).2.1.states = visited ++ ctx.states := by
  rcases ctx.finalize_cases disk files with ⟨_, _, _, final⟩ | ⟨_, _, _, final⟩ | ⟨_, final⟩
  · exact ⟨_, .hashMismatch, by rw [final]; rfl⟩
  · exact ⟨_, .notMoved, by rw [final]; rfl⟩
  · exact ⟨_, .completed, by rw [final]; rfl⟩

variable {client : FileTransferClient} {handle : UInt64} {ctx : DownloadContext}
  {visited : List InternalTransferState} {call : Call}

variable (relock) in
theorem FileTransferClient.checkCompletion_visits
    (present : client.downloadContexts handle = some ctx) (unlocked : ctx.locked = false)
    (disk : DiskOutcome) :
    (client.checkCompletion relock disk handle ctx).2.uploadContexts = client.uploadContexts ∧
      ∃ ctx' visited,
        (client.checkCompletion relock disk handle ctx).2.downloadContexts =
          Function.update client.downloadContexts handle (some ctx') ∧
        ctx'.states = visited ++ ctx.states ∧ (visited = [] ∨ Finalizes visited) := by
  unfold checkCompletion
  split
  · cases relock with
    | blocks => exact ⟨rfl, { ctx with locked := true }, [], rfl, rfl, Or.inl rfl⟩
    | proceeds =>
        obtain ⟨visited, finalizes, states⟩ := ctx.finalizes disk client.files
        obtain ⟨uploads, downloads⟩ := client.finalizeDownload_contexts present unlocked disk
        exact ⟨uploads, _, visited, downloads, states, Or.inr finalizes⟩
  · refine ⟨rfl, ctx, [], ?_, rfl, Or.inl rfl⟩
    exact (Function.update_eq_self_iff.mpr present.symm).symm

theorem FileTransferClient.changeState_downloads (client : FileTransferClient) (handle : UInt64)
    (target : InternalTransferState) (verb : String) :
    (client.changeState handle target verb).2.downloadContexts = client.downloadContexts ∨
    ∃ ctx, client.downloadContexts handle = some ctx ∧ ctx.locked = false ∧
      isValidTransition ctx.state target = true ∧
      (client.changeState handle target verb).2.downloadContexts =
        Function.update client.downloadContexts handle (some (ctx.setState target)) := by
  unfold changeState
  split
  · left
    split <;> rfl
  · rename_i ctx _ present
    split
    · exact Or.inl rfl
    rename_i unlocked
    split
    · exact Or.inl rfl
    rename_i valid
    exact Or.inr ⟨ctx, present, Bool.eq_false_iff.mpr unlocked, not_not.mp valid, rfl⟩
  · exact Or.inl rfl

theorem FileTransferClient.changeState_uploads (client : FileTransferClient) (handle : UInt64)
    (target : InternalTransferState) (verb : String) :
    (client.changeState handle target verb).2.uploadContexts = client.uploadContexts ∨
    ∃ ctx, client.uploadContexts handle = some ctx ∧
      isValidTransition ctx.state target = true ∧
      (client.changeState handle target verb).2.uploadContexts =
        Function.update client.uploadContexts handle (some (ctx.setState target)) := by
  unfold changeState
  split
  · rename_i ctx present
    split
    · exact Or.inl rfl
    rename_i valid
    exact Or.inr ⟨ctx, present, not_not.mp valid, rfl⟩
  · left
    split
    · rfl
    split <;> rfl
  · exact Or.inl rfl

theorem FileTransferClient.cancelDownload_contexts (client : FileTransferClient)
    (handle : UInt64) :
    (client.cancelDownload handle).2.uploadContexts = client.uploadContexts ∧
    ((client.cancelDownload handle).2.downloadContexts = client.downloadContexts ∨
    ∃ ctx, client.downloadContexts handle = some ctx ∧ ctx.locked = false ∧
      (client.cancelDownload handle).2.downloadContexts =
        Function.update client.downloadContexts handle (some ctx.cancel)) := by
  unfold cancelDownload
  split
  · exact ⟨rfl, Or.inl rfl⟩
  rename_i ctx present
  split
  · exact ⟨rfl, Or.inl rfl⟩
  · rename_i unlocked
    exact ⟨rfl, Or.inr ⟨ctx, present, Bool.eq_false_iff.mpr unlocked, rfl⟩⟩

theorem FileTransferClient.cancelTransfer_contexts (client : FileTransferClient)
    (notUpload : client.uploadContexts handle = none) :
    (client.cancelTransfer handle).2 = (client.cancelDownload handle).2 ∨
      client.downloadContexts handle = none ∧ (client.cancelTransfer handle).2 = client := by
  cases present : client.downloadContexts handle with
  | none => exact .inr ⟨rfl, by simp only [cancelTransfer, notUpload, present]⟩
  | some ctx =>
      left
      simp only [cancelTransfer, notUpload, present]
      split <;> simp [*]

variable (relock lz4) in
theorem step_downloads (client : FileTransferClient) (call : Call) :
    DownloadEffect lz4 client (step relock lz4 client call).2 call := by
  cases call with
  | uploadFile sizeError tid localPath remoteName options =>
      rcases client.uploadFile_cases sizeError tid localPath remoteName options with
        ⟨_, refused⟩ | ⟨_, _, begun, same, _⟩
      · exact .unchanged (by simp only [step, refused])
      · exact .unchanged (by simp only [step, begun, same])
  | downloadFile parent tid remoteName localPath options =>
      rcases client.downloadFile_cases parent tid remoteName localPath options with
        ⟨_, refused⟩ | ⟨_, begun, _, updated⟩
      · exact .unchanged (by simp only [step, refused])
      · exact .started (FileTransferClient.newDownload tid remoteName localPath options) rfl
          ⟨_, _, _, _, _, rfl⟩ (by simp only [step, begun, updated])
  | setDownloadMetadata disk handle fileSize totalChunks chunkSize sha256Hash =>
      cases present : client.downloadContexts handle with
      | none => exact .unchanged (by simp [step, FileTransferClient.setDownloadMetadata, present])
      | some ctx =>
          cases unlocked : ctx.locked with
          | true =>
              exact .unchanged (by
                simp [step, FileTransferClient.setDownloadMetadata, present, unlocked])
          | false =>
              refine .visited handle ctx (ctx.setMetadata disk client.files fileSize totalChunks
                chunkSize sha256Hash).1 _ present unlocked (.describe ..) rfl ?_
              simp [step, FileTransferClient.setDownloadMetadata, present, unlocked,
                FileTransferClient.setDownload]
  | processDownloadChunk disk handle chunk =>
      rcases client.processDownloadChunk_cases relock lz4 disk handle chunk with
        ⟨_, same, _⟩ | ⟨ctx, received, files, accepted, present, unlocked, stored, process⟩
      · exact .unchanged same
      · obtain ⟨_, _, _, _, received_eq⟩ := DownloadContext.receiveChunk_eq_ok stored
        have receivedUnlocked : received.locked = false := by
          rw [received_eq]
          exact unlocked
        have receivedStates : received.states = [transferring] ++ ctx.states := by
          rw [received_eq]
          rfl
        obtain ⟨_, ctx', visited, updated, states, finalizes⟩ :=
          FileTransferClient.checkCompletion_visits relock
            (FileTransferClient.setDownload_self { client with files } received)
            receivedUnlocked disk
        rw [receivedStates, ← List.append_assoc] at states
        have updated' : (client.processDownloadChunk relock lz4 disk handle
            chunk).2.downloadContexts =
              Function.update client.downloadContexts handle (some ctx') := by
          rw [process, updated, FileTransferClient.setDownload, Function.update_idem]
        rcases finalizes with rfl | finalizes
        · exact .visited handle ctx ctx' _ present unlocked (.receive disk chunk accepted) states
            updated'
        · exact .visited handle ctx ctx' _ present unlocked
            (.receiveLast disk chunk visited accepted finalizes) states updated'
  | finalizeDownload disk handle =>
      cases present : client.downloadContexts handle with
      | none => exact .unchanged (by simp [step, FileTransferClient.finalizeDownload, present])
      | some ctx =>
          cases unlocked : ctx.locked with
          | true =>
              exact .unchanged (by
                simp [step, FileTransferClient.finalizeDownload, present, unlocked])
          | false =>
              obtain ⟨visited, finalizes, states⟩ := ctx.finalizes disk client.files
              exact .visited handle ctx _ visited present unlocked
                (.finalize disk visited finalizes)
                states (client.finalizeDownload_contexts present unlocked disk).2
  | pauseTransfer handle =>
      rcases client.changeState_downloads handle paused "pause" with
        same | ⟨ctx, present, unlocked, valid, updated⟩
      · exact .unchanged same
      · exact .visited handle ctx _ _ present unlocked (.pause valid) rfl updated
  | resumeTransfer handle =>
      rcases client.changeState_downloads handle transferring "resume" with
        same | ⟨ctx, present, unlocked, valid, updated⟩
      · exact .unchanged same
      · exact .visited handle ctx _ _ present unlocked (.resume valid) rfl updated
  | cancelTransfer handle =>
      cases upload : client.uploadContexts handle with
      | some ctx =>
          refine .unchanged ?_
          simp only [step, FileTransferClient.cancelTransfer, upload]
          split <;> rfl
      | none =>
          rcases (client.cancelDownload_contexts handle).2 with
            same | ⟨ctx, present, unlocked, updated⟩
          · refine .unchanged ?_
            rcases client.cancelTransfer_contexts upload with delegated | refused
            · exact (congrArg FileTransferClient.downloadContexts delegated).trans same
            · exact congrArg FileTransferClient.downloadContexts refused.2
          · rcases client.cancelTransfer_contexts upload with delegated | refused
            · exact .visited handle ctx ctx.cancel _ present unlocked (.cancelTransfer upload) rfl
                ((congrArg FileTransferClient.downloadContexts delegated).trans updated)
            · rw [present] at refused
              exact absurd refused.1 (Option.some_ne_none _)
  | cancelDownload handle =>
      rcases (client.cancelDownload_contexts handle).2 with
        same | ⟨ctx, present, unlocked, updated⟩
      · exact .unchanged same
      · exact .visited handle ctx _ _ present unlocked .cancelDownload rfl updated

variable (relock lz4) in
theorem step_uploads (client : FileTransferClient) (call : Call) :
    UploadEffect client (step relock lz4 client call).2 call := by
  cases call with
  | uploadFile sizeError tid localPath remoteName options =>
      rcases client.uploadFile_cases sizeError tid localPath remoteName options with
        ⟨_, refused⟩ | ⟨_, ctx, begun, _, updated, states⟩
      · exact .unchanged (by simp only [step, refused])
      · exact .started ctx states ⟨_, _, _, _, _, rfl⟩ (by simp only [step, begun, updated])
  | downloadFile parent tid remoteName localPath options =>
      rcases client.downloadFile_cases parent tid remoteName localPath options with
        ⟨_, refused⟩ | ⟨_, begun, same, _⟩
      · exact .unchanged (by simp only [step, refused])
      · exact .unchanged (by simp only [step, begun, same])
  | setDownloadMetadata disk handle fileSize totalChunks chunkSize sha256Hash =>
      refine .unchanged ?_
      simp only [step, FileTransferClient.setDownloadMetadata]
      split
      · rfl
      split <;> rfl
  | processDownloadChunk disk handle chunk =>
      rcases client.processDownloadChunk_cases relock lz4 disk handle chunk with
        ⟨_, _, same⟩ | ⟨ctx, received, files, _, _, unlocked, stored, process⟩
      · exact .unchanged same
      · obtain ⟨_, _, _, _, received_eq⟩ := DownloadContext.receiveChunk_eq_ok stored
        have receivedUnlocked : received.locked = false := by
          rw [received_eq]
          exact unlocked
        refine .unchanged ?_
        simp only [step, process]
        exact (FileTransferClient.checkCompletion_visits relock
          (FileTransferClient.setDownload_self { client with files } received)
          receivedUnlocked disk).1
  | finalizeDownload disk handle =>
      refine .unchanged ?_
      simp only [step, FileTransferClient.finalizeDownload]
      split
      · rfl
      split <;> rfl
  | pauseTransfer handle =>
      rcases client.changeState_uploads handle paused "pause" with
        same | ⟨ctx, present, valid, updated⟩
      · exact .unchanged same
      · exact .visited handle ctx _ _ present (.pause valid) rfl updated
  | resumeTransfer handle =>
      rcases client.changeState_uploads handle transferring "resume" with
        same | ⟨ctx, present, valid, updated⟩
      · exact .unchanged same
      · exact .visited handle ctx _ _ present (.resume valid) rfl updated
  | cancelTransfer handle =>
      cases present : client.uploadContexts handle with
      | none =>
          refine .unchanged ?_
          rcases client.cancelTransfer_contexts present with delegated | refused
          · exact (congrArg FileTransferClient.uploadContexts delegated).trans
              (client.cancelDownload_contexts handle).1
          · exact congrArg FileTransferClient.uploadContexts refused.2
      | some ctx =>
          cases valid : isValidTransition ctx.state cancelled with
          | false =>
              exact .unchanged (by simp [step, FileTransferClient.cancelTransfer, present, valid])
          | true =>
              refine .visited handle ctx (ctx.setState cancelled) _ present (.cancel valid) rfl ?_
              simp [step, FileTransferClient.cancelTransfer, present, valid,
                FileTransferClient.setUpload]
  | cancelDownload handle => exact .unchanged (client.cancelDownload_contexts handle).1

/-! ## The condition and the law -/

/-- The download under a handle, if there is one that can be locked, is in a
permitted state. -/
def DownloadIn (client : FileTransferClient) (handle : UInt64)
    (permitted : InternalTransferState → Prop) : Prop :=
  ∀ ctx, client.downloadContexts handle = some ctx → ctx.locked = false → permitted ctx.state

variable (lz4) in
/-- The calls that assign the state of a download are made in states from which
the table allows it, and `cancel_transfer` is not called on a download, where it is undefined.
A chunk that is not accepted assigns nothing. -/
def Permits (client : FileTransferClient) : Call → Prop
  | .setDownloadMetadata _ handle _ _ _ _ =>
      DownloadIn client handle fun state => state = initializing ∨ state = transferring
  | .processDownloadChunk disk handle chunk =>
      client.accepts lz4 disk handle chunk = true →
        DownloadIn client handle fun state => state = initializing ∨ state = transferring
  | .finalizeDownload _ handle =>
      DownloadIn client handle fun state => state = transferring ∨ state = verifying
  | .cancelTransfer handle =>
      client.uploadContexts handle = none → client.downloadContexts handle = none
  | .cancelDownload handle =>
      DownloadIn client handle fun state => state ≠ completed ∧ state ≠ failed
  | _ => True

/-- A call neither leaves a terminal state, nor a pause unless it resumes or
cancels the transfer or the transfer fails. -/
def Steady (call : Call) (handle : UInt64) (before after : InternalTransferState) : Prop :=
  (before.isTerminal → after = before) ∧
    (before = paused → after ≠ paused → after = failed ∨ call = .resumeTransfer handle ∨
      call = .cancelTransfer handle ∨ call = .cancelDownload handle)

theorem steady_refl (call : Call) (handle : UInt64) (state : InternalTransferState) :
    Steady call handle state state :=
  ⟨fun _ => rfl, fun isPaused notPaused => absurd isPaused notPaused⟩

/-- Whether the call starts a transfer under the handle. -/
def StartsUnder (client : FileTransferClient) (handle : UInt64) (call : Call) : Prop :=
  handle = client.nextTransferId ∧
    ((∃ sizeError tid localPath remoteName options,
      call = .uploadFile sizeError tid localPath remoteName options) ∨
    ∃ parent tid remoteName localPath options,
      call = .downloadFile parent tid remoteName localPath options)

variable (relock lz4) in
/-- What the table promises of one step. -/
structure Lawful (client : FileTransferClient) (call : Call) : Prop where
  downloads : ∀ handle ctx ctx', client.downloadContexts handle = some ctx →
    (step relock lz4 client call).2.downloadContexts handle = some ctx' →
    ¬ StartsUnder client handle call → Steady call handle ctx.state ctx'.state
  uploads : ∀ handle ctx ctx', client.uploadContexts handle = some ctx →
    (step relock lz4 client call).2.uploadContexts handle = some ctx' →
    ¬ StartsUnder client handle call → Steady call handle ctx.state ctx'.state
  chunks : ∀ disk handle chunk, call = .processDownloadChunk disk handle chunk →
    client.accepts lz4 disk handle chunk = true →
    ∀ ctx, client.downloadContexts handle = some ctx → ¬ ctx.state.isTerminal

/-- Every change of every context so far was allowed by the table. -/
structure FileTransferClient.ChangesAllowed (client : FileTransferClient) : Prop where
  downloads : ∀ handle ctx, client.downloadContexts handle = some ctx → ctx.ChangesAllowed
  uploads : ∀ handle ctx, client.uploadContexts handle = some ctx → ctx.ChangesAllowed

/-! ## From the condition to the law -/

/-- The changes that a list of states makes are allowed by the table. -/
abbrev Chain (states : List InternalTransferState) : Prop :=
  states.IsChain fun later earlier => earlier.Allowed later

theorem Finalizes.chain {history : List InternalTransferState} {state : InternalTransferState}
    (finalizes : Finalizes visited) (permitted : state = transferring ∨ state = verifying)
    (changes : Chain (state :: history)) : Chain (visited ++ state :: history) := by
  have entered : state.Allowed verifying := by
    rcases permitted with rfl | rfl <;> decide
  cases finalizes with
  | hashMismatch => exact .cons_cons (by decide) (.cons_cons entered changes)
  | notMoved => exact .cons_cons (by decide) (.cons_cons (by decide) (.cons_cons entered changes))
  | completed => exact .cons_cons (by decide) (.cons_cons (by decide) (.cons_cons entered changes))

theorem Visits.chain (visits : Visits lz4 client handle ctx call visited)
    (permits : Permits lz4 client call) (present : client.downloadContexts handle = some ctx)
    (unlocked : ctx.locked = false) (changes : Chain ctx.states) :
    Chain (visited ++ ctx.states) := by
  cases visits with
  | describe =>
      have entered : ctx.state.Allowed transferring := by
        rcases permits ctx present unlocked with same | same <;> rw [same] <;> decide
      exact .cons_cons entered changes
  | receive disk chunk accepted =>
      have entered : ctx.state.Allowed transferring := by
        rcases permits accepted ctx present unlocked with same | same <;> rw [same] <;> decide
      exact .cons_cons entered changes
  | receiveLast disk chunk visited accepted finalizes =>
      have entered : ctx.state.Allowed transferring := by
        rcases permits accepted ctx present unlocked with same | same <;> rw [same] <;> decide
      rw [List.append_assoc]
      exact finalizes.chain (Or.inl rfl) (.cons_cons entered changes)
  | finalize disk visited finalizes =>
      exact finalizes.chain (permits ctx present unlocked) changes
  | pause valid => exact .cons_cons (fun _ => valid) changes
  | resume valid => exact .cons_cons (fun _ => valid) changes
  | cancelTransfer notUpload =>
      rw [permits notUpload] at present
      contradiction
  | cancelDownload =>
      obtain ⟨notCompleted, notFailed⟩ := permits ctx present unlocked
      exact .cons_cons (allowed_cancelled notCompleted notFailed) changes

theorem Visits.steady {ctx' : DownloadContext}
    (visits : Visits lz4 client handle ctx call visited) (permits : Permits lz4 client call)
    (present : client.downloadContexts handle = some ctx) (unlocked : ctx.locked = false)
    (states : ctx'.states = visited ++ ctx.states) : Steady call handle ctx.state ctx'.state := by
  have running : ∀ after, ctx.state = initializing ∨ ctx.state = transferring ∨
      ctx.state = verifying → Steady call handle ctx.state after := by
    intro after notPaused
    rcases notPaused with same | same | same <;> rw [same] <;>
      exact ⟨fun terminal => absurd terminal (by decide), fun isPaused =>
        absurd isPaused (by decide)⟩
  cases visits with
  | describe =>
      exact running _ ((permits ctx present unlocked).imp_right Or.inl)
  | receive disk chunk accepted =>
      exact running _ ((permits accepted ctx present unlocked).imp_right Or.inl)
  | receiveLast disk chunk visited accepted finalizes =>
      exact running _ ((permits accepted ctx present unlocked).imp_right Or.inl)
  | finalize disk visited finalizes =>
      exact running _ (Or.inr (permits ctx present unlocked))
  | pause valid =>
      refine ⟨fun terminal => ?_, fun _ notPaused => absurd (List.cons.inj states).1 notPaused⟩
      rw [isValidTransition_of_isTerminal terminal] at valid
      contradiction
  | resume valid =>
      refine ⟨fun terminal => ?_, fun _ _ => Or.inr (Or.inl rfl)⟩
      rw [isValidTransition_of_isTerminal terminal] at valid
      contradiction
  | cancelTransfer notUpload =>
      rw [permits notUpload] at present
      contradiction
  | cancelDownload =>
      obtain ⟨notCompleted, notFailed⟩ := permits ctx present unlocked
      refine ⟨?_, fun _ _ => Or.inr (Or.inr (Or.inr rfl))⟩
      rintro (done | done | done)
      · exact absurd done notCompleted
      · exact absurd done notFailed
      · rw [(List.cons.inj states).1, done]

theorem UploadVisits.chain {ctx : UploadContext} (visits : UploadVisits handle ctx call visited)
    (changes : Chain ctx.states) : Chain (visited ++ ctx.states) := by
  cases visits with
  | pause valid => exact .cons_cons (fun _ => valid) changes
  | resume valid => exact .cons_cons (fun _ => valid) changes
  | cancel valid => exact .cons_cons (fun _ => valid) changes

theorem UploadVisits.steady {ctx ctx' : UploadContext}
    (visits : UploadVisits handle ctx call visited) (states : ctx'.states = visited ++ ctx.states) :
    Steady call handle ctx.state ctx'.state := by
  have running : ∀ target, isValidTransition ctx.state target = true → ¬ ctx.state.isTerminal := by
    intro target valid terminal
    rw [isValidTransition_of_isTerminal terminal] at valid
    contradiction
  cases visits with
  | pause valid =>
      exact ⟨fun terminal => absurd terminal (running _ valid),
        fun _ notPaused => absurd (List.cons.inj states).1 notPaused⟩
  | resume valid =>
      exact ⟨fun terminal => absurd terminal (running _ valid), fun _ _ => Or.inr (Or.inl rfl)⟩
  | cancel valid =>
      exact ⟨fun terminal => absurd terminal (running _ valid),
        fun _ _ => Or.inr (Or.inr (Or.inl rfl))⟩

theorem FileTransferClient.ChangesAllowed.step (changes : client.ChangesAllowed)
    (permits : Permits lz4 client call) :
    (Client.step relock lz4 client call).2.ChangesAllowed := by
  constructor
  · intro handle ctx stored
    cases step_downloads relock lz4 client call with
    | unchanged same =>
        rw [same] at stored
        exact changes.downloads handle ctx stored
    | started new states _ updated =>
        rw [updated, Function.update_apply] at stored
        split at stored
        · obtain rfl := Option.some.inj stored
          show Chain new.states
          rw [states]
          decide
        · exact changes.downloads handle ctx stored
    | visited target before after visited present unlocked visits states updated =>
        rw [updated, Function.update_apply] at stored
        split at stored
        · obtain rfl := Option.some.inj stored
          show Chain after.states
          rw [states]
          exact visits.chain permits present unlocked (changes.downloads target before present)
        · exact changes.downloads handle ctx stored
  · intro handle ctx stored
    cases step_uploads relock lz4 client call with
    | unchanged same =>
        rw [same] at stored
        exact changes.uploads handle ctx stored
    | started new states _ updated =>
        rw [updated, Function.update_apply] at stored
        split at stored
        · obtain rfl := Option.some.inj stored
          show Chain new.states
          rw [states]
          decide
        · exact changes.uploads handle ctx stored
    | visited target before after visited present visits states updated =>
        rw [updated, Function.update_apply] at stored
        split at stored
        · obtain rfl := Option.some.inj stored
          show Chain after.states
          rw [states]
          exact visits.chain (changes.uploads target before present)
        · exact changes.uploads handle ctx stored

theorem lawful_of_permits (permits : Permits lz4 client call) : Lawful relock lz4 client call := by
  constructor
  case downloads =>
    intro handle ctx ctx' present stored notStarted
    cases step_downloads relock lz4 client call with
    | unchanged same =>
        rw [same, present] at stored
        obtain rfl := Option.some.inj stored
        exact steady_refl call handle ctx.state
    | started new _ starts updated =>
        have other : handle ≠ client.nextTransferId := fun same =>
          notStarted ⟨same, Or.inr starts⟩
        rw [updated, Function.update_of_ne other, present] at stored
        obtain rfl := Option.some.inj stored
        exact steady_refl call handle ctx.state
    | visited target before after visited beforePresent unlocked visits states updated =>
        rw [updated, Function.update_apply] at stored
        split at stored
        · rename_i same
          subst same
          obtain rfl := Option.some.inj (present.symm.trans beforePresent)
          obtain rfl := Option.some.inj stored
          exact visits.steady permits present unlocked states
        · obtain rfl := Option.some.inj (present.symm.trans stored)
          exact steady_refl call handle ctx.state
  case uploads =>
    intro handle ctx ctx' present stored notStarted
    cases step_uploads relock lz4 client call with
    | unchanged same =>
        rw [same, present] at stored
        obtain rfl := Option.some.inj stored
        exact steady_refl call handle ctx.state
    | started new _ starts updated =>
        have other : handle ≠ client.nextTransferId := fun same =>
          notStarted ⟨same, Or.inl starts⟩
        rw [updated, Function.update_of_ne other, present] at stored
        obtain rfl := Option.some.inj stored
        exact steady_refl call handle ctx.state
    | visited target before after visited beforePresent visits states updated =>
        rw [updated, Function.update_apply] at stored
        split at stored
        · rename_i same
          subst same
          obtain rfl := Option.some.inj (present.symm.trans beforePresent)
          obtain rfl := Option.some.inj stored
          exact visits.steady states
        · obtain rfl := Option.some.inj (present.symm.trans stored)
          exact steady_refl call handle ctx.state
  case chunks =>
    rintro disk handle chunk rfl accepted ctx present
    have unlocked : ctx.locked = false := by
      simp only [FileTransferClient.accepts, present, Bool.and_eq_true, Bool.not_eq_true']
        at accepted
      exact accepted.1
    rcases permits accepted ctx present unlocked with same | same <;> rw [same] <;> decide

variable (relock) in
/-- In every run whose calls are made in permitted states, every change of every
transfer's state is allowed by the table, and every step is lawful. -/
theorem run_follows_table (chunkSize : Nat) (files : FileSystem) {calls : List Call}
    (permitted : Guarded (step relock lz4) (Permits lz4)
      (FileTransferClient.initial chunkSize files) calls) :
    (final (step relock lz4) (FileTransferClient.initial chunkSize files) calls).ChangesAllowed ∧
      Guarded (step relock lz4) (Lawful relock lz4)
        (FileTransferClient.initial chunkSize files) calls := by
  constructor
  · apply permitted.invariant FileTransferClient.ChangesAllowed
    · intro client call changes permits
      exact changes.step permits
    · exact ⟨fun _ _ none => by contradiction, fun _ _ none => by contradiction⟩
  · exact permitted.imp fun _ _ permits => lawful_of_permits permits

end

/-! ## Runs of one download -/

/-- Start a download and describe it. -/
def describedDownload : List Call :=
  [.downloadFile ⟨true, true⟩ TransferId.zero (Text.ascii "remote")
      (Text.ascii "copy") ⟨false, true⟩,
    .setDownloadMetadata .success 1 3 3 1 []]

/-- Describing a new download follows the table. -/
theorem describedDownload_follows_table :
    (final (step .blocks none) (FileTransferClient.initial 65536 fun _ => none)
        describedDownload).ChangesAllowed ∧
      Guarded (step .blocks none) (Lawful .blocks none)
        (FileTransferClient.initial 65536 fun _ => none) describedDownload := by
  apply run_follows_table .blocks 65536 fun _ => none
  refine ⟨trivial, ?_, trivial⟩
  intro ctx present _
  obtain rfl := Option.some.inj present
  exact Or.inl rfl

/-- Describing a download again after it was cancelled makes it run again. -/
theorem cancelled_download_described_again :
    (∀ relock, ((final (step relock none) (FileTransferClient.initial 65536 fun _ => none)
        (describedDownload ++ [.cancelDownload 1, .setDownloadMetadata .success 1 3 3 1 []])
      ).downloadContexts 1).map (fun ctx => ctx.states) =
        some [transferring, cancelled, transferring, initializing, idle]) ∧
    ∀ relock, ¬ (final (step relock none) (FileTransferClient.initial 65536 fun _ => none)
        (describedDownload ++ [.cancelDownload 1, .setDownloadMetadata .success 1 3 3 1 []])
      ).ChangesAllowed := by
  have states :
      ∀ relock, ((final (step relock none) (FileTransferClient.initial 65536 fun _ => none)
        (describedDownload ++ [.cancelDownload 1, .setDownloadMetadata .success 1 3 3 1 []])
      ).downloadContexts 1).map (fun ctx => ctx.states) =
        some [transferring, cancelled, transferring, initializing, idle] := by
    intro relock
    cases relock <;> decide +kernel
  refine ⟨states, ?_⟩
  intro relock changes
  obtain ⟨ctx, present, visited⟩ := Option.map_eq_some_iff.mp (states relock)
  have allowed : Chain ctx.states := changes.downloads 1 ctx present
  rw [visited] at allowed
  exact absurd allowed (by decide)

end FileTrans.Client
