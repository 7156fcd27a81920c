import FileTrans.Concurrency.Linearization
import FileTrans.Resume.ResumeHandler

/-!
# Threads that share a resume handler

The operations of `resume_handler` at the granularity of their sections under
`mutex_` and of the file operations outside of them.  `save_state` holds the
mutex while it truncates and writes its file; `load_state` looks for the file
and reads it without the mutex, and takes the mutex again to fill the cache; the
operations that mark chunks release the mutex before they call `save_state`
with a reference to the entry of the cache.

A step that cannot be taken, because the mutex is held or because the thread is
busy, does nothing.
-/

namespace FileTrans.Resume

open Core Storage
open FileTrans.Transition
open FileTrans.Concurrency

/-! ## Calls -/

/-- The operations that need the state in the cache, and load it if it is not there. -/
inductive LoadingCall
  | loadState (id : TransferId)
  | getMissingChunks (id : TransferId)
  | markChunkReceived (id : TransferId) (chunkIndex : UInt32)
  | markChunksReceived (id : TransferId) (chunkIndices : List UInt32)
  deriving DecidableEq

/-- The operations that threads call. -/
inductive HandlerCall
  | saveState (state : TransferState)
  | deleteState (id : TransferId)
  | loading (call : LoadingCall)
  deriving DecidableEq

/-- What the environment does in a call: whether the state file can be opened for reading, what
happens to a write, the time, whether a file can be removed, and what a reference to an erased
entry of the cache reads. -/
structure CallFates where
  opens : Bool
  disk : WriteOutcome
  now : Int64
  removes : Bool
  message : Bytes
  freed : TransferState
  deriving DecidableEq

/-- What a call returns; an exception that leaves it is a missing result. -/
inductive HandlerAnswer
  | done (result : Result Unit)
  | loaded (result : Option (Result TransferState))
  | missing (result : Option (Result (List Nat)))
  | marked (result : Option (Result Unit))
  deriving DecidableEq

def LoadingCall.id : LoadingCall → TransferId
  | loadState id => id
  | getMissingChunks id => id
  | markChunkReceived id _ => id
  | markChunksReceived id _ => id

/-- The answer of an operation that only needs a copy of the state. -/
def LoadingCall.fromCopy (state : TransferState) : LoadingCall → Option HandlerAnswer
  | loadState _ => some (.loaded (some (.ok state)))
  | getMissingChunks _ => some (.missing (some (.ok state.missingChunks)))
  | markChunkReceived _ _ => none
  | markChunksReceived _ _ => none

/-- The answer if `load_state` fails, or leaves by an exception. -/
def LoadingCall.failure (error : Option Error) : LoadingCall → HandlerAnswer
  | loadState _ => .loaded (error.map .error)
  | getMissingChunks _ => .missing (error.map .error)
  | markChunkReceived _ _ => .marked (error.map .error)
  | markChunksReceived _ _ => .marked (error.map .error)

namespace ResumeHandler

/-- The answer of a call, and the handler after it. -/
def answering {α : Type} (wrap : α → HandlerAnswer) (result : α × ResumeHandler) :
    HandlerAnswer × ResumeHandler :=
  (wrap result.1, result.2)

/-- One call, without another thread in between. -/
def call : Step ResumeHandler (HandlerCall × CallFates) HandlerAnswer := fun handler input =>
  let fates := input.2
  match input.1 with
  | .saveState state => answering .done (handler.saveState fates.disk state)
  | .deleteState id => answering .done (handler.deleteState fates.removes fates.message id)
  | .loading (.loadState id) => answering .loaded (handler.loadState (fun _ => fates.opens) id)
  | .loading (.getMissingChunks id) =>
      answering .missing (handler.getMissingChunks (fun _ => fates.opens) id)
  | .loading (.markChunkReceived id chunkIndex) =>
      answering .marked
        (handler.markChunkReceived (fun _ => fates.opens) fates.disk fates.now id chunkIndex)
  | .loading (.markChunksReceived id chunkIndices) =>
      answering .marked
        (handler.markChunksReceived (fun _ => fates.opens) fates.disk fates.now id chunkIndices)

/-- The section of an operation that found the state in the cache.  Without an answer the
operation goes on with `save_state`. -/
def cachedSection (handler : ResumeHandler) (now : Int64) (state : TransferState) :
    LoadingCall → Option HandlerAnswer × ResumeHandler
  | .loadState _ => (some (.loaded (some (.ok state))), handler)
  | .getMissingChunks _ => (some (.missing (some (.ok state.missingChunks))), handler)
  | .markChunkReceived id chunkIndex =>
      if state.totalChunks ≤ chunkIndex then (some (.marked (some outOfRange)), handler)
      else
        let cached := handler.insert id { state.setReceived chunkIndex with lastActivity := now }
        let count := handler.chunksSinceCheckpoint + 1
        if handler.config.checkpointInterval ≤ count then
          (none, { cached with chunksSinceCheckpoint := 0 })
        else (some (.marked (some (.ok ()))), { cached with chunksSinceCheckpoint := count })
  | .markChunksReceived id chunkIndices =>
      let marked := state.setAllReceived chunkIndices
      if marked.1 then (none, handler.insert id { marked.2 with lastActivity := now })
      else (some (.marked (some outOfRange)), handler.insert id marked.2)

end ResumeHandler

/-- What `save_state` returns. -/
def WriteOutcome.result (disk : WriteOutcome) : Result Unit :=
  if disk.opens then
    if disk.noticed then unexpected .fileWriteError "failed to write state file" else .ok ()
  else unexpected .fileWriteError "failed to open state file for writing"

/-! ## Threads -/

/-- What a thread does next. -/
inductive Stage
  | idle
  /-- `load_state` looks into the cache, after the operation that calls it did. -/
  | looking (call : LoadingCall) (fates : CallFates)
  /-- `load_state` asks whether the file exists. -/
  | checking (call : LoadingCall) (fates : CallFates)
  /-- `load_state` reads the file. -/
  | reading (call : LoadingCall) (fates : CallFates)
  /-- `load_state` puts the state into the cache. -/
  | inserting (call : LoadingCall) (fates : CallFates) (state : TransferState)
  /-- The operation takes the mutex again, after `load_state`. -/
  | relocking (call : LoadingCall) (fates : CallFates)
  /-- The operation saves the entry that it changed.  The reference is good as long as the entry
  was not erased since. -/
  | awaiting (fates : CallFates) (id : TransferId) (generation : Nat)

/-- What an operation does after it missed the state in the cache. -/
def LoadingCall.afterMiss (fates : CallFates) : LoadingCall → Stage
  | loadState id => .checking (.loadState id) fates
  | getMissingChunks id => .checking (.getMissingChunks id) fates
  | markChunkReceived id chunkIndex => .looking (.markChunkReceived id chunkIndex) fates
  | markChunksReceived id chunkIndices => .looking (.markChunksReceived id chunkIndices) fates

/-- A `save_state` that holds the mutex and has opened its file. -/
structure OpenSave where
  id : TransferId
  text : Bytes
  disk : WriteOutcome
  answer : HandlerAnswer

/-- The handler with the threads that use it. -/
structure SharedHandler (Thread : Type) where
  handler : ResumeHandler
  /-- How often the entry of a transfer was erased from the cache. -/
  erasures : TransferId → Nat
  stage : Thread → Stage
  writer : Option (Thread × OpenSave)

/-- A thread begins a call, or takes its next step; or the stream of the open file writes out
a part of its text. -/
inductive ThreadInput (Thread : Type)
  | call (thread : Thread) (call : HandlerCall) (fates : CallFates)
  | advance (thread : Thread)
  | flush (count : Nat)

/-- What a step makes visible. -/
abbrev HandlerEvent (Thread : Type) := Event Thread HandlerCall CallFates HandlerAnswer

namespace SharedHandler

variable {Thread : Type}

/-- Before the first call. -/
def start (handler : ResumeHandler) : SharedHandler Thread :=
  ⟨handler, fun _ => 0, fun _ => .idle, none⟩

variable [DecidableEq Thread] (shared : SharedHandler Thread)

def setStage (thread : Thread) (stage : Stage) : SharedHandler Thread :=
  { shared with stage := Function.update shared.stage thread stage }

/-- `save_state` takes the mutex, changes the cache and opens the file; where it cannot, it
returns. -/
def beginSave (thread : Thread) (disk : WriteOutcome) (state : TransferState)
    (answer : HandlerAnswer) : List (HandlerEvent Thread) × SharedHandler Thread :=
  let cached := shared.handler.insert state.id state
  if disk.opens then
    ([], { shared.setStage thread .idle with
      handler := { cached with
        files := shared.handler.files.put (shared.handler.stateFile state.id) [] }
      writer := some (thread, ⟨state.id, serializeStateToJson state, disk, answer⟩) })
  else ([.respond thread answer], { shared.setStage thread .idle with handler := cached })

/-- `save_state` writes the rest of the file, releases the mutex and returns. -/
def finishSave (owner : Thread) (save : OpenSave) :
    List (HandlerEvent Thread) × SharedHandler Thread :=
  ([.respond owner save.answer], { shared with
    handler := { shared.handler with
      files := shared.handler.files.put (shared.handler.stateFile save.id)
        (save.disk.reached save.text) }
    writer := none })

/-- An operation returns because `load_state` failed. -/
def fail (thread : Thread) (call : LoadingCall) (fates : CallFates) (error : Option Error) :
    List (HandlerEvent Thread) × SharedHandler Thread :=
  ([.effect thread (.loading call) fates (call.failure error),
    .respond thread (call.failure error)], shared.setStage thread .idle)

/-- The section of an operation that found the state in the cache.  The file is not opened, so
the call takes effect as if it could be. -/
def enter (thread : Thread) (call : LoadingCall) (fates : CallFates) (state : TransferState) :
    List (HandlerEvent Thread) × SharedHandler Thread :=
  let passed := shared.handler.cachedSection fates.now state call
  match passed.1 with
  | some answer =>
      ([.effect thread (.loading call) { fates with opens := true } answer,
        .respond thread answer], { shared.setStage thread .idle with handler := passed.2 })
  | none =>
      ([.effect thread (.loading call) { fates with opens := true }
        (.marked (some fates.disk.result))],
        { shared.setStage thread (.awaiting fates call.id (shared.erasures call.id)) with
          handler := passed.2 })

/-- The first section of a call, while the mutex is free. -/
def invoke (thread : Thread) (fates : CallFates) :
    HandlerCall → List (HandlerEvent Thread) × SharedHandler Thread
  | .saveState state =>
      let begun := shared.beginSave thread fates.disk state (.done fates.disk.result)
      (.effect thread (.saveState state) fates (.done fates.disk.result) :: begun.1, begun.2)
  | .deleteState id =>
      let deleted := shared.handler.deleteState fates.removes fates.message id
      ([.effect thread (.deleteState id) fates (.done deleted.1),
        .respond thread (.done deleted.1)],
        { shared with
          handler := deleted.2
          erasures := Function.update shared.erasures id (shared.erasures id + 1) })
  | .loading call =>
      match shared.handler.cache call.id with
      | some state => shared.enter thread call fates state
      | none => ([], shared.setStage thread (call.afterMiss fates))

/-- `load_state` reads the file that it found. -/
def read (thread : Thread) (call : LoadingCall) (fates : CallFates) :
    List (HandlerEvent Thread) × SharedHandler Thread :=
  if shared.handler.files.exist (shared.handler.stateFile call.id) then
    match shared.handler.readStateFile (fun _ => fates.opens) call.id with
    | some (.ok state) => ([], shared.setStage thread (.inserting call fates state))
    | some (.error error) => shared.fail thread call fates (some error)
    | none => shared.fail thread call fates none
  else
    shared.fail thread call fates
      (some ⟨.fileReadError, Text.ascii "failed to open state file"⟩)

/-- `load_state` puts what it read into the cache. -/
def fill (thread : Thread) (call : LoadingCall) (fates : CallFates) (state : TransferState) :
    List (HandlerEvent Thread) × SharedHandler Thread :=
  let cached := { shared with handler := shared.handler.insert call.id state }
  match call.fromCopy state with
  | some answer =>
      ([.effect thread (.loading call) { fates with opens := true } answer,
        .respond thread answer], cached.setStage thread .idle)
  | none => ([], cached.setStage thread (.relocking call fates))

/-- The next section of a thread that needs the mutex, while it is free. -/
def lockedStep (thread : Thread) : Stage → List (HandlerEvent Thread) × SharedHandler Thread
  | .looking call fates =>
      ([], shared.setStage thread
        (if (shared.handler.cache call.id).isSome then .relocking call fates
          else .checking call fates))
  | .inserting call fates state => shared.fill thread call fates state
  | .relocking call fates =>
      match shared.handler.cache call.id with
      | some state => shared.enter thread call fates state
      | none =>
          shared.fail thread call fates
            (some ⟨.internalError, Text.ascii "failed to load state into cache"⟩)
  | .awaiting fates id generation =>
      let state :=
        if shared.erasures id = generation then (shared.handler.cache id).getD fates.freed
        else fates.freed
      shared.beginSave thread fates.disk state (.marked (some fates.disk.result))
  | _ => ([], shared)

/-- The next step of a thread. -/
def advance (thread : Thread) : List (HandlerEvent Thread) × SharedHandler Thread :=
  match shared.stage thread, shared.writer with
  | .checking call fates, _ =>
      if shared.handler.files.exist (shared.handler.stateFile call.id) then
        ([], shared.setStage thread (.reading call fates))
      else
        shared.fail thread call fates (some ⟨.fileNotFound, Text.ascii "state file not found"⟩)
  | .reading call fates, _ => shared.read thread call fates
  | stage, none => shared.lockedStep thread stage
  | _, some (owner, save) =>
      if owner = thread then shared.finishSave owner save else ([], shared)

def step : Step (SharedHandler Thread) (ThreadInput Thread) (List (HandlerEvent Thread)) :=
  fun shared input =>
    match input with
    | .call thread call fates =>
        match shared.stage thread, shared.writer with
        | .idle, none =>
            let invoked := shared.invoke thread fates call
            (.invoke thread call :: invoked.1, invoked.2)
        | _, _ => ([], shared)
    | .advance thread => shared.advance thread
    | .flush count =>
        match shared.writer with
        | none => ([], shared)
        | some (_, save) =>
            ([], { shared with handler := { shared.handler with
              files := shared.handler.files.put (shared.handler.stateFile save.id)
                (save.text.take count) } })

end SharedHandler

end FileTrans.Resume
