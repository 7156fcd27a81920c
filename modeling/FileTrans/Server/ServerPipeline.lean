import FileTrans.Core.BandwidthWaits
import FileTrans.Server.PipelineJobs
import FileTrans.Transition.Run

/-!
# Runs of a server pipeline

`server_pipeline::create` builds the shared context from a configuration: all
queues, one compression engine for each compression worker and, with
encryption, one engine for each encryption worker, none of which has a key.

The thread pool holds the accepted jobs and executes them one at a time in any
order; whether it takes a further job is an input.  Every accepted submission
gets a ticket, which the jobs of its chunk carry along.

A bandwidth limiter changes no chunk, but a chunk beyond its burst waits at it for good.
The limits are those of the configuration, and stay as they are.
-/

namespace FileTrans.Server

open FileTrans.Core
open FileTrans.Encryption
open FileTrans.Transition

/-- `pipeline_config` without its bandwidth limits, which `LimitedConfig` adds. -/
structure PipelineConfig where
  ioWorkers : Nat
  compressionWorkers : Nat
  networkWorkers : Nat
  encryptionWorkers : Nat
  queueSize : Nat
  maxMemoryPerTransfer : Nat
  enableEncryption : Bool
  deriving DecidableEq

namespace PipelineConfig

/-- The defaults of `pipeline_config`. -/
def default : PipelineConfig where
  ioWorkers := 2
  compressionWorkers := 4
  networkWorkers := 2
  encryptionWorkers := 2
  queueSize := 64
  maxMemoryPerTransfer := 32 * 1024 * 1024
  enableEncryption := false

def isValid (config : PipelineConfig) : Bool :=
  0 < config.ioWorkers && 0 < config.compressionWorkers && 0 < config.networkWorkers &&
    0 < config.queueSize && 0 < config.maxMemoryPerTransfer

theorem compressionWorkers_ne_zero {config : PipelineConfig} (valid : config.isValid = true) :
    config.compressionWorkers ≠ 0 := by
  simp only [isValid, Bool.and_eq_true, decide_eq_true_eq] at valid
  omega

/-- The context that `server_pipeline::impl` creates. -/
def context (libraries : Libraries) (config : PipelineConfig) (valid : config.isValid = true) :
    PipelineContext where
  encryptionEnabled := config.enableEncryption
  decryptQueue := config.enableEncryption
  verifyQueue := true
  writeQueue := true
  encryptQueue := config.enableEncryption
  compressQueue := true
  sendQueue := true
  compressionEngines := List.replicate config.compressionWorkers .fast
  engines_ne_nil := by
    rw [ne_eq, List.replicate_eq_nil_iff]
    exact compressionWorkers_ne_zero valid
  encryptionEngines :=
    if config.enableEncryption ∧ libraries.aes.isSome then
      List.replicate config.encryptionWorkers AesGcmEngine.create
    else []

def create (libraries : Libraries) (config : PipelineConfig) : Result PipelineContext :=
  if valid : config.isValid = true then .ok (config.context libraries valid)
  else unexpected .invalidConfiguration "Invalid pipeline configuration"

theorem hasKey_context {libraries : Libraries} {config : PipelineConfig}
    (valid : config.isValid = true) {workerId : Nat} {engine : AesGcmEngine}
    (used : (config.context libraries valid).encryptionEngine workerId = some engine) :
    engine.hasKey = false := by
  have mem := PipelineContext.mem_of_encryptionEngine used
  simp only [context] at mem
  split at mem
  · rw [List.eq_of_mem_replicate mem]
    rfl
  · contradiction

end PipelineConfig

/-! ## The state of a pipeline -/

/-- The two ways through the pipeline. -/
inductive Direction
  | upload
  | download
  deriving DecidableEq

/-- The direction of the chunk that a job holds. -/
def Job.direction : Job → Direction
  | decompress _ _ => .upload
  | decrypt _ _ => .upload
  | verify _ => .upload
  | write _ => .upload
  | read _ => .download
  | encrypt _ _ => .download
  | compress _ _ => .download
  | send _ => .download

/-- The calls of the callbacks `on_error`, `on_upload_complete` and
`on_download_ready`. -/
inductive Report
  | error (stage : PipelineStage) (message : Bytes)
  | uploadComplete (id : TransferId) (bytes : Nat)
  | downloadReady (chunk : PipelineChunk)
  deriving DecidableEq

/-- The call of a callback that ends the way of a chunk. -/
def JobOutcome.report : JobOutcome → Option Report
  | .failed stage report _ => some (.error stage report)
  | .uploaded chunk => some (.uploadComplete chunk.id chunk.data.length)
  | .delivered chunk => some (.downloadReady chunk)
  | _ => none

/-- The job that the pool took over. -/
def JobOutcome.next : JobOutcome → Option Job
  | .enqueued job => some job
  | _ => none

/-- A pipeline with its pool: the running flag, the worker counter, the
direction of every accepted submission, the jobs that wait and the calls of the
callbacks, the last two with the ticket of their submission. -/
structure PipelineState where
  running : Bool
  nextWorkerId : Nat
  accepted : List Direction
  pending : List (Nat × Job)
  reports : List (Nat × Report)

/-- A pipeline after `create`. -/
def PipelineState.initial : PipelineState where
  running := false
  nextWorkerId := 0
  accepted := []
  pending := []
  reports := []

/-- The calls of a pipeline, and the execution of a waiting job. -/
inductive PipelineInput
  | start (poolStarts : Bool)
  | stop
  | submitUploadChunk (chunk : PipelineChunk) (accepts : Bool)
  | submitDownloadRequest (request : ReadJob) (accepts : Bool)
  | execute (index : Nat) (isCancelled accepts : Bool) (resources : JobResources)

/-- What a call returns if it returns, and how a job ends. -/
inductive PipelineOutput
  | returned (result : Result Unit)
  | worked (outcome : JobOutcome)
  | idle
  | waits

namespace PipelineState

/-- Hand a job of a new submission to the pool. -/
def submit (state : PipelineState) (job : Job) (accepts : Bool) :
    PipelineOutput × PipelineState :=
  if accepts then
    (.returned (.ok ()), { state with
      accepted := state.accepted ++ [job.direction]
      pending := state.pending ++ [(state.accepted.length, job)] })
  else (.returned (unexpected .internalError "Queue full - backpressure applied"), state)

/-- What the end of a job with this ticket leaves behind. -/
def record (state : PipelineState) (ticket : Nat) (outcome : JobOutcome) : PipelineState :=
  { state with
    pending := state.pending ++ outcome.next.toList.map (ticket, ·)
    reports := state.reports ++ outcome.report.toList.map (ticket, ·) }

/-- Take a waiting job out of the pool. -/
def take (state : PipelineState) (index : Nat) : PipelineState :=
  { state with pending := state.pending.eraseIdx index }

variable (libraries : Libraries) (context : PipelineContext)

/-- One call, or one execution of a waiting job. -/
def step : Step PipelineState PipelineInput PipelineOutput := fun state input =>
  match input with
  | .start poolStarts =>
      if state.running then
        (.returned (unexpected .alreadyInitialized "Pipeline is already running"), state)
      else if poolStarts then (.returned (.ok ()), { state with running := true })
      else (.returned (unexpected .internalError "Failed to start thread pool"), state)
  | .stop =>
      if ¬ state.running then
        (.returned (unexpected .notInitialized "Pipeline is not running"), state)
      else (.returned (.ok ()), { state with running := false })
  | .submitUploadChunk chunk accepts =>
      if ¬ state.running then
        (.returned (unexpected .notInitialized "Pipeline is not running"), state)
      else
        { state with nextWorkerId := state.nextWorkerId + 1 }.submit
          (.decompress chunk state.nextWorkerId) accepts
  | .submitDownloadRequest request accepts =>
      if ¬ state.running then
        (.returned (unexpected .notInitialized "Pipeline is not running"), state)
      else state.submit (.read request) accepts
  | .execute index isCancelled accepts resources =>
      match state.pending[index]? with
      | none => (.idle, state)
      | some (ticket, job) =>
          let outcome :=
            job.doWork libraries context ⟨isCancelled, state.running, accepts⟩ resources
          (.worked outcome, (state.take index).record ticket outcome)

end PipelineState

/-- The state that a created pipeline reaches by a list of calls and executions. -/
def PipelineConfig.reached (libraries : Libraries) (config : PipelineConfig)
    (valid : config.isValid = true) (inputs : List PipelineInput) : PipelineState :=
  final (PipelineState.step libraries (config.context libraries valid)) .initial inputs

/-! ## Bandwidth limits -/

/-- `pipeline_config`; the limits are in bytes per second, and 0 is none. -/
structure LimitedConfig extends PipelineConfig where
  sendBandwidthLimit : UInt64
  recvBandwidthLimit : UInt64

/-- `acquire` of the limiter for this limit, if there is one, returns for so many bytes. -/
def admits (limit : UInt64) (bytes : Nat) : Bool :=
  limit = 0 || bytes = 0 || bytes * 1000000 < limit.toNat * 1000001

theorem letsThrough_iff_admits {limiter : BandwidthLimiter} (enabled : limiter.enabled = true)
    (limit : limiter.bytesPerSecond ≠ 0) {now : ℚ} (past : limiter.lastRefill ≤ now) {bytes : Nat}
    (sized : bytes < 2 ^ 64) :
    limiter.LetsThrough (UInt64.ofNat bytes) now ↔ admits limiter.bytesPerSecond bytes = true := by
  have count : (UInt64.ofNat bytes).toNat = bytes := UInt64.toNat_ofNat_of_lt' sized
  have none_iff : UInt64.ofNat bytes = 0 ↔ bytes = 0 := by
    rw [← UInt64.toNat_inj, count]
    rfl
  rw [BandwidthLimiter.letsThrough_iff (fun _ => limit) past, none_iff,
    BandwidthLimiter.FitsBurst, count, admits]
  simp only [enabled, limit, Bool.or_eq_true, decide_eq_true_eq, Bool.true_eq_false, false_or]
  exact or_congr_right (by exact_mod_cast Iff.rfl)

/-- The job waits at the send limiter for good. -/
def Job.waits (config : LimitedConfig) : Job → Bool
  | send chunk => !admits config.sendBandwidthLimit chunk.data.length
  | _ => false

/-- `do_work` with the wait of a send job for bandwidth. -/
def Job.limitedWork (libraries : Libraries) (config : LimitedConfig) (context : PipelineContext)
    (env : JobEnvironment) (resources : JobResources) (job : Job) : JobOutcome :=
  if env.isCancelled = false ∧ env.isRunning = true ∧ job.waits config = true then .blocked
  else job.doWork libraries context env resources

/-- `step` with the waits for bandwidth: `submit_upload_chunk` waits before it takes a worker,
and a blocked job leaves the pool without an end. -/
def PipelineState.limitedStep (libraries : Libraries) (config : LimitedConfig)
    (context : PipelineContext) : Step PipelineState PipelineInput PipelineOutput :=
  fun state input =>
    match input with
    | .submitUploadChunk chunk _ =>
        if state.running ∧ ¬ admits config.recvBandwidthLimit chunk.data.length then
          (.waits, state)
        else step libraries context state input
    | .execute index isCancelled accepts resources =>
        match state.pending[index]? with
        | none => (.idle, state)
        | some (ticket, job) =>
            let outcome := job.limitedWork libraries config context
              ⟨isCancelled, state.running, accepts⟩ resources
            (.worked outcome, (state.take index).record ticket outcome)
    | _ => step libraries context state input

/-- The state that a created pipeline with limits reaches. -/
def LimitedConfig.reached (libraries : Libraries) (config : LimitedConfig)
    (valid : config.isValid = true) (inputs : List PipelineInput) : PipelineState :=
  final (PipelineState.limitedStep libraries config (config.context libraries valid)) .initial
    inputs

/-! ## How a job ends -/

section

variable {libraries : Libraries} {context : PipelineContext} {env : JobEnvironment}
variable {resources : JobResources} {job next : Job} {report : Report}

theorem JobOutcome.eq_enqueued_of_next {outcome : JobOutcome} (handed : outcome.next = some job) :
    outcome = .enqueued job := by
  cases outcome with
  | enqueued other => rw [Option.some.inj handed]
  | _ => contradiction

theorem Job.direction_of_process
    (processed : job.process libraries context resources = .enqueued next) :
    next.direction = job.direction := by
  cases job with
  | decompress chunk workerId =>
      simp only [process, decompressJob, PipelineContext.afterDecompress] at processed
      repeat' split at processed
      all_goals first | contradiction | (cases processed; rfl)
  | decrypt chunk workerId =>
      simp only [process, decryptJob] at processed
      repeat' split at processed
      all_goals first | contradiction | (cases processed; rfl)
  | verify chunk =>
      simp only [process, verifyJob] at processed
      repeat' split at processed
      all_goals first | contradiction | (cases processed; rfl)
  | write chunk => contradiction
  | read request =>
      obtain ⟨content, stored, seekable, rfl⟩ := ReadJob.process_eq_enqueued processed
      split <;> rfl
  | encrypt chunk workerId =>
      simp only [process, encryptJob] at processed
      repeat' split at processed
      all_goals first | contradiction | (cases processed; rfl)
  | compress chunk workerId =>
      rw [compressJob_eq_enqueued processed]
      rfl
  | send chunk => contradiction

theorem Job.eq_send_of_process {chunk : PipelineChunk}
    (processed : job.process libraries context resources = .delivered chunk) :
    job = .send chunk := by
  cases job with
  | send held => rw [JobOutcome.delivered.inj processed]
  | decompress held workerId =>
      simp only [process, decompressJob, PipelineContext.afterDecompress] at processed
      repeat' split at processed
      all_goals contradiction
  | decrypt held workerId =>
      simp only [process, decryptJob] at processed
      repeat' split at processed
      all_goals contradiction
  | verify held =>
      simp only [process, verifyJob] at processed
      repeat' split at processed
      all_goals contradiction
  | write held => contradiction
  | read request =>
      simp only [process, ReadJob.process] at processed
      repeat' split at processed
      all_goals contradiction
  | encrypt held workerId =>
      simp only [process, encryptJob] at processed
      repeat' split at processed
      all_goals contradiction
  | compress held workerId =>
      simp only [process, compressJob] at processed
      repeat' split at processed
      all_goals contradiction

theorem Job.eq_send_of_report {chunk : PipelineChunk}
    (called : (job.doWork libraries context env resources).report = some (.downloadReady chunk)) :
    job = .send chunk := by
  cases ended : job.doWork libraries context env resources with
  | delivered held =>
      rw [ended] at called
      obtain rfl := Report.downloadReady.inj (Option.some.inj called)
      exact eq_send_of_process (process_of_delivered ended)
  | _ => simp [ended, JobOutcome.report] at called

end

end FileTrans.Server
