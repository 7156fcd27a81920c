import FileTrans.Server.ServerPipeline

/-!
# Downloads of a pipeline with encryption

`server_pipeline::impl` creates the encryption engines, and no code of the
pipeline sets their keys.  The encrypt stage lets a chunk pass that meets no
engine with a key, so a created pipeline delivers every chunk in plaintext,
with encryption enabled and without an error.
-/

namespace FileTrans.Server

open FileTrans.Core
open FileTrans.Encryption
open FileTrans.Storage
open FileTrans.Transition

/-- Every chunk that is handed to `on_download_ready`, in whatever run, is encrypted. -/
def PipelineConfig.DeliversCiphertext (libraries : Libraries) (config : PipelineConfig)
    (valid : config.isValid = true) : Prop :=
  ∀ inputs ticket chunk,
    (ticket, .downloadReady chunk) ∈ (config.reached libraries valid inputs).reports →
      chunk.isEncrypted = true

/-- No encryption engine of the pipeline has a key. -/
def PipelineContext.Keyless (context : PipelineContext) : Prop :=
  ∀ workerId engine, context.encryptionEngine workerId = some engine → engine.hasKey = false

theorem PipelineConfig.keyless_context (libraries : Libraries) {config : PipelineConfig}
    (valid : config.isValid = true) : (config.context libraries valid).Keyless :=
  fun _ _ used => hasKey_context valid used

/-- The chunk of a download job is not encrypted. -/
def Job.Plaintext : Job → Prop
  | encrypt chunk _ => chunk.isEncrypted = false
  | compress chunk _ => chunk.isEncrypted = false
  | send chunk => chunk.isEncrypted = false
  | _ => True

theorem isEncrypted_compressChunk (lz4 : Option Lz4) (level : CompressionLevel)
    (chunk : PipelineChunk) : (compressChunk lz4 level chunk).isEncrypted = chunk.isEncrypted := by
  rcases compressChunk_cases lz4 level chunk with ⟨kept, -⟩ | ⟨block, -, -, -, packed⟩
  · rw [kept]
  · rw [packed]

section

variable {libraries : Libraries} {context : PipelineContext} {resources : JobResources}
variable {env : JobEnvironment}

theorem encryptStage_of_keyless (keyless : context.Keyless) (aes : Option AesGcm)
    (random : Option Bytes) (chunk : PipelineChunk) (workerId : Nat) :
    encryptStage aes context random chunk workerId = .ok chunk := by
  cases aes with
  | none => rfl
  | some aes =>
      cases used : context.encryptionEngine workerId with
      | none => simp only [encryptStage, used]
      | some engine =>
          simp only [encryptStage, used, keyless workerId engine used, Bool.false_eq_true, if_false]

theorem Job.plaintext_of_upload {job : Job} (upload : job.direction = .upload) :
    job.Plaintext := by
  cases job with
  | encrypt chunk workerId => contradiction
  | compress chunk workerId => contradiction
  | send chunk => contradiction
  | _ => trivial

theorem Job.Plaintext.next (keyless : context.Keyless) {job next : Job} (plain : job.Plaintext)
    (handed : job.process libraries context resources = .enqueued next) : next.Plaintext := by
  have forward := direction_of_process handed
  cases job with
  | read request =>
      obtain ⟨content, -, -, rfl⟩ := ReadJob.process_eq_enqueued handed
      split <;> rfl
  | encrypt chunk workerId =>
      rw [process, encryptJob, encryptStage_of_keyless keyless] at handed
      dsimp only at handed
      split at handed
      · cases handed
        exact plain
      · contradiction
  | compress chunk workerId =>
      rw [compressJob_eq_enqueued handed]
      exact (isEncrypted_compressChunk _ _ _).trans plain
  | send chunk => contradiction
  | write chunk => contradiction
  | decompress chunk workerId => exact plaintext_of_upload forward
  | decrypt chunk workerId => exact plaintext_of_upload forward
  | verify chunk => exact plaintext_of_upload forward

end

/-! ## Every run -/

/-- The waiting download jobs hold plaintext, and plaintext was delivered. -/
structure PipelineState.Plaintext (state : PipelineState) : Prop where
  pending : ∀ ticket job, (ticket, job) ∈ state.pending → job.Plaintext
  delivered : ∀ ticket chunk, (ticket, .downloadReady chunk) ∈ state.reports →
    chunk.isEncrypted = false

namespace PipelineState.Plaintext

variable {libraries : Libraries} {context : PipelineContext} {state : PipelineState}

theorem submit (plain : state.Plaintext) {job : Job} (starts : job.Plaintext) (accepts : Bool) :
    (state.submit job accepts).2.Plaintext := by
  cases accepts with
  | false => exact plain
  | true =>
      constructor
      · intro ticket other mem
        rcases List.mem_append.mp mem with old | new
        · exact plain.pending ticket other old
        · cases List.mem_singleton.mp new
          exact starts
      · exact plain.delivered

theorem record (keyless : context.Keyless) (plain : state.Plaintext) {index ticket : Nat}
    {job : Job} (waiting : state.pending[index]? = some (ticket, job)) (env : JobEnvironment)
    (resources : JobResources) :
    ((state.take index).record ticket (job.doWork libraries context env resources)).Plaintext := by
  have held := plain.pending ticket job (List.mem_of_getElem? waiting)
  constructor
  · intro other next mem
    rcases List.mem_append.mp mem with old | new
    · exact plain.pending other next (List.mem_of_mem_eraseIdx old)
    · obtain ⟨handed, found, same⟩ := List.mem_map.mp new
      cases same
      have enqueued := JobOutcome.eq_enqueued_of_next (Option.mem_toList.mp found)
      exact held.next keyless (Job.process_of_enqueued enqueued)
  · intro other chunk mem
    rcases List.mem_append.mp mem with old | new
    · exact plain.delivered other chunk old
    · obtain ⟨called, found, same⟩ := List.mem_map.mp new
      cases same
      rw [Job.eq_send_of_report (Option.mem_toList.mp found)] at held
      exact held

theorem step (keyless : context.Keyless) (plain : state.Plaintext) (input : PipelineInput) :
    (PipelineState.step libraries context state input).2.Plaintext := by
  cases input with
  | start poolStarts =>
      simp only [PipelineState.step]
      repeat' split
      all_goals exact ⟨plain.pending, plain.delivered⟩
  | stop =>
      simp only [PipelineState.step]
      split
      all_goals exact ⟨plain.pending, plain.delivered⟩
  | submitUploadChunk chunk accepts =>
      simp only [PipelineState.step]
      split
      · exact plain
      · apply submit _ (Job.plaintext_of_upload rfl)
        exact ⟨plain.pending, plain.delivered⟩
  | submitDownloadRequest request accepts =>
      simp only [PipelineState.step]
      split
      · exact plain
      · have starts : (Job.read request).Plaintext := trivial
        exact plain.submit starts accepts
  | execute index isCancelled accepts resources =>
      cases found : state.pending[index]? with
      | none =>
          simp only [PipelineState.step, found]
          exact plain
      | some entry =>
          simp only [PipelineState.step, found]
          exact plain.record keyless found _ resources

end PipelineState.Plaintext

theorem PipelineState.plaintext_initial : initial.Plaintext where
  pending _ _ mem := absurd mem List.not_mem_nil
  delivered _ _ mem := absurd mem List.not_mem_nil

theorem PipelineConfig.plaintext_reached (libraries : Libraries) {config : PipelineConfig}
    (valid : config.isValid = true) (inputs : List PipelineInput) :
    (config.reached libraries valid inputs).Plaintext :=
  final_invariant PipelineState.Plaintext
    (fun _ input plain => plain.step (config.keyless_context libraries valid) input)
    PipelineState.plaintext_initial inputs

/-! ## A run that delivers -/

/-- A download request in a pipeline where every job is executed and the pool takes every job. -/
def downloadRun (request : ReadJob) (resources : JobResources) : List PipelineInput :=
  [.start true, .submitDownloadRequest request true, .execute 0 false true resources,
    .execute 0 false true resources, .execute 0 false true resources,
    .execute 0 false true resources]

section

variable {libraries : Libraries} {context : PipelineContext} {resources : JobResources}
variable {ticket : Nat} {job : Job}

variable {nextWorkerId : Nat} {accepted : List Direction} {reports : List (Nat × Report)}

theorem PipelineState.step_of_enqueued {next : Job}
    (handed : job.process libraries context resources = .enqueued next) :
    (PipelineState.step libraries context
      ⟨true, nextWorkerId, accepted, [(ticket, job)], reports⟩
      (.execute 0 false true resources)).2 =
        ⟨true, nextWorkerId, accepted, [(ticket, next)], reports⟩ := by
  simp only [step, List.getElem?_cons_zero, Job.doWork_of_permitted, handed, take, record,
    List.eraseIdx_cons_zero, JobOutcome.next, JobOutcome.report, Option.toList_some,
    Option.toList_none, List.map_cons, List.map_nil, List.nil_append, List.append_nil]

theorem PipelineState.step_of_delivered {chunk : PipelineChunk}
    (delivered : job.process libraries context resources = .delivered chunk) :
    (PipelineState.step libraries context
      ⟨true, nextWorkerId, accepted, [(ticket, job)], reports⟩
      (.execute 0 false true resources)).2 =
        ⟨true, nextWorkerId, accepted, [], reports ++ [(ticket, .downloadReady chunk)]⟩ := by
  simp only [step, List.getElem?_cons_zero, Job.doWork_of_permitted, delivered, take, record,
    List.eraseIdx_cons_zero, JobOutcome.next, JobOutcome.report, Option.toList_some,
    Option.toList_none, List.map_cons, List.map_nil, List.nil_append]

end

theorem PipelineConfig.reports_downloadRun (libraries : Libraries) {config : PipelineConfig}
    (valid : config.isValid = true) (enabled : config.enableEncryption = true)
    {request : ReadJob} {resources : JobResources} {content : Bytes}
    (readable : request.Readable resources content) :
    (config.reached libraries valid (downloadRun request resources)).reports =
      [(0, .downloadReady (compressChunk libraries.lz4 .fast
        (request.chunk (readAt content request.offset.toNat request.size))))] := by
  have encrypts : (config.context libraries valid).encryptionEnabled = true ∧
      (config.context libraries valid).encryptQueue = true := ⟨enabled, enabled⟩
  have fast : (config.context libraries valid).engine request.chunkIndex.toNat = .fast :=
    List.eq_of_mem_replicate (List.get_mem _ _)
  have keyless := config.keyless_context libraries valid
  have started : (PipelineState.step libraries (config.context libraries valid)
      (PipelineState.step libraries (config.context libraries valid) .initial (.start true)).2
        (.submitDownloadRequest request true)).2 =
      ⟨true, 0, [.download], [(0, .read request)], []⟩ := rfl
  have read : (Job.read request).process libraries (config.context libraries valid) resources =
      .enqueued (.encrypt (request.chunk (readAt content request.offset.toNat request.size))
        request.chunkIndex.toNat) :=
    (ReadJob.process_of_readable readable rfl).trans
    (congrArg JobOutcome.enqueued (if_pos encrypts))
  generalize request.chunk (readAt content request.offset.toNat request.size) = raw at read ⊢
  have encrypted : (Job.encrypt raw request.chunkIndex.toNat).process libraries
      (config.context libraries valid) resources =
        .enqueued (.compress raw request.chunkIndex.toNat) := by
    rw [Job.process, encryptJob, encryptStage_of_keyless keyless]
    exact if_pos rfl
  have compressed : (Job.compress raw request.chunkIndex.toNat).process libraries
      (config.context libraries valid) resources =
        .enqueued (.send (compressChunk libraries.lz4 .fast raw)) := by
    rw [Job.process, compressJob, fast]
    exact if_pos rfl
  have sent : (Job.send (compressChunk libraries.lz4 .fast raw)).process libraries
      (config.context libraries valid) resources =
        .delivered (compressChunk libraries.lz4 .fast raw) := rfl
  simp only [reached, downloadRun, final_cons, final_nil, started,
    PipelineState.step_of_enqueued read, PipelineState.step_of_enqueued encrypted,
    PipelineState.step_of_enqueued compressed, PipelineState.step_of_delivered sent,
    List.nil_append]

/-! ## Three bytes downloaded -/

namespace DownloadSample

/-- The bytes `abc`. -/
def content : Bytes :=
  [0x61, 0x62, 0x63]

def request : ReadJob :=
  ⟨TransferId.zero, 0, Text.ascii "secret", 0, 3⟩

def resources : JobResources :=
  ⟨fun _ => some content, .success, none⟩

theorem readable : request.Readable resources content :=
  ⟨rfl, rfl, by decide, by decide⟩

/-- A cipher that never fails; no engine of a created pipeline calls it. -/
def libraries : Libraries :=
  ⟨none, some ⟨fun _ _ plaintext => some (plaintext, []), fun _ _ _ sealed _ => some sealed, []⟩⟩

/-- The default configuration with encryption. -/
def config : PipelineConfig :=
  { PipelineConfig.default with enableEncryption := true }

end DownloadSample

/-- For every configuration that `create` accepts with encryption enabled, not every delivered
chunk is encrypted: no run delivers an encrypted chunk, and every readable request is delivered
in plaintext by some run, without an error. -/
theorem PipelineConfig.create_never_encrypts (libraries : Libraries) {config : PipelineConfig}
    (valid : config.isValid = true) (enabled : config.enableEncryption = true) :
    ¬ config.DeliversCiphertext libraries valid ∧
    (∀ inputs ticket chunk,
      (ticket, .downloadReady chunk) ∈ (config.reached libraries valid inputs).reports →
        chunk.isEncrypted = false) ∧
    ∀ (request : ReadJob) resources content, request.Readable resources content → ∃ inputs,
      (config.reached libraries valid inputs).reports =
        [(0, .downloadReady (compressChunk libraries.lz4 .fast
          (request.chunk (readAt content request.offset.toNat request.size))))] := by
  have plain : ∀ inputs ticket chunk,
      (ticket, .downloadReady chunk) ∈ (config.reached libraries valid inputs).reports →
        chunk.isEncrypted = false := by
    intro inputs
    exact (config.plaintext_reached libraries valid inputs).delivered
  have delivers : ∀ (request : ReadJob) resources content, request.Readable resources content →
      ∃ inputs, (config.reached libraries valid inputs).reports =
        [(0, .downloadReady (compressChunk libraries.lz4 .fast
          (request.chunk (readAt content request.offset.toNat request.size))))] := by
    intro request resources content readable
    exact ⟨_, config.reports_downloadRun libraries valid enabled readable⟩
  refine ⟨?_, plain, delivers⟩
  intro encrypted
  obtain ⟨inputs, reports⟩ :=
    delivers DownloadSample.request DownloadSample.resources DownloadSample.content
    DownloadSample.readable
  have mem := List.mem_singleton_self (0, Report.downloadReady (compressChunk libraries.lz4 .fast
    (DownloadSample.request.chunk (readAt DownloadSample.content DownloadSample.request.offset.toNat
      DownloadSample.request.size))))
  rw [← reports] at mem
  have sealed := encrypted inputs 0 _ mem
  rw [plain inputs 0 _ mem] at sealed
  contradiction

/-- Three bytes of a file, requested from the default configuration with encryption. -/
theorem PipelineConfig.create_never_encrypts_default :
    ¬ DownloadSample.config.DeliversCiphertext DownloadSample.libraries rfl ∧
    (∀ inputs ticket chunk,
      (ticket, .downloadReady chunk) ∈
      (DownloadSample.config.reached DownloadSample.libraries rfl inputs).reports →
        chunk.isEncrypted = false) ∧
    ∀ (request : ReadJob) resources content, request.Readable resources content → ∃ inputs,
      (DownloadSample.config.reached DownloadSample.libraries rfl inputs).reports =
        [(0, .downloadReady (compressChunk none .fast
          (request.chunk (readAt content request.offset.toNat request.size))))] :=
  create_never_encrypts DownloadSample.libraries rfl rfl

/-- Three bytes of a file are handed to `on_download_ready` as they are, and no error is
reported. -/
theorem PipelineConfig.three_bytes_delivered_in_plaintext :
    (DownloadSample.config.reached DownloadSample.libraries rfl
      (downloadRun DownloadSample.request DownloadSample.resources)).reports =
        [(0, .downloadReady (DownloadSample.request.chunk DownloadSample.content))] ∧
    ¬ DownloadSample.config.DeliversCiphertext DownloadSample.libraries rfl := by
  have delivered : (DownloadSample.config.reached DownloadSample.libraries rfl
      (downloadRun DownloadSample.request DownloadSample.resources)).reports =
        [(0, .downloadReady (DownloadSample.request.chunk DownloadSample.content))] :=
    reports_downloadRun DownloadSample.libraries rfl rfl DownloadSample.readable
  refine ⟨delivered, ?_⟩
  intro encrypted
  have mem := List.mem_singleton_self
    (0, Report.downloadReady (DownloadSample.request.chunk DownloadSample.content))
  rw [← delivered] at mem
  exact absurd (encrypted _ _ _ mem) (by decide)

end FileTrans.Server
