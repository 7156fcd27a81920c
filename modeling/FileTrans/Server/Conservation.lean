import FileTrans.Server.ServerPipeline

/-!
# One report for every chunk

Every accepted submission holds a ticket.  A ticket has one waiting job or one
report, until the execution of a job drops it: that of a cancelled job, that of
a job in a stopped pipeline, one that waits for bandwidth for good, one that ends
with an exception, and one whose next job the pool refuses.  A dropped ticket never
comes back.
-/

namespace FileTrans.Server

open FileTrans.Core
open FileTrans.Storage
open FileTrans.Transition

/-- The direction of the stage that an error names. -/
def PipelineStage.direction : PipelineStage → Direction
  | networkRecv => .upload
  | decompress => .upload
  | decrypt => .upload
  | chunkVerify => .upload
  | fileWrite => .upload
  | networkSend => .download
  | fileRead => .download
  | encrypt => .download
  | compress => .download

/-- The direction of the chunk that a callback is called for. -/
def Report.direction : Report → Direction
  | error stage _ => stage.direction
  | uploadComplete _ _ => .upload
  | downloadReady _ => .download

/-- The job neither reports nor hands its chunk on. -/
def JobOutcome.Drops (outcome : JobOutcome) : Prop :=
  outcome.next = none ∧ outcome.report = none

/-- What the end of a job leaves to its ticket: one entry, or none. -/
def JobOutcome.entries (outcome : JobOutcome) : Nat :=
  outcome.next.toList.length + outcome.report.toList.length

theorem JobOutcome.entries_le_one (outcome : JobOutcome) : outcome.entries ≤ 1 := by
  cases outcome <;> simp [entries, next, report]

theorem JobOutcome.entries_eq_zero_iff (outcome : JobOutcome) :
    outcome.entries = 0 ↔ outcome.Drops := by
  simp only [entries, Drops, Nat.add_eq_zero_iff, List.length_eq_zero_iff,
    Option.toList_eq_nil_iff]

/-- The stages that a chunk can be handed to exist. -/
structure PipelineContext.Connected (context : PipelineContext) : Prop where
  verify : context.verifyQueue = true
  write : context.writeQueue = true
  compress : context.compressQueue = true
  send : context.sendQueue = true

/-- The job allocates more than a vector can hold. -/
def Job.overflows (libraries : Libraries) (resources : JobResources) : Job → Bool
  | decompress chunk _ => chunk.isCompressed && decompressThrows libraries.lz4 chunk
  | read request =>
      (resources.files request.filePath).isSome && resources.disk.opens &&
        decide (request.offset.toNat < streamOffsetBound) && decide (maxVectorSize < request.size)
  | _ => false

/-- The job asks the pool to take the job of the next stage. -/
def Job.HandsOver (libraries : Libraries) (context : PipelineContext) (resources : JobResources)
    (job : Job) : Prop :=
  ∃ next, job.process libraries context resources = .enqueued next

/-- The execution keeps the chunk: the token is not cancelled, the pipeline runs, the send limiter
lets the chunk through, nothing overflows, and the pool takes the job that it is asked to take. -/
def Job.Kept (libraries : Libraries) (config : LimitedConfig) (context : PipelineContext)
    (env : JobEnvironment) (resources : JobResources) (job : Job) : Prop :=
  env.isCancelled = false ∧ env.isRunning = true ∧ job.waits config = false ∧
    job.overflows libraries resources = false ∧
    (job.HandsOver libraries context resources → env.accepts = true)

/-! ## What a job can end with -/

section

variable {libraries : Libraries} {config : LimitedConfig} {context : PipelineContext}
variable {env : JobEnvironment} {resources : JobResources} {job : Job} {report : Report}

/-- The work on a chunk overflows, hands the chunk on, or calls back for it. -/
def Job.Ends (libraries : Libraries) (resources : JobResources) (job : Job)
    (outcome : JobOutcome) : Prop :=
  (outcome = .threw ∧ job.overflows libraries resources = true) ∨
    job.overflows libraries resources = false ∧
      ((∃ next, outcome = .enqueued next) ∨
        ∃ report, outcome.report = some report ∧ report.direction = job.direction)

theorem Job.ends_of_enqueued {next : Job} (fits : job.overflows libraries resources = false) :
    job.Ends libraries resources (.enqueued next) :=
  Or.inr ⟨fits, Or.inl ⟨next, rfl⟩⟩

theorem Job.ends_of_failed {stage : PipelineStage} {text message : Bytes}
    (fits : job.overflows libraries resources = false)
    (same : stage.direction = job.direction) :
    job.Ends libraries resources (.failed stage text message) :=
  Or.inr ⟨fits, Or.inr ⟨.error stage text, rfl, same⟩⟩

theorem Job.ends_afterDecompress (connected : context.Connected) {chunk : PipelineChunk}
    {workerId : Nat} (fits : job.overflows libraries resources = false) :
    job.Ends libraries resources (context.afterDecompress chunk workerId) := by
  unfold PipelineContext.afterDecompress
  rw [connected.verify, if_pos rfl]
  split
  · exact ends_of_enqueued fits
  · exact ends_of_enqueued fits

theorem Job.decompress_ends (connected : context.Connected) (chunk : PipelineChunk)
    (workerId : Nat) :
    (decompress chunk workerId).Ends libraries resources
      (decompressJob libraries.lz4 context chunk workerId) := by
  unfold decompressJob
  cases packed : chunk.isCompressed with
  | false =>
      rw [if_neg Bool.false_ne_true]
      apply ends_afterDecompress connected
      rw [overflows, packed, Bool.false_and]
  | true =>
      rw [if_pos rfl]
      cases large : decompressThrows libraries.lz4 chunk with
      | true =>
          left
          constructor
          · exact if_pos rfl
          · rw [overflows, packed, large, Bool.true_and]
      | false =>
          have fits : (decompress chunk workerId).overflows libraries resources = false := by
            rw [overflows, packed, large, Bool.true_and]
          rw [if_neg Bool.false_ne_true]
          split
          · exact ends_afterDecompress connected fits
          · exact ends_of_failed fits rfl

theorem Job.read_ends (connected : context.Connected) (request : ReadJob) :
    (read request).Ends libraries resources
      (request.process context resources.files resources.disk) := by
  unfold ReadJob.process
  cases stored : resources.files request.filePath with
  | none =>
      apply ends_of_failed _ rfl
      rw [overflows, stored, Option.isSome_none, Bool.false_and, Bool.false_and, Bool.false_and]
  | some content =>
      cases opened : resources.disk.opens with
      | false =>
          apply ends_of_failed _ rfl
          rw [overflows, opened, Bool.and_false, Bool.false_and, Bool.false_and]
      | true =>
          dsimp only
          by_cases seekable : request.offset.toNat < streamOffsetBound
          · have good :
              ((InputStream.openFile content).seekg request.offset.toNat).good = true := by
              simp [InputStream.openFile, InputStream.seekg, seekable]
            rw [if_neg (fun bad => bad good)]
            by_cases large : maxVectorSize < request.size
            · left
              constructor
              · exact if_pos large
              · simp only [overflows, stored, opened, seekable, large, Option.isSome_some,
                  decide_true, Bool.and_self]
            · have fits : (read request).overflows libraries resources = false := by
                simp only [overflows, large, decide_false, Bool.and_false]
              rw [if_neg large, connected.compress, if_pos rfl]
              split
              · exact ends_of_enqueued fits
              · exact ends_of_enqueued fits
          · have bad :
              ¬ ((InputStream.openFile content).seekg request.offset.toNat).good = true := by
              simp [InputStream.seekg, seekable]
            rw [if_pos bad]
            apply ends_of_failed _ rfl
            simp only [overflows, seekable, decide_false, Bool.and_false, Bool.false_and]

theorem Job.process_ends (connected : context.Connected) (job : Job) :
    job.Ends libraries resources (job.process libraries context resources) := by
  cases job with
  | decompress chunk workerId => exact decompress_ends connected chunk workerId
  | read request => exact read_ends connected request
  | write chunk => exact Or.inr ⟨rfl, Or.inr ⟨_, rfl, rfl⟩⟩
  | send chunk => exact Or.inr ⟨rfl, Or.inr ⟨_, rfl, rfl⟩⟩
  | compress chunk workerId =>
      rw [process, compressJob, connected.send]
      exact ends_of_enqueued rfl
  | decrypt chunk workerId =>
      rw [process, decryptJob, connected.verify]
      split
      · exact ends_of_enqueued rfl
      · exact ends_of_failed rfl rfl
  | encrypt chunk workerId =>
      rw [process, encryptJob, connected.compress]
      split
      · exact ends_of_enqueued rfl
      · exact ends_of_failed rfl rfl
  | verify chunk =>
      rw [process, verifyJob, connected.write]
      dsimp only
      split
      · exact ends_of_failed rfl rfl
      · exact ends_of_enqueued rfl

theorem Job.drops_iff (connected : context.Connected) :
    (job.limitedWork libraries config context env resources).Drops ↔
      ¬ job.Kept libraries config context env resources := by
  unfold limitedWork doWork Kept
  cases env.isCancelled with
  | true => exact iff_of_true ⟨rfl, rfl⟩ fun kept => absurd kept.1 (by decide)
  | false =>
      cases env.isRunning with
      | false => exact iff_of_true ⟨rfl, rfl⟩ fun kept => absurd kept.2.1 (by decide)
      | true =>
          cases waits : job.waits config with
          | true =>
              rw [if_pos ⟨rfl, rfl, rfl⟩]
              exact iff_of_true ⟨rfl, rfl⟩ fun kept => absurd kept.2.2.1 (by decide)
          | false =>
              rw [if_neg fun blocked => Bool.false_ne_true blocked.2.2, if_neg Bool.false_ne_true,
                if_neg fun stopped => stopped rfl]
              have ends : job.Ends libraries resources (job.process libraries context resources) :=
                process_ends connected job
              rcases ends with ⟨threw, large⟩ | ⟨fits, ⟨next, handed⟩ | ⟨report, called, -⟩⟩
              · rw [threw, large]
                exact iff_of_true ⟨rfl, rfl⟩ fun kept => absurd kept.2.2.2.1 (by decide)
              · rw [handed, fits]
                dsimp only
                have asks : job.HandsOver libraries context resources := ⟨next, handed⟩
                cases env.accepts with
                | true =>
                    rw [if_pos rfl]
                    apply iff_of_false
                    · exact fun dropped => absurd dropped.1 (by simp [JobOutcome.next])
                    · exact fun lost => lost ⟨rfl, rfl, rfl, rfl, fun _ => rfl⟩
                | false =>
                    rw [if_neg Bool.false_ne_true]
                    apply iff_of_true
                    · exact ⟨rfl, rfl⟩
                    · exact fun kept => absurd (kept.2.2.2.2 asks) (by decide)
              · have silent : ¬ job.HandsOver libraries context resources := by
                  rintro ⟨next, handed⟩
                  rw [handed] at called
                  contradiction
                rw [fits]
                apply iff_of_false
                · intro dropped
                  split at dropped
                  · rename_i next handed
                    exact absurd ⟨next, handed⟩ silent
                  · rw [JobOutcome.Drops, called] at dropped
                    exact absurd dropped.2 (by simp)
                · exact fun lost => lost ⟨rfl, rfl, rfl, rfl, fun asks => absurd asks silent⟩

variable (config job) in
theorem Job.limitedWork_cases :
    job.limitedWork libraries config context env resources = .blocked ∨
      job.limitedWork libraries config context env resources =
        job.doWork libraries context env resources := by
  unfold limitedWork
  split
  · exact Or.inl rfl
  · exact Or.inr rfl

theorem Job.next_direction {next : Job}
    (handed : (job.limitedWork libraries config context env resources).next = some next) :
    next.direction = job.direction := by
  rcases limitedWork_cases config job with blocked | worked
  · rw [blocked] at handed
    contradiction
  rw [worked] at handed
  apply direction_of_process
  exact process_of_enqueued (JobOutcome.eq_enqueued_of_next handed)

theorem Job.report_direction (connected : context.Connected)
    (called : (job.limitedWork libraries config context env resources).report = some report) :
    report.direction = job.direction := by
  rcases limitedWork_cases config job with blocked | worked
  · rw [blocked] at called
    contradiction
  rw [worked] at called
  have processed : (job.process libraries context resources).report = some report := by
    unfold doWork at called
    split at called
    · contradiction
    split at called
    · contradiction
    split at called
    · split at called <;> contradiction
    · exact called
  have ends : job.Ends libraries resources (job.process libraries context resources) :=
    process_ends connected job
  rcases ends with ⟨threw, -⟩ | ⟨-, ⟨next, handed⟩ | ⟨other, same, direction⟩⟩
  · rw [threw] at processed
    contradiction
  · rw [handed] at processed
    contradiction
  · rw [same] at processed
    rw [← Option.some.inj processed, direction]

end

/-! ## The share of a ticket -/

namespace PipelineState

/-- The waiting jobs and the reports of a ticket. -/
def share (state : PipelineState) (ticket : Nat) : Nat :=
  (state.pending.map Prod.fst).count ticket + (state.reports.map Prod.fst).count ticket

/-- No ticket has two of them, and each of them has the direction of its submission. -/
structure Ticketed (state : PipelineState) : Prop where
  share_le : ∀ ticket, state.share ticket ≤ if ticket < state.accepted.length then 1 else 0
  pending_direction : ∀ ticket job, (ticket, job) ∈ state.pending →
    state.accepted[ticket]? = some job.direction
  report_direction : ∀ ticket report, (ticket, report) ∈ state.reports →
    state.accepted[ticket]? = some report.direction

/-- Every accepted submission has a waiting job or a report. -/
def Conserved (state : PipelineState) : Prop :=
  ∀ ticket < state.accepted.length, state.share ticket = 1

/-- A job that the step executes keeps its chunk. -/
def Keeps (libraries : Libraries) (config : LimitedConfig) (context : PipelineContext)
    (state : PipelineState) : PipelineInput → Prop
  | .execute index isCancelled accepts resources =>
      ∀ ticket job, state.pending[index]? = some (ticket, job) →
        job.Kept libraries config context ⟨isCancelled, state.running, accepts⟩ resources
  | _ => True

theorem ticketed_initial : initial.Ticketed where
  share_le _ := Nat.zero_le _
  pending_direction _ _ mem := absurd mem List.not_mem_nil
  report_direction _ _ mem := absurd mem List.not_mem_nil

theorem conserved_initial : initial.Conserved :=
  fun _ below => absurd below (Nat.not_lt_zero _)

section

variable {state : PipelineState} {job : Job} {index ticket : Nat}

theorem count_tagged {α : Type} (entry : Option α) (ticket other : Nat) :
    ((entry.toList.map (ticket, ·)).map Prod.fst).count other =
      if other = ticket then entry.toList.length else 0 := by
  by_cases same : other = ticket
  · subst same
    cases entry <;> simp
  · have distinct : ticket ≠ other := fun equal => same equal.symm
    cases entry <;> simp [same, distinct]

theorem share_submit (accepted : Bool) (other : Nat) :
    (state.submit job accepted).2.share other =
      state.share other + if accepted ∧ other = state.accepted.length then 1 else 0 := by
  cases accepted with
  | false => simp [submit]
  | true =>
      have counted := count_tagged (some job) state.accepted.length other
      simp only [Option.toList_some, List.map_cons, List.map_nil, List.length_singleton] at counted
      simp only [submit, share, if_true, List.map_append, List.map_cons, List.map_nil,
        List.count_append, counted, true_and]
      omega

/-- The execution of a job takes its share of the ticket away, and gives it back unless the
job is dropped. -/
theorem share_record (waiting : state.pending[index]? = some (ticket, job))
    (outcome : JobOutcome) (other : Nat) :
    ((state.take index).record ticket outcome).share other + (if other = ticket then 1 else 0) =
      state.share other + if other = ticket then outcome.entries else 0 := by
  obtain ⟨inside, found⟩ := List.getElem?_eq_some_iff.mp waiting
  have before := (List.getElem_cons_eraseIdx_perm inside).map Prod.fst
  rw [found, List.map_cons] at before
  have counted := before.count_eq other
  rw [List.count_cons] at counted
  simp only [share, record, take, List.map_append, List.count_append, count_tagged]
  by_cases same : other = ticket
  · subst same
    simp only [if_true, beq_self_eq_true, JobOutcome.entries] at counted ⊢
    omega
  · have distinct : (ticket == other) = false := by
      rw [beq_eq_false_iff_ne]
      exact fun equal => same equal.symm
    simp only [distinct, if_neg same] at counted ⊢
    simp only [Bool.false_eq_true, if_false] at counted
    omega

end

/-! ## One step -/

section

variable {libraries : Libraries} {config : LimitedConfig} {context : PipelineContext}

variable (libraries config context) in
theorem limitedStep_cases (state : PipelineState) (input : PipelineInput) :
    (∃ running nextWorkerId,
      (limitedStep libraries config context state input).2 =
        { state with running := running, nextWorkerId := nextWorkerId } ∧
      Keeps libraries config context state input) ∨
    (∃ nextWorkerId job,
      (limitedStep libraries config context state input).2 =
        ({ state with nextWorkerId := nextWorkerId }.submit job true).2 ∧
      Keeps libraries config context state input) ∨
    ∃ index isCancelled accepts resources ticket job,
      input = .execute index isCancelled accepts resources ∧
      state.pending[index]? = some (ticket, job) ∧
      (limitedStep libraries config context state input).2 =
        (state.take index).record ticket
          (job.limitedWork libraries config context ⟨isCancelled, state.running, accepts⟩
            resources) := by
  cases input with
  | start poolStarts =>
      left
      simp only [limitedStep, step]
      split
      · exact ⟨state.running, state.nextWorkerId, rfl, trivial⟩
      split
      · exact ⟨true, state.nextWorkerId, rfl, trivial⟩
      · exact ⟨state.running, state.nextWorkerId, rfl, trivial⟩
  | stop =>
      left
      simp only [limitedStep, step]
      split
      · exact ⟨state.running, state.nextWorkerId, rfl, trivial⟩
      · exact ⟨false, state.nextWorkerId, rfl, trivial⟩
  | submitUploadChunk chunk accepts =>
      simp only [limitedStep, step]
      split
      · exact Or.inl ⟨state.running, state.nextWorkerId, rfl, trivial⟩
      split
      · exact Or.inl ⟨state.running, state.nextWorkerId, rfl, trivial⟩
      cases accepts with
      | false => exact Or.inl ⟨state.running, state.nextWorkerId + 1, rfl, trivial⟩
      | true => exact Or.inr (Or.inl ⟨state.nextWorkerId + 1, _, rfl, trivial⟩)
  | submitDownloadRequest request accepts =>
      simp only [limitedStep, step]
      split
      · exact Or.inl ⟨state.running, state.nextWorkerId, rfl, trivial⟩
      cases accepts with
      | false => exact Or.inl ⟨state.running, state.nextWorkerId, rfl, trivial⟩
      | true => exact Or.inr (Or.inl ⟨state.nextWorkerId, _, rfl, trivial⟩)
  | execute index isCancelled accepts resources =>
      cases found : state.pending[index]? with
      | none =>
          left
          refine ⟨state.running, state.nextWorkerId, ?_, ?_⟩
          · simp only [limitedStep, found]
          · intro ticket job waiting
            rw [found] at waiting
            contradiction
      | some entry =>
          right
          right
          refine ⟨index, isCancelled, accepts, resources, entry.1, entry.2, rfl, found, ?_⟩
          simp only [limitedStep, found]

theorem accepted_submit (state : PipelineState) (job : Job) :
    (state.submit job true).2.accepted = state.accepted ++ [job.direction] :=
  rfl

theorem pending_submit (state : PipelineState) (job : Job) :
    (state.submit job true).2.pending = state.pending ++ [(state.accepted.length, job)] :=
  rfl

theorem reports_submit (state : PipelineState) (job : Job) (accepts : Bool) :
    (state.submit job accepts).2.reports = state.reports := by
  cases accepts <;> rfl

theorem getElem?_append_of_eq_some {accepted : List Direction} {ticket : Nat}
    {direction : Direction} (found : accepted[ticket]? = some direction)
    (later : List Direction) : (accepted ++ later)[ticket]? = some direction := by
  rw [List.getElem?_append_left (List.getElem?_eq_some_iff.mp found).1, found]

variable {state : PipelineState}

theorem Ticketed.submit (ticketed : state.Ticketed) (job : Job) :
    (state.submit job true).2.Ticketed where
  share_le ticket := by
    have bounded := ticketed.share_le ticket
    rw [share_submit, accepted_submit, List.length_append, List.length_singleton]
    simp only [true_and]
    split at bounded <;> split <;> split <;> omega
  pending_direction ticket other mem := by
    rw [accepted_submit]
    rw [pending_submit] at mem
    rcases List.mem_append.mp mem with old | new
    · exact getElem?_append_of_eq_some (ticketed.pending_direction ticket other old) _
    · cases List.mem_singleton.mp new
      exact List.getElem?_concat_length
  report_direction ticket report mem := by
    rw [accepted_submit]
    rw [reports_submit] at mem
    exact getElem?_append_of_eq_some (ticketed.report_direction ticket report mem) _

theorem Ticketed.record (connected : context.Connected) (ticketed : state.Ticketed)
    {index ticket : Nat} {job : Job} {env : JobEnvironment} {resources : JobResources}
    (waiting : state.pending[index]? = some (ticket, job)) :
    ((state.take index).record ticket
      (job.limitedWork libraries config context env resources)).Ticketed where
  share_le other := by
    have bounded := ticketed.share_le other
    have moved := share_record waiting (job.limitedWork libraries config context env resources)
      other
    have small := (job.limitedWork libraries config context env resources).entries_le_one
    change _ ≤ if other < state.accepted.length then 1 else 0
    by_cases same : other = ticket
    · rw [if_pos same, if_pos same] at moved
      omega
    · rw [if_neg same, if_neg same] at moved
      omega
  pending_direction other next mem := by
    rcases List.mem_append.mp mem with old | new
    · exact ticketed.pending_direction other next (List.mem_of_mem_eraseIdx old)
    · obtain ⟨handed, found, same⟩ := List.mem_map.mp new
      cases same
      rw [Job.next_direction (Option.mem_toList.mp found)]
      exact ticketed.pending_direction ticket job (List.mem_of_getElem? waiting)
  report_direction other report mem := by
    rcases List.mem_append.mp mem with old | new
    · exact ticketed.report_direction other report old
    · obtain ⟨called, found, same⟩ := List.mem_map.mp new
      cases same
      rw [Job.report_direction connected (Option.mem_toList.mp found)]
      exact ticketed.pending_direction ticket job (List.mem_of_getElem? waiting)

variable (libraries config) in
theorem Ticketed.limitedStep (connected : context.Connected) (ticketed : state.Ticketed)
    (input : PipelineInput) :
    (PipelineState.limitedStep libraries config context state input).2.Ticketed := by
  rcases limitedStep_cases libraries config context state input with
    ⟨running, nextWorkerId, moved, -⟩ | ⟨nextWorkerId, job, moved, -⟩ |
      ⟨index, isCancelled, accepts, resources, ticket, job, -, waiting, moved⟩
  · rw [moved]
    exact ⟨ticketed.share_le, ticketed.pending_direction, ticketed.report_direction⟩
  · rw [moved]
    apply Ticketed.submit
    exact ⟨ticketed.share_le, ticketed.pending_direction, ticketed.report_direction⟩
  · rw [moved]
    exact ticketed.record connected waiting

theorem conserved_limitedStep_iff (connected : context.Connected) (ticketed : state.Ticketed)
    (conserved : state.Conserved) (input : PipelineInput) :
    (PipelineState.limitedStep libraries config context state input).2.Conserved ↔
      Keeps libraries config context state input := by
  rcases limitedStep_cases libraries config context state input with
    ⟨running, nextWorkerId, moved, keeps⟩ | ⟨nextWorkerId, job, moved, keeps⟩ |
      ⟨index, isCancelled, accepts, resources, ticket, job, rfl, waiting, moved⟩
  · rw [moved]
    exact iff_of_true conserved keeps
  · rw [moved]
    refine iff_of_true ?_ keeps
    intro other below
    rw [accepted_submit, List.length_append, List.length_singleton] at below
    rw [share_submit]
    rcases Nat.lt_succ_iff_lt_or_eq.mp below with old | rfl
    · rw [if_neg fun new => absurd new.2 (Nat.ne_of_lt old)]
      exact conserved other old
    · have unused := ticketed.share_le state.accepted.length
      rw [if_neg (Nat.lt_irrefl _)] at unused
      rw [if_pos ⟨rfl, rfl⟩]
      exact congrArg (· + 1) (Nat.le_zero.mp unused)
  · rw [moved]
    have given : ticket < state.accepted.length := by
      have direction := ticketed.pending_direction ticket job (List.mem_of_getElem? waiting)
      exact (List.getElem?_eq_some_iff.mp direction).1
    have one := conserved ticket given
    have empty_iff : (job.limitedWork libraries config context ⟨isCancelled, state.running, accepts⟩
        resources).entries = 0 ↔
          ¬ job.Kept libraries config context ⟨isCancelled, state.running, accepts⟩ resources :=
      (JobOutcome.entries_eq_zero_iff _).trans (Job.drops_iff connected)
    have moved := share_record waiting
      (job.limitedWork libraries config context ⟨isCancelled, state.running, accepts⟩ resources)
    have small := (job.limitedWork libraries config context ⟨isCancelled, state.running, accepts⟩
      resources).entries_le_one
    constructor
    · intro after
      have kept := moved ticket
      rw [if_pos rfl, if_pos rfl, after ticket given, one] at kept
      intro other otherJob same
      rw [waiting] at same
      cases same
      by_contra lost
      have empty := empty_iff.mpr lost
      omega
    · intro keeps other below
      have kept := mt empty_iff.mp fun lost => lost (keeps ticket job waiting)
      have shared := moved other
      have before := conserved other below
      by_cases same : other = ticket
      · rw [if_pos same, if_pos same] at shared
        omega
      · rw [if_neg same, if_neg same] at shared
        omega

theorem conserved_of_limitedStep (ticketed : state.Ticketed) (input : PipelineInput)
    (conserved : (PipelineState.limitedStep libraries config context state input).2.Conserved) :
    state.Conserved := by
  intro other below
  rcases limitedStep_cases libraries config context state input with
    ⟨running, nextWorkerId, moved, -⟩ | ⟨nextWorkerId, job, moved, -⟩ |
      ⟨index, isCancelled, accepts, resources, ticket, job, -, waiting, moved⟩
  · rw [moved] at conserved
    exact conserved other below
  · rw [moved] at conserved
    have kept := conserved other (by
      rw [accepted_submit, List.length_append]
      exact Nat.lt_add_right _ below)
    rw [share_submit, if_neg fun new => absurd new.2 (Nat.ne_of_lt below)] at kept
    exact kept
  · rw [moved] at conserved
    have kept := conserved other below
    have shared := share_record waiting (job.limitedWork libraries config context
      ⟨isCancelled, state.running, accepts⟩ resources) other
    have small := (job.limitedWork libraries config context ⟨isCancelled, state.running, accepts⟩
      resources).entries_le_one
    have bounded := ticketed.share_le other
    rw [if_pos below] at bounded
    by_cases same : other = ticket
    · rw [if_pos same, if_pos same] at shared
      omega
    · rw [if_neg same, if_neg same] at shared
      omega

end

end PipelineState

theorem PipelineConfig.connected_context (libraries : Libraries) {config : PipelineConfig}
    (valid : config.isValid = true) : (config.context libraries valid).Connected :=
  ⟨rfl, rfl, rfl, rfl⟩

/-! ## Complete runs -/

/-- Exactly one callback was called for the submission, once, and it is one that ends the
way of a chunk in this direction. -/
def PipelineState.ReportedOnce (state : PipelineState) (ticket : Nat) (direction : Direction) :
    Prop :=
  ∃ report, report.direction = direction ∧
    state.reports.filter (fun entry => entry.1 == ticket) = [(ticket, report)]

theorem PipelineState.Ticketed.share_eq_one_iff {state : PipelineState}
    (ticketed : state.Ticketed) (complete : state.pending = []) {ticket : Nat}
    {direction : Direction} (accepted : state.accepted[ticket]? = some direction) :
    state.share ticket = 1 ↔ state.ReportedOnce ticket direction := by
  have counted : state.share ticket =
      (state.reports.filter fun entry => entry.1 == ticket).length := by
    rw [share, complete, List.map_nil, List.count_nil, Nat.zero_add, List.count, List.countP_map,
      List.countP_eq_length_filter]
    rfl
  rw [counted]
  constructor
  · intro one
    obtain ⟨⟨owner, report⟩, alone⟩ := List.length_eq_one_iff.mp one
    have mem : (owner, report) ∈ state.reports.filter fun entry => entry.1 == ticket := by
      rw [alone]
      exact List.mem_singleton_self _
    obtain ⟨reported, owned⟩ := List.mem_filter.mp mem
    cases beq_iff_eq.mp owned
    refine ⟨report, ?_, alone⟩
    have same := ticketed.report_direction owner report reported
    rw [accepted] at same
    exact (Option.some.inj same).symm
  · rintro ⟨report, -, alone⟩
    rw [alone]
    rfl

/-- At the end of a complete run of a created pipeline, exactly one callback was called, once,
for every accepted submission, if and only if every job that the run executed kept its chunk. -/
theorem LimitedConfig.reported_once_iff (libraries : Libraries) {config : LimitedConfig}
    (valid : config.isValid = true) (inputs : List PipelineInput)
    (complete : (config.reached libraries valid inputs).pending = []) :
    (∀ ticket direction,
        (config.reached libraries valid inputs).accepted[ticket]? = some direction →
        (config.reached libraries valid inputs).ReportedOnce ticket direction) ↔
      Guarded (PipelineState.limitedStep libraries config (config.context libraries valid))
        (PipelineState.Keeps libraries config (config.context libraries valid)) .initial
        inputs := by
  have connected := PipelineConfig.connected_context libraries valid
  have preserves := fun state input (ticketed : PipelineState.Ticketed state) =>
    ticketed.limitedStep libraries config connected input
  have ticketed : (config.reached libraries valid inputs).Ticketed :=
    final_invariant PipelineState.Ticketed preserves PipelineState.ticketed_initial inputs
  rw [← final_iff_guarded PipelineState.Ticketed preserves
    (fun state input ticketed conserved =>
      PipelineState.conserved_limitedStep_iff connected ticketed conserved input)
    (fun state input ticketed => PipelineState.conserved_of_limitedStep ticketed input)
    PipelineState.ticketed_initial PipelineState.conserved_initial inputs]
  change _ ↔ (config.reached libraries valid inputs).Conserved
  constructor
  · intro reported ticket below
    have accepted := List.getElem?_eq_getElem below
    exact (ticketed.share_eq_one_iff complete accepted).mpr (reported ticket _ accepted)
  · intro conserved ticket direction accepted
    have below := (List.getElem?_eq_some_iff.mp accepted).1
    exact (ticketed.share_eq_one_iff complete accepted).mp (conserved ticket below)

/-! ## Three bytes uploaded, and three downloaded -/

namespace UploadSample

def libraries : Libraries :=
  ⟨none, none⟩

/-- A disk on which every file holds `abc`. -/
def resources : JobResources :=
  ⟨fun _ => some [0x61, 0x62, 0x63], .success, none⟩

/-- The default configuration with these limits. -/
def config (sendBandwidthLimit recvBandwidthLimit : UInt64) : LimitedConfig :=
  ⟨.default, sendBandwidthLimit, recvBandwidthLimit⟩

def request : ReadJob :=
  ⟨TransferId.zero, 0, Text.ascii "file", 0, 3⟩

/-- A chunk of three bytes, as it was read. -/
def chunk : PipelineChunk :=
  request.chunk [0x61, 0x62, 0x63]

/-- A submission of either kind; every job is executed, the two ways in turn, and the pool takes
every job. -/
def both : List PipelineInput :=
  [.start true, .submitUploadChunk chunk true, .submitDownloadRequest request true,
    .execute 0 false true resources, .execute 0 false true resources,
    .execute 0 false true resources, .execute 0 false true resources,
    .execute 0 false true resources, .execute 0 false true resources]

/-- The pool takes the chunk, and refuses the job that the decompress job hands over. -/
def refused : List PipelineInput :=
  [.start true, .submitUploadChunk chunk true, .execute 0 false false resources]

end UploadSample

/-- With every job taken, the upload and the download are reported once, three bytes fitting into
either limit. -/
theorem LimitedConfig.reported_once_of_three_bytes :
    (∀ ticket direction,
        ((UploadSample.config 3 1000).reached UploadSample.libraries rfl
          UploadSample.both).accepted[ticket]? = some direction →
        ((UploadSample.config 3 1000).reached UploadSample.libraries rfl
          UploadSample.both).ReportedOnce ticket direction) ↔
      Guarded (PipelineState.limitedStep UploadSample.libraries (UploadSample.config 3 1000)
        (PipelineConfig.default.context UploadSample.libraries rfl))
        (PipelineState.Keeps UploadSample.libraries (UploadSample.config 3 1000)
          (PipelineConfig.default.context UploadSample.libraries rfl))
        .initial UploadSample.both :=
  reported_once_iff UploadSample.libraries rfl UploadSample.both (by decide +kernel)

/-- The pool refuses the verify job: the pipeline runs, no job waits, and no callback was
called for the accepted chunk. -/
theorem LimitedConfig.refused_chunk_not_reported :
    ((UploadSample.config 0 0).reached UploadSample.libraries rfl
      UploadSample.refused).running = true ∧
    ((UploadSample.config 0 0).reached UploadSample.libraries rfl
      UploadSample.refused).accepted = [.upload] ∧
    ((UploadSample.config 0 0).reached UploadSample.libraries rfl
      UploadSample.refused).pending = [] ∧
    ¬ ((UploadSample.config 0 0).reached UploadSample.libraries rfl
      UploadSample.refused).ReportedOnce 0 .upload := by
  have reports : ((UploadSample.config 0 0).reached UploadSample.libraries rfl
      UploadSample.refused).reports = [] := by
    decide +kernel
  refine ⟨by decide +kernel, by decide +kernel, by decide +kernel, ?_⟩
  rintro ⟨report, -, called⟩
  rw [reports] at called
  contradiction

end FileTrans.Server
