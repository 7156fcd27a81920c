import FileTrans.Client.Batch

/-!
# Starting the transfers of a batch

The loop that starts transfers counts the files it tried and, in `started`, the transfers
that run.  Where a start fails and failures are passed over the two come apart: the ids are
then filled up from `started` on, although the failed file has its id already.  Where a
failure ends the call, the transfers that were started before it are left running.
-/

namespace FileTrans.Client

open Core Storage

/-! ## What the calls for single files do -/

namespace FileTransferClient

/-- A transfer that has not ended runs under the handle. -/
def Active (client : FileTransferClient) (handle : UInt64) : Prop :=
  (∃ ctx, client.uploadContexts handle = some ctx ∧ ¬ ctx.state.isTerminal) ∨
    ∃ ctx, client.downloadContexts handle = some ctx ∧ ¬ ctx.state.isTerminal

/-- The other client answers the calls that start transfers alike. -/
structure AnswersAlike (client other : FileTransferClient) : Prop where
  isConnected : other.isConnected = client.isConnected
  files : other.files = client.files

/-- A transfer was started under the next handle. -/
structure Started (client next : FileTransferClient) : Prop where
  alike : AnswersAlike client next
  nextTransferId : next.nextTransferId = client.nextTransferId + 1
  active : next.Active client.nextTransferId
  keeps : ∀ handle, client.Active handle → next.Active handle

theorem AnswersAlike.refl (client : FileTransferClient) : AnswersAlike client client :=
  ⟨rfl, rfl⟩

theorem AnswersAlike.trans {first second third : FileTransferClient}
    (left : AnswersAlike first second) (right : AnswersAlike second third) :
    AnswersAlike first third :=
  ⟨right.isConnected.trans left.isConnected, right.files.trans left.files⟩

variable {client : FileTransferClient}

theorem Started.upload {next : FileTransferClient} {ctx : UploadContext}
    (alike : AnswersAlike client next) (counted : next.nextTransferId = client.nextTransferId + 1)
    (uploads : next.uploadContexts =
      Function.update client.uploadContexts client.nextTransferId (some ctx))
    (downloads : next.downloadContexts = client.downloadContexts)
    (runs : ¬ ctx.state.isTerminal) : Started client next where
  alike
  nextTransferId := counted
  active := .inl ⟨ctx, by rw [uploads, Function.update_self], runs⟩
  keeps := by
    rintro handle (⟨old, present, running⟩ | ⟨old, present, running⟩)
    · by_cases same : handle = client.nextTransferId
      · exact .inl ⟨ctx, by rw [uploads, same, Function.update_self], runs⟩
      · exact .inl ⟨old, by rw [uploads, Function.update_of_ne same, present], running⟩
    · exact .inr ⟨old, by rw [downloads, present], running⟩

theorem Started.download {next : FileTransferClient} {ctx : DownloadContext}
    (alike : AnswersAlike client next) (counted : next.nextTransferId = client.nextTransferId + 1)
    (downloads : next.downloadContexts =
      Function.update client.downloadContexts client.nextTransferId (some ctx))
    (uploads : next.uploadContexts = client.uploadContexts)
    (runs : ¬ ctx.state.isTerminal) : Started client next where
  alike
  nextTransferId := counted
  active := .inr ⟨ctx, by rw [downloads, Function.update_self], runs⟩
  keeps := by
    rintro handle (⟨old, present, running⟩ | ⟨old, present, running⟩)
    · exact .inl ⟨old, by rw [uploads, present], running⟩
    · by_cases same : handle = client.nextTransferId
      · exact .inr ⟨ctx, by rw [downloads, same, Function.update_self], runs⟩
      · exact .inr ⟨old, by rw [downloads, Function.update_of_ne same, present], running⟩

end FileTransferClient

open FileTransferClient

/-- Whether the call for a file is refused or starts a transfer, on any client that answers
like this one. -/
structure BatchEntry.Answers (client : FileTransferClient) (entry : BatchEntry) (refused : Bool) :
    Prop where
  refuses : refused = true → ∀ current, AnswersAlike client current →
    ∃ error, entry.start current = (.error error, current)
  starts : refused = false → ∀ current, AnswersAlike client current →
    ∃ next, entry.start current = (.ok current.nextTransferId, next) ∧ Started current next

/-- The file as `upload_files` has its upload started. -/
def UploadEntry.batchEntry (options : BatchOptions) (entry : UploadEntry) : BatchEntry :=
  ⟨entry.name, fun client => client.uploadFile entry.sizeError entry.tid entry.localPath entry.name
    ⟨options.overwrite⟩⟩

/-- The file as `download_files` has its download started. -/
def DownloadEntry.batchEntry (options : BatchOptions) (entry : DownloadEntry) : BatchEntry :=
  ⟨entry.remoteName, fun client => client.downloadFile entry.parent entry.tid entry.remoteName
    entry.localPath ⟨options.overwrite, true⟩⟩

/-- `upload_file` refuses a file that exists. -/
def UploadEntry.refused (entry : UploadEntry) : Bool :=
  entry.sizeError.isSome

/-- `download_file` refuses the file while the client is connected. -/
def DownloadEntry.refused (client : FileTransferClient) (options : BatchOptions)
    (entry : DownloadEntry) : Bool :=
  entry.remoteName = [] ∨ entry.localPath = [] ∨
    (¬ options.overwrite ∧ client.files.exist entry.localPath) ∨
    (entry.localPath.parent ≠ [] ∧ ¬ entry.parent.exist ∧ ¬ entry.parent.created)

theorem UploadEntry.answers {client : FileTransferClient} (options : BatchOptions)
    {entry : UploadEntry} (connected : client.isConnected = true)
    (present : client.files.exist entry.localPath = true) :
    (entry.batchEntry options).Answers client entry.refused := by
  obtain ⟨content, stored⟩ := Option.isSome_iff_exists.mp present
  constructor
  · intro refused current alike
    obtain ⟨message, failed⟩ := Option.isSome_iff_exists.mp refused
    have opened : current.files entry.localPath = some content := by
      rw [alike.files, stored]
    refine ⟨⟨.fileReadError, Text.ascii "Cannot get file size: " ++ message⟩, ?_⟩
    simp only [batchEntry, uploadFile, alike.isConnected, connected, opened, failed,
      not_true_eq_false, if_false]
  · intro accepted current alike
    have measured : entry.sizeError = none := by
      simpa [refused] using accepted
    have opened : current.files entry.localPath = some content := by
      rw [alike.files, stored]
    simp only [batchEntry, uploadFile, alike.isConnected, connected, opened, measured,
      not_true_eq_false, if_false]
    have runs : ¬ InternalTransferState.transferring.isTerminal := by decide
    exact ⟨_, rfl, .upload ⟨(alike.isConnected.trans connected).symm, rfl⟩ rfl rfl rfl runs⟩

theorem DownloadEntry.answers {client : FileTransferClient} (options : BatchOptions)
    {entry : DownloadEntry} (connected : client.isConnected = true) :
    (entry.batchEntry options).Answers client (entry.refused client options) := by
  constructor
  · intro refused current alike
    simp only [DownloadEntry.refused, decide_eq_true_eq] at refused
    simp only [batchEntry, downloadFile, alike.isConnected, connected, alike.files,
      not_true_eq_false, if_false]
    split
    · exact ⟨_, rfl⟩
    split
    · exact ⟨_, rfl⟩
    split
    · exact ⟨_, rfl⟩
    split
    · exact ⟨_, rfl⟩
    · rename_i named somewhere absent created
      rcases refused with unnamed | nowhere | present | blocked
      · exact absurd unnamed named
      · exact absurd nowhere somewhere
      · exact absurd present absent
      · exact absurd blocked created
  · intro accepted current alike
    simp only [DownloadEntry.refused, decide_eq_false_iff_not, not_or] at accepted
    obtain ⟨named, somewhere, absent, created⟩ := accepted
    simp only [batchEntry, downloadFile, alike.isConnected, connected, alike.files,
      not_true_eq_false, if_false, if_neg named, if_neg somewhere, if_neg absent,
      if_neg created]
    have runs : ¬ InternalTransferState.initializing.isTerminal := by decide
    exact ⟨_, rfl, .download ⟨(alike.isConnected.trans connected).symm, alike.files.symm⟩ rfl rfl
      rfl runs⟩

/-! ## The loop -/

/-- The client after the calls for these files, one after the other. -/
def clientAfter (client : FileTransferClient) (entries : List BatchEntry) : FileTransferClient :=
  entries.foldl (fun client entry => (entry.start client).2) client

/-- What the calls for these files return, one after the other. -/
def attemptsOf : FileTransferClient → List BatchEntry → List (Option UInt64)
  | _, [] => []
  | client, entry :: rest =>
      (entry.start client).1.toOption :: attemptsOf (entry.start client).2 rest

theorem getElem?_attemptsOf (client : FileTransferClient) (entries : List BatchEntry)
    (index : Nat) :
    (attemptsOf client entries)[index]? = entries[index]?.map fun entry =>
      (entry.start (clientAfter client (entries.take index))).1.toOption := by
  induction entries generalizing client index with
  | nil => rfl
  | cons entry rest ih =>
      cases index with
      | zero => rfl
      | succ index => exact ih (entry.start client).2 index

section

variable {failure : String} {options : BatchOptions} {entries : List BatchEntry}
  {index started final : Nat} {batch reached : BatchContext}
  {origin client client' : FileTransferClient}

/-- The loop tries the first files, each after the one before it, and keeps the number of the
results. -/
theorem startTransfers_attempts
    (ran : startTransfers failure options entries index started batch client =
      (.ok (final, reached), client')) :
    (∃ tried, tried <+: entries ∧ reached.attempts = batch.attempts ++ attemptsOf client tried) ∧
      reached.filenames = batch.filenames ∧
      reached.fileResults.length = batch.fileResults.length := by
  induction entries generalizing index started batch client with
  | nil =>
      obtain ⟨same, -⟩ := Prod.mk.inj ran
      obtain ⟨-, rfl⟩ := Prod.mk.inj (Except.ok.inj same)
      exact ⟨⟨[], List.nil_prefix, (List.append_nil _).symm⟩, rfl, rfl⟩
  | cons entry rest ih =>
      rw [startTransfers] at ran
      split at ran
      · split at ran
        · rename_i handle next answered
          obtain ⟨⟨tried, among, attempts⟩, names, results⟩ := ih ran
          refine ⟨⟨entry :: tried, List.cons_prefix_cons.mpr ⟨rfl, among⟩, ?_⟩, names, results⟩
          rw [attempts, attemptsOf, answered, List.append_cons]
          rfl
        · rename_i error next answered
          split at ran
          · cases ran
          · obtain ⟨⟨tried, among, attempts⟩, names, results⟩ := ih ran
            refine ⟨⟨entry :: tried, List.cons_prefix_cons.mpr ⟨rfl, among⟩, ?_⟩, names,
              results.trans (List.length_set ..)⟩
            rw [attempts, attemptsOf, answered, List.append_cons]
            rfl
      · obtain ⟨same, -⟩ := Prod.mk.inj ran
        obtain ⟨-, rfl⟩ := Prod.mk.inj (Except.ok.inj same)
        exact ⟨⟨[], List.nil_prefix, (List.append_nil _).symm⟩, rfl, rfl⟩

variable {α : Type} {entry : α → BatchEntry} {refused : α → Bool} {files : List α}

/-- The transfers that a loop starts are counted, and the first of them keeps running. -/
structure FileTransferClient.Grown (count : Nat) (client next : FileTransferClient) : Prop where
  nextTransferId : next.nextTransferId = client.nextTransferId + UInt64.ofNat count
  keeps : ∀ handle, client.Active handle → next.Active handle
  first : 0 < count → next.Active client.nextTransferId

theorem FileTransferClient.Started.grown {middle next : FileTransferClient} {count : Nat}
    (begun : Started client middle) (grown : Grown count middle next) :
    Grown (count + 1) client next where
  nextTransferId := by
    rw [grown.nextTransferId, begun.nextTransferId, UInt64.ofNat_add, UInt64.add_assoc,
      UInt64.add_comm (UInt64.ofNat count)]
    rfl
  keeps handle active := grown.keeps handle (begun.keeps handle active)
  first _ := grown.keeps _ begun.active

theorem take_room (room : started < options.maxConcurrent) (file : α) (rest : List α) :
    (file :: rest).take (options.maxConcurrent - started) =
      file :: rest.take (options.maxConcurrent - (started + 1)) := by
  rw [← Nat.sub_add_cancel (Nat.sub_pos_of_lt room), List.take_succ_cons]
  rfl

theorem room_of_some
    (some : ∃ file ∈ files.take (options.maxConcurrent - started), refused file = true) :
    started < options.maxConcurrent := by
  by_contra full
  obtain ⟨file, mem, -⟩ := some
  rw [Nat.sub_eq_zero_of_le (Nat.not_lt.mp full), List.take_zero] at mem
  contradiction

theorem more_of_accepted {file : α} {rest : List α} (room : started < options.maxConcurrent)
    (accepted : refused file = false)
    (some : ∃ other ∈ (file :: rest).take (options.maxConcurrent - started),
      refused other = true) :
    ∃ other ∈ rest.take (options.maxConcurrent - (started + 1)), refused other = true := by
  obtain ⟨other, mem, again⟩ := some
  rw [take_room room] at mem
  rcases List.mem_cons.mp mem with rfl | mem
  · rw [accepted] at again
    contradiction
  · exact ⟨other, mem, again⟩

/-- Where none of the files is refused for which there is room, the loop goes through and
nothing fails. -/
theorem startTransfers_of_accepted (alike : AnswersAlike origin client)
    (answers : ∀ file ∈ files, (entry file).Answers origin (refused file))
    (accepted : ∀ file ∈ files.take (options.maxConcurrent - started), refused file = false) :
    ∃ final reached client', startTransfers failure options (files.map entry) index started batch
        client = (.ok (final, reached), client') ∧
      reached.attempts.countP Option.isNone = batch.attempts.countP Option.isNone := by
  induction files generalizing index started batch client with
  | nil => exact ⟨_, _, _, rfl, rfl⟩
  | cons file rest ih =>
      rw [List.map_cons, startTransfers]
      split
      · rename_i room
        rw [take_room room] at accepted
        obtain ⟨next, begins, begun⟩ := (answers file List.mem_cons_self).starts
          (accepted file List.mem_cons_self) client alike
        obtain ⟨final, reached, client', ran, counted⟩ :=
          @ih (index + 1) (started + 1) (batch.recordStarted client.nextTransferId) next
            (alike.trans begun.alike)
            (fun other mem => answers other (List.mem_cons_of_mem _ mem))
            fun other mem => accepted other (List.mem_cons_of_mem _ mem)
        rw [begins]
        refine ⟨final, reached, client', ran, counted.trans ?_⟩
        simp [BatchContext.recordStarted]
      · exact ⟨_, _, _, rfl, rfl⟩

/-- Where a file is refused for which there is room, and failures are passed over, the loop goes
through and has failures. -/
theorem startTransfers_of_refused (alike : AnswersAlike origin client)
    (answers : ∀ file ∈ files, (entry file).Answers origin (refused file))
    (passes : options.continueOnError = true)
    (some : ∃ file ∈ files.take (options.maxConcurrent - started), refused file = true) :
    ∃ final reached client', startTransfers failure options (files.map entry) index started batch
        client = (.ok (final, reached), client') ∧
      batch.attempts.countP Option.isNone < reached.attempts.countP Option.isNone := by
  induction files generalizing index started batch client with
  | nil =>
      obtain ⟨file, mem, -⟩ := some
      rw [List.take_nil] at mem
      contradiction
  | cons file rest ih =>
      have later : ∀ other ∈ rest, (entry other).Answers origin (refused other) :=
        fun other mem => answers other (List.mem_cons_of_mem _ mem)
      have room := room_of_some some
      rw [List.map_cons, startTransfers, if_pos room]
      cases head : refused file with
      | true =>
          obtain ⟨error, fails⟩ := (answers file List.mem_cons_self).refuses head client alike
          have counted : (batch.recordFailed index (entry file).filename error.message
              ).attempts.countP Option.isNone = batch.attempts.countP Option.isNone + 1 := by
            simp [BatchContext.recordFailed]
          rw [fails]
          dsimp only
          rw [if_neg (not_not.mpr passes)]
          by_cases more : ∃ other ∈ rest.take (options.maxConcurrent - started),
              refused other = true
          · obtain ⟨final, reached, client', ran, less⟩ := ih alike later more
            exact ⟨final, reached, client', ran, by omega⟩
          · have none : ∀ other ∈ rest.take (options.maxConcurrent - started),
                refused other = false := by
              intro other mem
              by_contra again
              exact more ⟨other, mem, Bool.of_not_eq_false again⟩
            obtain ⟨final, reached, client', ran, same⟩ :=
              startTransfers_of_accepted alike later none
            exact ⟨final, reached, client', ran, by omega⟩
      | false =>
          obtain ⟨next, begins, begun⟩ := (answers file List.mem_cons_self).starts head client alike
          have counted : (batch.recordStarted client.nextTransferId).attempts.countP
              Option.isNone = batch.attempts.countP Option.isNone := by
            simp [BatchContext.recordStarted]
          obtain ⟨final, reached, client', ran, less⟩ :=
            @ih (index + 1) (started + 1) (batch.recordStarted client.nextTransferId) next
              (alike.trans begun.alike) later (more_of_accepted room head some)
          rw [begins]
          exact ⟨final, reached, client', ran, counted ▸ less⟩

theorem startTransfers_of_refusal (alike : AnswersAlike origin client)
    (answers : ∀ file ∈ files, (entry file).Answers origin (refused file))
    (ends : options.continueOnError = false)
    (some : ∃ file ∈ files.take (options.maxConcurrent - started), refused file = true) :
    ∃ error client', startTransfers failure options (files.map entry) index started batch client =
        (.error error, client') ∧
      Grown (files.takeWhile fun file => !refused file).length client client' := by
  induction files generalizing index started batch client with
  | nil =>
      obtain ⟨file, mem, -⟩ := some
      rw [List.take_nil] at mem
      contradiction
  | cons file rest ih =>
      have room := room_of_some some
      rw [List.map_cons, startTransfers, if_pos room]
      cases head : refused file with
      | true =>
          obtain ⟨error, fails⟩ := (answers file List.mem_cons_self).refuses head client alike
          rw [fails, List.takeWhile_cons_of_neg (by rw [head]; exact Bool.false_ne_true)]
          dsimp only
          rw [if_pos (Bool.not_eq_true _ ▸ ends)]
          exact ⟨_, client, rfl, (UInt64.add_zero _).symm, fun _ => id,
            fun positive => absurd positive (Nat.lt_irrefl 0)⟩
      | false =>
          obtain ⟨next, begins, begun⟩ := (answers file List.mem_cons_self).starts head client alike
          obtain ⟨error, client', ran, grown⟩ :=
            @ih (index + 1) (started + 1) (batch.recordStarted client.nextTransferId) next
              (alike.trans begun.alike)
              (fun other mem => answers other (List.mem_cons_of_mem _ mem))
              (more_of_accepted room head some)
          rw [begins, List.takeWhile_cons_of_pos (by rw [head]; rfl)]
          exact ⟨error, client', ran, begun.grown grown⟩

end

/-! ## Ids and files -/

/-- The lists of a batch are as long as the list of its files, and every id is the handle of the
transfer that was started for its file. -/
structure BatchContext.Aligned (client : FileTransferClient) (entries : List BatchEntry)
    (batch : BatchContext) : Prop where
  ids_length : batch.transferIds.length = entries.length
  filenames_length : batch.filenames.length = entries.length
  results_length : batch.fileResults.length = entries.length
  handles : ∀ (index : Nat) (entry : BatchEntry) (id : UInt64), entries[index]? = some entry →
    batch.transferIds[index]? = some id → id ≠ 0 →
      (entry.start (clientAfter client (entries.take index))).1 = .ok id

section

variable {failure : String} {options : BatchOptions} {entries : List BatchEntry}
  {direction : BatchDirection} {filenames : List Bytes} {totalBytes : UInt64}
  {client client' : FileTransferClient} {batch : BatchContext}

theorem handle_of_attempt {tried : List BatchEntry} (among : tried <+: entries) {index : Nat}
    {entry : BatchEntry} {id : UInt64} (present : entries[index]? = some entry)
    (held : ((attemptsOf client tried).map (·.getD 0))[index]? = some id) (positive : id ≠ 0) :
    (entry.start (clientAfter client (entries.take index))).1 = .ok id := by
  obtain ⟨rest, rfl⟩ := among
  rw [List.getElem?_map, getElem?_attemptsOf] at held
  cases tries : tried[index]? with
  | none =>
      rw [tries] at held
      contradiction
  | some other =>
      have inside : index < tried.length := (List.getElem?_eq_some_iff.mp tries).1
      rw [List.getElem?_append_left inside, tries] at present
      obtain rfl := Option.some.inj present
      rw [List.take_append_of_le_length inside.le]
      rw [tries] at held
      have given := Option.some.inj held
      dsimp only at given
      cases answered : (other.start (clientAfter client (tried.take index))).1 with
      | ok handle =>
          rw [answered] at given
          exact congrArg Except.ok given
      | error error =>
          rw [answered] at given
          exact absurd given.symm positive

theorem aligned_iff (named : filenames.length = entries.length)
    (ran : startBatch failure options entries (.initial direction options filenames totalBytes)
      client = (.ok batch, client')) :
    batch.Aligned client entries ↔ batch.attempts.countP Option.isNone = 0 := by
  have shape := startBatch_eq_ok ran
  have parts : batch.attempts.length =
      batch.attempts.countP Option.isSome + batch.attempts.countP Option.isNone := by
    rw [List.length_eq_countP_add_countP Option.isSome]
    congr 2
    funext attempt
    cases attempt <;> rfl
  have ids : batch.transferIds.length = entries.length +
      batch.attempts.countP Option.isNone := by
    have bounded := shape.attempts_le
    rw [shape.ids_eq, List.length_append, List.length_map, List.length_replicate]
    omega
  constructor
  · intro aligned
    have same := aligned.ids_length
    omega
  · intro none
    rw [startBatch] at ran
    split at ran
    · rename_i started reached reachedClient loop
      obtain ⟨same, -⟩ := Prod.mk.inj ran
      obtain rfl := Except.ok.inj same
      obtain ⟨⟨tried, among, attempts⟩, names, results⟩ := startTransfers_attempts loop
      refine ⟨?_, ?_, ?_, ?_⟩
      · rw [ids, none, Nat.add_zero]
      · exact (congrArg List.length names).trans named
      · exact results.trans ((List.length_replicate ..).trans named)
      · intro index entry id present held positive
        have tries : (reached.queueRemaining entries.length started).attempts =
            attemptsOf client tried := attempts
        rw [shape.ids_eq, tries] at held
        by_cases inside : index < ((attemptsOf client tried).map (·.getD 0)).length
        · rw [List.getElem?_append_left inside] at held
          exact handle_of_attempt among present held positive
        · rw [List.getElem?_append_right (Nat.not_lt.mp inside)] at held
          have zero := List.eq_of_mem_replicate (List.mem_of_getElem? held)
          exact absurd zero positive
    · cases ran

end

section

variable {failure : String} {options : BatchOptions} {batch : BatchContext}
  {client : FileTransferClient} {α : Type} {entry : α → BatchEntry} {refused : α → Bool}
  {files : List α}

theorem accepted_or_refused (refused : α → Bool) (files : List α) :
    (∀ file ∈ files, refused file = false) ∨ ∃ file ∈ files, refused file = true := by
  by_cases some : ∃ file ∈ files, refused file = true
  · exact .inr some
  · refine .inl fun file mem => ?_
    by_contra again
    exact some ⟨file, mem, Bool.of_not_eq_false again⟩

/-- The lists of a new batch line up with the files, exactly if failures end the call or there
is none among the first files. -/
theorem startBatch_aligned_iff (refused : α → Bool) {direction : BatchDirection}
    {filenames : List Bytes}
    {totalBytes : UInt64} (named : filenames.length = files.length)
    (answers : ∀ file ∈ files, (entry file).Answers client (refused file)) :
    (∀ batch client', startBatch failure options (files.map entry)
        (.initial direction options filenames totalBytes) client = (.ok batch, client') →
      batch.Aligned client (files.map entry)) ↔
    options.continueOnError = false ∨
      ∀ file ∈ files.take options.maxConcurrent, refused file = false := by
  have names : filenames.length = (files.map entry).length := named.trans (List.length_map _).symm
  rcases accepted_or_refused refused (files.take options.maxConcurrent) with accepted | some
  · obtain ⟨started, reached, next, loop, counted⟩ :=
      @startTransfers_of_accepted failure options 0 0
      (.initial direction options filenames totalBytes) client client α entry refused files
      (.refl client) answers accepted
    refine iff_of_true ?_ (.inr accepted)
    intro batch client' ran
    refine (aligned_iff names ran).mpr ?_
    rw [startBatch, loop] at ran
    obtain ⟨same, -⟩ := Prod.mk.inj ran
    rw [← Except.ok.inj same]
    exact counted
  · cases passes : options.continueOnError with
    | true =>
        obtain ⟨started, reached, next, loop, less⟩ :=
          @startTransfers_of_refused failure options 0 0
          (.initial direction options filenames totalBytes) client client α entry refused files
          (.refl client) answers passes some
        refine iff_of_false ?_ ?_
        · intro aligned
          have ran : startBatch failure options (files.map entry)
              (.initial direction options filenames totalBytes) client =
                (.ok (reached.queueRemaining (files.map entry).length started), next) := by
            rw [startBatch, loop]
          have none := (aligned_iff names ran).mp (aligned _ _ ran)
          have failures : 0 < (reached.queueRemaining (files.map entry).length started
              ).attempts.countP Option.isNone := less
          omega
        · rintro (ends | accepted)
          · contradiction
          · obtain ⟨file, mem, again⟩ := some
            rw [accepted file mem] at again
            contradiction
    | false =>
        obtain ⟨error, next, loop, -⟩ := @startTransfers_of_refusal failure options 0 0
          (.initial direction options filenames totalBytes) client client α entry refused files
          (.refl client) answers passes some
        refine iff_of_true ?_ (.inl rfl)
        intro batch client' ran
        rw [startBatch, loop] at ran
        cases ran

end

namespace FileTransferClient

theorem uploadFiles_cases (client : FileTransferClient) (options : BatchOptions)
    (files : List UploadEntry) :
    ((client.isConnected = false ∨ files = [] ∨
        ∃ file ∈ files, client.files.exist file.localPath = false) ∧
      ∃ error, client.uploadFiles files options = (.error error, client)) ∨
    (client.isConnected = true ∧ (∀ file ∈ files, client.files.exist file.localPath = true) ∧
      ∃ totalBytes, client.uploadFiles files options =
        startBatch "Failed to start upload: " options (files.map (UploadEntry.batchEntry options))
          (.initial .upload options (files.map UploadEntry.name) totalBytes) client) := by
  rw [uploadFiles]
  split
  · rename_i off
    exact .inl ⟨.inl (Bool.of_not_eq_true off), _, rfl⟩
  rename_i connected
  split
  · rename_i none
    exact .inl ⟨.inr (.inl none), _, rfl⟩
  split
  · rename_i file found
    have missing : client.files.exist file.localPath = false := by
      simpa using List.find?_some found
    exact .inl ⟨.inr (.inr ⟨file, List.mem_of_find?_eq_some found, missing⟩), _, rfl⟩
  · rename_i found
    refine .inr ⟨not_not.mp connected, ?_, _, rfl⟩
    intro file mem
    simpa using List.find?_eq_none.mp found file mem

theorem downloadFiles_cases (client : FileTransferClient) (options : BatchOptions)
    (files : List DownloadEntry) :
    ((client.isConnected = false ∨ files = []) ∧
      ∃ error, client.downloadFiles files options = (.error error, client)) ∨
    (client.isConnected = true ∧ client.downloadFiles files options =
      startBatch "Failed to start download: " options
        (files.map (DownloadEntry.batchEntry options))
        (.initial .download options (files.map DownloadEntry.remoteName) 0) client) := by
  rw [downloadFiles]
  split
  · rename_i off
    exact .inl ⟨.inl (Bool.of_not_eq_true off), _, rfl⟩
  rename_i connected
  split
  · rename_i none
    exact .inl ⟨.inr none, _, rfl⟩
  · exact .inr ⟨not_not.mp connected, rfl⟩

/-- The lists of a batch line up with its files, exactly if the call does not get as far as the
loop, failures end it, or none of the first files is refused. -/
theorem batches_aligned_iff (client : FileTransferClient) (options : BatchOptions)
    (uploads : List UploadEntry) (downloads : List DownloadEntry) :
    ((∀ batch client', client.uploadFiles uploads options = (.ok batch, client') →
        batch.Aligned client (uploads.map (UploadEntry.batchEntry options))) ↔
      client.isConnected = false ∨
      (∃ file ∈ uploads, client.files.exist file.localPath = false) ∨
      options.continueOnError = false ∨
      ∀ file ∈ uploads.take options.maxConcurrent, file.refused = false) ∧
    ((∀ batch client', client.downloadFiles downloads options = (.ok batch, client') →
        batch.Aligned client (downloads.map (DownloadEntry.batchEntry options))) ↔
      client.isConnected = false ∨ options.continueOnError = false ∨
      ∀ file ∈ downloads.take options.maxConcurrent, file.refused client options = false) := by
  constructor
  · rcases client.uploadFiles_cases options uploads with
      ⟨reason, error, fails⟩ | ⟨connected, present, totalBytes, goes⟩
    · refine iff_of_true ?_ ?_
      · intro batch client' ran
        rw [fails] at ran
        cases ran
      · rcases reason with off | rfl | missing
        · exact .inl off
        · exact .inr (.inr (.inr (by simp)))
        · exact .inr (.inl missing)
    · have exist : ¬ ∃ file ∈ uploads, client.files.exist file.localPath = false := by
        rintro ⟨file, mem, missing⟩
        rw [present file mem] at missing
        contradiction
      rw [goes, startBatch_aligned_iff UploadEntry.refused (List.length_map _)
        fun file mem => UploadEntry.answers options connected (present file mem), connected]
      simp only [exist, Bool.true_eq_false, false_or]
  · rcases client.downloadFiles_cases options downloads with
      ⟨reason, error, fails⟩ | ⟨connected, goes⟩
    · refine iff_of_true ?_ ?_
      · intro batch client' ran
        rw [fails] at ran
        cases ran
      · rcases reason with off | rfl
        · exact .inl off
        · exact .inr (.inr (by simp))
    · rw [goes, startBatch_aligned_iff (DownloadEntry.refused client options)
        (List.length_map _) fun file _ => DownloadEntry.answers options connected, connected]
      simp only [Bool.true_eq_false, false_or]

/-! ## Two files, one of which is refused -/

/-- A client with two files. -/
def sampleClient : FileTransferClient :=
  .initial 1024 fun path => if path = [0x61] ∨ path = [0x62] then some [1] else none

/-- The upload of a file of one letter; its size may be unreadable, as that of a directory. -/
def sampleUpload (letter : UInt8) (sizeError : Option Bytes) : UploadEntry :=
  ⟨[letter], [], sizeError, .zero⟩

/-- Two files, the first of which is refused: three ids for two files. -/
theorem refused_upload_misaligns :
    (sampleClient.uploadFiles [sampleUpload 0x61 (some []), sampleUpload 0x62 none]
        ⟨4, true, true⟩).1.map BatchContext.transferIds = .ok [0, 1, 0] ∧
      ¬ ∀ batch client', sampleClient.uploadFiles
          [sampleUpload 0x61 (some []), sampleUpload 0x62 none] ⟨4, true, true⟩ =
            (.ok batch, client') →
        batch.Aligned sampleClient ([sampleUpload 0x61 (some []), sampleUpload 0x62 none].map
          (UploadEntry.batchEntry ⟨4, true, true⟩)) := by
  refine ⟨by decide, fun aligned => ?_⟩
  exact absurd (aligned _ _ rfl).ids_length (by decide)

/-! ## What a failed call leaves running -/

/-- No transfer runs whose handle was given out between the two states, and the same transfers
run as before. -/
structure LeavesNothing (client client' : FileTransferClient) : Prop where
  own : ∀ handle, handle - client.nextTransferId < client'.nextTransferId - client.nextTransferId →
    ¬ client'.Active handle
  same : ∀ handle, client'.Active handle ↔ client.Active handle

theorem LeavesNothing.refl (client : FileTransferClient) : LeavesNothing client client where
  own handle given := by
    rw [UInt64.sub_self] at given
    exact absurd given (Nat.not_lt_zero _)
  same _ := Iff.rfl

theorem Grown.not_leavesNothing {count : Nat} {client client' : FileTransferClient}
    (grown : Grown count client client') (some : 0 < count) (addressable : count < 2 ^ 64) :
    ¬ LeavesNothing client client' := by
  intro nothing
  apply nothing.own client.nextTransferId _ (grown.first some)
  rw [grown.nextTransferId, UInt64.sub_self, UInt64.lt_iff_toNat_lt, UInt64.add_comm,
    UInt64.add_sub_cancel, UInt64.toNat_ofNat_of_lt' addressable]
  exact some

section

variable {failure : String} {options : BatchOptions} {batch : BatchContext}
  {client : FileTransferClient} {α : Type} {entry : α → BatchEntry} {refused : α → Bool}
  {files : List α}

theorem startTransfers_of_head
    (answers : ∀ file ∈ files, (entry file).Answers client (refused file))
    (ends : options.continueOnError = false) (head : ∀ file ∈ files.head?, refused file = true)
    (some : ∃ file ∈ files.take options.maxConcurrent, refused file = true) :
    ∃ error, startTransfers failure options (files.map entry) 0 0 batch client =
      (.error error, client) := by
  have room : 0 < options.maxConcurrent := room_of_some some
  cases files with
  | nil =>
      obtain ⟨file, mem, -⟩ := some
      rw [List.take_nil] at mem
      contradiction
  | cons file rest =>
      obtain ⟨error, fails⟩ := (answers file List.mem_cons_self).refuses
        (head file (Option.mem_some_self file)) client (.refl client)
      rw [List.map_cons, startTransfers, if_pos room, fails]
      dsimp only
      rw [if_pos (Bool.not_eq_true _ ▸ ends)]
      exact ⟨_, rfl⟩

theorem startBatch_leavesNothing_iff (refused : α → Bool)
    (answers : ∀ file ∈ files, (entry file).Answers client (refused file))
    (addressable : files.length < 2 ^ 64) :
    (∀ error client', startBatch failure options (files.map entry) batch client =
        (.error error, client') → LeavesNothing client client') ↔
      options.continueOnError = true ∨ (∀ file ∈ files.head?, refused file = true) ∨
      ∀ file ∈ files.take options.maxConcurrent, refused file = false := by
  rcases accepted_or_refused refused (files.take options.maxConcurrent) with accepted | some
  · obtain ⟨started, reached, next, loop, -⟩ :=
      @startTransfers_of_accepted failure options 0 0 batch
      client client α entry refused files (.refl client) answers accepted
    refine iff_of_true ?_ (.inr (.inr accepted))
    intro error client' ran
    rw [startBatch, loop] at ran
    cases ran
  cases passes : options.continueOnError with
  | true =>
      obtain ⟨started, reached, next, loop, -⟩ := @startTransfers_of_refused failure options 0 0
        batch client client α entry refused files (.refl client) answers passes some
      refine iff_of_true ?_ (.inl rfl)
      intro error client' ran
      rw [startBatch, loop] at ran
      cases ran
  | false =>
      by_cases head : ∀ file ∈ files.head?, refused file = true
      · obtain ⟨error, loop⟩ := @startTransfers_of_head failure options batch client α entry refused
          files answers passes head some
        refine iff_of_true ?_ (.inr (.inl head))
        intro other client' ran
        rw [startBatch, loop] at ran
        obtain ⟨-, rfl⟩ := Prod.mk.inj ran
        exact .refl client
      · obtain ⟨error, next, loop, grown⟩ := @startTransfers_of_refusal failure options 0 0 batch
          client client α entry refused files (.refl client) answers passes some
        have ran : startBatch failure options (files.map entry) batch client =
            (.error error, next) := by
          rw [startBatch, loop]
        have short : (files.takeWhile fun file => !refused file).length ≤ files.length :=
          (List.takeWhile_sublist _).length_le
        have started : 0 < (files.takeWhile fun file => !refused file).length := by
          cases files with
          | nil => exact absurd (by simp) head
          | cons file rest =>
              have first : (!refused file) = true := by
                simpa using head
              rw [List.takeWhile_cons, if_pos first, List.length_cons]
              exact Nat.succ_pos _
        refine iff_of_false (fun nothing => ?_) ?_
        · exact grown.not_leavesNothing started (short.trans_lt addressable) (nothing _ _ ran)
        · rintro (again | first | accepted)
          · contradiction
          · exact head first
          · obtain ⟨file, mem, again⟩ := some
            rw [accepted file mem] at again
            contradiction

end

/-- A call that fails leaves nothing running, exactly if it does not get as far as the loop,
failures are passed over, the first file is refused already, or none of the first files is. -/
theorem batches_leaveNothing_iff (client : FileTransferClient) (options : BatchOptions)
    (uploads : List UploadEntry) (downloads : List DownloadEntry)
    (uploadsAddressable : uploads.length < 2 ^ 64)
    (downloadsAddressable : downloads.length < 2 ^ 64) :
    ((∀ error client', client.uploadFiles uploads options = (.error error, client') →
        LeavesNothing client client') ↔
      client.isConnected = false ∨
      (∃ file ∈ uploads, client.files.exist file.localPath = false) ∨
      options.continueOnError = true ∨ (∀ file ∈ uploads.head?, file.refused = true) ∨
      ∀ file ∈ uploads.take options.maxConcurrent, file.refused = false) ∧
    ((∀ error client', client.downloadFiles downloads options = (.error error, client') →
        LeavesNothing client client') ↔
      client.isConnected = false ∨ options.continueOnError = true ∨
      (∀ file ∈ downloads.head?, file.refused client options = true) ∨
      ∀ file ∈ downloads.take options.maxConcurrent, file.refused client options = false) := by
  constructor
  · rcases client.uploadFiles_cases options uploads with
      ⟨reason, error, fails⟩ | ⟨connected, present, totalBytes, goes⟩
    · refine iff_of_true ?_ ?_
      · intro other client' ran
        rw [fails] at ran
        obtain ⟨-, rfl⟩ := Prod.mk.inj ran
        exact .refl client
      · rcases reason with off | rfl | missing
        · exact .inl off
        · exact .inr (.inr (.inr (.inl (by simp))))
        · exact .inr (.inl missing)
    · have exist : ¬ ∃ file ∈ uploads, client.files.exist file.localPath = false := by
        rintro ⟨file, mem, missing⟩
        rw [present file mem] at missing
        contradiction
      rw [goes, startBatch_leavesNothing_iff UploadEntry.refused
        (fun file mem => UploadEntry.answers options connected (present file mem))
        uploadsAddressable, connected]
      simp only [exist, Bool.true_eq_false, false_or]
  · rcases client.downloadFiles_cases options downloads with
      ⟨reason, error, fails⟩ | ⟨connected, goes⟩
    · refine iff_of_true ?_ ?_
      · intro other client' ran
        rw [fails] at ran
        obtain ⟨-, rfl⟩ := Prod.mk.inj ran
        exact .refl client
      · rcases reason with off | rfl
        · exact .inl off
        · exact .inr (.inr (.inl (by simp)))
    · rw [goes, startBatch_leavesNothing_iff (DownloadEntry.refused client options)
        (fun file _ => DownloadEntry.answers options connected) downloadsAddressable, connected]
      simp only [Bool.true_eq_false, false_or]

/-- With both files accepted nothing is left by an error, and neither by the error of a batch
without files. -/
theorem accepted_uploads_leave_nothing :
    (∀ error client', sampleClient.uploadFiles [sampleUpload 0x61 none, sampleUpload 0x62 none]
      ⟨4, false, true⟩ = (.error error, client') → LeavesNothing sampleClient client') ∧
    (∀ error client', sampleClient.downloadFiles [] ⟨4, false, true⟩ =
      (.error error, client') → LeavesNothing sampleClient client') := by
  have both := batches_leaveNothing_iff sampleClient ⟨4, false, true⟩
    [sampleUpload 0x61 none, sampleUpload 0x62 none] [] (by decide) (by decide)
  constructor
  · exact both.1.mpr (.inr (.inr (.inr (.inr (by simp [sampleUpload, UploadEntry.refused])))))
  · exact both.2.mpr (.inr (.inr (.inl (by simp))))

/-- Two files, the second of which is refused: the call fails and the upload of the first one
runs. -/
theorem refused_upload_leaves_running :
    (sampleClient.uploadFiles [sampleUpload 0x61 none, sampleUpload 0x62 (some [])]
        ⟨4, false, true⟩).1.map BatchContext.transferIds =
          unexpected .internalError "Failed to start upload: Cannot get file size: " ∧
      ¬ ∀ error client', sampleClient.uploadFiles
          [sampleUpload 0x61 none, sampleUpload 0x62 (some [])] ⟨4, false, true⟩ =
            (.error error, client') → LeavesNothing sampleClient client' := by
  refine ⟨by decide, fun nothing => ?_⟩
  have runs : ¬ InternalTransferState.transferring.isTerminal := by decide
  exact (nothing _ _ rfl).own 1 (by decide) (.inl ⟨_, rfl, runs⟩)

end FileTransferClient

end FileTrans.Client
