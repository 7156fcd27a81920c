import FileTrans.Cloud.AzureBlocks

/-!
# Calls on an Azure upload after a failure

The id of the last block is listed before the block is uploaded.  A `finalize`
that fails leaves it in the list, so that the next one lists it twice; a `write`
that fails leaves a part of its data in the buffer, and drops the failure.

Where every request is executed and answered and there is a slot to wait for, a
`write` returns success, and so does `finalize`.
-/

namespace FileTrans.Cloud

open FileTrans.Core FileTrans.Transition FileTrans.Collections

/-- One call.  One that does not return within so many passes of its loops is left out of the
run. -/
def azureStep (context : AzureContext) (passes : Nat) :
    Step AzureUploadStream UploadCall (Option UploadReturn) := fun stream call =>
  match call with
  | .write data =>
      match stream.write context passes data with
      | none => (none, stream)
      | some (result, stream) => (some (.wrote result), stream)
  | .finalize =>
      let finished := stream.finalize context
      (some (.finished finished.1), finished.2)

/-- The stream is closed, or no failure has been delivered from an entry that is still in the
list, and no block is listed beyond those that were numbered. -/
def Fresh (stream : AzureUploadStream) (_ : UploadCall) : Prop :=
  stream.finalized = true ∨
    Untaken stream.uploads.pending ∧ stream.blockIds.length = stream.currentBlockNumber

instance (stream : AzureUploadStream) (call : UploadCall) : Decidable (Fresh stream call) :=
  inferInstanceAs (Decidable (_ ∨ _))

variable {context : AzureContext} {written data : Bytes} {stream after : AzureUploadStream}
  {passes : Nat}

/-! ## Blocks on the server -/

/-- The server has executed some of the uploads that were sent, among them all that were answered
with success. -/
structure Staged (context : AzureContext) (earlier : List (Bytes × Bytes)) (wire : AzureWire)
    (executed : List (Bytes × Bytes)) : Prop where
  blocks : wire.server.blocks context.blobName = earlier ++ executed
  sent : executed.Sublist ((sentBlocks wire.sent).map SentBlock.entry)
  accepted : ∀ block ∈ sentBlocks wire.sent, (block.result context).2 = .ok () →
    block.entry ∈ executed

variable {earlier : List (Bytes × Bytes)}

theorem staged_uploadBlock {wire : AzureWire} {executed : List (Bytes × Bytes)}
    (staged : Staged context earlier wire executed) (blockId data : Bytes) :
    ∃ later, Staged context earlier (context.uploadBlock blockId data wire).2 later := by
  have executes : (context.uploadBlock blockId data wire).2.server.blocks context.blobName =
        earlier ++ (executed ++ [(blockId, data)]) ∨
      (context.uploadBlock blockId data wire).2.server.blocks context.blobName =
        earlier ++ executed ∧
      (context.uploadBlock blockId data wire).1 ≠ .ok () := by
    rw [AzureContext.uploadBlock, AzureContext.send, ← List.append_assoc, ← staged.blocks]
    simp only [exchange]
    cases context.network.fate wire.sent.length with
    | served => exact .inl (Function.update_self _ _ _)
    | unanswered => exact .inl (Function.update_self _ _ _)
    | lost =>
        exact .inr ⟨rfl, by simp [deliver, AzureContext.readBlock, AzureContext.transportError]⟩
    | refused status =>
        refine .inr ⟨rfl, ?_⟩
        have error := status.isError
        have other : status.code ≠ 201 := by omega
        simp [deliver, azureService, AzureResponse.ofStatus, AzureContext.readBlock, other,
          statusError]
  rcases sentBlocks_uploadBlock context blockId data wire with ⟨answer, sent, result⟩
  rcases executes with blocks | ⟨blocks, failed⟩
  · refine ⟨executed ++ [(blockId, data)], blocks, ?_, ?_⟩
    · rw [sent, List.map_append]
      exact staged.sent.append (List.Sublist.refl _)
    · intro block mem good
      rw [sent] at mem
      rcases List.mem_append.mp mem with mem | mem
      · exact List.mem_append_left _ (staged.accepted block mem good)
      · rw [List.mem_singleton.mp mem]
        exact List.mem_append_right _ List.mem_cons_self
  · refine ⟨executed, blocks, ?_, ?_⟩
    · rw [sent, List.map_append]
      exact staged.sent.trans (List.sublist_append_left _ _)
    · intro block mem good
      rw [sent] at mem
      rcases List.mem_append.mp mem with mem | mem
      · exact staged.accepted block mem good
      · rw [List.mem_singleton.mp mem] at good
        exact absurd (result.trans good) failed

theorem gather_of_staged {wire : AzureWire} {executed : List (Bytes × Bytes)}
    (staged : Staged context earlier wire executed) (blocks : Blocks context written wire)
    (good : ∀ block ∈ sentBlocks wire.sent, (block.result context).2 = .ok ()) :
    gather (fun blockId => latest blockId (wire.server.blocks context.blobName))
        ((sentBlocks wire.sent).map SentBlock.blockId) = some written := by
  have distinct : (((sentBlocks wire.sent).map SentBlock.entry).map Prod.fst).Nodup := by
    rw [List.map_map]
    exact blocks.ids ▸ nodup_firstBlockIds _
  rw [← blocks.content]
  apply gather_of_forall
  rw [List.forall₂_map_left_iff, List.forall₂_map_right_iff, List.forall₂_same]
  intro block mem
  have found : latest block.blockId executed = some block.data :=
    latest_of_mem (distinct.sublist (staged.sent.map _))
      (staged.accepted block mem (good block mem))
  rw [staged.blocks, latest_append, found]
  rfl

theorem commit_stores {wire last : AzureWire} {blockIds : List Bytes} {answer : AzureResponse}
    {content : Bytes}
    (gathers : gather (fun blockId => latest blockId (wire.server.blocks context.blobName))
      blockIds = some content)
    (sends : (some answer, last) =
      context.send (.putBlockList context.blobName blockIds) wire)
    (success : answer.status = 201) :
    last.server.blobs context.blobName = some content := by
  have answered : some answer = _ := congrArg Prod.fst sends
  have received : last = _ := congrArg Prod.snd sends
  rw [received]
  rw [AzureContext.send] at answered ⊢
  simp only [exchange] at answered ⊢
  have serve : (azureService context.etagOf).serve (.putBlockList context.blobName blockIds)
      wire.server = (⟨201, some (context.etagOf content), []⟩, { wire.server with
        blobs := Function.update wire.server.blobs context.blobName (some content) }) := by
    simp [azureService, AzureServer.serve, gathers]
  cases fate : context.network.fate wire.sent.length with
  | served =>
      simp only [deliver, serve]
      exact Function.update_self _ _ _
  | unanswered => simp [fate, deliver] at answered
  | lost => simp [fate, deliver] at answered
  | refused status =>
      have error := status.isError
      simp only [fate, deliver, azureService, AzureResponse.ofStatus, Option.some.injEq] at answered
      rw [answered] at success
      simp only at success
      omega

/-! ## Runs in which no failure is left behind -/

/-- A stream is closed, has left a failure behind, or is staging blocks that are on the
server. -/
inductive AzureStage (context : AzureContext) (earlier : List (Bytes × Bytes)) (written : Bytes)
    (stream : AzureUploadStream) : Prop
  | closed (closed : stream.finalized = true ∨ stream.aborted = true)
  | stale (stale : ∀ call, ¬ Fresh stream call)
  | staging (staging : Staging context written stream)
      (staged : ∃ executed, Staged context earlier stream.wire executed)

theorem azureStep_of_closed (closed : stream.finalized = true ∨ stream.aborted = true)
    (call : UploadCall) :
    (azureStep context passes stream call).2 = stream ∧
      ¬ ReportsSuccess (azureStep context passes stream call).1 := by
  cases call with
  | write data => simp [azureStep, AzureUploadStream.write, closed, ReportsSuccess, unexpected]
  | finalize =>
      rcases closed with finalized | aborted
      · simp [azureStep, AzureUploadStream.finalize, finalized, ReportsSuccess, unexpected]
      · cases finalized : stream.finalized <;>
          simp [azureStep, AzureUploadStream.finalize, finalized, aborted, ReportsSuccess,
            unexpected]

theorem stale_of_taken (active : stream.finalized = false)
    (taken : ¬ Untaken stream.uploads.pending) : AzureStage context earlier written stream := by
  apply AzureStage.stale
  rintro call (closed | ⟨untaken, -⟩)
  · simp [active] at closed
  · exact taken untaken

theorem finalize_stage (staging : Staging context written stream) {result : Result UploadResult}
    (outcome : stream.finalize context = (result, after)) :
    AzureStage context earlier written after := by
  rcases staging.steady with ⟨handed, steady, -⟩
  rw [AzureUploadStream.finalize] at outcome
  simp only [staging.active, Bool.false_eq_true, if_false] at outcome
  split at outcome
  · rename_i failure next rest
    cases outcome
    rcases blockRest_wire rest with ⟨header, ⟨-, good, -⟩ | ⟨-, -, rfl⟩⟩
    · contradiction
    · -- the id of the block that failed is in the list, its number is not used up
      apply AzureStage.stale
      rintro call (closed | ⟨-, length⟩)
      · simp [staging.active] at closed
      · simp [steady.listed, steady.current] at length
  · rename_i next rest
    have header := (blockRest_wire rest).1
    split at outcome
    · rename_i failure uploads waited
      cases outcome
      have accounts : ∃ begun, next.uploads.Accounts begun := by
        rcases blockRest_ok staging rest with ⟨-, rfl, staged⟩ | ⟨-, same, -⟩
        · exact ⟨_, staged.accounts⟩
        · exact ⟨_, same ▸ steady.accounts⟩
      rcases accounts with ⟨begun, accounts⟩
      exact stale_of_taken (header.finalized.trans staging.active.1)
        (Uploads.waitAllUploads_error accounts waited).2
    · rename_i uploads waited
      apply AzureStage.closed
      rw [AzureUploadStream.commitBlockList] at outcome
      simp only at outcome
      split at outcome
      · cases outcome
        exact .inl rfl
      · split at outcome
        · cases outcome
          exact .inl rfl
        · cases outcome
          exact .inl rfl

theorem azureStage_step {call : UploadCall} (stage : AzureStage context earlier written stream)
    (fresh : Fresh stream call) :
    AzureStage context earlier (written ++ call.adds (azureStep context passes stream call).1)
      (azureStep context passes stream call).2 := by
  cases stage with
  | closed closed =>
      rw [(azureStep_of_closed closed call).1]
      exact .closed closed
  | stale stale => exact absurd fresh (stale call)
  | staging staging staged =>
      cases call with
      | write data =>
          rw [azureStep]
          cases outcome : stream.write context passes data with
          | none =>
              simp only [UploadCall.adds, List.append_nil]
              exact .staging staging staged
          | some returned =>
              rcases returned with ⟨result, after⟩
              have later := AzureUploadStream.write_wire
                (fun wire => ∃ executed, Staged context earlier wire executed)
                (fun wire blockId data staged => by
                  rcases staged with ⟨executed, staged⟩
                  exact staged_uploadBlock staged blockId data) staged outcome
              cases result with
              | error failure =>
                  exact stale_of_taken
                    ((AzureUploadStream.write_finalized outcome).trans staging.active.1)
                    (AzureUploadStream.write_error staging outcome)
              | ok count => exact .staging (AzureUploadStream.write_ok staging outcome) later
      | finalize =>
          have same :
              UploadCall.adds .finalize (azureStep context passes stream .finalize).1 = [] :=
            rfl
          rw [same, List.append_nil]
          exact finalize_stage staging rfl

theorem staged_create (context : AzureContext) (server : AzureServer) :
    ∃ executed, Staged context (server.blocks context.blobName)
      (AzureUploadStream.create (.begin server)).wire executed := by
  refine ⟨[], (List.append_nil _).symm, List.nil_sublist _, ?_⟩
  intro block mem
  contradiction

theorem stores_of_finalize (staging : Staging context written stream)
    (staged : ∃ executed, Staged context earlier stream.wire executed) {result : UploadResult}
    (outcome : stream.finalize context = (.ok result, after)) :
    after.wire.server.blobs context.blobName = some written := by
  rcases azureFinalize_ok staging outcome with
    ⟨before, answer, rest, blocks, good, sends, success, -⟩
  have later : ∃ executed, Staged context earlier before.wire executed := by
    rcases (blockRest_wire rest).2 with ⟨-, -, rfl⟩ | ⟨-, -, rfl⟩
    · exact staged
    · rcases staged with ⟨executed, staged⟩
      exact staged_uploadBlock staged _ _
  rcases later with ⟨executed, staged⟩
  exact commit_stores (gather_of_staged staged blocks good) sends success

/-- In a run whose calls are all fresh, a `finalize` that reports success has stored the data of
the successful writes, each byte once. -/
theorem finalized_stores (context : AzureContext) (server : AzureServer) (passes : Nat)
    (calls : List UploadCall)
    (fresh : Guarded (azureStep context passes) Fresh (.create (.begin server)) calls) :
    ∀ before call rest, calls = before ++ call :: rest →
      ReportsSuccess (azureStep context passes
        (final (azureStep context passes) (.create (.begin server)) before) call).1 →
      (final (azureStep context passes) (.create (.begin server))
          (before ++ [call])).wire.server.blobs context.blobName =
        some (writtenBytes (azureStep context passes) (.create (.begin server)) before) := by
  rintro before call rest rfl reports
  rw [final_concat]
  have freshCall := (guarded_append_iff.mp fresh).2.1
  have stage := writtenBytes_invariant (AzureStage context (server.blocks context.blobName))
    (fun _ _ _ stage fresh => azureStage_step stage fresh) fresh.firstPart
    (.staging (AzureUploadStream.staging_create context server) (staged_create context server))
  rw [List.nil_append] at stage
  cases stage with
  | closed closed => exact absurd reports (azureStep_of_closed closed call).2
  | stale stale => exact absurd freshCall (stale call)
  | staging staging staged =>
      cases call with
      | write data =>
          rw [azureStep] at reports
          split at reports <;> contradiction
      | finalize =>
          rw [azureStep] at reports ⊢
          cases outcome : AzureUploadStream.finalize context
            (final (azureStep context passes) (.create (.begin server)) before) with
          | mk result after =>
              rw [outcome] at reports
              cases result with
              | error failure => contradiction
              | ok result => exact stores_of_finalize staging staged outcome

/-- Blocks of two bytes, one at a time, over a network with these fates. -/
def pairBlocks (fate : Nat → Fate) : AzureContext where
  blobName := [0x62]
  multipart := ⟨true, 0, 2, 1⟩
  network := ⟨fate, fun _ => 0⟩
  sha256 := fun _ => []
  transportMessage := []
  etagOf := id

/-- A server without blobs. -/
def emptyAzureServer : AzureServer :=
  ⟨fun _ => none, fun _ => []⟩

/-- Without a failure a full block and the rest are stored. -/
theorem finalized_stores_sample :
    (final (azureStep (pairBlocks fun _ => .served) 4) (.create (.begin emptyAzureServer))
        [.write [1, 2, 3], .finalize]).wire.server.blobs [0x62] =
      some (writtenBytes (azureStep (pairBlocks fun _ => .served) 4)
        (.create (.begin emptyAzureServer)) [.write [1, 2, 3]]) :=
  finalized_stores (pairBlocks fun _ => .served) emptyAzureServer 4 [.write [1, 2, 3], .finalize]
    (by simp only [guarded_cons_iff, guarded_nil]; decide) [.write [1, 2, 3]] .finalize [] rfl
    (by decide)

/-- The first request is lost. -/
def firstLost (number : Nat) : Fate :=
  if number = 0 then .lost else .served

/-- The upload of the last block fails, and `finalize` is called again: the id is listed twice,
and so the blob has the byte twice. -/
theorem finalized_stores_twice :
    ¬ ∀ (context : AzureContext) (server : AzureServer) (passes : Nat)
        (calls before : List UploadCall) (call : UploadCall) (rest : List UploadCall),
      calls = before ++ call :: rest →
      ReportsSuccess (azureStep context passes
        (final (azureStep context passes) (.create (.begin server)) before) call).1 →
      (final (azureStep context passes) (.create (.begin server))
          (before ++ [call])).wire.server.blobs context.blobName =
        some (writtenBytes (azureStep context passes) (.create (.begin server)) before) := by
  intro claim
  have stored := claim (pairBlocks firstLost) emptyAzureServer 4
    [.write [1], .finalize, .finalize] [.write [1], .finalize] .finalize [] rfl (by decide)
  revert stored
  decide

end FileTrans.Cloud

namespace FileTrans.Cloud

open FileTrans.Core FileTrans.Text FileTrans.Transition FileTrans.Collections

/-! ## Uploads that go through -/

variable {context : AzureContext} {content piece data written total : Bytes}
  {stream after : AzureUploadStream} {passes bound : Nat}

theorem uploadBlock_of_serves (serves : context.network.Serves) (blockId data : Bytes)
    (wire : AzureWire) : (context.uploadBlock blockId data wire).1 = .ok () := by
  rw [AzureContext.uploadBlock, AzureContext.send, (exchange_of_served (serves _)).1]
  rfl

/-- Every block has a good result, and the answers under way are there in time. -/
structure PromisingBlocks (context : AzureContext) (bound : Nat) (stream : AzureUploadStream) :
    Prop where
  results : ∀ block ∈ sentBlocks stream.wire.sent, (block.result context).2 = .ok ()
  finishes : ∀ upload ∈ stream.uploads.pending, upload.finishes ≤ bound

theorem promising_create (context : AzureContext) (server : AzureServer) (bound : Nat) :
    PromisingBlocks context bound (.create (.begin server)) := by
  constructor
  · intro block mem
    contradiction
  · intro upload mem
    contradiction

theorem results_uploadBlock (serves : context.network.Serves) {wire : AzureWire}
    (results : ∀ block ∈ sentBlocks wire.sent, (block.result context).2 = .ok ())
    (blockId data : Bytes) :
    ∀ block ∈ sentBlocks (context.uploadBlock blockId data wire).2.sent,
      (block.result context).2 = .ok () := by
  rcases sentBlocks_uploadBlock context blockId data wire with ⟨answer, sent, result⟩
  intro block mem
  rw [sent] at mem
  rcases List.mem_append.mp mem with mem | mem
  · exact results block mem
  · rw [List.mem_singleton.mp mem]
    exact result.symm.trans (uploadBlock_of_serves serves _ _ _)

theorem no_failed_block (results : ∀ block ∈ sentBlocks stream.wire.sent,
      (block.result context).2 = .ok ()) :
    ¬ ∃ label failure, (label, .error failure) ∈
      (sentBlocks stream.wire.sent).map (SentBlock.result context) := by
  rintro ⟨label, failure, mem⟩
  rcases List.mem_map.mp mem with ⟨block, sent, same⟩
  have good := results block sent
  rw [same] at good
  contradiction

namespace AzureUploadStream

theorem flush_returns (serves : context.network.Serves)
    (positive : 0 < context.multipart.partSize)
    (slots : 0 < context.multipart.maxConcurrentParts)
    (bounded : ∀ number ≤ total.length, context.network.finishes number ≤ bound)
    (steady : SteadyBlocks context content stream)
    (promising : PromisingBlocks context bound stream)
    (size : piece.length = context.multipart.partSize) (part : content ++ piece <+: total) :
    ∃ after, flush context (bound + 1) piece stream = some (.ok (), after) ∧
      SteadyBlocks context (content ++ piece) after ∧ PromisingBlocks context bound after := by
  have number : stream.wire.sent.length ≤ total.length := by
    have begun := (List.prefix_append content piece).trans part
    apply le_trans _ begun.length_le
    rw [← steady.blocks.content, length_flatten_pieces steady.full, steady.blocks.requests]
    exact Nat.le_mul_of_pos_right _ positive
  rcases Uploads.makeRoom_returns steady.accounts steady.untaken slots
    (fun upload mem => le_trans (promising.finishes upload mem) (Nat.le_add_left bound _))
    (no_failed_block promising.results) with ⟨uploads, room⟩
  have flushed : flush context (bound + 1) piece stream = some (.ok (),
      { uploadBlockAsync context (generateBlockId stream.currentBlockNumber) piece
          { stream with
            uploads
            blockIds := stream.blockIds ++ [generateBlockId stream.currentBlockNumber] } with
        currentBlockNumber := stream.currentBlockNumber + 1 }) := by
    rw [flush, room]
    rfl
  refine ⟨_, flushed, flush_steady steady size flushed,
    results_uploadBlock serves promising.results _ _, ?_⟩
  intro upload mem
  rcases List.mem_append.mp mem with mem | mem
  · exact promising.finishes upload (Uploads.mem_makeRoom room mem)
  · rw [List.mem_singleton.mp mem]
    exact bounded _ number

theorem write_returns (serves : context.network.Serves)
    (positive : 0 < context.multipart.partSize)
    (slots : 0 < context.multipart.maxConcurrentParts)
    (bounded : ∀ number ≤ total.length, context.network.finishes number ≤ bound)
    (staging : Staging context written stream) (promising : PromisingBlocks context bound stream)
    (part : written ++ data <+: total) (enough : data.length ≤ bound) :
    ∃ after, write context (bound + 1) data stream = some (.ok data.length, after) ∧
      PromisingBlocks context bound after := by
  rcases staging with ⟨⟨finalized, aborted⟩, ⟨handed, steady, content⟩, -, room, -⟩
  rw [← content, List.append_assoc] at part
  rcases fill_returns positive
    (fun content other => SteadyBlocks context content other ∧
      PromisingBlocks context bound other)
    (fun content piece rest holds size begins => flush_returns serves positive slots bounded
      holds.1 holds.2 size begins)
    ⟨steady, promising⟩ (room positive) part (Nat.lt_succ_of_le enough) with
    ⟨held, after, later, filled, ⟨-, kept⟩, -, -⟩
  refine ⟨{ after with
    blockBuffer := held
    bytesWritten := after.bytesWritten + data.length }, ?_, kept.results, kept.finishes⟩
  rw [write]
  simp only [finalized, aborted, Bool.false_eq_true, or_self, if_false, filled]

theorem finalize_returns (serves : context.network.Serves)
    (staging : Staging context written stream)
    (promising : PromisingBlocks context bound stream) {earlier : List (Bytes × Bytes)}
    (staged : ∃ executed, Staged context earlier stream.wire executed) :
    ∃ result after, finalize context stream = (.ok result, after) := by
  rcases staging.active with ⟨finalized, aborted⟩
  have reaches : ∃ before, uploadRest context stream = (.ok (), before) ∧
      (∀ block ∈ sentBlocks before.wire.sent, (block.result context).2 = .ok ()) ∧
      ∃ executed, Staged context earlier before.wire executed := by
    rw [uploadRest]
    split
    · exact ⟨stream, rfl, promising.results, staged⟩
    · rcases staged with ⟨executed, staged⟩
      simp only [uploadBlock_of_serves serves]
      exact ⟨_, rfl, results_uploadBlock serves promising.results _ _,
        staged_uploadBlock staged _ _⟩
  rcases reaches with ⟨before, rest, results, executed, staged⟩
  have listed : Blocks context written before.wire ∧
      before.blockIds = (sentBlocks before.wire.sent).map SentBlock.blockId ∧
      ∃ begun, before.uploads.Accounts begun ∧
        begun ⊆ (sentBlocks before.wire.sent).map (SentBlock.result context) := by
    rcases blockRest_ok staging rest with
      ⟨-, rfl, sent⟩ | ⟨-, same, blocks, listed, block, sent, -⟩
    · exact ⟨sent.blocks, sent.listed, _, sent.accounts, List.Subset.refl _⟩
    · rcases staging.steady with ⟨handed, steady, -⟩
      refine ⟨blocks, listed, _, same ▸ steady.accounts, ?_⟩
      rw [sent, List.map_append]
      exact List.subset_append_left _ _
  rcases listed with ⟨blocks, listed, begun, accounts, among⟩
  have gathers := gather_of_staged staged blocks results
  cases waited : before.uploads.waitAllUploads with
  | mk outcome uploads =>
      cases outcome with
      | error failure =>
          rcases (Uploads.waitAllUploads_error accounts waited).1 with ⟨label, mem⟩
          exact absurd ⟨label, failure, among mem⟩ (no_failed_block results)
      | ok value =>
          have answered : (context.send (.putBlockList context.blobName before.blockIds)
              before.wire).1 = some ⟨201, some (context.etagOf written), []⟩ := by
            rw [AzureContext.send, (exchange_of_served (serves _)).1, listed]
            simp [azureService, AzureServer.serve, gathers]
          rw [finalize]
          simp only [finalized, aborted, Bool.false_eq_true, if_false, rest, waited]
          rw [commitBlockList]
          simp only [answered, ne_eq, not_true_eq_false, if_false]
          exact ⟨_, _, rfl⟩

end AzureUploadStream

end FileTrans.Cloud
