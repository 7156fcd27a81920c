import FileTrans.Cloud.AzureUploadStream

/-!
# The blocks of an Azure upload

What an upload stream has sent, in order, are the blocks numbered from zero on;
the block list names them in this order.  So long as no failure has been
delivered, the blocks followed by the buffer are what was written.
-/

namespace FileTrans.Cloud

open FileTrans.Core FileTrans.Text FileTrans.Transition FileTrans.Collections

/-! ## What was sent -/

/-- An upload of a block, with its answer. -/
structure SentBlock where
  blockId : Bytes
  data : Bytes
  answer : Option AzureResponse

/-- The block that a request uploads. -/
def sentBlock : AzureRequest × Option AzureResponse → Option SentBlock
  | (.putBlock _ blockId data, answer) => some ⟨blockId, data, answer⟩
  | _ => none

/-- The blocks that were uploaded, in order. -/
def sentBlocks (sent : List (AzureRequest × Option AzureResponse)) : List SentBlock :=
  sent.filterMap sentBlock

/-- The id of a block and what `upload_block` returned for it. -/
def SentBlock.result (context : AzureContext) (block : SentBlock) : Bytes × Result Unit :=
  (block.blockId, context.readBlock block.answer)

/-- The id and the data of a block. -/
def SentBlock.entry (block : SentBlock) : Bytes × Bytes :=
  (block.blockId, block.data)

def firstBlockIds (count : Nat) : List Bytes :=
  (List.range count).map generateBlockId

theorem firstBlockIds_succ (count : Nat) :
    firstBlockIds (count + 1) = firstBlockIds count ++ [generateBlockId count] := by
  rw [firstBlockIds, List.range_succ, List.map_append]
  rfl

theorem nodup_firstBlockIds (count : Nat) : (firstBlockIds count).Nodup :=
  List.nodup_range.map generateBlockId_injective

theorem sentBlocks_append (first second : List (AzureRequest × Option AzureResponse)) :
    sentBlocks (first ++ second) = sentBlocks first ++ sentBlocks second :=
  List.filterMap_append

theorem sentBlocks_uploadBlock (context : AzureContext) (blockId data : Bytes)
    (wire : AzureWire) :
    ∃ answer, sentBlocks (context.uploadBlock blockId data wire).2.sent =
        sentBlocks wire.sent ++ [⟨blockId, data, answer⟩] ∧
      (context.uploadBlock blockId data wire).1 = context.readBlock answer :=
  ⟨(context.send (.putBlock context.blobName blockId data) wire).1, sentBlocks_append _ _, rfl⟩

theorem length_uploadBlock (context : AzureContext) (blockId data : Bytes) (wire : AzureWire) :
    (context.uploadBlock blockId data wire).2.sent.length = wire.sent.length + 1 :=
  List.length_append

/-! ## A stream without a delivered failure -/

variable {context : AzureContext}

/-- The blocks that were sent are numbered in order and make up the content; all but the last
have the full size. -/
structure Blocks (context : AzureContext) (content : Bytes) (wire : AzureWire) : Prop where
  ids : (sentBlocks wire.sent).map SentBlock.blockId =
    firstBlockIds (sentBlocks wire.sent).length
  content : ((sentBlocks wire.sent).map SentBlock.data).flatten = content
  sized : ∀ block ∈ (sentBlocks wire.sent).dropLast,
    block.data.length = context.multipart.partSize
  requests : wire.sent.length = (sentBlocks wire.sent).length

/-- Every block is accounted for and listed, and no failure has been delivered. -/
structure SteadyBlocks (context : AzureContext) (content : Bytes) (stream : AzureUploadStream) :
    Prop where
  accounts : stream.uploads.Accounts
    ((sentBlocks stream.wire.sent).map (SentBlock.result context))
  untaken : Untaken stream.uploads.pending
  blocks : Blocks context content stream.wire
  full : ∀ block ∈ sentBlocks stream.wire.sent, block.data.length = context.multipart.partSize
  listed : stream.blockIds = (sentBlocks stream.wire.sent).map SentBlock.blockId
  current : stream.currentBlockNumber = (sentBlocks stream.wire.sent).length

variable {content piece data written : Bytes} {stream after : AzureUploadStream} {passes : Nat}
  {failure : Error}

theorem Blocks.next {wire : AzureWire} (blocks : Blocks context content wire)
    (full : ∀ block ∈ sentBlocks wire.sent, block.data.length = context.multipart.partSize)
    (data : Bytes) :
    Blocks context (content ++ data) (context.uploadBlock
      (generateBlockId (sentBlocks wire.sent).length) data wire).2 := by
  rcases sentBlocks_uploadBlock context (generateBlockId (sentBlocks wire.sent).length) data wire
    with ⟨answer, sent, -⟩
  constructor
  · rw [sent, List.map_append, List.length_append, blocks.ids]
    exact (firstBlockIds_succ _).symm
  · rw [sent, List.map_append, List.flatten_append, blocks.content]
    simp
  · rw [sent, List.dropLast_concat]
    exact full
  · rw [sent, length_uploadBlock, List.length_append, blocks.requests]
    rfl

namespace AzureUploadStream

theorem steady_create (context : AzureContext) (server : AzureServer) :
    SteadyBlocks context [] (create (.begin server)) := by
  refine ⟨Uploads.accounts_start, ?_, ⟨rfl, rfl, ?_, rfl⟩, ?_, rfl, rfl⟩
  · simp [create, Uploads.start, Untaken]
  · simp [create, Wire.begin, sentBlocks]
  · simp [create, Wire.begin, sentBlocks]

theorem flush_ok (outcome : flush context passes piece stream = some (.ok (), after)) :
    ∃ uploads,
      stream.uploads.makeRoom context.multipart.maxConcurrentParts passes =
        some (.ok (), uploads) ∧
      after = { uploadBlockAsync context (generateBlockId stream.currentBlockNumber) piece
        { stream with
          uploads := uploads
          blockIds := stream.blockIds ++ [generateBlockId stream.currentBlockNumber] } with
        currentBlockNumber := stream.currentBlockNumber + 1 } := by
  rw [flush] at outcome
  split at outcome
  · contradiction
  · simp at outcome
  · rename_i uploads room
    cases outcome
    exact ⟨uploads, room, rfl⟩

theorem flush_error (outcome : flush context passes piece stream = some (.error failure, after)) :
    ∃ uploads, after = { stream with uploads } ∧
      stream.uploads.makeRoom context.multipart.maxConcurrentParts passes =
        some (.error failure, uploads) := by
  rw [flush] at outcome
  split at outcome
  · contradiction
  · rename_i found uploads failed
    cases outcome
    exact ⟨uploads, rfl, failed⟩
  · simp at outcome

theorem flush_steady (steady : SteadyBlocks context content stream)
    (size : piece.length = context.multipart.partSize)
    (outcome : flush context passes piece stream = some (.ok (), after)) :
    SteadyBlocks context (content ++ piece) after := by
  rcases flush_ok outcome with ⟨uploads, room, rfl⟩
  rcases Uploads.makeRoom_ok steady.accounts steady.untaken room with ⟨accounts, untaken⟩
  rcases sentBlocks_uploadBlock context (generateBlockId stream.currentBlockNumber) piece
    stream.wire with ⟨answer, sent, result⟩
  constructor
  · simp only [uploadBlockAsync, result, sent, List.map_append, List.map_singleton]
    exact accounts.add _ _ _
  · exact Uploads.untaken_add untaken _ _ _
  · simp only [uploadBlockAsync, steady.current]
    exact steady.blocks.next steady.full piece
  · intro block mem
    simp only [uploadBlockAsync, sent] at mem
    rcases List.mem_append.mp mem with mem | mem
    · exact steady.full block mem
    · rw [List.mem_singleton.mp mem]
      exact size
  · simp only [uploadBlockAsync, sent, List.map_append, List.map_singleton, steady.listed]
  · simp only [uploadBlockAsync, sent, List.length_append, List.length_singleton]
    rw [steady.current]

theorem flush_error_of_steady (steady : SteadyBlocks context content stream)
    (outcome : flush context passes piece stream = some (.error failure, after)) :
    (∃ block ∈ sentBlocks after.wire.sent,
        ∃ failure, (block.result context).2 = .error failure) ∧
      ¬ Untaken after.uploads.pending := by
  rcases flush_error outcome with ⟨uploads, rfl, failed⟩
  rcases Uploads.makeRoom_error steady.accounts steady.untaken failed with ⟨⟨label, same⟩, taken⟩
  rcases Uploads.exists_error_of_perm same with ⟨label, mem⟩
  rcases List.mem_map.mp mem with ⟨block, sent, same⟩
  exact ⟨⟨block, sent, failure, by rw [same]⟩, taken⟩

/-- What a block that is handed on leaves alone. -/
structure SameHeader (before after : AzureUploadStream) : Prop where
  finalized : after.finalized = before.finalized
  aborted : after.aborted = before.aborted
  bytesWritten : after.bytesWritten = before.bytesWritten

theorem SameHeader.refl (stream : AzureUploadStream) : SameHeader stream stream :=
  ⟨rfl, rfl, rfl⟩

theorem SameHeader.trans {middle : AzureUploadStream} (first : SameHeader stream middle)
    (second : SameHeader middle after) : SameHeader stream after where
  finalized := second.finalized.trans first.finalized
  aborted := second.aborted.trans first.aborted
  bytesWritten := second.bytesWritten.trans first.bytesWritten

theorem flush_wire {result : Result Unit}
    (outcome : flush context passes piece stream = some (result, after)) :
    SameHeader stream after ∧ (after.wire = stream.wire ∨
      ∃ blockId, after.wire = (context.uploadBlock blockId piece stream.wire).2) := by
  cases result with
  | error failure =>
      rcases flush_error outcome with ⟨uploads, rfl, -⟩
      exact ⟨⟨rfl, rfl, rfl⟩, .inl rfl⟩
  | ok value =>
      rcases flush_ok outcome with ⟨uploads, -, rfl⟩
      exact ⟨⟨rfl, rfl, rfl⟩, .inr ⟨_, rfl⟩⟩

theorem fill_wire (invariant : AzureWire → Prop)
    (uploads : ∀ wire blockId data, invariant wire →
      invariant (context.uploadBlock blockId data wire).2)
    (initial : invariant stream.wire) {size rounds : Nat} {buffer held : Bytes}
    {result : Result Unit}
    (outcome : fill size (flush context passes) rounds data buffer stream =
      some (result, held, after)) : invariant after.wire ∧ SameHeader stream after := by
  apply fill_invariant (fun other => invariant other.wire ∧ SameHeader stream other) _
    ⟨initial, SameHeader.refl stream⟩ outcome
  rintro piece rest result next ⟨holds, header⟩ flushed
  rcases flush_wire flushed with ⟨same, wire⟩
  refine ⟨?_, header.trans same⟩
  rcases wire with same | ⟨blockId, uploaded⟩
  · rw [same]
    exact holds
  · rw [uploaded]
    exact uploads _ _ _ holds

end AzureUploadStream

/-! ## Writing -/

/-- An open stream without a delivered failure: what it sent and what it holds back is what was
written. -/
structure Staging (context : AzureContext) (written : Bytes) (stream : AzureUploadStream) :
    Prop where
  active : stream.finalized = false ∧ stream.aborted = false
  steady : ∃ handed, SteadyBlocks context handed stream ∧ handed ++ stream.blockBuffer = written
  fits : stream.blockBuffer.length ≤ context.multipart.partSize
  room : 0 < context.multipart.partSize →
    stream.blockBuffer.length < context.multipart.partSize
  bytesWritten : stream.bytesWritten = written.length

namespace AzureUploadStream

theorem staging_create (context : AzureContext) (server : AzureServer) :
    Staging context [] (create (.begin server)) :=
  ⟨⟨rfl, rfl⟩, ⟨[], steady_create context server, rfl⟩, Nat.zero_le _, id, rfl⟩

theorem write_ok (staging : Staging context written stream) {count : Nat}
    (outcome : write context passes data stream = some (.ok count, after)) :
    Staging context (written ++ data) after := by
  rcases staging with ⟨⟨finalized, aborted⟩, ⟨handed, steady, content⟩, fits, room, bytes⟩
  rw [write] at outcome
  simp only [finalized, aborted, Bool.false_eq_true, or_self, if_false] at outcome
  split at outcome
  · contradiction
  · simp at outcome
  · rename_i held next filled
    cases outcome
    rcases fill_ok (SteadyBlocks context) (fun _ _ _ _ steady size flushed =>
      flush_steady steady size flushed) steady fits filled with
      ⟨later, steady, together, fits, less⟩
    have header := (fill_wire (fun _ => True) (fun _ _ _ _ => trivial) trivial filled).2
    rcases steady with ⟨accounts, untaken, blocks, full, listed, current⟩
    refine ⟨?_, ⟨later, ⟨accounts, untaken, blocks, full, listed, current⟩, ?_⟩, fits, ?_, ?_⟩
    · exact ⟨header.finalized.trans finalized, header.aborted.trans aborted⟩
    · rw [together, ← List.append_assoc, content]
    · exact fun positive => less (room positive)
    · simp [header.bytesWritten, bytes]

theorem write_error (staging : Staging context written stream)
    (outcome : write context passes data stream = some (.error failure, after)) :
    ¬ Untaken after.uploads.pending := by
  rcases staging with ⟨⟨finalized, aborted⟩, ⟨handed, steady, content⟩, fits, room, bytes⟩
  rw [write] at outcome
  simp only [finalized, aborted, Bool.false_eq_true, or_self, if_false] at outcome
  split at outcome
  · contradiction
  · rename_i found held next filled
    cases outcome
    rcases fill_error (SteadyBlocks context) (fun _ _ _ _ steady size flushed =>
      flush_steady steady size flushed) steady fits filled with
      ⟨later, before, steady, size, flushed, -⟩
    have delivered := (flush_error_of_steady steady flushed).2
    exact delivered
  · simp at outcome

theorem write_finalized {result : Result Nat}
    (outcome : write context passes data stream = some (result, after)) :
    after.finalized = stream.finalized := by
  rw [write] at outcome
  split at outcome
  · cases outcome
    rfl
  · split at outcome
    · contradiction
    · rename_i filled
      cases outcome
      exact (fill_wire (fun _ => True) (fun _ _ _ _ => trivial) trivial filled).2.finalized
    · rename_i filled
      cases outcome
      exact (fill_wire (fun _ => True) (fun _ _ _ _ => trivial) trivial filled).2.finalized

theorem write_wire (invariant : AzureWire → Prop)
    (uploads : ∀ wire blockId data, invariant wire →
      invariant (context.uploadBlock blockId data wire).2)
    (initial : invariant stream.wire) {result : Result Nat}
    (outcome : write context passes data stream = some (result, after)) :
    invariant after.wire := by
  rw [write] at outcome
  split at outcome
  · cases outcome
    exact initial
  · split at outcome
    · contradiction
    · rename_i filled
      cases outcome
      exact (fill_wire invariant uploads initial filled).1
    · rename_i filled
      cases outcome
      exact (fill_wire invariant uploads initial filled).1

end AzureUploadStream

/-! ## Completing -/

/-- All that was written has been sent and listed. -/
structure AllStaged (context : AzureContext) (written : Bytes) (stream : AzureUploadStream) :
    Prop where
  accounts : stream.uploads.Accounts
    ((sentBlocks stream.wire.sent).map (SentBlock.result context))
  blocks : Blocks context written stream.wire
  listed : stream.blockIds = (sentBlocks stream.wire.sent).map SentBlock.blockId

theorem blockRest_wire {result : Result Unit}
    (outcome : stream.uploadRest context = (result, after)) :
    AzureUploadStream.SameHeader stream after ∧
      (stream.blockBuffer = [] ∧ result = .ok () ∧ after = stream ∨
        stream.blockBuffer ≠ [] ∧
          result = (context.uploadBlock (generateBlockId stream.currentBlockNumber)
            stream.blockBuffer stream.wire).1 ∧
          after = { stream with
            blockIds := stream.blockIds ++ [generateBlockId stream.currentBlockNumber]
            wire := (context.uploadBlock (generateBlockId stream.currentBlockNumber)
              stream.blockBuffer stream.wire).2 }) := by
  rw [AzureUploadStream.uploadRest] at outcome
  split at outcome
  · rename_i empty
    cases outcome
    exact ⟨⟨rfl, rfl, rfl⟩, .inl ⟨empty, rfl, rfl⟩⟩
  · rename_i nonempty
    rcases Prod.mk.inj outcome with ⟨rfl, rfl⟩
    exact ⟨⟨rfl, rfl, rfl⟩, .inr ⟨nonempty, rfl, rfl⟩⟩

theorem blockRest_ok (staging : Staging context written stream)
    (outcome : stream.uploadRest context = (.ok (), after)) :
    stream.blockBuffer = [] ∧ after = stream ∧ AllStaged context written after ∨
      stream.blockBuffer ≠ [] ∧ after.uploads = stream.uploads ∧
        Blocks context written after.wire ∧
        after.blockIds = (sentBlocks after.wire.sent).map SentBlock.blockId ∧
        ∃ block, sentBlocks after.wire.sent = sentBlocks stream.wire.sent ++ [block] ∧
          (block.result context).2 = .ok () := by
  rcases staging with ⟨-, ⟨handed, steady, content⟩, -, -, -⟩
  rcases (blockRest_wire outcome).2 with ⟨empty, -, rfl⟩ | ⟨nonempty, good, rfl⟩
  · rw [empty, List.append_nil] at content
    subst content
    exact .inl ⟨empty, rfl, steady.accounts, steady.blocks, steady.listed⟩
  · rcases sentBlocks_uploadBlock context (generateBlockId stream.currentBlockNumber)
      stream.blockBuffer stream.wire with ⟨answer, sent, result⟩
    refine .inr ⟨nonempty, rfl, ?_, ?_, ⟨_, sent, ?_⟩⟩
    · rw [← content]
      simp only [steady.current]
      exact steady.blocks.next steady.full stream.blockBuffer
    · simp only [sent, List.map_append, List.map_singleton, steady.listed]
    · exact result.symm.trans good.symm

theorem azureFinalize_cases {result : UploadResult}
    (outcome : stream.finalize context = (.ok result, after)) :
    (stream.finalized = false ∧ stream.aborted = false) ∧
    ∃ before uploads answer,
      stream.uploadRest context = (.ok (), before) ∧
      before.uploads.waitAllUploads = (.ok (), uploads) ∧
      (some answer, after.wire) = context.send
        (.putBlockList context.blobName before.blockIds) before.wire ∧
      answer.status = 201 ∧ result.bytesUploaded = before.bytesWritten ∧
      after.bytesWritten = before.bytesWritten := by
  rw [AzureUploadStream.finalize] at outcome
  split at outcome
  · simp [unexpected] at outcome
  · rename_i finalized
    split at outcome
    · simp [unexpected] at outcome
    · rename_i aborted
      refine ⟨⟨Bool.not_eq_true _ ▸ finalized, Bool.not_eq_true _ ▸ aborted⟩, ?_⟩
      split at outcome
      · simp at outcome
      · rename_i before rest
        split at outcome
        · simp at outcome
        · rename_i uploads waited
          rw [AzureUploadStream.commitBlockList] at outcome
          simp only at outcome
          split at outcome
          · simp [AzureContext.transportError] at outcome
          · rename_i response answered
            split at outcome
            · simp [statusError] at outcome
            · rename_i success
              cases outcome
              refine ⟨before, uploads, response, rest, waited, ?_, not_not.mp success, rfl, rfl⟩
              rw [← answered]

/-- What the commit of the blocks sends: the ids of all blocks in the order in which they were
sent, and every one of them was answered with success. -/
theorem azureFinalize_ok (staging : Staging context written stream) {result : UploadResult}
    (outcome : stream.finalize context = (.ok result, after)) :
    ∃ before answer,
      stream.uploadRest context = (.ok (), before) ∧
      Blocks context written before.wire ∧
      (∀ block ∈ sentBlocks before.wire.sent, (block.result context).2 = .ok ()) ∧
      (some answer, after.wire) = context.send (.putBlockList context.blobName
        ((sentBlocks before.wire.sent).map SentBlock.blockId)) before.wire ∧
      answer.status = 201 ∧ result.bytesUploaded = written.length ∧
      after.bytesWritten = written.length := by
  rcases azureFinalize_cases outcome with
    ⟨-, before, uploads, answer, rest, waited, sends, success, reported, counted⟩
  have bytes : before.bytesWritten = written.length :=
    (blockRest_wire rest).1.bytesWritten.trans staging.bytesWritten
  have length := And.intro (reported.trans bytes) (counted.trans bytes)
  have all_good (begun : List (Bytes × Result Unit)) (accounts : before.uploads.Accounts begun) :
      ∀ entry ∈ begun, entry.2 = .ok () := by
    intro entry mem
    have same := (Uploads.waitAllUploads_ok accounts waited).1
    rcases List.mem_map.mp (same.mem_iff.mp mem) with ⟨found, -, rfl⟩
    rfl
  rcases blockRest_ok staging rest with
    ⟨-, rfl, staged⟩ | ⟨-, uploads, blocks, listed, block, sent, good⟩
  · rw [staged.listed] at sends
    refine ⟨before, answer, rest, staged.blocks, ?_, sends, success, length⟩
    intro block mem
    exact all_good _ staged.accounts _ (List.mem_map_of_mem mem)
  · rw [listed] at sends
    refine ⟨before, answer, rest, blocks, ?_, sends, success, length⟩
    rcases staging.steady with ⟨handed, steady, -⟩
    have accounts := steady.accounts
    rw [← uploads] at accounts
    intro other mem
    rw [sent] at mem
    rcases List.mem_append.mp mem with mem | mem
    · exact all_good _ accounts _ (List.mem_map_of_mem mem)
    · rw [List.mem_singleton.mp mem]
      exact good

end FileTrans.Cloud
