import FileTrans.Client.FileTransferClient
import FileTrans.Transition.Run

/-!
# When a download is complete

The client counts the chunks it accepts and compares the count with the total.
A delivery records, next to the client, which indices were accepted.  As long
as no index is accepted twice and none lies beyond the total, the count is the
number of distinct indices, and a completed download has received them all.
-/

namespace FileTrans.Client

open FileTrans.Core
open FileTrans.Storage
open FileTrans.Transition

/-- A client together with the indices of the chunks it accepted for a download. -/
structure Delivery where
  client : FileTransferClient
  accepted : List UInt64

/-- One call of `process_download_chunk`. -/
structure ChunkCall where
  disk : DiskOutcome
  chunk : Chunk

/-- The download right after `set_download_metadata`. -/
def Delivery.described (client : FileTransferClient) (disk : DiskOutcome) (handle : UInt64)
    (fileSize total : UInt64) (chunkSize : UInt32) (sha256Hash : Bytes) : Delivery :=
  ⟨(client.setDownloadMetadata disk handle fileSize total chunkSize sha256Hash).2, []⟩

section

variable (relock : Relock) (lz4 : Option Lz4) (handle : UInt64)

/-- `process_download_chunk`, recording the index of an accepted chunk. -/
def deliver : Step Delivery ChunkCall (Completion Unit) := fun delivery call =>
  let called := delivery.client.processDownloadChunk relock lz4 call.disk handle call.chunk
  (called.1,
    { client := called.2
      accepted := if delivery.client.accepts lz4 call.disk handle call.chunk then
        call.chunk.header.chunkIndex :: delivery.accepted else delivery.accepted })

/-- `received_chunks` and `bytes_received` of the download. -/
def counters (client : FileTransferClient) : Option (UInt64 × UInt64) :=
  (client.downloadContexts handle).map fun ctx => (ctx.transferredChunks, ctx.transferredBytes)

/-- If the download is completed, each index below `total` was accepted. -/
def CompletedWhole (total : UInt64) (delivery : Delivery) : Prop :=
  ∀ ctx, delivery.client.downloadContexts handle = some ctx → ctx.state = .completed →
    ∀ index < total, index ∈ delivery.accepted

/-- Delivering an index that was accepted before leaves the counters alone. -/
def RedeliveryIdle (delivery : Delivery) (call : ChunkCall) : Prop :=
  call.chunk.header.chunkIndex ∈ delivery.accepted →
    counters handle (deliver relock lz4 handle delivery call).2.client =
      counters handle delivery.client

/-- The call does not make the client accept an index beyond the total or an
index that it accepted before. -/
def AcceptsFresh (total : UInt64) (delivery : Delivery) (call : ChunkCall) : Prop :=
  delivery.client.accepts lz4 call.disk handle call.chunk = true →
    call.chunk.header.chunkIndex < total ∧ call.chunk.header.chunkIndex ∉ delivery.accepted

/-- The context counts exactly the accepted indices, each once. -/
structure CountsAccepted (total : UInt64) (delivery : Delivery) (ctx : DownloadContext) :
    Prop where
  present : delivery.client.downloadContexts handle = some ctx
  total_eq : ctx.totalChunks = total
  nodup : delivery.accepted.Nodup
  below : ∀ index ∈ delivery.accepted, index < total
  count_eq : ctx.transferredChunks.toNat = delivery.accepted.length
  complete : ctx.state = .completed → total.toNat ≤ delivery.accepted.length

variable {relock lz4 handle} {total : UInt64} {delivery : Delivery} {ctx : DownloadContext}

theorem length_le_of_nodup {indices : List UInt64} (nodup : indices.Nodup)
    (below : ∀ index ∈ indices, index < total) : indices.length ≤ total.toNat := by
  have inside : (indices.map UInt64.toNat).toFinset ⊆ Finset.range total.toNat := by
    intro value mem
    obtain ⟨index, indexMem, rfl⟩ := List.mem_map.mp (List.mem_toFinset.mp mem)
    exact Finset.mem_range.mpr (UInt64.lt_iff_toNat_lt.mp (below index indexMem))
  have distinct : (indices.map UInt64.toNat).Nodup :=
    nodup.map fun _ _ same => UInt64.toNat_inj.mp same
  have card := Finset.card_le_card inside
  rwa [List.toFinset_card_of_nodup distinct, List.length_map, Finset.card_range] at card

theorem mem_of_length_ge {indices : List UInt64} (nodup : indices.Nodup)
    (below : ∀ index ∈ indices, index < total) (enough : total.toNat ≤ indices.length)
    {index : UInt64} (inside : index < total) : index ∈ indices := by
  by_contra missing
  have longer : (index :: indices).length ≤ total.toNat := by
    apply length_le_of_nodup (List.nodup_cons.mpr ⟨missing, nodup⟩)
    intro other mem
    rcases List.mem_cons.mp mem with rfl | mem
    · exact inside
    · exact below other mem
  simp only [List.length_cons] at longer
  omega

namespace CountsAccepted

theorem completedWhole (counts : CountsAccepted handle total delivery ctx) :
    CompletedWhole handle total delivery := by
  intro completed present done index inside
  obtain rfl := Option.some.inj (counts.present.symm.trans present)
  exact mem_of_length_ge counts.nodup counts.below (counts.complete done) inside

theorem deliver (counts : CountsAccepted handle total delivery ctx) {call : ChunkCall}
    (fresh : AcceptsFresh lz4 handle total delivery call) :
    ∃ ctx', CountsAccepted handle total
        (Client.deliver relock lz4 handle delivery call).2 ctx' := by
  rcases delivery.client.processDownloadChunk_cases relock lz4 call.disk handle call.chunk with
    ⟨refused, contexts, _⟩ | ⟨before, received, files, taken, present, unlocked, stored, process⟩
  · refine ⟨ctx, ?_⟩
    constructor
    case present => exact (congrFun contexts handle).trans counts.present
    case total_eq => exact counts.total_eq
    case nodup => simpa [Client.deliver, refused] using counts.nodup
    case below => simpa [Client.deliver, refused] using counts.below
    case count_eq => simpa [Client.deliver, refused] using counts.count_eq
    case complete => simpa [Client.deliver, refused] using counts.complete
  · obtain rfl := Option.some.inj (counts.present.symm.trans present)
    obtain ⟨_, _, data, _, received_eq⟩ := DownloadContext.receiveChunk_eq_ok stored
    have receivedUnlocked : received.locked = false := by
      rw [received_eq]
      exact unlocked
    obtain ⟨after, afterPresent, chunks, _, total_eq, completes⟩ :=
      FileTransferClient.checkCompletion_counters
        ({ delivery.client with files }.setDownload handle received)
        (FileTransferClient.setDownload_self _ received) receivedUnlocked relock call.disk
    obtain ⟨inside, isNew⟩ := fresh taken
    have nodup := List.nodup_cons.mpr ⟨isNew, counts.nodup⟩
    have below : ∀ index ∈ call.chunk.header.chunkIndex :: delivery.accepted, index < total := by
      intro index mem
      rcases List.mem_cons.mp mem with rfl | mem
      · exact inside
      · exact counts.below index mem
    have bounded := length_le_of_nodup nodup below
    have totalBound := total.toNat_lt
    have count_eq : received.transferredChunks.toNat = delivery.accepted.length + 1 := by
      rw [received_eq]
      simp only [List.length_cons] at bounded
      show (ctx.transferredChunks + 1).toNat = _
      rw [UInt64.toNat_add, counts.count_eq, UInt64.toNat_one]
      exact Nat.mod_eq_of_lt (by omega)
    have total_eq' : received.totalChunks = total := by
      rw [received_eq]
      exact counts.total_eq
    refine ⟨after, ?_⟩
    constructor
    case present =>
      simp only [Client.deliver, process]
      exact afterPresent
    case total_eq => exact total_eq.trans total_eq'
    case nodup => simpa only [Client.deliver, taken, if_true] using nodup
    case below => simpa only [Client.deliver, taken, if_true] using below
    case count_eq =>
      simp only [Client.deliver, taken, if_true, List.length_cons]
      rw [chunks, count_eq]
    case complete =>
      intro done
      simp only [Client.deliver, taken, if_true, List.length_cons]
      rcases completes done with old | reached
      · rw [received_eq] at old
        contradiction
      · rw [total_eq', UInt64.le_iff_toNat_le, count_eq] at reached
        exact reached

end CountsAccepted

theorem redeliveryIdle_of_acceptsFresh {call : ChunkCall}
    (fresh : AcceptsFresh lz4 handle total delivery call) :
    RedeliveryIdle relock lz4 handle delivery call := by
  intro again
  rcases delivery.client.processDownloadChunk_cases relock lz4 call.disk handle call.chunk with
    ⟨_, contexts, _⟩ | ⟨_, _, _, taken, _⟩
  · show counters handle (delivery.client.processDownloadChunk relock lz4 call.disk handle
      call.chunk).2 = _
    rw [counters, contexts]
    rfl
  · exact absurd again (fresh taken).2

theorem countsAccepted_described {client opened : FileTransferClient} {parent : ParentDirectory}
    {tid : TransferId} {remoteName localPath : Bytes} {options : DownloadOptions}
    (started : client.downloadFile parent tid remoteName localPath options = (.ok handle, opened))
    (disk : DiskOutcome) (fileSize total : UInt64) (chunkSize : UInt32) (sha256Hash : Bytes) :
    ∃ ctx, CountsAccepted handle total
      (.described opened disk handle fileSize total chunkSize sha256Hash) ctx := by
  have present := FileTransferClient.downloadFile_eq_ok started
  refine ⟨((FileTransferClient.newDownload tid remoteName localPath options).setMetadata disk
    opened.files fileSize total chunkSize sha256Hash).1, ?_⟩
  constructor
  case present =>
    simp [Delivery.described, FileTransferClient.setDownloadMetadata, present,
      FileTransferClient.newDownload]
  case total_eq => rfl
  case nodup => exact List.nodup_nil
  case below => simp [Delivery.described]
  case count_eq => rfl
  case complete =>
    intro done
    contradiction

/-- From `set_download_metadata` on, in every sequence of calls in which no
index is accepted twice or beyond the total, no redelivery is counted, and
whenever the download is completed every index has been accepted. -/
theorem completedWhole_of_acceptsFresh {client opened : FileTransferClient}
    {parent : ParentDirectory} {tid : TransferId} {remoteName localPath : Bytes}
    {options : DownloadOptions}
    (started : client.downloadFile parent tid remoteName localPath options = (.ok handle, opened))
    {disk : DiskOutcome} {fileSize total : UInt64} {chunkSize : UInt32} {sha256Hash : Bytes}
    {calls : List ChunkCall}
    (fresh : Guarded (deliver relock lz4 handle) (AcceptsFresh lz4 handle total)
      (.described opened disk handle fileSize total chunkSize sha256Hash) calls) :
    CompletedWhole handle total (final (deliver relock lz4 handle)
      (.described opened disk handle fileSize total chunkSize sha256Hash) calls) ∧
    Guarded (deliver relock lz4 handle) (RedeliveryIdle relock lz4 handle)
      (.described opened disk handle fileSize total chunkSize sha256Hash) calls := by
  have described := countsAccepted_described started disk fileSize total chunkSize sha256Hash
  obtain ⟨ctx, counts⟩ := fresh.invariant (fun delivery => ∃ ctx,
    CountsAccepted handle total delivery ctx)
    (fun _ _ ⟨_, counts⟩ isFresh => counts.deliver isFresh) described
  exact ⟨counts.completedWhole, fresh.imp fun _ _ isFresh => redeliveryIdle_of_acceptsFresh isFresh⟩

end

/-! ## A download of small chunks -/

namespace SmallChunks

def id : TransferId :=
  TransferId.zero

/-- The first chunk of a file, one byte long. -/
def first : ChunkCall :=
  ⟨.success, ⟨⟨id, 0, 0, 1, 1, Checksum.crc32 [7], ChunkFlags.firstChunk⟩, [7]⟩⟩

/-- The second and last chunk of it. -/
def second : ChunkCall :=
  ⟨.success, ⟨⟨id, 1, 1, 1, 1, Checksum.crc32 [8], ChunkFlags.lastChunk⟩, [8]⟩⟩

def client : FileTransferClient :=
  (FileTransferClient.initial 65536 fun _ => none).downloadFile ⟨true, true⟩ id
    (Text.ascii "remote") (Text.ascii "copy") ⟨false, true⟩ |>.2

theorem started : (FileTransferClient.initial 65536 fun _ => none).downloadFile ⟨true, true⟩ id
    (Text.ascii "remote") (Text.ascii "copy") ⟨false, true⟩ = (.ok 1, client) :=
  rfl

/-- The download of `total` chunks of one byte each. -/
def described (total : UInt64) : Delivery :=
  .described client .success 1 total total 1 []

end SmallChunks

/-- A file of two chunks is complete once both were delivered, the last one first. -/
theorem completedWhole_of_two_chunks :
    CompletedWhole 1 2 (final (deliver .proceeds none 1) (SmallChunks.described 2)
      [SmallChunks.second, SmallChunks.first]) ∧
    Guarded (deliver .proceeds none 1) (RedeliveryIdle .proceeds none 1)
      (SmallChunks.described 2) [SmallChunks.second, SmallChunks.first] :=
  completedWhole_of_acceptsFresh SmallChunks.started
    ⟨fun _ => ⟨by decide, List.not_mem_nil⟩, fun _ => ⟨by decide, by decide +kernel⟩, trivial⟩

/-- Delivering the first chunk twice counts it twice, and where the nested lock
goes on it completes a download of two chunks whose second one is missing. -/
theorem redelivery_counted :
    (∀ relock, ¬ Guarded (deliver relock none 1) (RedeliveryIdle relock none 1)
      (SmallChunks.described 3) [SmallChunks.first, SmallChunks.first]) ∧
    ¬ CompletedWhole 1 2 (final (deliver .proceeds none 1) (SmallChunks.described 2)
      [SmallChunks.first, SmallChunks.first]) := by
  constructor
  · rintro relock ⟨_, idle, _⟩
    have stays := idle (by cases relock <;> decide +kernel)
    cases relock <;> exact absurd stays (by decide +kernel)
  · intro whole
    have completed : ((final (deliver .proceeds none 1) (SmallChunks.described 2)
        [SmallChunks.first, SmallChunks.first]).client.downloadContexts 1).map
          (fun ctx => ctx.state) = some .completed := by decide +kernel
    obtain ⟨ctx, present, done⟩ := Option.map_eq_some_iff.mp completed
    exact absurd (whole ctx present done 1 (by decide)) (by decide +kernel)

end FileTrans.Client
