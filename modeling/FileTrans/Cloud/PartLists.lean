import FileTrans.Cloud.AzureFinalize
import FileTrans.Cloud.S3Completion
import FileTrans.Cloud.S3PartFailures
import FileTrans.Cloud.S3Returns

/-!
# The lists of uploaded parts

Where every request is executed and answered, the last request of an upload
names the parts that were sent, once each and in the order of their numbers,
and the parts are what was written, cut into pieces of one size.

The numbers are as large as the upload needs: a server refuses part numbers and
block counts far below the largest `int`.
-/

namespace FileTrans.Cloud

open FileTrans.Core FileTrans.Text FileTrans.Transition FileTrans.Collections

/-- The content, cut into pieces of one size that are named by their numbers. -/
structure Tiles {κ : Type} (name : Nat → κ) (size : Nat) (content : Bytes)
    (pieces : List (κ × Bytes)) : Prop where
  names : pieces.map Prod.fst = (List.range pieces.length).map name
  sized : ∀ piece ∈ pieces.dropLast, piece.2.length = size
  content : (pieces.map Prod.snd).flatten = content

/-- All data were written; the pieces that were sent are listed once each, in order. -/
structure CompletelyListed {κ : Type} (name : Nat → κ) (size : Nat) (writes : List Bytes)
    (pieces : List (κ × Bytes)) (listed : List κ) (bytesWritten : Nat)
    (returned : List (Option UploadReturn)) : Prop where
  returns : ∃ result, returned = wroteAll writes ++ [some (.finished (.ok result))] ∧
    result.bytesUploaded = writes.flatten.length
  tiles : Tiles name size writes.flatten pieces
  names : listed = pieces.map Prod.fst
  once : listed.Nodup
  bytesWritten : bytesWritten = writes.flatten.length

theorem Tiles.nodup {κ : Type} {name : Nat → κ} {size : Nat} {content : Bytes}
    {pieces : List (κ × Bytes)} (tiles : Tiles name size content pieces)
    (injective : Function.Injective name) : (pieces.map Prod.fst).Nodup := by
  rw [tiles.names]
  exact List.nodup_range.map injective

/-! ## S3 -/

section

variable {context : S3Context} {written : Bytes} {stream after : S3UploadStream}
  {passes bound upload : Nat}

/-- The parts that were sent, with their numbers. -/
def numberedParts (sent : List (S3Request × Option S3Response)) : List (Nat × Bytes) :=
  (sentParts sent).map fun part => (part.number, part.data)

theorem Network.Serves.answers {network : Network} (serves : network.Serves) :
    network.Answers :=
  fun number => .inl (serves number)

/-- The upload exists on the server, and every part was answered. -/
def Received (context : S3Context) (upload : Nat) (wire : S3Wire) : Prop :=
  Kept context upload wire ∧ Answered wire

theorem accepted_of_received {wire : S3Wire} (received : Received context upload wire) :
    ∀ part ∈ sentParts wire.sent, part.Accepted := by
  intro part mem
  rcases received.1.answers part mem with none | answered
  · have answered := received.2 part mem
    rw [none] at answered
    contradiction
  · exact ⟨_, answered, rfl⟩

theorem goodAnswers_of_serves (serves : context.network.Serves) (upload length : Nat) :
    GoodAnswers context (.issued upload) length (Received context upload) := by
  constructor
  rintro wire number data ⟨kept, answered⟩ -
  rcases kept_uploadPart serves.transports kept number data with ⟨later, good, -⟩
  exact ⟨good, later, answered_uploadPart serves.answers answered _ _ _⟩

theorem completes_of_received (serves : context.network.Serves)
    (uploading : Uploading context written stream) (uploadId : stream.uploadId = .issued upload)
    (positive : 0 < context.multipart.partSize)
    (promising : Promising context (Received context upload) bound stream) :
    ∃ result after, stream.finalize context = (.ok result, after) := by
  have answers := goodAnswers_of_serves serves upload written.length
  rw [← uploadId] at answers
  rcases S3UploadStream.finalize_returns answers positive uploading promising with
    ⟨before, uploads, rest, waited, finished, received, -⟩
  rcases uploadRest_ok uploading rest with ⟨sent, header⟩
  have same := (Uploads.waitAllUploads_ok sent.accounts waited).1
  have names : good (sortByKey Prod.fst uploads.completed) =
      (sentParts before.wire.sent).map (SentPart.result context) := by
    apply good_sortByKey same
    rw [List.map_map]
    exact sent.numbers
  have distinct : ((sentParts before.wire.sent).map SentPart.number).Nodup := by
    rw [sent.numbers]
    exact List.nodup_range'
  have gathers := gather_of_accepted received.1 distinct names (accepted_of_received received)
  have found := find_of_kept received.1
  have answered : (context.send (.completeMultipartUpload context.key before.uploadId
      (sortByKey Prod.fst uploads.completed)) before.wire).1 =
        some (.ofEtag
          (context.etagOf ((sentParts before.wire.sent).map SentPart.data).flatten)) := by
    rw [header.uploadId, uploadId, S3Context.send, (exchange_of_served (serves _)).1]
    simp [s3Service, S3Server.serve, found, gathers]
  rw [finished, S3UploadStream.completeMultipartUpload]
  simp only [S3UploadStream.sortedParts, answered, S3Response.ofEtag, if_true]
  exact ⟨_, _, rfl⟩

theorem listed_of_finalize (uploading : Uploading context written stream) {result : UploadResult}
    (outcome : stream.finalize context = (.ok result, after)) :
    Tiles (1 + ·) context.multipart.partSize written (numberedParts after.wire.sent) ∧
      listedNumbers after.wire.sent = (numberedParts after.wire.sent).map Prod.fst ∧
      after.bytesWritten = written.length ∧ result.bytesUploaded = written.length := by
  rcases finalize_ok uploading outcome with
    ⟨before, listed, answer, rest, names, sends, -, reported, counted⟩
  have sent := (uploadRest_ok uploading rest).1
  have wire : after.wire.sent = before.wire.sent ++
      [(.completeMultipartUpload context.key stream.uploadId listed, answer)] := by
    rcases Prod.mk.inj sends with ⟨rfl, wire⟩
    rw [wire]
  have parts : numberedParts after.wire.sent = numberedParts before.wire.sent := by
    rw [numberedParts, wire, sentParts_append]
    exact congrArg _ (List.append_nil _)
  have numbers : (numberedParts before.wire.sent).map Prod.fst =
      (sentParts before.wire.sent).map SentPart.number := by
    rw [numberedParts, List.map_map]
    rfl
  refine ⟨?_, ?_, counted, reported⟩
  · rw [parts]
    constructor
    · rw [numbers, sent.numbers, List.range'_eq_map_range, numberedParts, List.length_map]
    · intro piece mem
      rw [numberedParts, ← List.map_dropLast] at mem
      rcases List.mem_map.mp mem with ⟨part, found, rfl⟩
      exact sent.sized part found
    · rw [numberedParts, List.map_map]
      exact sent.content
  · rw [parts, numbers, listedNumbers, wire, List.getLast?_concat]
    have firsts := congrArg (List.map Prod.fst) names
    rw [good, List.map_map, List.map_map] at firsts
    exact firsts

theorem s3_completelyListed (serves : context.network.Serves)
    (positive : 0 < context.multipart.partSize)
    (slots : 0 < context.multipart.maxConcurrentParts) (server : S3Server) (writes : List Bytes) :
    ∃ enough, ∀ passes, enough < passes →
      let initial := S3UploadStream.opened context (.begin server)
      let last := final (s3Step context passes) initial (uploadCalls writes)
      CompletelyListed (1 + ·) context.multipart.partSize writes (numberedParts last.wire.sent)
        (listedNumbers last.wire.sent) last.bytesWritten
        (outputs (s3Step context passes) initial (uploadCalls writes)) := by
  rcases context.network.finishes_bounded
    (partCount writes.flatten.length context.multipart.partSize) writes.flatten.length with
    ⟨enough, long, bounded⟩
  refine ⟨enough, fun passes more => ?_⟩
  rcases Nat.exists_eq_add_of_lt more with ⟨extra, rfl⟩
  rcases opened_of_served server (serves 0) with ⟨uploadId, kept, -⟩
  have received : Received context server.next
      (S3UploadStream.opened context (.begin server)).wire := by
    refine ⟨kept, ?_⟩
    rw [Answered, (S3UploadStream.sent_opened context server).2]
    simp
  have wrote := writes_return (s3Step context (enough + extra + 1)) writes.flatten
    (fun written stream => Uploading context written stream ∧
      Promising context (Received context server.next) (enough + extra) stream ∧
      stream.uploadId = .issued server.next)
    (by
      rintro written data stream ⟨uploading, promising, uploadId⟩ part
      have answers := goodAnswers_of_serves serves server.next writes.flatten.length
      rw [← uploadId] at answers
      have enough_left : data.length ≤ enough + extra := by
        have length := part.length_le
        rw [List.length_append] at length
        omega
      rcases S3UploadStream.write_returns answers positive (fun _ => slots)
        (fun number le => (bounded number le).trans (Nat.le_add_right _ _)) uploading promising
        part enough_left with ⟨after, wrote, promising⟩
      rcases S3UploadStream.write_ok uploading wrote with ⟨uploading, -, same⟩
      rw [s3Step, wrote]
      exact ⟨rfl, uploading, promising, same.trans uploadId⟩)
    ⟨S3UploadStream.uploading_opened context server, promising_opened received, uploadId⟩
    (List.prefix_refl _)
  rcases wrote with ⟨returned, uploading, promising, uploadId⟩
  rw [List.nil_append] at uploading
  rcases completes_of_received serves uploading uploadId positive promising with
    ⟨result, after, finished⟩
  rcases listed_of_finalize uploading finished with ⟨tiles, names, counted, reported⟩
  have step : s3Step context (enough + extra + 1) (final (s3Step context (enough + extra + 1))
      (.opened context (.begin server)) (writes.map .write)) .finalize =
        (some (.finished (.ok result)), after) := by
    rw [s3Step]
    simp only [finished]
  simp only [uploadCalls, final_append, outputs_append, final_cons, final_nil, outputs_cons,
    outputs_nil, step, returned]
  refine ⟨⟨result, rfl, reported⟩, tiles, names, ?_, counted⟩
  rw [names]
  exact tiles.nodup (add_right_injective 1)

end

/-! ## Azure -/

section

variable {context : AzureContext} {written : Bytes} {stream after : AzureUploadStream}

/-- The ids in the last request, if that was a commit. -/
def listedBlockIds (sent : List (AzureRequest × Option AzureResponse)) : List Bytes :=
  match sent.getLast? with
  | some (.putBlockList _ blockIds, _) => blockIds
  | _ => []

theorem listed_of_azureFinalize (staging : Staging context written stream) {result : UploadResult}
    (outcome : stream.finalize context = (.ok result, after)) :
    Tiles generateBlockId context.multipart.partSize written
        ((sentBlocks after.wire.sent).map SentBlock.entry) ∧
      listedBlockIds after.wire.sent =
        ((sentBlocks after.wire.sent).map SentBlock.entry).map Prod.fst ∧
      after.bytesWritten = written.length ∧ result.bytesUploaded = written.length := by
  rcases azureFinalize_ok staging outcome with
    ⟨before, answer, -, sent, -, sends, -, reported, counted⟩
  have wire : after.wire.sent = before.wire.sent ++ [(.putBlockList context.blobName
      ((sentBlocks before.wire.sent).map SentBlock.blockId), some answer)] := by
    have answered := congrArg Prod.fst sends
    have received := congrArg Prod.snd sends
    simp only at answered received
    rw [received, answered]
    rfl
  have blocks : sentBlocks after.wire.sent = sentBlocks before.wire.sent := by
    rw [wire, sentBlocks_append]
    exact List.append_nil _
  have ids : ((sentBlocks before.wire.sent).map SentBlock.entry).map Prod.fst =
      (sentBlocks before.wire.sent).map SentBlock.blockId := by
    rw [List.map_map]
    rfl
  refine ⟨?_, ?_, counted, reported⟩
  · rw [blocks]
    constructor
    · rw [ids, sent.ids, firstBlockIds, List.length_map]
    · intro piece mem
      rw [← List.map_dropLast] at mem
      rcases List.mem_map.mp mem with ⟨block, found, rfl⟩
      exact sent.sized block found
    · rw [List.map_map]
      exact sent.content
  · rw [blocks, ids, listedBlockIds, wire, List.getLast?_concat]

theorem azure_completelyListed (serves : context.network.Serves)
    (positive : 0 < context.multipart.partSize)
    (slots : 0 < context.multipart.maxConcurrentParts) (server : AzureServer)
    (writes : List Bytes) :
    ∃ enough, ∀ passes, enough < passes →
      let initial := AzureUploadStream.create (.begin server)
      let last := final (azureStep context passes) initial (uploadCalls writes)
      CompletelyListed generateBlockId context.multipart.partSize writes
        ((sentBlocks last.wire.sent).map SentBlock.entry) (listedBlockIds last.wire.sent)
        last.bytesWritten (outputs (azureStep context passes) initial (uploadCalls writes)) := by
  rcases context.network.finishes_bounded writes.flatten.length writes.flatten.length with
    ⟨enough, long, bounded⟩
  refine ⟨enough, fun passes more => ?_⟩
  rcases Nat.exists_eq_add_of_lt more with ⟨extra, rfl⟩
  have wrote := writes_return (azureStep context (enough + extra + 1)) writes.flatten
    (fun written stream => Staging context written stream ∧
      PromisingBlocks context (enough + extra) stream ∧
      ∃ executed, Staged context (server.blocks context.blobName) stream.wire executed)
    (by
      rintro written data stream ⟨staging, promising, staged⟩ part
      have enough_left : data.length ≤ enough + extra := by
        have length := part.length_le
        rw [List.length_append] at length
        omega
      rcases AzureUploadStream.write_returns serves positive slots
        (fun number le => (bounded number le).trans (Nat.le_add_right _ _)) staging promising
        part enough_left with ⟨after, wrote, promising⟩
      have later := AzureUploadStream.write_wire
        (fun wire => ∃ executed, Staged context (server.blocks context.blobName) wire executed)
        (fun wire blockId data staged => by
          rcases staged with ⟨executed, staged⟩
          exact staged_uploadBlock staged blockId data) staged wrote
      rw [azureStep, wrote]
      exact ⟨rfl, AzureUploadStream.write_ok staging wrote, promising, later⟩)
    ⟨AzureUploadStream.staging_create context server, promising_create context server _,
      staged_create context server⟩
    (List.prefix_refl _)
  rcases wrote with ⟨returned, staging, promising, staged⟩
  rw [List.nil_append] at staging
  rcases AzureUploadStream.finalize_returns serves staging promising staged with
    ⟨result, after, finished⟩
  rcases listed_of_azureFinalize staging finished with ⟨tiles, names, counted, reported⟩
  have step : azureStep context (enough + extra + 1)
      (final (azureStep context (enough + extra + 1)) (.create (.begin server))
        (writes.map .write)) .finalize = (some (.finished (.ok result)), after) := by
    rw [azureStep]
    simp only [finished]
  simp only [uploadCalls, final_append, outputs_append, final_cons, final_nil, outputs_cons,
    outputs_nil, step, returned]
  refine ⟨⟨result, rfl, reported⟩, tiles, names, ?_, counted⟩
  rw [names]
  exact tiles.nodup generateBlockId_injective

end

/-! ## Both -/

/-- In an upload of which every request is executed and answered, all calls return success, and
the list of the commit names every piece once, in the order of the numbers, which are
consecutive; the pieces but the last have the full size, and together they are what was
written. -/
theorem uploads_tile :
    (∀ (context : S3Context), context.network.Serves → 1 ≤ context.multipart.partSize →
      1 ≤ context.multipart.maxConcurrentParts → ∀ (server : S3Server) (writes : List Bytes),
      ∃ enough, ∀ passes, enough < passes →
        let initial := S3UploadStream.opened context (.begin server)
        let last := final (s3Step context passes) initial (uploadCalls writes)
        CompletelyListed (1 + ·) context.multipart.partSize writes
          (numberedParts last.wire.sent) (listedNumbers last.wire.sent) last.bytesWritten
          (outputs (s3Step context passes) initial (uploadCalls writes))) ∧
    (∀ (context : AzureContext), context.network.Serves → 1 ≤ context.multipart.partSize →
      1 ≤ context.multipart.maxConcurrentParts → ∀ (server : AzureServer) (writes : List Bytes),
      ∃ enough, ∀ passes, enough < passes →
        let initial := AzureUploadStream.create (.begin server)
        let last := final (azureStep context passes) initial (uploadCalls writes)
        CompletelyListed generateBlockId context.multipart.partSize writes
          ((sentBlocks last.wire.sent).map SentBlock.entry) (listedBlockIds last.wire.sent)
          last.bytesWritten
          (outputs (azureStep context passes) initial (uploadCalls writes))) :=
  ⟨fun _ serves positive slots server writes =>
      s3_completelyListed serves positive slots server writes,
    fun _ serves positive slots server writes =>
      azure_completelyListed serves positive slots server writes⟩

/-- An upload in blocks of two bytes. -/
theorem uploads_tile_sample :
    ∃ enough, ∀ passes, enough < passes →
      let initial := AzureUploadStream.create (.begin emptyAzureServer)
      let last := final (azureStep (pairBlocks fun _ => .served) passes) initial
        (uploadCalls [[1, 2, 3], [], [4, 5]])
      CompletelyListed generateBlockId 2 [[1, 2, 3], [], [4, 5]]
        ((sentBlocks last.wire.sent).map SentBlock.entry) (listedBlockIds last.wire.sent)
        last.bytesWritten (outputs (azureStep (pairBlocks fun _ => .served) passes) initial
          (uploadCalls [[1, 2, 3], [], [4, 5]])) :=
  uploads_tile.2 (pairBlocks fun _ => .served) (fun _ => rfl) (by decide) (by decide)
    emptyAzureServer [[1, 2, 3], [], [4, 5]]

end FileTrans.Cloud
