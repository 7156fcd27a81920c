import FileTrans.Cloud.AzureFinalize
import FileTrans.Cloud.ObjectMap

/-!
# Azure storages

`azure_blob_storage`, with the server that it talks to.  A small upload and a
copy report success and send nothing.  The requests of a call reach the server,
which executes and answers them, or are lost in transport.
-/

namespace FileTrans.Cloud

open FileTrans.Core FileTrans.Text FileTrans.Transition FileTrans.Collections

/-- `azure_blob_storage::impl`: the state and the configuration, and what its streams work
with. -/
structure AzureStorage where
  connected : Bool
  multipart : MultipartConfig
  sha256 : Bytes → Bytes
  transportMessage : Bytes
  etagOf : Bytes → Bytes

/-- A call, with what becomes of its requests, and with the passes within which its loops have to
return. -/
structure AzureCall where
  call : StorageCall
  network : Network
  transports : network.Transports
  passes : Nat

namespace AzureStorage

variable (storage : AzureStorage)

/-- What a stream for this name works with. -/
def context (network : Network) (blobName : Bytes) : AzureContext where
  blobName := blobName
  multipart := storage.multipart
  network := network
  sha256 := storage.sha256
  transportMessage := storage.transportMessage
  etagOf := storage.etagOf

/-- `use_block_blob`. -/
def UsesBlockBlob (data : Bytes) : Prop :=
  storage.multipart.enabled = true ∧ storage.multipart.threshold ≤ data.length

instance (data : Bytes) : Decidable (storage.UsesBlockBlob data) :=
  inferInstanceAs (Decidable (_ ∧ _))

/-- The error of a call on a storage that is not connected. -/
def notConnected {α : Type} : Result α :=
  unexpected .notInitialized "Not connected"

/-- `upload`, if it returns within so many passes of each loop. -/
def upload (network : Network) (passes : Nat) (key data : Bytes) (server : AzureServer) :
    Option (Result UploadResult × AzureServer) :=
  let context := storage.context network key
  if ¬ storage.connected then some (notConnected, server)
  else if storage.UsesBlockBlob data then
    match (AzureUploadStream.create (.begin server)).write context passes data with
    | none => none
    -- `abort` only marks the stream
    | some (.error failure, stream) => some (.error failure, stream.wire.server)
    | some (.ok _, stream) =>
        let finished := stream.finalize context
        some (finished.1, finished.2.wire.server)
  else
    some (.ok ⟨key, inQuotes (bytesToHex (storage.sha256 data)), none, data.length⟩, server)

def download (network : Network) (key : Bytes) (server : AzureServer) :
    Result Bytes × AzureServer :=
  let context := storage.context network key
  if ¬ storage.connected then (notConnected, server)
  else
    let answered := context.send (.getBlob key) (.begin server)
    match answered.1 with
    | none => (context.transportError "Failed to download blob: ", answered.2.server)
    | some response =>
        if response.status = 404 then
          (.error ⟨.fileNotFound, ascii "Blob not found: " ++ key⟩, answered.2.server)
        else if response.status ≠ 200 then
          (statusError "Failed to download blob, status: " response.status, answered.2.server)
        else (.ok response.body, answered.2.server)

def deleteObject (network : Network) (key : Bytes) (server : AzureServer) :
    Result DeleteResult × AzureServer :=
  let context := storage.context network key
  if ¬ storage.connected then (notConnected, server)
  else
    let answered := context.send (.deleteBlob key) (.begin server)
    match answered.1 with
    | none => (context.transportError "Failed to delete blob: ", answered.2.server)
    | some response =>
        if response.status ≠ 202 ∧ response.status ≠ 404 then
          (statusError "Failed to delete blob, status: " response.status, answered.2.server)
        else (.ok ⟨key, none, false⟩, answered.2.server)

/-- `exists`. -/
def objectExists (network : Network) (key : Bytes) (server : AzureServer) :
    Result Bool × AzureServer :=
  let context := storage.context network key
  if ¬ storage.connected then (notConnected, server)
  else
    let answered := context.send (.getBlobProperties key) (.begin server)
    match answered.1 with
    | none => (context.transportError "Failed to check blob existence: ", answered.2.server)
    | some response => (.ok (decide (response.status = 200)), answered.2.server)

/-- `copy_object`: the source is ignored. -/
def copyObject (_sourceKey destKey : Bytes) : Result ObjectMetadata :=
  if ¬ storage.connected then notConnected
  else .ok ⟨destKey, 0, [], []⟩

/-- One call.  One that does not return within its passes leaves no trace. -/
def step : Step AzureServer AzureCall (Option StorageReturn) := fun server input =>
  match input.call with
  | .upload key data =>
      match storage.upload input.network input.passes key data server with
      | none => (none, server)
      | some (result, server) => (some (.uploaded result), server)
  | .copyObject sourceKey destKey =>
      (some (.copied (storage.copyObject sourceKey destKey)), server)
  | .deleteObject key =>
      let deleted := storage.deleteObject input.network key server
      (some (.deleted deleted.1), deleted.2)
  | .objectExists key =>
      let found := storage.objectExists input.network key server
      (some (.found found.1), found.2)
  | .download key =>
      let downloaded := storage.download input.network key server
      (some (.downloaded downloaded.1), downloaded.2)

/-- The upload goes in blocks, or the blob is there already; the copy is there already. -/
def Effective (server : AzureServer) (input : AzureCall) : Prop :=
  match input.call with
  | .upload key data => storage.UsesBlockBlob data ∨ server.blobs key = some data
  | .copyObject sourceKey destKey => server.blobs destKey = server.blobs sourceKey
  | _ => True

end AzureStorage

/-! ## Blobs during an upload -/

variable {context : AzureContext} {written : Bytes} {stream after : AzureUploadStream}

theorem blobs_uploadBlock (context : AzureContext) (blockId data : Bytes) (wire : AzureWire) :
    (context.uploadBlock blockId data wire).2.server.blobs = wire.server.blobs := by
  rw [AzureContext.uploadBlock, AzureContext.send, exchange]
  cases context.network.fate wire.sent.length <;> rfl

theorem blobs_uploadRest {result : Result Unit}
    (outcome : stream.uploadRest context = (result, after)) :
    after.wire.server.blobs = stream.wire.server.blobs := by
  rcases (blockRest_wire outcome).2 with ⟨-, -, rfl⟩ | ⟨-, -, rfl⟩
  · rfl
  · exact blobs_uploadBlock context _ _ _

theorem blobs_commit (transports : context.network.Transports) (blockIds : List Bytes)
    (wire : AzureWire) :
    let answered := context.send (.putBlockList context.blobName blockIds) wire
    (∃ response content, answered.1 = some response ∧ response.status = 201 ∧
        answered.2.server.blobs =
          Function.update wire.server.blobs context.blobName (some content)) ∨
      ((∀ response, answered.1 = some response → response.status ≠ 201) ∧
        answered.2.server.blobs = wire.server.blobs) := by
  simp only [AzureContext.send]
  rcases transports wire.sent.length with served | lost
  · rw [(exchange_of_served served).1, (exchange_of_served served).2]
    simp only [azureService, AzureServer.serve]
    cases gather (fun blockId => latest blockId (wire.server.blocks context.blobName))
        blockIds with
    | none =>
        refine .inr ⟨?_, rfl⟩
        rintro response same
        cases same
        simp [AzureResponse.ofStatus]
    | some content => exact .inl ⟨_, content, rfl, rfl, rfl⟩
  · rw [(exchange_of_lost lost).1, (exchange_of_lost lost).2]
    exact .inr ⟨fun response same => by contradiction, rfl⟩

theorem blobs_finalize (transports : context.network.Transports)
    {result : Result UploadResult} (outcome : stream.finalize context = (result, after)) :
    (∃ value content, result = .ok value ∧ after.wire.server.blobs =
        Function.update stream.wire.server.blobs context.blobName (some content)) ∨
      ((∃ failure, result = .error failure) ∧
        after.wire.server.blobs = stream.wire.server.blobs) := by
  rw [AzureUploadStream.finalize] at outcome
  split at outcome
  · cases outcome
    exact .inr ⟨⟨_, rfl⟩, rfl⟩
  · split at outcome
    · cases outcome
      exact .inr ⟨⟨_, rfl⟩, rfl⟩
    · split at outcome
      · rename_i failure next rest
        cases outcome
        exact .inr ⟨⟨failure, rfl⟩, blobs_uploadRest rest⟩
      · rename_i next rest
        have same := blobs_uploadRest rest
        split at outcome
        · rename_i failure uploads waited
          cases outcome
          exact .inr ⟨⟨failure, rfl⟩, same⟩
        · rename_i uploads waited
          have commit := blobs_commit transports next.blockIds next.wire
          rw [AzureUploadStream.commitBlockList] at outcome
          simp only at outcome commit
          rw [← same]
          rcases commit with ⟨response, content, answered, success, blobs⟩ | ⟨failed, blobs⟩
          · simp only [answered, success, ne_eq, not_true_eq_false, if_false] at outcome
            cases outcome
            exact .inl ⟨_, content, rfl, blobs⟩
          · split at outcome
            · cases outcome
              exact .inr ⟨⟨_, rfl⟩, blobs⟩
            · rename_i response answered
              rw [if_pos (failed response answered)] at outcome
              cases outcome
              exact .inr ⟨⟨_, rfl⟩, blobs⟩

/-! ## Calls as steps of the map -/

namespace AzureStorage

variable {storage : AzureStorage} {network : Network} {server after : AzureServer} {passes : Nat}
  {key data : Bytes}

theorem upload_blobs (connected : storage.connected = true) (uses : storage.UsesBlockBlob data)
    (transports : network.Transports) {result : Result UploadResult}
    (outcome : storage.upload network passes key data server = some (result, after)) :
    (∃ value, result = .ok value ∧
        after.blobs = Function.update server.blobs key (some data)) ∨
      ((∃ failure, result = .error failure) ∧ after.blobs = server.blobs) := by
  rw [upload] at outcome
  simp only [connected, not_true_eq_false, uses, if_true, if_false] at outcome
  split at outcome
  · contradiction
  · rename_i failure stream wrote
    cases outcome
    have same := AzureUploadStream.write_wire (fun wire => wire.server.blobs = server.blobs)
      (fun wire blockId data same => (blobs_uploadBlock _ blockId data wire).trans same) rfl wrote
    exact .inr ⟨⟨failure, rfl⟩, same⟩
  · rename_i count stream wrote
    have staging := AzureUploadStream.write_ok
      (AzureUploadStream.staging_create (storage.context network key) server) wrote
    rw [List.nil_append] at staging
    have wire := AzureUploadStream.write_wire
      (fun wire => wire.server.blobs = server.blobs ∧
        ∃ executed, Staged (storage.context network key)
          (server.blocks (storage.context network key).blobName) wire executed)
      (fun wire blockId data holds => by
        rcases holds with ⟨same, executed, staged⟩
        exact ⟨(blobs_uploadBlock _ blockId data wire).trans same,
          staged_uploadBlock staged blockId data⟩)
      ⟨rfl, staged_create (storage.context network key) server⟩ wrote
    cases finished : stream.finalize (storage.context network key) with
    | mk returned last =>
        rw [finished] at outcome
        cases outcome
        have blobs := blobs_finalize transports finished
        rw [wire.1] at blobs
        rcases blobs with ⟨value, content, rfl, blobs⟩ | failed
        · have stored := stores_of_finalize staging wire.2 finished
          rw [blobs, Function.update_self] at stored
          cases stored
          exact .inl ⟨value, rfl, blobs⟩
        · exact .inr failed

theorem send_first (storage : AzureStorage) (transports : network.Transports) (key : Bytes)
    (request : AzureRequest) (server : AzureServer) :
    let context := storage.context network key
    (context.send request (.begin server) =
      (some (AzureServer.serve storage.etagOf request server).1,
        ⟨(AzureServer.serve storage.etagOf request server).2,
          [(request, some (AzureServer.serve storage.etagOf request server).1)]⟩)) ∨
      context.send request (.begin server) = (none, ⟨server, [(request, none)]⟩) := by
  simp only [AzureContext.send, exchange]
  rcases transports 0 with served | lost
  · left
    simp [Wire.begin, context, deliver, served, azureService]
  · right
    simp [Wire.begin, context, deliver, lost]

theorem download_follows (connected : storage.connected = true)
    (transports : network.Transports) (key : Bytes) (server : AzureServer) :
    Follows server.blobs (.download key)
      (some (.downloaded (storage.download network key server).1))
      (storage.download network key server).2.blobs := by
  rw [download]
  simp only [connected, not_true_eq_false, if_false]
  rcases send_first storage transports key (.getBlob key) server with served | lost
  · simp only [served, AzureServer.serve]
    cases found : server.blobs key with
    | none =>
        simp only [AzureResponse.ofStatus, if_true]
        exact ⟨fun _ => rfl, fun _ => rfl, fun _ => found⟩
    | some data =>
        simp only [Nat.reduceEqDiff, if_false, ne_eq, not_true_eq_false]
        exact ⟨fun _ => rfl, fun _ => rfl, found⟩
  · simp only [lost, AzureContext.transportError]
    exact ⟨fun _ => rfl, fun _ => rfl, fun missing => by contradiction⟩

theorem objectExists_follows (connected : storage.connected = true)
    (transports : network.Transports) (key : Bytes) (server : AzureServer) :
    Follows server.blobs (.objectExists key)
      (some (.found (storage.objectExists network key server).1))
      (storage.objectExists network key server).2.blobs := by
  rw [objectExists]
  simp only [connected, not_true_eq_false, if_false]
  rcases send_first storage transports key (.getBlobProperties key) server with served | lost
  · simp only [served, AzureServer.serve]
    cases found : server.blobs key with
    | none => exact ⟨fun _ => rfl, fun _ => rfl, by simp [ReadsFrom, found, AzureResponse.ofStatus]⟩
    | some data => exact ⟨fun _ => rfl, fun _ => rfl, by simp [ReadsFrom, found]⟩
  · simp only [lost, AzureContext.transportError]
    exact ⟨fun _ => rfl, fun _ => rfl, trivial⟩

theorem deleteObject_follows (connected : storage.connected = true)
    (transports : network.Transports) (key : Bytes) (server : AzureServer) :
    Follows server.blobs (.deleteObject key)
      (some (.deleted (storage.deleteObject network key server).1))
      (storage.deleteObject network key server).2.blobs := by
  rw [deleteObject]
  simp only [connected, not_true_eq_false, if_false]
  rcases send_first storage transports key (.deleteBlob key) server with served | lost
  · simp only [served, AzureServer.serve]
    cases found : server.blobs key with
    | none =>
        refine ⟨fun _ => ?_, fun failed => ?_, trivial⟩
        · exact (Function.update_eq_self_iff.mpr found.symm).symm
        · exact absurd trivial failed
    | some data =>
        exact ⟨fun _ => rfl, fun failed => absurd trivial failed, trivial⟩
  · simp only [lost, AzureContext.transportError]
    exact ⟨fun succeeded => absurd succeeded id, fun _ => rfl, trivial⟩

theorem copyObject_follows_iff (connected : storage.connected = true) (sourceKey destKey : Bytes) :
    Follows server.blobs (.copyObject sourceKey destKey)
        (some (.copied (storage.copyObject sourceKey destKey))) server.blobs ↔
      server.blobs destKey = server.blobs sourceKey := by
  rw [copyObject]
  simp only [connected, not_true_eq_false, if_false]
  constructor
  · intro follows
    exact (Function.update_eq_self_iff.mp (follows.success trivial).symm).symm
  · intro same
    refine ⟨fun _ => (Function.update_eq_self_iff.mpr same.symm).symm, ?_, trivial⟩
    intro failed
    exact absurd trivial failed

theorem follows_iff_effective (connected : storage.connected = true) (server : AzureServer)
    (input : AzureCall) :
    Follows server.blobs input.call (storage.step server input).1
        (storage.step server input).2.blobs ↔
      storage.Effective server input := by
  rcases input with ⟨call, network, transports, passes⟩
  cases call with
  | upload key data =>
      rw [step, Effective]
      simp only
      by_cases uses : storage.UsesBlockBlob data
      · apply iff_of_true _ (.inl uses)
        cases outcome : storage.upload network passes key data server with
        | none => exact ⟨fun succeeded => absurd succeeded id, fun _ => rfl, trivial⟩
        | some returned =>
            rcases returned with ⟨result, after⟩
            rcases upload_blobs connected uses transports outcome with
              ⟨value, rfl, blobs⟩ | ⟨⟨failure, rfl⟩, blobs⟩
            · exact ⟨fun _ => blobs, fun failed => absurd trivial failed, trivial⟩
            · exact ⟨fun succeeded => absurd succeeded id, fun _ => blobs, trivial⟩
      · rw [upload]
        simp only [connected, not_true_eq_false, uses, if_false, false_or]
        constructor
        · intro follows
          exact (Function.update_eq_self_iff.mp (follows.success trivial).symm).symm
        · intro same
          refine ⟨fun _ => (Function.update_eq_self_iff.mpr same.symm).symm, ?_, trivial⟩
          intro failed
          exact absurd trivial failed
  | copyObject sourceKey destKey => exact copyObject_follows_iff connected sourceKey destKey
  | deleteObject key =>
      exact iff_of_true (deleteObject_follows connected transports key server) trivial
  | objectExists key =>
      exact iff_of_true (objectExists_follows connected transports key server) trivial
  | download key => exact iff_of_true (download_follows connected transports key server) trivial

theorem download_yields (connected : storage.connected = true)
    (served : network.fate 0 = .served) (found : server.blobs key = some data) :
    (storage.download network key server).1 = .ok data := by
  have answered : ((storage.context network key).send (.getBlob key) (.begin server)).1 =
      some ⟨200, some (storage.etagOf data), data⟩ := by
    simp [AzureContext.send, exchange, deliver, Wire.begin, context, served, azureService,
      AzureServer.serve, found]
  rw [download]
  simp [connected, answered]

/-- A run on a connected storage is one of the map exactly if all its calls are effective; and
then what a successful call has put under a key is what a download of that key yields, until the
next call that succeeds in changing it. -/
theorem runs_of_map_iff (storage : AzureStorage) (connected : storage.connected = true)
    (server : AzureServer) (inputs : List AzureCall) :
    (RunOfMap storage.step AzureServer.blobs AzureCall.call server inputs ↔
      Guarded storage.step storage.Effective server inputs) ∧
    (Guarded storage.step storage.Effective server inputs →
      ∀ before input middle last rest, inputs = before ++ input :: (middle ++ last :: rest) →
        let state := final storage.step server before
        let changed := (storage.step state input).2
        Succeeded (storage.step state input).1 → ∀ key data,
          input.call.effect state.blobs key = some data →
          Unchanged storage.step AzureCall.call key changed middle →
          last.call = .download key → last.network.fate 0 = .served →
          (storage.step (final storage.step changed middle) last).1 =
            some (.downloaded (.ok data))) := by
  have follows_iff := runOfMap_iff_guarded (follows_iff_effective connected) server inputs
  refine ⟨follows_iff, ?_⟩
  rintro guarded before input middle last rest rfl
  intro state changed succeeded key data put unchanged downloads served
  have follows := follows_iff.mpr guarded
  have first := (follows before input _ rfl).success succeeded
  have later : RunOfMap storage.step AzureServer.blobs AzureCall.call changed middle := by
    rintro early other late rfl
    have same := follows (before ++ input :: early) other (late ++ last :: rest) (by simp)
    rw [final_append, final_cons] at same
    exact same
  have kept := later.keeps unchanged
  have found : (final storage.step changed middle).blobs key = some data := by
    rw [kept, ← put]
    exact congrFun first key
  rw [step, downloads]
  simp only [download_yields connected served found]

/-- A storage that uploads in blocks of two bytes from this size on, one at a time. -/
def sampleStorage (threshold : Nat) : AzureStorage where
  connected := true
  multipart := ⟨true, threshold, 2, 1⟩
  sha256 := fun _ => []
  transportMessage := []
  etagOf := id

/-- A call of which every request is executed and answered. -/
def servedCall (call : StorageCall) : AzureCall where
  call := call
  network := ⟨fun _ => .served, fun _ => 0⟩
  transports := fun _ => .inl rfl
  passes := 4

/-- An upload in blocks and a download are a run of the map. -/
theorem runs_of_map_sample :
    RunOfMap (sampleStorage 0).step AzureServer.blobs AzureCall.call emptyAzureServer
      [servedCall (.upload [0x62] [1, 2, 3]), servedCall (.download [0x62])] :=
  (runs_of_map_iff (sampleStorage 0) rfl emptyAzureServer
    [servedCall (.upload [0x62] [1, 2, 3]), servedCall (.download [0x62])]).1.mpr
    ⟨.inl ⟨rfl, by decide⟩, trivial, trivial⟩

/-- A small upload reports success, and the blob is not there. -/
theorem small_upload_without_blob :
    ¬ ∀ (storage : AzureStorage) (_ : storage.connected = true) (server : AzureServer)
        (inputs : List AzureCall),
      RunOfMap storage.step AzureServer.blobs AzureCall.call server inputs := by
  intro claim
  have follows := claim (sampleStorage 8) rfl emptyAzureServer
    [servedCall (.upload [0x62] [1])] [] _ [] rfl
  have stored := congrFun (follows.success trivial) [0x62]
  revert stored
  decide

end AzureStorage

end FileTrans.Cloud
