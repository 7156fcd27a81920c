import FileTrans.Cloud.GcsStorage

/-!
# Uploads to Google Cloud Storage

A simple upload sends its data to the object of the key.  A resumable one is cut
into chunks, and reports success without a request.
-/

namespace FileTrans.Cloud

open FileTrans.Core FileTrans.Text FileTrans.Transition

/-- The objects that requests carry data to. -/
def insertedMedia (sent : List (GcsRequest × Option GcsResponse)) : List (Bytes × Bytes) :=
  sent.filterMap fun entry =>
    match entry.1 with
    | .insertMedia name data => some (name, data)
    | _ => none

/-- Among the requests that were added there are some that carry all of the data to the key, and
none that carry data elsewhere. -/
def Carries (key data : Bytes) (before after : List (GcsRequest × Option GcsResponse)) : Prop :=
  ∃ added, after = before ++ added ∧ insertedMedia added ≠ [] ∧
    (∀ inserted ∈ insertedMedia added, inserted.1 = key) ∧
    ((insertedMedia added).map Prod.snd).flatten = data

namespace GcsStorage

/-- Where no request fails, an upload that reports success carries the data to the object of the
key, changes this object only, and is what every later download yields. -/
def UploadStores (storage : GcsStorage) (key data : Bytes) : Prop :=
  ∀ (network : Network), network.Serves → ∀ (passes now : Nat) (session : GcsSession storage)
    (result : UploadResult) (after : GcsSession storage),
    storage.upload network passes now key data session = some (.ok result, after) →
    Carries key data session.wire.sent after.wire.sent ∧
      after.wire.server = Function.update session.wire.server key (some data) ∧
      ∀ later, (storage.download network later key after).1 = .ok data

variable {storage : GcsStorage} {network : Network} {now passes : Nat} {key data : Bytes}
  {session after : GcsSession storage}

/-! ## The simple upload -/

theorem obtained_of_getAccessToken {token : Bytes}
    (outcome : (storage.getAccessToken network now session).1 = .ok token) :
    ∃ jwt, storage.createJwt = .ok jwt := by
  rw [getAccessToken] at outcome
  split at outcome
  · rename_i held fresh
    exact held.obtained
  · split at outcome
    · contradiction
    · rename_i jwt made
      exact ⟨jwt, made⟩

/-- Requests that carry no data to an object. -/
def OnlyTokens (before after : GcsSession storage) : Prop :=
  after.wire.server = before.wire.server ∧
    ∃ added, after.wire.sent = before.wire.sent ++ added ∧ insertedMedia added = []

theorem send_of_serves (serves : network.Serves) (request : GcsRequest)
    (session : GcsSession storage) :
    storage.send network request session =
      (some (storage.policy.serve request session.wire.server).1,
        { session with wire := ⟨(storage.policy.serve request session.wire.server).2,
          session.wire.sent ++
            [(request, some (storage.policy.serve request session.wire.server).1)]⟩ }) := by
  have served := serves session.wire.sent.length
  simp [send, exchange, deliver, served, gcsService]

theorem getAuthHeaders_of_serves (serves : network.Serves) {jwt : Nat → Bytes}
    (made : storage.createJwt = .ok jwt) (now : Nat) (session : GcsSession storage) :
    ∃ headers after, storage.getAuthHeaders network now session = (.ok headers, after) ∧
      OnlyTokens session after := by
  have token : ∃ token after, storage.getAccessToken network now session = (.ok token, after) ∧
      OnlyTokens session after := by
    rw [getAccessToken]
    split
    · exact ⟨_, _, rfl, rfl, [], (List.append_nil _).symm, rfl⟩
    · split
      · rename_i failure failed
        rw [made] at failed
        contradiction
      · rename_i again made
        simp only [send_of_serves serves, GcsPolicy.serve, ne_eq, not_true_eq_false, if_false]
        exact ⟨_, _, rfl, rfl, _, rfl, rfl⟩
  rcases token with ⟨token, after, outcome, tokens⟩
  rw [getAuthHeaders, outcome]
  exact ⟨_, _, rfl, tokens⟩

theorem download_of_serves (connected : storage.connected = true) (serves : network.Serves)
    {jwt : Nat → Bytes} (made : storage.createJwt = .ok jwt)
    (found : session.wire.server key = some data) (now : Nat) :
    (storage.download network now key session).1 = .ok data := by
  rcases getAuthHeaders_of_serves serves made now session with
    ⟨headers, authorized, outcome, server, -⟩
  rw [download]
  simp [connected, outcome, send_of_serves serves, GcsPolicy.serve, server, found]

theorem uploadMedia_stores (connected : storage.connected = true) (serves : network.Serves)
    {result : UploadResult}
    (outcome : storage.uploadMedia network now key data session = (.ok result, after)) :
    Carries key data session.wire.sent after.wire.sent ∧
      after.wire.server = Function.update session.wire.server key (some data) ∧
      ∀ later, (storage.download network later key after).1 = .ok data := by
  have obtained : ∃ jwt, storage.createJwt = .ok jwt := by
    cases token : storage.getAccessToken network now session with
    | mk returned authorized =>
        cases returned with
        | error failure => simp [uploadMedia, getAuthHeaders, token] at outcome
        | ok value => exact obtained_of_getAccessToken (congrArg Prod.fst token)
  rcases obtained with ⟨jwt, made⟩
  rcases getAuthHeaders_of_serves serves made now session with
    ⟨headers, authorized, headed, server, added, sent, tokens⟩
  rw [uploadMedia, headed] at outcome
  simp only [send_of_serves serves, GcsPolicy.serve, ne_eq, not_true_eq_false, if_false]
    at outcome
  cases outcome
  have stored : Function.update authorized.wire.server key (some data) =
      Function.update session.wire.server key (some data) := by rw [server]
  have inserted (answer : Option GcsResponse) :
      insertedMedia (added ++ [(.insertMedia key data, answer)]) = [(key, data)] := by
    rw [insertedMedia, List.filterMap_append, ← insertedMedia, tokens]
    rfl
  refine ⟨⟨_, (congrArg (· ++ _) sent).trans (List.append_assoc _ _ _), ?_⟩, stored, ?_⟩
  · rw [inserted]
    simp
  · exact download_of_serves connected serves made (Function.update_self _ _ _)

/-! ## The resumable upload -/

/-- All chunks that were begun are good, and their hashes are there in time. -/
structure Hashing (storage : GcsStorage) (bound : Nat) (content : Bytes)
    (stream : GcsUploadStream) : Prop where
  accounts : ∃ begun, stream.uploads.Accounts begun ∧ (∀ chunk ∈ begun, chunk.2 = .ok ()) ∧
    begun.length * storage.multipart.partSize = content.length
  untaken : Untaken stream.uploads.pending
  finishes : ∀ upload ∈ stream.uploads.pending, upload.finishes ≤ bound
  active : stream.finalized = false ∧ stream.aborted = false

variable {content piece total : Bytes} {stream : GcsUploadStream} {bound : Nat}

theorem no_failed_chunk {begun : List (Nat × Result Unit)}
    (results : ∀ chunk ∈ begun, chunk.2 = .ok ()) :
    ¬ ∃ label failure, (label, .error failure) ∈ begun := by
  rintro ⟨label, failure, mem⟩
  have good := results _ mem
  contradiction

theorem chunks_of_accounts {begun : List (Nat × Result Unit)}
    (accounts : stream.uploads.Accounts begun) (untaken : Untaken stream.uploads.pending) :
    stream.chunks = begun.length := by
  have all_valid : stream.uploads.pending.filter PendingUpload.valid = stream.uploads.pending :=
    List.filter_eq_self.mpr untaken
  rw [accounts.length_eq, GcsUploadStream.chunks, List.length_append, good, List.length_map,
    outstanding, List.length_map, all_valid]

theorem flush_hashes {finishes : Nat → Nat} (positive : 0 < storage.multipart.partSize)
    (slots : storage.multipart.partSize ≤ total.length →
      0 < storage.multipart.maxConcurrentParts)
    (bounded : ∀ number ≤ total.length, finishes number ≤ bound)
    (hashing : Hashing storage bound content stream)
    (size : piece.length = storage.multipart.partSize) (part : content ++ piece <+: total) :
    ∃ after, GcsUploadStream.flush storage finishes (bound + 1) piece stream =
        some (.ok (), after) ∧ Hashing storage bound (content ++ piece) after := by
  rcases hashing with ⟨⟨begun, accounts, results, length⟩, untaken, finished, active⟩
  have long := part.length_le
  rw [List.length_append, size] at long
  have free := slots (le_trans (Nat.le_add_left _ _) long)
  rcases Uploads.makeRoom_returns accounts untaken free
    (fun upload mem => le_trans (finished upload mem) (Nat.le_add_left bound _))
    (no_failed_chunk results) with ⟨uploads, room⟩
  rcases Uploads.makeRoom_ok accounts untaken room with ⟨accounts, untaken⟩
  refine ⟨GcsUploadStream.uploadChunkAsync finishes stream.bytesWritten piece
    { stream with uploads }, ?_, ⟨_, accounts.add _ _ _, ?_, ?_⟩,
    Uploads.untaken_add untaken _ _ _, ?_, active⟩
  · rw [GcsUploadStream.flush, room]
  · intro chunk mem
    rcases List.mem_append.mp mem with mem | mem
    · exact results chunk mem
    · rw [List.mem_singleton.mp mem]
      rfl
  · rw [List.length_append, List.length_singleton, Nat.succ_mul, length, List.length_append, size]
  · intro upload mem
    rcases List.mem_append.mp mem with mem | mem
    · exact finished upload (Uploads.mem_makeRoom room mem)
    · rw [List.mem_singleton.mp mem]
      apply bounded
      have count : GcsUploadStream.chunks { stream with uploads } = begun.length :=
        chunks_of_accounts accounts untaken
      rw [count]
      calc
        begun.length ≤ begun.length * storage.multipart.partSize :=
          Nat.le_mul_of_pos_right _ positive
        _ = content.length := length
        _ ≤ total.length := le_trans (Nat.le_add_right _ _) long

theorem hashing_create (storage : GcsStorage) (bound : Nat) :
    Hashing storage bound [] .create := by
  refine ⟨⟨[], Uploads.accounts_start, ?_, Nat.zero_mul _⟩, ?_, ?_, rfl, rfl⟩
  · simp
  · simp [GcsUploadStream.create, Uploads.start, Untaken]
  · simp [GcsUploadStream.create, Uploads.start]

theorem write_of_cuttable (cuttable : ¬ storage.multipart.Uncuttable data)
    (network : Network) :
    ∃ passes count stream content bound,
      GcsUploadStream.create.write storage network.finishes passes data =
        some (.ok count, stream) ∧ Hashing storage bound content stream := by
  by_cases empty : data = []
  · subst empty
    exact ⟨1, 0, .create, [], 0, rfl, hashing_create storage 0⟩
  · have positive : 0 < storage.multipart.partSize := by
      by_contra zero
      exact cuttable ⟨empty, .inl (Nat.eq_zero_of_not_pos zero)⟩
    have slots : storage.multipart.partSize ≤ data.length →
        0 < storage.multipart.maxConcurrentParts := by
      intro long
      by_contra zero
      exact cuttable ⟨empty, .inr ⟨Nat.eq_zero_of_not_pos zero, long⟩⟩
    rcases network.finishes_bounded data.length data.length with ⟨bound, enough, bounded⟩
    have room : ([] : Bytes).length < storage.multipart.partSize := positive
    rcases fill_returns positive (Hashing storage bound)
      (fun content piece stream hashing size part =>
        flush_hashes positive slots bounded hashing size part)
      (hashing_create storage bound) room (List.prefix_refl data)
      (Nat.lt_succ_of_le enough) with ⟨held, after, handed, filled, hashing, -, -⟩
    have wrote : GcsUploadStream.create.write storage network.finishes (bound + 1) data =
        some (.ok data.length, { after with
          buffer := held
          bytesWritten := after.bytesWritten + data.length }) := by
      rw [GcsUploadStream.write]
      simp only [GcsUploadStream.create, Bool.false_eq_true, or_self, if_false] at filled ⊢
      rw [filled]
    exact ⟨_, _, _, handed, bound, wrote, hashing.accounts, hashing.untaken, hashing.finishes,
      hashing.active⟩

theorem write_ne_ok_of_uncuttable (uncuttable : storage.multipart.Uncuttable data)
    {finishes : Nat → Nat} {count : Nat} :
    GcsUploadStream.create.write storage finishes passes data ≠ some (.ok count, stream) := by
  intro outcome
  rw [GcsUploadStream.write] at outcome
  simp only [GcsUploadStream.create, Bool.false_eq_true, or_self, if_false] at outcome
  split at outcome
  · contradiction
  · simp at outcome
  · rename_i held next filled
    apply MultipartConfig.not_uncuttable_of_fill _ filled uncuttable
    intro piece rest after zero flushed
    rw [GcsUploadStream.flush, zero] at flushed
    split at flushed
    · contradiction
    · simp at flushed
    · rename_i uploads room
      exact absurd room Uploads.makeRoom_zero_ne_ok

theorem upload_resumable (connected : storage.connected = true) (uses : storage.UsesResumable data)
    (cuttable : ¬ storage.multipart.Uncuttable data) (network : Network) (now : Nat) (key : Bytes)
    (session : GcsSession storage) :
    ∃ passes result, storage.upload network passes now key data session =
      some (.ok result, session) := by
  rcases write_of_cuttable cuttable network with
    ⟨passes, count, stream, content, bound, wrote, hashing⟩
  rcases hashing.accounts with ⟨begun, accounts, results, -⟩
  refine ⟨passes, GcsUploadStream.finalizeUpload storage key stream, ?_⟩
  have waited : ∃ uploads, stream.uploads.waitAllUploads = (.ok (), uploads) := by
    cases outcome : stream.uploads.waitAllUploads with
    | mk returned uploads =>
        cases returned with
        | error failure =>
            rcases (Uploads.waitAllUploads_error accounts outcome).1 with ⟨label, mem⟩
            exact absurd ⟨label, failure, mem⟩ (no_failed_chunk results)
        | ok value => exact ⟨uploads, rfl⟩
  rcases waited with ⟨uploads, waited⟩
  have rest : stream.uploadRest = .ok () := by
    rw [GcsUploadStream.uploadRest]
    split <;> rfl
  have finished : (stream.finalize storage key).1 =
      .ok (GcsUploadStream.finalizeUpload storage key stream) := by
    rw [GcsUploadStream.finalize]
    simp only [hashing.active, Bool.false_eq_true, if_false, rest, waited]
  rw [upload]
  simp only [connected, not_true_eq_false, uses, if_true, if_false, wrote, finished]

/-- A storage with resumable uploads from this size on. -/
def sampleGcsStorage (threshold : Nat) : GcsStorage where
  connected := true
  multipart := ⟨true, threshold, 2, 1⟩
  sha256 := fun _ => []
  uploadId := []
  createJwt := .ok fun _ => []
  policy := ⟨id, fun assertion => (assertion, none)⟩

end GcsStorage

end FileTrans.Cloud
