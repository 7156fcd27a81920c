import FileTrans.Cloud.S3Listing

/-!
# Downloads from Azure

A download stream reads a blob range by range.  A server may answer a range with
a part of it or, as if there were none, with the whole blob; the stream takes
either as what comes next.  The bytes that were read are therefore those of the
blob exactly if no whole blob is answered where it does not fit.
-/

namespace FileTrans.Cloud

open FileTrans.Core
open FileTrans.Text
open FileTrans.Transition

/-! ## The stream -/

/-- `azure_blob_download_stream`, as far as it reads. -/
structure AzureDownloadStream where
  initialized : Bool
  totalSize : UInt64
  bytesRead : UInt64
  deriving DecidableEq

/-- An answer to a `HEAD` request, as far as it says how large the blob is. -/
structure HeadResponse where
  statusCode : Nat
  contentLength : Option Bytes

namespace AzureDownloadStream

/-- The stream before it has asked for the blob. -/
def empty : AzureDownloadStream :=
  ⟨false, 0, 0⟩

/-- The constructor with `initialize`, unless the length cannot be read. -/
def initializeFrom (response : Result HeadResponse) : Option AzureDownloadStream :=
  match response with
  | .error _ => some empty
  | .ok response =>
      if response.statusCode ≠ 200 then some empty
      else
        match response.contentLength with
        | none => some { empty with initialized := true }
        | some contentLength => (stoull 10 contentLength).map fun totalSize =>
            { empty with initialized := true, totalSize }

def fetchRange (get : UInt64 → UInt64 → Result HttpResponse) (start last : UInt64) :
    Result Bytes :=
  match get start last with
  | .error failure =>
      .error ⟨.internalError, ascii "Failed to download blob range: " ++ failure.message⟩
  | .ok response =>
      if response.statusCode ≠ 200 ∧ response.statusCode ≠ 206 then
        .error ⟨.internalError,
          ascii "Failed to download blob, status: " ++ decimal response.statusCode⟩
      else .ok response.body

/-- The last byte of the range to fetch. -/
def rangeEnd (stream : AzureDownloadStream) (bufferSize : UInt64) : UInt64 :=
  min (stream.bytesRead + bufferSize - 1) (stream.totalSize - 1)

/-- `read`, with the bytes that are copied to the buffer. -/
def read (get : UInt64 → UInt64 → Result HttpResponse) (bufferSize : UInt64)
    (stream : AzureDownloadStream) : Result Bytes × AzureDownloadStream :=
  if ¬ stream.initialized then (unexpected .notInitialized "Stream not initialized", stream)
  else if stream.totalSize ≤ stream.bytesRead then (.ok [], stream)
  else
    match fetchRange get stream.bytesRead (stream.rangeEnd bufferSize) with
    | .error failure => (.error failure, stream)
    | .ok data =>
        let copied := data.take bufferSize.toNat
        (.ok copied, { stream with bytesRead := stream.bytesRead + UInt64.ofNat copied.length })

def hasMore (stream : AzureDownloadStream) : Bool :=
  stream.bytesRead < stream.totalSize

end AzureDownloadStream

/-! ## The server -/

/-- A server with a blob.  To a range it answers with a part from its beginning on or with the
whole blob, and it may answer each request in another way. -/
structure RangeServer where
  content : Bytes
  answer : Nat → UInt64 → UInt64 → HttpResponse
  length_lt : content.length < 2 ^ 64
  admissible : ∀ call start last, answer call start last = ⟨200, content⟩ ∨
    ∃ data, answer call start last = ⟨206, data⟩ ∧ data ≠ [] ∧
      data <+: (content.drop start.toNat).take (last.toNat + 1 - start.toNat)

/-- A stream, and how many requests it has made for a range. -/
structure Download where
  stream : AzureDownloadStream
  calls : Nat

namespace RangeServer

variable (server : RangeServer)

/-- The stream after it has asked for the blob. -/
def opened : Option Download :=
  (AzureDownloadStream.initializeFrom (.ok ⟨200, some (decimal server.content.length)⟩)).map
    fun stream => ⟨stream, 0⟩

/-- The stream that is opened, if the length could be read. -/
def start : Download :=
  server.opened.getD ⟨.empty, 0⟩

/-- A read into a buffer of this size. -/
def step : Step Download UInt64 (Result Bytes) := fun download bufferSize =>
  let result := download.stream.read
    (fun start last => .ok (server.answer download.calls start last)) bufferSize
  (result.1, ⟨result.2, if download.stream.hasMore then download.calls + 1 else download.calls⟩)

/-- The bytes that reads into buffers of these sizes have copied. -/
def returned (sizes : List UInt64) : Bytes :=
  (outputs server.step server.start sizes).flatMap fun
    | .ok copied => copied
    | .error _ => []

/-- The download after reads into buffers of these sizes. -/
def after (sizes : List UInt64) : Download :=
  final server.step server.start sizes

/-- The range that a read fetches, if there is more, is computed without a wrap. -/
def InRange (download : Download) (bufferSize : UInt64) : Prop :=
  download.stream.hasMore →
    0 < download.stream.bytesRead.toNat + bufferSize.toNat ∧
      download.stream.bytesRead.toNat + bufferSize.toNat < 2 ^ 64

/-- A read into a buffer that is not empty returns nothing only at the end. -/
def EndsOnce (download : Download) (bufferSize : UInt64) : Prop :=
  0 < bufferSize → (server.step download bufferSize).1 = .ok [] → ¬ download.stream.hasMore

/-- What reads into buffers of these sizes promise. -/
structure Reads (sizes : List UInt64) : Prop where
  content : server.returned sizes <+: server.content
  counted : (server.after sizes).stream.bytesRead.toNat = (server.returned sizes).length
  bounded : (server.after sizes).stream.bytesRead ≤ (server.after sizes).stream.totalSize
  ends : Guarded server.step server.EndsOnce server.start sizes
  ranges : Guarded server.step InRange server.start sizes

/-- A read fetches a range without a wrap, and a whole blob that is answered begins with what comes
next, as far as the buffer goes. -/
def Fits (download : Download) (bufferSize : UInt64) : Prop :=
  InRange download bufferSize ∧
    (download.stream.hasMore →
      (server.answer download.calls download.stream.bytesRead
        (download.stream.rangeEnd bufferSize)).statusCode = 200 →
      server.content.take bufferSize.toNat <+:
        server.content.drop download.stream.bytesRead.toNat)

variable {server} {sizes : List UInt64} {bufferSize : UInt64}

theorem start_eq (server : RangeServer) :
    server.start = ⟨⟨true, UInt64.ofNat server.content.length, 0⟩, 0⟩ := by
  have length : (UInt64.ofNat server.content.length).toNat = server.content.length := by
    rw [UInt64.toNat_ofNat', Nat.mod_eq_of_lt server.length_lt]
  have reads := stoull_decimal (UInt64.ofNat server.content.length)
  rw [length] at reads
  simp [start, opened, AzureDownloadStream.initializeFrom, AzureDownloadStream.empty, reads]

/-- The body that is answered to a read. -/
def body (server : RangeServer) (download : Download) (bufferSize : UInt64) : Bytes :=
  (server.answer download.calls download.stream.bytesRead
    (download.stream.rangeEnd bufferSize)).body

theorem body_cases (server : RangeServer) (download : Download) (bufferSize : UInt64) :
    let status := (server.answer download.calls download.stream.bytesRead
      (download.stream.rangeEnd bufferSize)).statusCode
    (status = 200 ∧ server.body download bufferSize = server.content) ∨
      (status = 206 ∧ server.body download bufferSize ≠ [] ∧
        server.body download bufferSize <+:
          server.content.drop download.stream.bytesRead.toNat) := by
  intro status
  rcases server.admissible download.calls download.stream.bytesRead
    (download.stream.rangeEnd bufferSize) with whole | ⟨data, part, nonempty, begins⟩
  · left
    simp [status, body, whole]
  · right
    have inside := begins.trans (List.take_prefix _ _)
    simp [status, body, part, nonempty, inside]

theorem step_of_end (server : RangeServer) {download : Download}
    (ready : download.stream.initialized = true)
    (done : ¬ download.stream.hasMore) (bufferSize : UInt64) :
    server.step download bufferSize = (.ok [], download) := by
  have ended : download.stream.totalSize ≤ download.stream.bytesRead := by
    simpa [AzureDownloadStream.hasMore] using done
  rw [step, AzureDownloadStream.read, if_neg (not_not.mpr ready), if_pos ended, if_neg done]

theorem step_of_more (server : RangeServer) {download : Download}
    (ready : download.stream.initialized = true)
    (more : download.stream.hasMore) (bufferSize : UInt64) :
    let copied := (server.body download bufferSize).take bufferSize.toNat
    server.step download bufferSize = (.ok copied,
      ⟨{ download.stream with
          bytesRead := download.stream.bytesRead + UInt64.ofNat copied.length },
        download.calls + 1⟩) := by
  intro copied
  have running : ¬ download.stream.totalSize ≤ download.stream.bytesRead := by
    simpa [AzureDownloadStream.hasMore] using more
  have fetched : AzureDownloadStream.fetchRange
      (fun start last => .ok (server.answer download.calls start last)) download.stream.bytesRead
      (download.stream.rangeEnd bufferSize) = .ok (server.body download bufferSize) := by
    have status : ¬ ((server.answer download.calls download.stream.bytesRead
        (download.stream.rangeEnd bufferSize)).statusCode ≠ 200 ∧
        (server.answer download.calls download.stream.bytesRead
          (download.stream.rangeEnd bufferSize)).statusCode ≠ 206) := by
      rcases server.body_cases download bufferSize with whole | part
      · exact fun neither => neither.1 whole.1
      · exact fun neither => neither.2 part.1
    rw [AzureDownloadStream.fetchRange]
    dsimp only
    rw [if_neg status, body]
  rw [step, AzureDownloadStream.read, if_neg (not_not.mpr ready), if_neg running, if_pos more,
    fetched]

theorem stream_after (server : RangeServer) (sizes : List UInt64) :
    (server.after sizes).stream.initialized = true ∧
      (server.after sizes).stream.totalSize.toNat = server.content.length := by
  apply final_invariant (fun download : Download => download.stream.initialized = true ∧
    download.stream.totalSize.toNat = server.content.length)
  · rintro download bufferSize ⟨ready, length⟩
    by_cases more : download.stream.hasMore
    · rw [server.step_of_more ready more]
      exact ⟨ready, length⟩
    · rw [server.step_of_end ready more]
      exact ⟨ready, length⟩
  · rw [start_eq]
    exact ⟨rfl, by rw [UInt64.toNat_ofNat', Nat.mod_eq_of_lt server.length_lt]⟩

/-! ## What is read -/

theorem after_concat (sizes : List UInt64) (bufferSize : UInt64) :
    server.after (sizes ++ [bufferSize]) = (server.step (server.after sizes) bufferSize).2 :=
  final_concat server.step server.start sizes bufferSize

theorem reads_nil (server : RangeServer) : server.Reads [] where
  content := List.nil_prefix
  counted := by
    rw [after, final_nil, start_eq]
    rfl
  bounded := by
    rw [after, final_nil, start_eq]
    exact UInt64.zero_le
  ends := trivial
  ranges := trivial

theorem Reads.returned_eq (reads : server.Reads sizes) :
    server.returned sizes = server.content.take (server.after sizes).stream.bytesRead.toNat := by
  rw [reads.counted]
  exact List.prefix_iff_eq_take.mp reads.content

theorem returned_concat (sizes : List UInt64) {bufferSize : UInt64} {copied : Bytes}
    (copies : (server.step (server.after sizes) bufferSize).1 = .ok copied) :
    server.returned (sizes ++ [bufferSize]) = server.returned sizes ++ copied := by
  have last : outputs server.step (server.after sizes) [bufferSize] = [.ok copied] := by
    rw [outputs_cons, copies, outputs_nil]
  rw [returned, outputs_append, List.flatMap_append, ← returned, ← after, last]
  simp

theorem Reads.concat_of_end (reads : server.Reads sizes)
    (done : ¬ (server.after sizes).stream.hasMore) (bufferSize : UInt64) :
    server.Reads (sizes ++ [bufferSize]) := by
  have stays := server.step_of_end (server.stream_after sizes).1 done bufferSize
  have same : server.after (sizes ++ [bufferSize]) = server.after sizes := by
    rw [after_concat, stays]
  have nothing : server.returned (sizes ++ [bufferSize]) = server.returned sizes := by
    rw [returned_concat sizes (congrArg Prod.fst stays), List.append_nil]
  constructor
  · rw [nothing]
    exact reads.content
  · rw [same, nothing]
    exact reads.counted
  · rw [same]
    exact reads.bounded
  · exact guarded_append_iff.mpr ⟨reads.ends, fun _ _ => done, trivial⟩
  · exact guarded_append_iff.mpr ⟨reads.ranges, fun more => absurd more done, trivial⟩

theorem Reads.concat_of_more (reads : server.Reads sizes)
    (more : (server.after sizes).stream.hasMore) {bufferSize : UInt64}
    (range : InRange (server.after sizes) bufferSize)
    (next : (server.body (server.after sizes) bufferSize).take bufferSize.toNat <+:
      server.content.drop (server.after sizes).stream.bytesRead.toNat) :
    server.Reads (sizes ++ [bufferSize]) := by
  rcases server.stream_after sizes with ⟨ready, total⟩
  have stepped := server.step_of_more ready more bufferSize
  have running : (server.after sizes).stream.bytesRead.toNat < server.content.length := by
    rw [← total]
    exact UInt64.lt_iff_toNat_lt.mp (of_decide_eq_true more)
  have filled : 0 < bufferSize →
      (server.body (server.after sizes) bufferSize).take bufferSize.toNat ≠ [] := by
    intro positive
    have nonempty : server.body (server.after sizes) bufferSize ≠ [] := by
      rcases server.body_cases (server.after sizes) bufferSize with whole | part
      · rw [whole.2]
        exact List.ne_nil_of_length_pos (Nat.zero_lt_of_lt running)
      · exact part.2.1
    have size : bufferSize.toNat ≠ 0 := Nat.ne_of_gt (UInt64.lt_iff_toNat_lt.mp positive)
    simp [List.take_eq_nil_iff, size, nonempty]
  generalize (server.body (server.after sizes) bufferSize).take bufferSize.toNat = copied at *
  have returned := returned_concat sizes (congrArg Prod.fst stepped)
  have short := next.length_le
  rw [List.length_drop] at short
  have count : (server.after (sizes ++ [bufferSize])).stream.bytesRead.toNat =
      (server.after sizes).stream.bytesRead.toNat + copied.length := by
    have fits := server.length_lt
    rw [after_concat, stepped, UInt64.toNat_add, UInt64.toNat_ofNat', Nat.add_mod_mod,
      Nat.mod_eq_of_lt (by omega)]
  constructor
  · rw [returned, reads.returned_eq]
    conv_rhs => rw [← List.take_append_drop (server.after sizes).stream.bytesRead.toNat
      server.content]
    exact (List.prefix_append_right_inj _).mpr next
  · rw [count, returned, reads.counted, List.length_append]
  · rw [UInt64.le_iff_toNat_le, count, (server.stream_after _).2]
    omega
  · refine guarded_append_iff.mpr ⟨reads.ends, fun positive nothing => ?_, trivial⟩
    change (server.step (server.after sizes) bufferSize).1 = .ok [] at nothing
    rw [stepped] at nothing
    exact absurd (Except.ok.inj nothing) (filled positive)
  · exact guarded_append_iff.mpr ⟨reads.ranges, range, trivial⟩

theorem Reads.concat_iff (reads : server.Reads sizes) (bufferSize : UInt64) :
    server.Reads (sizes ++ [bufferSize]) ↔ server.Fits (server.after sizes) bufferSize := by
  by_cases more : (server.after sizes).stream.hasMore
  · constructor
    · intro next
      refine ⟨(guarded_append_iff.mp next.ranges).2.1, fun _ whole => ?_⟩
      have stepped := server.step_of_more (server.stream_after sizes).1 more bufferSize
      have content := next.content
      have body : server.body (server.after sizes) bufferSize = server.content := by
        rcases server.body_cases (server.after sizes) bufferSize with all | part
        · exact all.2
        · rw [whole] at part
          exact absurd part.1 (by decide)
      rw [returned_concat sizes (congrArg Prod.fst stepped), reads.returned_eq, body] at content
      conv_rhs at content => rw [← List.take_append_drop
        (server.after sizes).stream.bytesRead.toNat server.content]
      exact (List.prefix_append_right_inj _).mp content
    · rintro ⟨range, fits⟩
      apply reads.concat_of_more more range
      rcases server.body_cases (server.after sizes) bufferSize with whole | part
      · rw [whole.2]
        exact fits more whole.1
      · exact (List.take_prefix _ _).trans part.2.2
  · apply iff_of_true (reads.concat_of_end more bufferSize)
    exact ⟨fun less => absurd less more, fun less => absurd less more⟩

/-- All reads keep the promise exactly if what is answered to each of them fits. -/
theorem reads_iff (server : RangeServer) (sizes : List UInt64) :
    (∀ seen, seen <+: sizes → server.Reads seen) ↔
      Guarded server.step server.Fits server.start sizes := by
  induction sizes using List.reverseRecOn with
  | nil =>
      apply iff_of_true _ trivial
      intro seen begins
      rw [List.prefix_nil.mp begins]
      exact server.reads_nil
  | append_singleton sizes bufferSize ih =>
      rw [guarded_append_iff, ← ih]
      constructor
      · intro every
        have before (seen : List UInt64) (begins : seen <+: sizes) : server.Reads seen :=
          every seen (begins.trans (List.prefix_append _ _))
        have last := ((before sizes (List.prefix_refl _)).concat_iff bufferSize).mp
          (every _ (List.prefix_refl _))
        exact ⟨before, last, trivial⟩
      · rintro ⟨before, last, -⟩ seen begins
        rcases List.prefix_concat_iff.mp begins with rfl | shorter
        · exact ((before sizes (List.prefix_refl _)).concat_iff bufferSize).mpr last
        · exact before seen shorter

/-- A server that always answers with the whole of its blob, which has two bytes. -/
def whole : RangeServer where
  content := [1, 2]
  answer _ _ _ := ⟨200, [1, 2]⟩
  length_lt := by decide
  admissible _ _ _ := .inl rfl

/-- The second read of one byte returns the first byte again, and the range for an empty buffer
ends before the beginning of the blob. -/
theorem whole_not_reads : ¬ whole.Reads [1, 1] ∧ ¬ whole.Reads [0] := by
  constructor
  · intro reads
    have content := reads.content
    rw [returned, start_eq] at content
    exact absurd content (by decide)
  · intro reads
    have range := reads.ranges.1
    rw [start_eq] at range
    exact absurd (range rfl).1 (by decide)

end RangeServer

end FileTrans.Cloud
