import FileTrans.Cloud.WriteTermination

/-!
# Counting what was written

The upload streams move bytes to the buffer and to parts before they learn that
an earlier part has failed, and count them only when no failure is delivered.
So the count is right where every part that the data fill is answered with
success, but for the last one, which nothing has waited for.
-/

namespace FileTrans.Cloud

open FileTrans.Core FileTrans.Transition FileTrans.Collections

namespace PartWriter

variable {σ ι τ : Type} {writer : PartWriter σ ι τ} {size passes : Nat}
  {data buffer held : Bytes} {state after : Uploads ι τ × σ}

/-- The first so many parts of the content are answered with success. -/
def Accepts (writer : PartWriter σ ι τ) (size : Nat) : Nat → Bytes → σ → Prop
  | 0, _, _ => True
  | count + 1, content, rest =>
      (∃ value, writer.answer (content.take size) rest = .ok value) ∧
        writer.Accepts size count (content.drop size) (writer.next (content.take size) rest)

/-- All parts but the last of those that the content fills are answered with success. -/
def AcceptsEarlier (writer : PartWriter σ ι τ) (size : Nat) (content : Bytes) (rest : σ) : Prop :=
  writer.Accepts size (content.length / size - 1) content rest

theorem fill_of_accepts (positive : 0 < size) (fits : buffer.length ≤ size)
    (goes : size ≤ (buffer ++ data).length →
      ¬ state.1.Fails ∧ writer.AcceptsEarlier size (buffer ++ data) state.2) {result : Result Unit}
    (ends : fill size (writer.flush passes) passes data buffer state = some (result, held, after)) :
    result = .ok () := by
  -- As long as another part is filled, nothing is to fail and the parts before the last go well.
  let invariant (handed : Bytes) (state : Uploads ι τ × σ) : Prop :=
    ∀ rest, handed ++ rest = buffer ++ data → size ≤ rest.length →
      ¬ state.1.Fails ∧ writer.AcceptsEarlier size rest state.2
  have flushes (handed piece : Bytes) (state after : Uploads ι τ × σ)
      (holds : invariant handed state) (sized : piece.length = size)
      (flushed : writer.flush passes piece state = some (.ok (), after)) :
      invariant (handed ++ piece) after := by
    intro rest same enough
    obtain ⟨sound, accepts⟩ := holds (piece ++ rest) (by rw [← same, List.append_assoc])
      (by rw [List.length_append]; omega)
    have more : (piece ++ rest).length / size - 1 = (rest.length / size - 1) + 1 := by
      have some_left : 0 < rest.length / size := Nat.div_pos enough positive
      rw [List.length_append, sized, Nat.add_div_left _ positive]
      omega
    rw [AcceptsEarlier, more, Accepts, List.take_left' sized, List.drop_left' sized] at accepts
    obtain ⟨uploads, room, ⟨-, rfl⟩ | ⟨failure, failed, -⟩⟩ := flush_cases flushed
    · obtain ⟨⟨value, answered⟩, later⟩ := accepts
      exact ⟨not_fails_begin (Uploads.makeRoom_sound sound room).2.1 answered, later⟩
    · contradiction
  have initial : invariant [] state := by
    intro rest same enough
    rw [List.nil_append] at same
    rw [same] at enough ⊢
    exact goes enough
  cases result with
  | ok value => rfl
  | error failure =>
      obtain ⟨handed, before, holds, sized, flushed, more, same⟩ :=
        fill_error invariant flushes initial fits ends
      rw [List.nil_append, List.append_assoc] at same
      have sound := (holds (held ++ more) same (by rw [List.length_append]; omega)).1
      obtain ⟨uploads, room, -⟩ := flush_cases flushed
      have went := (Uploads.makeRoom_sound sound room).1
      contradiction

theorem fill_of_no_slot (none_free : writer.maxConcurrent = 0) (sound : ¬ state.1.Fails)
    (fits : buffer.length ≤ size) {result : Result Unit}
    (ends : fill size (writer.flush passes) passes data buffer state = some (result, held, after)) :
    result = .ok () ∧ ¬ after.1.Fails := by
  have stuck (piece : Bytes) (state after : Uploads ι τ × σ) (result : Result Unit)
      (sound : ¬ state.1.Fails) (flushed : writer.flush passes piece state = some (result, after)) :
      False := by
    obtain ⟨uploads, room, -⟩ := flush_cases flushed
    have slot := (Uploads.makeRoom_sound sound room).2.2
    rw [none_free] at slot
    exact Nat.lt_irrefl 0 slot
  refine ⟨?_, fill_invariant (fun state => ¬ state.1.Fails)
    (fun _ _ _ _ sound flushed => (stuck _ _ _ _ sound flushed).elim) sound ends⟩
  cases result with
  | ok value => rfl
  | error failure =>
      have failed : ∃ handed before, ¬ before.1.Fails ∧ held.length = size ∧
          writer.flush passes held before = some (.error failure, after) ∧
          handed ++ held <+: [] ++ (buffer ++ data) :=
        fill_error (fun _ state => ¬ state.1.Fails)
          (fun _ _ _ _ sound _ flushed => (stuck _ _ _ _ sound flushed).elim) sound fits ends
      obtain ⟨-, before, sound, -, flushed, -⟩ := failed
      exact (stuck _ _ _ _ sound flushed).elim

end PartWriter

/-! ## Streams that count -/

/-- What the upload streams share: a buffer, a count, and a writer of parts that knows the bytes
of the parts it has begun.  A write fills the buffer, and counts where no failure is delivered. -/
structure CountedStream (Stream σ ι τ : Type) where
  partSize : Nat
  writer : PartWriter σ ι τ
  begun : σ → Bytes
  closed : Stream → Prop
  buffer : Stream → Bytes
  bytesWritten : Stream → Nat
  parts : Stream → Uploads ι τ × σ
  write : Nat → Bytes → Stream → Option (Result Nat × Stream)
  begun_next : ∀ data rest, begun (writer.next data rest) = begun rest ++ data
  write_closed : ∀ {passes data stream result next}, closed stream →
    write passes data stream = some (result, next) → next = stream
  write_open : ∀ {passes data stream result next}, ¬ closed stream →
    write passes data stream = some (result, next) →
    ∃ outcome held after,
      fill partSize (writer.flush passes) passes data (buffer stream) (parts stream) =
        some (outcome, held, after) ∧
      buffer next = held ∧ (parts next).1 = after.1 ∧ begun (parts next).2 = begun after.2 ∧
      ((outcome = .ok () ∧ result = .ok data.length ∧
          bytesWritten next = bytesWritten stream + data.length) ∨
        ∃ failure, outcome = .error failure ∧ result = .error failure ∧
          bytesWritten next = bytesWritten stream)

namespace CountedStream

variable {Stream σ ι τ : Type} (kind : CountedStream Stream σ ι τ)

/-- The bytes in all parts that were begun, and in the buffer. -/
def contents (stream : Stream) : Bytes :=
  kind.begun (kind.parts stream).2 ++ kind.buffer stream

/-- One write.  One that does not return within so many passes of its loops is left out of the
run. -/
def step (passes : Nat) : Step Stream Bytes (Option (Result Nat)) := fun stream data =>
  match kind.write passes data stream with
  | none => (none, stream)
  | some (result, stream) => (some result, stream)

/-- Before and after a write the count is that of the bytes in the parts and in the buffer, and a
write that fails has added none of its own. -/
structure Counts (passes : Nat) (stream : Stream) (data : Bytes) : Prop where
  before : kind.bytesWritten stream = (kind.contents stream).length
  after : kind.bytesWritten (kind.step passes stream data).2 =
    (kind.contents (kind.step passes stream data).2).length
  failed : ∀ failure, (kind.step passes stream data).1 = some (.error failure) →
    kind.contents (kind.step passes stream data).2 = kind.contents stream

/-- The stream is closed, parts have no size or no slot, or the data fill no part, or no part under
way is to fail and all but the last that the data fill are answered with success. -/
def Undisturbed (stream : Stream) (data : Bytes) : Prop :=
  kind.closed stream ∨ kind.partSize = 0 ∨ kind.writer.maxConcurrent = 0 ∨
    (kind.partSize ≤ (kind.buffer stream ++ data).length →
      ¬ (kind.parts stream).1.Fails ∧
        kind.writer.AcceptsEarlier kind.partSize (kind.buffer stream ++ data) (kind.parts stream).2)

/-- The count is right, the buffer fits, and without a slot no part is to fail. -/
structure Counted (stream : Stream) : Prop where
  counted : kind.bytesWritten stream = (kind.contents stream).length
  fits : (kind.buffer stream).length ≤ kind.partSize
  unbegun : kind.writer.maxConcurrent = 0 → ¬ (kind.parts stream).1.Fails

variable {kind} {passes : Nat} {data : Bytes} {stream next : Stream} {result : Result Nat}

theorem contents_of_ok {held : Bytes} {after : Uploads ι τ × σ}
    (fits : (kind.buffer stream).length ≤ kind.partSize)
    (filled : fill kind.partSize (kind.writer.flush passes) passes data (kind.buffer stream)
      (kind.parts stream) = some (.ok (), held, after)) :
    kind.begun after.2 ++ held = kind.contents stream ++ data := by
  obtain ⟨handed, moved, together, -⟩ :=
    fill_ok (fun handed state => kind.begun state.2 = kind.begun (kind.parts stream).2 ++ handed)
      (by
        intro handed piece state after moved _ flushed
        obtain ⟨uploads, -, ⟨-, rfl⟩ | ⟨failure, failed, -⟩⟩ := PartWriter.flush_cases flushed
        · rw [PartWriter.begin, kind.begun_next, moved, List.append_assoc]
        · contradiction)
      (List.append_nil _).symm fits filled
  rw [List.nil_append] at together
  rw [moved, List.append_assoc, together, contents, List.append_assoc]

theorem contents_of_no_size {held : Bytes} {after : Uploads ι τ × σ} {failure : Error}
    (no_size : kind.partSize = 0) (fits : (kind.buffer stream).length ≤ kind.partSize)
    (failed : fill kind.partSize (kind.writer.flush passes) passes data (kind.buffer stream)
      (kind.parts stream) = some (.error failure, held, after)) :
    kind.begun after.2 ++ held = kind.contents stream := by
  have fails : ∃ handed before, kind.begun before.2 = kind.begun (kind.parts stream).2 ∧
      held.length = kind.partSize ∧
      kind.writer.flush passes held before = some (.error failure, after) ∧
      handed ++ held <+: [] ++ (kind.buffer stream ++ data) :=
    fill_error (fun _ state => kind.begun state.2 = kind.begun (kind.parts stream).2)
      (by
        intro handed piece state after same sized flushed
        obtain ⟨uploads, -, ⟨-, rfl⟩ | ⟨failure, failed, -⟩⟩ := PartWriter.flush_cases flushed
        · rw [no_size, List.length_eq_zero_iff] at sized
          rw [PartWriter.begin, kind.begun_next, sized, List.append_nil]
          exact same
        · contradiction)
      rfl fits failed
  obtain ⟨-, before, same, sized, flushed, -⟩ := fails
  rw [no_size] at sized fits
  obtain ⟨uploads, -, ⟨went, -⟩ | ⟨failure, -, rfl⟩⟩ := PartWriter.flush_cases flushed
  · contradiction
  · rw [contents, List.length_eq_zero_iff.mp sized,
      List.length_eq_zero_iff.mp (Nat.le_zero.mp fits)]
    exact congrArg (· ++ []) same

theorem counted_write (counted : kind.Counted stream) (undisturbed : kind.Undisturbed stream data)
    (wrote : kind.write passes data stream = some (result, next)) :
    kind.Counted next ∧
      ∀ failure, result = .error failure → kind.contents next = kind.contents stream := by
  by_cases closed : kind.closed stream
  · rw [kind.write_closed closed wrote]
    exact ⟨counted, fun _ _ => rfl⟩
  · obtain ⟨outcome, held, after, filled, buffer, uploads, begun, written⟩ :=
      kind.write_open closed wrote
    have contents : kind.contents next = kind.begun after.2 ++ held := by
      rw [CountedStream.contents, begun, buffer]
    have fits : (kind.buffer next).length ≤ kind.partSize :=
      buffer ▸ length_fill_le counted.fits filled
    have unbegun (none_free : kind.writer.maxConcurrent = 0) : outcome = .ok () ∧
        ¬ (kind.parts next).1.Fails :=
      uploads ▸ PartWriter.fill_of_no_slot none_free (counted.unbegun none_free) counted.fits filled
    obtain ⟨rfl, rfl, total⟩ | ⟨failure, rfl, rfl, total⟩ := written
    · have added := contents.trans (contents_of_ok counted.fits filled)
      refine ⟨⟨?_, fits, fun none_free => (unbegun none_free).2⟩, ?_⟩
      · rw [total, counted.counted, added, List.length_append]
      · intro failure failed
        contradiction
    · have no_size : kind.partSize = 0 := by
        by_contra positive
        obtain open_stream | size | none_free | accepts := undisturbed
        · exact closed open_stream
        · exact positive size
        · have went := (unbegun none_free).1
          contradiction
        · have went := PartWriter.fill_of_accepts (Nat.pos_of_ne_zero positive) counted.fits accepts
            filled
          contradiction
      have same := contents.trans (contents_of_no_size no_size counted.fits filled)
      refine ⟨⟨?_, fits, fun none_free => (unbegun none_free).2⟩, fun _ _ => same⟩
      rw [total, counted.counted, same]

theorem counts_of_undisturbed (counted : kind.Counted stream) {writes : List Bytes}
    (undisturbed : Guarded (kind.step passes) kind.Undisturbed stream writes) :
    Guarded (kind.step passes) (kind.Counts passes) stream writes := by
  induction writes generalizing stream with
  | nil => exact trivial
  | cons data rest ih =>
      obtain ⟨first, later⟩ := undisturbed
      have outcome : kind.Counted (kind.step passes stream data).2 ∧
          ∀ failure, (kind.step passes stream data).1 = some (.error failure) →
            kind.contents (kind.step passes stream data).2 = kind.contents stream := by
        rw [step]
        split
        · exact ⟨counted, fun _ _ => rfl⟩
        · rename_i wrote
          obtain ⟨kept, failed⟩ := counted_write counted first wrote
          exact ⟨kept, fun failure returned => failed failure (Option.some.inj returned)⟩
      exact ⟨⟨counted.counted, outcome.1.counted, outcome.2⟩, ih outcome.1 later⟩

end CountedStream

/-! ## The three streams -/

namespace S3UploadStream

/-- The bytes of the parts that were sent. -/
def sentBytes (wire : S3Wire) : Bytes :=
  ((sentParts wire.sent).map SentPart.data).flatten

def counting (context : S3Context) : CountedStream S3UploadStream S3UploadStream Nat Etag where
  partSize := context.multipart.partSize
  writer := partWriter context
  begun rest := sentBytes rest.wire
  closed stream := stream.finalized ∨ stream.aborted
  buffer := partBuffer
  bytesWritten := bytesWritten
  parts := parts
  write := write context
  begun_next := by
    intro data rest
    obtain ⟨answer, sent, -⟩ := sentParts_uploadPart context rest.uploadId rest.currentPartNumber
      data rest.wire
    simp [sentBytes, partWriter, sent]
  write_closed := by
    intro passes data stream result next closed wrote
    rw [write, if_pos closed] at wrote
    cases wrote
    rfl
  write_open := by
    intro passes data stream result next opened wrote
    rw [write, if_neg opened] at wrote
    rw [fill_map parts (flush_parts context passes)]
    split at wrote
    · contradiction
    · rename_i failure held after failed
      have header := (fill_wire (fun _ => True) (fun _ _ _ _ => trivial) trivial failed).2
      cases wrote
      rw [failed]
      exact ⟨_, _, _, rfl, rfl, rfl, rfl, .inr ⟨failure, rfl, rfl, header.bytesWritten⟩⟩
    · rename_i held after filled
      have header := (fill_wire (fun _ => True) (fun _ _ _ _ => trivial) trivial filled).2
      cases wrote
      rw [filled]
      exact ⟨_, _, _, rfl, rfl, rfl, rfl,
        .inl ⟨rfl, rfl, congrArg (· + data.length) header.bytesWritten⟩⟩

theorem counted_opened (context : S3Context) (server : S3Server) :
    (counting context).Counted (opened context (.begin server)) := by
  obtain ⟨uploadId, initialized, same⟩ := opened_eq context (.begin server)
  rw [same]
  refine ⟨rfl, Nat.zero_le _, ?_⟩
  rintro - ⟨upload, mem, -⟩
  contradiction

end S3UploadStream

namespace AzureUploadStream

/-- The bytes of the blocks that were sent. -/
def sentBytes (wire : AzureWire) : Bytes :=
  ((sentBlocks wire.sent).map SentBlock.data).flatten

def counting (context : AzureContext) :
    CountedStream AzureUploadStream AzureUploadStream Bytes Unit where
  partSize := context.multipart.partSize
  writer := partWriter context
  begun rest := sentBytes rest.wire
  closed stream := stream.finalized ∨ stream.aborted
  buffer := blockBuffer
  bytesWritten := bytesWritten
  parts := parts
  write := write context
  begun_next := by
    intro data rest
    obtain ⟨answer, sent, -⟩ := sentBlocks_uploadBlock context
      (generateBlockId rest.currentBlockNumber) data rest.wire
    simp [sentBytes, partWriter, sent]
  write_closed := by
    intro passes data stream result next closed wrote
    rw [write, if_pos closed] at wrote
    cases wrote
    rfl
  write_open := by
    intro passes data stream result next opened wrote
    rw [write, if_neg opened] at wrote
    rw [fill_map parts (flush_parts context passes)]
    split at wrote
    · contradiction
    · rename_i failure held after failed
      have header := (fill_wire (fun _ => True) (fun _ _ _ _ => trivial) trivial failed).2
      cases wrote
      rw [failed]
      exact ⟨_, _, _, rfl, rfl, rfl, rfl, .inr ⟨failure, rfl, rfl, header.bytesWritten⟩⟩
    · rename_i held after filled
      have header := (fill_wire (fun _ => True) (fun _ _ _ _ => trivial) trivial filled).2
      cases wrote
      rw [filled]
      exact ⟨_, _, _, rfl, rfl, rfl, rfl,
        .inl ⟨rfl, rfl, congrArg (· + data.length) header.bytesWritten⟩⟩

theorem counted_create (context : AzureContext) (server : AzureServer) :
    (counting context).Counted (create (.begin server)) := by
  refine ⟨rfl, Nat.zero_le _, ?_⟩
  rintro - ⟨upload, mem, -⟩
  contradiction

end AzureUploadStream

namespace RecordedStream

variable (storage : GcsStorage) (finishes : Nat → Nat)

variable {storage finishes} in
theorem bytesWritten_fill {size passes count : Nat} {remaining buffer held : Bytes}
    {recorded after : RecordedStream} {result : Result Unit}
    (ends : fill size (flush storage finishes passes) count remaining buffer recorded =
      some (result, held, after)) :
    after.stream.bytesWritten = recorded.stream.bytesWritten := by
  apply fill_invariant (fun rest => rest.stream.bytesWritten = recorded.stream.bytesWritten) _ rfl
    ends
  intro piece rest result next same flushed
  rw [flush] at flushed
  split at flushed
  · contradiction
  · cases flushed
    exact same
  · cases flushed
    exact same

def counting : CountedStream RecordedStream RecordedStream Nat Unit where
  partSize := storage.multipart.partSize
  writer := partWriter storage finishes
  begun rest := joined rest.passed
  closed recorded := recorded.stream.finalized ∨ recorded.stream.aborted
  buffer recorded := recorded.stream.buffer
  bytesWritten recorded := recorded.stream.bytesWritten
  parts := parts
  write := write storage finishes
  begun_next := by
    intro data rest
    simp [partWriter]
  write_closed := by
    intro passes data recorded result next closed wrote
    rw [write, if_pos closed] at wrote
    cases wrote
    rfl
  write_open := by
    intro passes data recorded result next opened wrote
    rw [write, if_neg opened] at wrote
    rw [fill_map parts (flush_parts storage finishes passes)]
    split at wrote
    · contradiction
    · rename_i failure held after failed
      have counted := bytesWritten_fill failed
      cases wrote
      rw [failed]
      exact ⟨_, _, _, rfl, rfl, rfl, rfl, .inr ⟨failure, rfl, rfl, counted⟩⟩
    · rename_i held after filled
      have counted := bytesWritten_fill filled
      cases wrote
      rw [filled]
      exact ⟨_, _, _, rfl, rfl, rfl, rfl,
        .inl ⟨rfl, rfl, congrArg (· + data.length) counted⟩⟩

theorem counted_create : (counting storage finishes).Counted create := by
  refine ⟨rfl, Nat.zero_le _, ?_⟩
  rintro - ⟨upload, mem, -⟩
  contradiction

variable {storage finishes}

theorem accepts (size count : Nat) (content : Bytes) (rest : RecordedStream) :
    (partWriter storage finishes).Accepts size count content rest := by
  induction count generalizing content rest with
  | zero => exact trivial
  | succ count ih => exact ⟨⟨(), rfl⟩, ih _ _⟩

theorem undisturbed {passes : Nat} {recorded : RecordedStream}
    (sound : ¬ recorded.stream.uploads.Fails) (writes : List Bytes) :
    Guarded ((counting storage finishes).step passes) (counting storage finishes).Undisturbed
      recorded writes := by
  induction writes generalizing recorded with
  | nil => exact trivial
  | cons data rest ih =>
      refine ⟨.inr (.inr (.inr fun _ => ⟨sound, accepts _ _ _ _⟩)), ih ?_⟩
      rw [CountedStream.step]
      split
      · exact sound
      · rename_i result next wrote
        have wrote : recorded.write storage finishes passes data = some (result, next) := wrote
        rw [write] at wrote
        split at wrote
        · cases wrote
          exact sound
        · split at wrote
          · contradiction
          · rename_i failed
            cases wrote
            exact fill_invariant (fun rest => ¬ rest.stream.uploads.Fails)
              (fun _ _ _ _ sound flushed => (flush_sound sound flushed).2.1) sound failed
          · rename_i filled
            cases wrote
            exact fill_invariant (fun rest => ¬ rest.stream.uploads.Fails)
              (fun _ _ _ _ sound flushed => (flush_sound sound flushed).2.1) sound filled

end RecordedStream

/-- Where no write of a run is disturbed, the count is right before and after each of them, and a
write that fails has added nothing; on Google Cloud Storage it always is. -/
theorem writes_count (passes : Nat) (writes : List Bytes) :
    (∀ (context : S3Context) (server : S3Server),
      Guarded ((S3UploadStream.counting context).step passes)
          (S3UploadStream.counting context).Undisturbed (.opened context (.begin server)) writes →
        Guarded ((S3UploadStream.counting context).step passes)
          ((S3UploadStream.counting context).Counts passes) (.opened context (.begin server))
          writes) ∧
    (∀ (context : AzureContext) (server : AzureServer),
      Guarded ((AzureUploadStream.counting context).step passes)
          (AzureUploadStream.counting context).Undisturbed (.create (.begin server)) writes →
        Guarded ((AzureUploadStream.counting context).step passes)
          ((AzureUploadStream.counting context).Counts passes) (.create (.begin server)) writes) ∧
    ∀ (storage : GcsStorage) (finishes : Nat → Nat),
      Guarded ((RecordedStream.counting storage finishes).step passes)
        ((RecordedStream.counting storage finishes).Counts passes) .create writes := by
  refine ⟨fun context server guarded => ?_, fun context server guarded => ?_,
    fun storage finishes => ?_⟩
  · exact CountedStream.counts_of_undisturbed (S3UploadStream.counted_opened context server) guarded
  · exact CountedStream.counts_of_undisturbed (AzureUploadStream.counted_create context server)
      guarded
  · apply CountedStream.counts_of_undisturbed (RecordedStream.counted_create storage finishes)
    apply RecordedStream.undisturbed
    rintro ⟨upload, mem, -⟩
    contradiction

/-- A part whose answer comes when nothing is written any more. -/
theorem writes_count_last :
    Guarded ((S3UploadStream.counting (byteParts firstPartRefused)).step 4)
      ((S3UploadStream.counting (byteParts firstPartRefused)).Counts 4)
      (.opened (byteParts firstPartRefused) (.begin emptyServer)) [[1]] := by
  refine (writes_count 4 [[1]]).1 (byteParts firstPartRefused) emptyServer
    ⟨.inr (.inr (.inr fun _ => ⟨?_, trivial⟩)), trivial⟩
  rintro ⟨upload, mem, -⟩
  contradiction

/-- The failure of the first part is delivered to the second write, which has put its byte into the
buffer and not counted it. -/
theorem failed_write_adds :
    ¬ Guarded ((S3UploadStream.counting (byteParts firstPartRefused)).step 4)
      ((S3UploadStream.counting (byteParts firstPartRefused)).Counts 4)
      (.opened (byteParts firstPartRefused) (.begin emptyServer)) [[1], [2]] := by
  rintro ⟨-, second, -⟩
  have counted := second.after
  revert counted
  decide

end FileTrans.Cloud
