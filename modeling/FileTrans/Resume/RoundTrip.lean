import FileTrans.Resume.Extraction

/-!
# Writing and reading back a state

`serialize_state_to_json` followed by `deserialize_state_from_json` gives back the
state, up to its times, unless the file name gets in the way: it may end with a
backslash, or in a quote and one of the later keys.
-/

namespace FileTrans.Resume

open Core Text

/-! ## What deserialization reads -/

/-- A successful deserialization reads every field. -/
structure Reads (json : Bytes) (state : TransferState) : Prop where
  id : TransferId.fromString (extractJsonValue json (ascii "id")) = some state.id
  filename : unescapeJsonString (extractJsonValue json (ascii "filename")) = some state.filename
  totalSize : stoull 10 (extractJsonValue json (ascii "total_size")) = some state.totalSize
  transferredBytes :
    stoull 10 (extractJsonValue json (ascii "transferred_bytes")) = some state.transferredBytes
  totalChunks : (stoul 10 (extractJsonValue json (ascii "total_chunks"))).map UInt64.toUInt32 =
    some state.totalChunks
  startedAt : (stoll 10 (extractJsonValue json (ascii "started_at"))).map int64ToTimePoint =
    some state.startedAt
  lastActivity : (stoll 10 (extractJsonValue json (ascii "last_activity"))).map int64ToTimePoint =
    some state.lastActivity
  chunkBitmap : hexStringToBitmap (extractJsonValue json (ascii "chunk_bitmap"))
    state.totalChunks.toNat = some state.chunkBitmap
  sha256 : extractJsonValue json (ascii "sha256") = state.sha256

theorem readNumericFields_eq_some_iff {json : Bytes} {fields : NumericFields} :
    readNumericFields json = some fields ↔
      stoull 10 (extractJsonValue json (ascii "total_size")) = some fields.totalSize ∧
      stoull 10 (extractJsonValue json (ascii "transferred_bytes")) =
        some fields.transferredBytes ∧
      (stoul 10 (extractJsonValue json (ascii "total_chunks"))).map UInt64.toUInt32 =
        some fields.totalChunks ∧
      (stoll 10 (extractJsonValue json (ascii "started_at"))).map int64ToTimePoint =
        some fields.startedAt ∧
      (stoll 10 (extractJsonValue json (ascii "last_activity"))).map int64ToTimePoint =
        some fields.lastActivity := by
  obtain ⟨totalSize, transferredBytes, totalChunks, startedAt, lastActivity⟩ := fields
  simp only [readNumericFields, Option.bind_eq_bind, Option.bind_eq_some_iff, Option.some.injEq,
    NumericFields.mk.injEq, Option.map_eq_some_iff]
  constructor
  · rintro ⟨_, size, _, transferred, chunks, chunksRead, started, startedRead, activity,
      activityRead, rfl, rfl, rfl, rfl, rfl⟩
    exact ⟨size, transferred, ⟨chunks, chunksRead, rfl⟩, ⟨started, startedRead, rfl⟩,
      ⟨activity, activityRead, rfl⟩⟩
  · rintro ⟨size, transferred, ⟨chunks, chunksRead, rfl⟩, ⟨started, startedRead, rfl⟩,
      ⟨activity, activityRead, rfl⟩⟩
    exact ⟨_, size, _, transferred, chunks, chunksRead, started, startedRead, activity,
      activityRead, rfl, rfl, rfl, rfl, rfl⟩

variable {state : TransferState}

theorem deserializeStateFromJson_eq_ok_iff {json : Bytes} :
    deserializeStateFromJson json = some (.ok state) ↔ Reads json state := by
  constructor
  · intro success
    simp only [deserializeStateFromJson] at success
    split at success
    · cases success
    split at success
    · cases success
    rename_i id idRead
    split at success
    · cases success
    rename_i filename filenameRead
    split at success
    · cases success
    rename_i fields fieldsRead
    split at success
    · cases success
    rename_i chunkBitmap bitmapRead
    cases success
    obtain ⟨size, transferred, chunks, started, activity⟩ :=
      readNumericFields_eq_some_iff.mp fieldsRead
    exact ⟨idRead, filenameRead, size, transferred, chunks, started, activity, bitmapRead, rfl⟩
  · intro reads
    have fieldsRead : readNumericFields json = some ⟨state.totalSize, state.transferredBytes,
        state.totalChunks, state.startedAt, state.lastActivity⟩ :=
      readNumericFields_eq_some_iff.mpr ⟨reads.totalSize, reads.transferredBytes,
        reads.totalChunks, reads.startedAt, reads.lastActivity⟩
    have idPresent : extractJsonValue json (ascii "id") ≠ [] := by
      intro missing
      have idRead := reads.id
      rw [missing] at idRead
      cases idRead
    simp only [deserializeStateFromJson, if_neg idPresent, reads.id, reads.filename, fieldsRead,
      reads.chunkBitmap, reads.sha256]

/-! ## The values in a state file -/

section State

variable (state : TransferState) (lastValue rest : Bytes)

private theorem endsNumber_comma (rest : Bytes) : EndsNumber (ascii ",\n  " ++ rest) := by
  rintro byte ⟨⟩
  rfl

private theorem valueAfterColon_decimal (number : Nat) (rest : Bytes) :
    valueAfterColon (0x20 :: (decimal number ++ (ascii ",\n  " ++ rest))) = decimal number :=
  valueAfterColon_number (fun _ mem => numeralByte_decimal mem) (endsNumber_comma rest)
    (decimal_ne_nil number)

theorem decimalInt_ne_nil (number : Int) : decimalInt number ≠ [] := by
  unfold decimalInt
  split
  · exact List.cons_ne_nil _ _
  · exact decimal_ne_nil _

private theorem valueAfterColon_hex {text : Bytes} (hex : HexText text) (rest : Bytes) :
    valueAfterColon (0x20 :: (quoted text ++ rest)) = text :=
  valueAfterColon_quoted (hex.notMem rfl) (hex.notMem rfl) rest

variable (hex : HexText state.sha256)
include hex

theorem extract_total_size :
    extractJsonValue (stateText state lastValue rest) (ascii "total_size") =
      decimal state.totalSize.toNat := by
  rw [extract_middle state lastValue rest 0 rfl (by decide) hex, valueAfterColon_decimal,
    ite_self]

theorem extract_transferred_bytes :
    extractJsonValue (stateText state lastValue rest) (ascii "transferred_bytes") =
      if endsIn (ascii "transferred_bytes") state.filename then decimal state.totalSize.toNat
      else decimal state.transferredBytes.toNat := by
  rw [extract_middle state lastValue rest 1 rfl (by decide) hex, valueAfterColon_decimal]

theorem extract_total_chunks :
    extractJsonValue (stateText state lastValue rest) (ascii "total_chunks") =
      if endsIn (ascii "total_chunks") state.filename then decimal state.totalSize.toNat
      else decimal state.totalChunks.toNat := by
  rw [extract_middle state lastValue rest 2 rfl (by decide) hex, valueAfterColon_decimal]

theorem extract_chunk_bitmap :
    extractJsonValue (stateText state lastValue rest) (ascii "chunk_bitmap") =
      if endsIn (ascii "chunk_bitmap") state.filename then decimal state.totalSize.toNat
      else bitmapToHexString state.chunkBitmap := by
  rw [extract_middle state lastValue rest 3 rfl (by decide) hex,
    valueAfterColon_hex fun _ mem => isDigit_of_mem_bitmapToHexString mem]

theorem extract_sha256 :
    extractJsonValue (stateText state lastValue rest) (ascii "sha256") =
      if endsIn (ascii "sha256") state.filename then decimal state.totalSize.toNat
      else state.sha256 := by
  rw [extract_middle state lastValue rest 4 rfl (by decide) hex, valueAfterColon_hex hex]

theorem extract_started_at :
    extractJsonValue (stateText state lastValue rest) (ascii "started_at") =
      if endsIn (ascii "started_at") state.filename then decimal state.totalSize.toNat
      else decimalInt (timePointToInt64 state.startedAt) := by
  rw [extract_middle state lastValue rest 5 rfl (by decide) hex,
    valueAfterColon_number (fun _ mem => numeralByte_decimalInt mem) (endsNumber_comma _)
      (decimalInt_ne_nil _)]

theorem extract_last_activity (numeral : ∀ byte ∈ lastValue, NumeralByte byte)
    (nonempty : lastValue ≠ []) (ends : EndsNumber rest) :
    extractJsonValue (stateText state lastValue rest) (ascii "last_activity") =
      if endsIn (ascii "last_activity") state.filename then decimal state.totalSize.toNat
      else lastValue := by
  rw [extract_last state lastValue rest hex, valueAfterColon_number numeral ends nonempty]

end State

/-! ## The round trip -/

/-- The size, taken for a time in milliseconds, is the given time. -/
def SizeIsTime (size : UInt64) (time : Int64) : Prop :=
  size.toNat < 2 ^ 63 ∧ int64ToTimePoint (Int64.ofInt size.toNat) = truncateTime time

/-- The file name does not keep the state from being read back: it does not end with
a backslash, and where it ends in a key, the total size, which is then read for that
key, happens to be what the key stands for. -/
structure ReadableName (state : TransferState) : Prop where
  noBackslash : state.filename.getLast? ≠ some backslash
  transferredBytes : endsIn (ascii "transferred_bytes") state.filename →
    state.totalSize = state.transferredBytes
  totalChunks : endsIn (ascii "total_chunks") state.filename →
    state.totalSize.toUInt32 = state.totalChunks
  chunkBitmap : endsIn (ascii "chunk_bitmap") state.filename →
    hexStringToBitmap (decimal state.totalSize.toNat) state.totalChunks.toNat =
      some state.chunkBitmap
  sha256 : endsIn (ascii "sha256") state.filename →
    decimal state.totalSize.toNat = state.sha256
  startedAt : endsIn (ascii "started_at") state.filename →
    SizeIsTime state.totalSize state.startedAt
  lastActivity : endsIn (ascii "last_activity") state.filename →
    SizeIsTime state.totalSize state.lastActivity

private theorem read_ite_iff {α : Type} {condition : Prop} [Decidable condition]
    (read : Bytes → Option α) {other own : Bytes} {value : α} (ownRead : read own = some value) :
    read (if condition then other else own) = some value ↔
      (condition → read other = some value) := by
  by_cases holds : condition
  · simp [holds]
  · simp [holds, ownRead]

private theorem read_size_as_time_iff (size : UInt64) (time : Int64) :
    (stoll 10 (decimal size.toNat)).map int64ToTimePoint = some (truncateTime time) ↔
      SizeIsTime size time := by
  rw [← decimalInt_natCast, SizeIsTime]
  by_cases fits : size.toNat < 2 ^ 63
  · rw [stoll_decimalInt (by omega) (by omega), Option.map_some, Option.some.injEq]
    exact (and_iff_right fits).symm
  · rw [stoll_decimalInt_eq_none (by omega), Option.map_none]
    exact iff_of_false (fun none => by cases none) fun isTime => fits isTime.1

theorem read_time (time : Int64) :
    (stoll 10 (decimalInt (timePointToInt64 time))).map int64ToTimePoint =
      some (truncateTime time) := by
  have bounds := timePointToInt64_bounds time
  rw [stoll_decimalInt bounds.1 bounds.2, Option.map_some, int64ToTimePoint_timePointToInt64]

section Fields

variable (state : TransferState) (lastValue rest : Bytes)

theorem read_filename_iff :
    unescapeJsonString (extractJsonValue (stateText state lastValue rest) (ascii "filename")) =
      some state.filename ↔ state.filename.getLast? ≠ some backslash := by
  rw [extract_filename]
  by_cases backslashed : state.filename.getLast? = some backslash
  · have tail : unescapeJsonString (quote :: ascii ",\n  ") = some (quote :: ascii ",\n  ") := by
      decide
    rw [if_pos backslashed, unescapeJsonString_escape_append, tail]
    simp [backslashed]
  · rw [if_neg backslashed, unescapeJsonString_escapeJsonString]
    simp [backslashed]

variable (hex : HexText state.sha256)
include hex

theorem read_totalSize :
    stoull 10 (extractJsonValue (stateText state lastValue rest) (ascii "total_size")) =
      some state.totalSize := by
  rw [extract_total_size state lastValue rest hex, stoull_decimal]

theorem read_transferredBytes_iff :
    stoull 10 (extractJsonValue (stateText state lastValue rest) (ascii "transferred_bytes")) =
      some state.transferredBytes ↔
      (endsIn (ascii "transferred_bytes") state.filename →
        state.totalSize = state.transferredBytes) := by
  rw [extract_transferred_bytes state lastValue rest hex,
    read_ite_iff (stoull 10) (stoull_decimal _), stoull_decimal, Option.some.injEq]

theorem read_totalChunks_iff :
    (stoul 10 (extractJsonValue (stateText state lastValue rest) (ascii "total_chunks"))).map
      UInt64.toUInt32 = some state.totalChunks ↔
      (endsIn (ascii "total_chunks") state.filename →
        state.totalSize.toUInt32 = state.totalChunks) := by
  have own : (stoul 10 (decimal state.totalChunks.toNat)).map UInt64.toUInt32 =
      some state.totalChunks := by
    rw [stoul_decimal, Option.map_some, UInt32.toUInt32_toUInt64]
  rw [extract_total_chunks state lastValue rest hex,
    read_ite_iff (fun text => (stoul 10 text).map UInt64.toUInt32) own, stoul, stoull_decimal,
    Option.map_some, Option.some.injEq]

theorem read_chunkBitmap_iff (sized : state.WellSized) :
    hexStringToBitmap (extractJsonValue (stateText state lastValue rest) (ascii "chunk_bitmap"))
      state.totalChunks.toNat = some state.chunkBitmap ↔
      (endsIn (ascii "chunk_bitmap") state.filename →
        hexStringToBitmap (decimal state.totalSize.toNat) state.totalChunks.toNat =
          some state.chunkBitmap) := by
  have own := hexStringToBitmap_bitmapToHexString state.chunkBitmap
  rw [sized] at own
  rw [extract_chunk_bitmap state lastValue rest hex,
    read_ite_iff (fun text => hexStringToBitmap text state.totalChunks.toNat) own]

theorem read_sha256_iff :
    extractJsonValue (stateText state lastValue rest) (ascii "sha256") = state.sha256 ↔
      (endsIn (ascii "sha256") state.filename →
        decimal state.totalSize.toNat = state.sha256) := by
  rw [extract_sha256 state lastValue rest hex]
  by_cases confused : endsIn (ascii "sha256") state.filename
  · simp [confused]
  · simp [confused]

theorem read_startedAt_iff :
    (stoll 10 (extractJsonValue (stateText state lastValue rest) (ascii "started_at"))).map
      int64ToTimePoint = some (truncateTime state.startedAt) ↔
      (endsIn (ascii "started_at") state.filename →
        SizeIsTime state.totalSize state.startedAt) := by
  rw [extract_started_at state lastValue rest hex,
    read_ite_iff (fun text => (stoll 10 text).map int64ToTimePoint) (read_time _),
    read_size_as_time_iff]

end Fields

theorem read_lastActivity_iff (state : TransferState) (hex : HexText state.sha256) :
    (stoll 10 (extractJsonValue (serializeStateToJson state) (ascii "last_activity"))).map
      int64ToTimePoint = some (truncateTime state.lastActivity) ↔
      (endsIn (ascii "last_activity") state.filename →
        SizeIsTime state.totalSize state.lastActivity) := by
  have ends : EndsNumber (ascii "\n\x7d") := by
    rintro byte ⟨⟩
    rfl
  rw [serializeStateToJson_eq, extract_last_activity state _ _ hex
    (fun _ mem => numeralByte_decimalInt mem) (decimalInt_ne_nil _) ends,
    read_ite_iff (fun text => (stoll 10 text).map int64ToTimePoint) (read_time _),
    read_size_as_time_iff]

theorem reads_of_readable (sized : state.WellSized) (hex : HexText state.sha256)
    (readable : ReadableName state) {lastValue rest : Bytes} {time : Int64}
    (activity : (stoll 10 (extractJsonValue (stateText state lastValue rest)
      (ascii "last_activity"))).map int64ToTimePoint = some time) :
    Reads (stateText state lastValue rest) { state.truncated with lastActivity := time } where
  id := by
    rw [extract_id, TransferId.fromString_toString]
    rfl
  filename := (read_filename_iff state _ _).mpr readable.noBackslash
  totalSize := read_totalSize state _ _ hex
  transferredBytes := (read_transferredBytes_iff state _ _ hex).mpr readable.transferredBytes
  totalChunks := (read_totalChunks_iff state _ _ hex).mpr readable.totalChunks
  chunkBitmap := (read_chunkBitmap_iff state _ _ hex sized).mpr readable.chunkBitmap
  sha256 := (read_sha256_iff state _ _ hex).mpr readable.sha256
  startedAt := (read_startedAt_iff state _ _ hex).mpr readable.startedAt
  lastActivity := activity

theorem deserialize_of_readable (sized : state.WellSized) (hex : HexText state.sha256)
    (readable : ReadableName state) :
    deserializeStateFromJson (serializeStateToJson state) = some (.ok state.truncated) := by
  have activity := (read_lastActivity_iff state hex).mpr readable.lastActivity
  rw [deserializeStateFromJson_eq_ok_iff]
  rw [serializeStateToJson_eq] at activity ⊢
  exact reads_of_readable sized hex readable activity

/-- A written state is read back, with its times truncated to milliseconds, exactly
when its file name allows it. -/
theorem deserialize_serialize_iff (state : TransferState) (sized : state.WellSized)
    (hex : HexText state.sha256) :
    deserializeStateFromJson (serializeStateToJson state) = some (.ok state.truncated) ↔
      ReadableName state := by
  constructor
  · intro success
    have reads := deserializeStateFromJson_eq_ok_iff.mp success
    have activityIff := read_lastActivity_iff state hex
    rw [serializeStateToJson_eq] at reads activityIff
    exact {
      noBackslash := (read_filename_iff state _ _).mp reads.filename
      transferredBytes := (read_transferredBytes_iff state _ _ hex).mp reads.transferredBytes
      totalChunks := (read_totalChunks_iff state _ _ hex).mp reads.totalChunks
      chunkBitmap := (read_chunkBitmap_iff state _ _ hex sized).mp reads.chunkBitmap
      sha256 := (read_sha256_iff state _ _ hex).mp reads.sha256
      startedAt := (read_startedAt_iff state _ _ hex).mp reads.startedAt
      lastActivity := activityIff.mp reads.lastActivity }
  · exact deserialize_of_readable sized hex

/-- A state of eleven chunks for a file with the given name. -/
def sampleState (filename : Bytes) : TransferState where
  id := ⟨List.replicate 16 0xa7, rfl⟩
  filename := filename
  totalSize := 5
  transferredBytes := 2
  totalChunks := 11
  chunkBitmap := [true, false, true, true, false, false, false, true, true, true, false]
  sha256 := ascii "0f5c"
  startedAt := 1700000000123456789
  lastActivity := -5999999

/-- Quotes and control characters in a file name do no harm. -/
theorem deserialize_serialize_quoted_name :
    deserializeStateFromJson (serializeStateToJson (sampleState (ascii "a\"b\\c\n.txt"))) =
      some (.ok (sampleState (ascii "a\"b\\c\n.txt")).truncated) := by
  apply (deserialize_serialize_iff (sampleState (ascii "a\"b\\c\n.txt")) rfl
    (by unfold HexText; decide +kernel)).mpr
  exact {
    noBackslash := by decide
    transferredBytes := fun ends => absurd ends (by decide)
    totalChunks := fun ends => absurd ends (by decide)
    chunkBitmap := fun ends => absurd ends (by decide)
    sha256 := fun ends => absurd ends (by decide)
    startedAt := fun ends => absurd ends (by decide)
    lastActivity := fun ends => absurd ends (by decide) }

/-- A file named after a key, and one whose name ends with a backslash. -/
theorem misread_names :
    ¬ (∀ state : TransferState, state.WellSized → HexText state.sha256 →
      deserializeStateFromJson (serializeStateToJson state) = some (.ok state.truncated)) ∧
    extractJsonValue (serializeStateToJson (sampleState (ascii "sha256"))) (ascii "sha256") =
      ascii "5" ∧
    unescapeJsonString (extractJsonValue (serializeStateToJson (sampleState (ascii "dir\\")))
      (ascii "filename")) = some (ascii "dir\\\",\n  ") := by
  have digest : extractJsonValue (serializeStateToJson (sampleState (ascii "sha256")))
      (ascii "sha256") = ascii "5" := by decide +kernel
  refine ⟨?_, digest, by decide +kernel⟩
  intro every
  have reads := every (sampleState (ascii "sha256")) rfl (by unfold HexText; decide +kernel)
  have hash := (deserializeStateFromJson_eq_ok_iff.mp reads).sha256
  rw [digest] at hash
  exact absurd hash (by decide)

end FileTrans.Resume
