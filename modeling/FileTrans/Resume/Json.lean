import FileTrans.Core.TransferId
import FileTrans.Text.Search

/-!
# State files

The hand-written JSON writer and reader of the resume handler.  The reader looks
for a key by searching the whole text for the key in quotes, and takes a string
value to end at the first quote that does not follow a backslash.

An exception that leaves a function is a missing result.

The record that is saved for a transfer has times of the system clock, which
counts nanoseconds since the epoch in an `int64_t`.
-/

namespace FileTrans.Resume

open Core Text

/-! ## Transfer states -/

structure TransferState where
  id : TransferId
  filename : Bytes
  totalSize : UInt64
  transferredBytes : UInt64
  totalChunks : UInt32
  chunkBitmap : List Bool
  sha256 : Bytes
  startedAt : Int64
  lastActivity : Int64
  deriving DecidableEq

/-- Nanoseconds in a millisecond. -/
def nanosPerMilli : Int := 1000000

/-- `time_point_to_int64`: `duration_cast` rounds towards zero. -/
def timePointToInt64 (tp : Int64) : Int :=
  tp.toInt.tdiv nanosPerMilli

def int64ToTimePoint (ms : Int64) : Int64 :=
  Int64.ofInt (ms.toInt * nanosPerMilli)

/-- A time with its fraction of a millisecond cut off. -/
def truncateTime (tp : Int64) : Int64 :=
  Int64.ofInt (timePointToInt64 tp * nanosPerMilli)

namespace TransferState

/-- The state with both times truncated to milliseconds. -/
def truncated (state : TransferState) : TransferState :=
  { state with
    startedAt := truncateTime state.startedAt
    lastActivity := truncateTime state.lastActivity }

def receivedChunkCount (state : TransferState) : Nat :=
  state.chunkBitmap.count true

/-- The bitmap has one entry for each chunk. -/
def WellSized (state : TransferState) : Prop :=
  state.chunkBitmap.length = state.totalChunks.toNat

end TransferState

theorem natAbs_timePointToInt64 (tp : Int64) :
    (timePointToInt64 tp).natAbs = tp.toInt.natAbs / 1000000 := by
  rw [timePointToInt64, nanosPerMilli, Int.natAbs_tdiv]
  rfl

theorem timePointToInt64_bounds (tp : Int64) :
    -(2 ^ 63) ≤ timePointToInt64 tp ∧ timePointToInt64 tp < 2 ^ 63 := by
  have lower := tp.le_toInt
  have upper := tp.toInt_lt
  have magnitude := natAbs_timePointToInt64 tp
  omega

@[simp]
theorem int64ToTimePoint_timePointToInt64 (tp : Int64) :
    int64ToTimePoint (Int64.ofInt (timePointToInt64 tp)) = truncateTime tp := by
  have bounds := timePointToInt64_bounds tp
  rw [int64ToTimePoint, Int64.toInt_ofInt_of_le bounds.1 bounds.2, truncateTime]

theorem toInt_truncateTime (tp : Int64) :
    (truncateTime tp).toInt = timePointToInt64 tp * nanosPerMilli := by
  have lower := tp.le_toInt
  have upper := tp.toInt_lt
  have magnitude := natAbs_timePointToInt64 tp
  have scaled : (timePointToInt64 tp * nanosPerMilli).natAbs ≤ tp.toInt.natAbs := by
    rw [Int.natAbs_mul, magnitude]
    exact Nat.div_mul_le_self _ _
  have sign : (timePointToInt64 tp * nanosPerMilli).natAbs = 2 ^ 63 →
      timePointToInt64 tp * nanosPerMilli = -(2 ^ 63) := by
    intro extreme
    rw [Int.natAbs_mul, magnitude] at extreme
    have divides : 1000000 ∣ 2 ^ 63 := ⟨_, extreme.symm.trans (Nat.mul_comm _ _)⟩
    exact absurd divides (by decide)
  apply Int64.toInt_ofInt_of_le <;> omega

/-! ## Strings -/

def escapeByte (byte : UInt8) : Bytes :=
  if byte = quote then [backslash, quote]
  else if byte = backslash then [backslash, backslash]
  else if byte = 0x08 then [backslash, 0x62]
  else if byte = 0x0c then [backslash, 0x66]
  else if byte = 0x0a then [backslash, 0x6e]
  else if byte = 0x0d then [backslash, 0x72]
  else if byte = 0x09 then [backslash, 0x74]
  else if byte < 0x20 then backslash :: 0x75 :: 0x30 :: 0x30 :: hexByte byte
  else [byte]

def escapeJsonString (text : Bytes) : Bytes :=
  text.flatMap escapeByte

/-- The byte that a backslash and the given letter stand for. -/
def escapedByte (letter : UInt8) : Option UInt8 :=
  if letter = quote then some quote
  else if letter = backslash then some backslash
  else if letter = 0x62 then some 0x08
  else if letter = 0x66 then some 0x0c
  else if letter = 0x6e then some 0x0a
  else if letter = 0x72 then some 0x0d
  else if letter = 0x74 then some 0x09
  else none

/-- The loop body of `unescape_json_string` at a byte and the text after it: what
is appended, and how far the index moves on besides the step of the loop.  The
conversion of the digits of `\u` can throw.  A `\u` too close to the end loses its
backslash; other unknown escapes stay. -/
def unescapeStep (byte : UInt8) (rest : Bytes) : Option (Bytes × Nat) :=
  if byte = backslash then
    match rest with
    | [] => some ([byte], 0)
    | letter :: digits =>
        match escapedByte letter with
        | some escaped => some ([escaped], 1)
        | none =>
            if letter = 0x75 then
              if 4 ≤ digits.length then
                (stoi 16 (digits.take 4)).map fun code => ([UInt8.ofInt code], 5)
              else some ([], 0)
            else some ([byte], 0)
  else some ([byte], 0)

/-- The loop of `unescape_json_string`, after `skip` further bytes. -/
def unescapeFrom : Nat → Bytes → Option Bytes
  | _, [] => some []
  | skip + 1, _ :: rest => unescapeFrom skip rest
  | 0, byte :: rest =>
      match unescapeStep byte rest with
      | none => none
      | some (appended, skip) => (unescapeFrom skip rest).map (appended ++ ·)

def unescapeJsonString (text : Bytes) : Option Bytes :=
  unescapeFrom 0 text

/-! ## Bitmaps -/

/-- The loop body of `bitmap_to_hex_string`, on `byte`, `bit_count` and the text
written so far. -/
def bitmapToHexStep (state : UInt8 × Nat × Bytes) (bit : Bool) : UInt8 × Nat × Bytes :=
  let byte := if bit then state.1 ||| UInt8.ofNat (1 <<< (7 - state.2.1)) else state.1
  if state.2.1 + 1 = 8 then (0, 0, state.2.2 ++ hexByte byte)
  else (byte, state.2.1 + 1, state.2.2)

def bitmapToHexString (bitmap : List Bool) : Bytes :=
  let state := bitmap.foldl bitmapToHexStep (0, 0, [])
  if 0 < state.2.1 then state.2.2 ++ hexByte state.1 else state.2.2

/-- The bits of a byte, most significant first. -/
def byteBits (byte : UInt8) : List Bool :=
  (List.range 8).map fun index => byte &&& UInt8.ofNat (1 <<< (7 - index)) != 0

/-- The bits that the loop of `hex_string_to_bitmap` sets while `remaining` are
missing.  The conversion of a pair can throw; an odd last digit is ignored. -/
def hexBits : Nat → Bytes → Option (List Bool)
  | 0, _ => some []
  | remaining + 1, high :: low :: rest =>
      match stoi 16 [high, low] with
      | some code =>
          (hexBits (remaining + 1 - 8) rest).map
            ((byteBits (UInt8.ofInt code)).take (remaining + 1) ++ ·)
      | none => none
  | _ + 1, [_] => some []
  | _ + 1, [] => some []

def hexStringToBitmap (hex : Bytes) (totalBits : Nat) : Option (List Bool) :=
  (hexBits totalBits hex).map fun bits => bits ++ List.replicate (totalBits - bits.length) false

/-! ## Writing -/

/-- One line of the object: a key in quotes and the text of its value. -/
def jsonLine (key : String) (value : Bytes) : Bytes :=
  ascii "  " ++ quoted (ascii key) ++ ascii ": " ++ value

def serializeStateToJson (state : TransferState) : Bytes :=
  ascii "\x7b\n" ++
    jsonLine "id" (quoted state.id.toString) ++ ascii ",\n" ++
    jsonLine "filename" (quoted (escapeJsonString state.filename)) ++ ascii ",\n" ++
    jsonLine "total_size" (decimal state.totalSize.toNat) ++ ascii ",\n" ++
    jsonLine "transferred_bytes" (decimal state.transferredBytes.toNat) ++ ascii ",\n" ++
    jsonLine "total_chunks" (decimal state.totalChunks.toNat) ++ ascii ",\n" ++
    jsonLine "chunk_bitmap" (quoted (bitmapToHexString state.chunkBitmap)) ++ ascii ",\n" ++
    jsonLine "sha256" (quoted state.sha256) ++ ascii ",\n" ++
    jsonLine "started_at" (decimalInt (timePointToInt64 state.startedAt)) ++ ascii ",\n" ++
    jsonLine "last_activity" (decimalInt (timePointToInt64 state.lastActivity)) ++ ascii "\n" ++
    ascii "\x7d"

/-! ## Reading -/

/-- White space that may follow the colon. -/
def isValueSpace (byte : UInt8) : Bool :=
  byte == 0x20 || byte == 0x0a || byte == 0x09

/-- A string value up to the quote that ends it; `previous` is the byte before. -/
def stringValue (previous : UInt8) : Bytes → Bytes
  | [] => []
  | byte :: rest =>
      if byte = quote ∧ previous ≠ backslash then [] else byte :: stringValue byte rest

/-- Whether a byte ends a numeric value. -/
def endsNumber (byte : UInt8) : Bool :=
  byte == 0x2c || byte == 0x0a || byte == 0x7d

/-- A numeric value, without the blanks at its end. -/
def numericValue (text : Bytes) : Bytes :=
  ((text.takeWhile fun byte => !endsNumber byte).reverse.dropWhile
    fun byte => byte == 0x20 || byte == 0x09).reverse

/-- The value that stands after the colon. -/
def valueAfterColon (text : Bytes) : Bytes :=
  match text.dropWhile isValueSpace with
  | [] => []
  | first :: rest => if first = quote then stringValue quote rest else numericValue (first :: rest)

def extractJsonValue (json key : Bytes) : Bytes :=
  match find (quoted key) json with
  | none => []
  | some fromKey =>
      match find [0x3a] fromKey with
      | none => []
      | some fromColon => valueAfterColon fromColon.tail

/-- The numeric fields of a state. -/
structure NumericFields where
  totalSize : UInt64
  transferredBytes : UInt64
  totalChunks : UInt32
  startedAt : Int64
  lastActivity : Int64
  deriving DecidableEq

/-- The `try` block of `deserialize_state_from_json`. -/
def readNumericFields (json : Bytes) : Option NumericFields := do
  let totalSize ← stoull 10 (extractJsonValue json (ascii "total_size"))
  let transferredBytes ← stoull 10 (extractJsonValue json (ascii "transferred_bytes"))
  let totalChunks ← stoul 10 (extractJsonValue json (ascii "total_chunks"))
  let startedMs ← stoll 10 (extractJsonValue json (ascii "started_at"))
  let activityMs ← stoll 10 (extractJsonValue json (ascii "last_activity"))
  some ⟨totalSize, transferredBytes, totalChunks.toUInt32, int64ToTimePoint startedMs,
    int64ToTimePoint activityMs⟩

/-- `deserialize_state_from_json`.  The file name and the bitmap are converted
outside the `try` block. -/
def deserializeStateFromJson (json : Bytes) : Option (Result TransferState) :=
  let idStr := extractJsonValue json (ascii "id")
  if idStr = [] then some (unexpected .internalError "missing id field")
  else
    match TransferId.fromString idStr with
    | none => some (unexpected .internalError "invalid transfer id")
    | some id =>
        match unescapeJsonString (extractJsonValue json (ascii "filename")) with
        | none => none
        | some filename =>
            match readNumericFields json with
            | none => some (unexpected .internalError "invalid numeric field")
            | some fields =>
                match hexStringToBitmap (extractJsonValue json (ascii "chunk_bitmap"))
                    fields.totalChunks.toNat with
                | none => none
                | some chunkBitmap =>
                    some (.ok {
                      id := id
                      filename := filename
                      totalSize := fields.totalSize
                      transferredBytes := fields.transferredBytes
                      totalChunks := fields.totalChunks
                      chunkBitmap := chunkBitmap
                      sha256 := extractJsonValue json (ascii "sha256")
                      startedAt := fields.startedAt
                      lastActivity := fields.lastActivity })

end FileTrans.Resume
