import FileTrans.Core.Types
import FileTrans.Binary.Parser

/-!
# Session tickets

A ticket and its binary form.  Strings are written with a length of 32 bits in
front, times in milliseconds.  What is in a file is a record: the strings that
the lengths admit and the times that were written; a ticket has a record, and a
record read back is a ticket.
-/

namespace FileTrans.Transport

open FileTrans.Core FileTrans.Binary

/-- A point in time of the system clock, in nanoseconds. -/
abbrev TimePoint := Int64

def TimePoint.max : TimePoint :=
  Int64.maxValue

/-- The conversion of milliseconds to a point in time; what it gives is only known where the
product does not overflow. -/
structure MillisConversion where
  toTimePoint : Int64 → TimePoint
  exact : ∀ count : Int64, -2 ^ 63 ≤ count.toInt * 1000000 → count.toInt * 1000000 < 2 ^ 63 →
    (toTimePoint count).toInt = count.toInt * 1000000

/-- The conversion where the product wraps around. -/
def MillisConversion.wrapping : MillisConversion where
  toTimePoint count := count * 1000000
  exact count low high := by
    have factor : (1000000 : Int64).toInt = 1000000 := rfl
    rw [Int64.toInt_mul, factor]
    exact Int.bmod_eq_of_le (by omega) (by omega)

structure SessionTicket where
  serverId : Bytes
  ticketData : Bytes
  issuedAt : TimePoint
  expiresAt : TimePoint
  maxEarlyDataSize : UInt32
  alpnProtocol : Bytes
  serverName : Bytes
  deriving DecidableEq

namespace SessionTicket

def isValid (ticket : SessionTicket) (now : TimePoint) : Bool :=
  now < ticket.expiresAt

def allowsEarlyData (ticket : SessionTicket) (now : TimePoint) : Bool :=
  ticket.maxEarlyDataSize > 0 && ticket.isValid now

/-- `time_until_expiry`, in seconds. -/
def timeUntilExpiry (ticket : SessionTicket) (now : TimePoint) : Int :=
  (ticket.expiresAt.toInt - now.toInt).tdiv 1000000000

end SessionTicket

/-! ## Writing -/

/-- `duration_cast<milliseconds>`. -/
def millis (time : TimePoint) : Int64 :=
  time / 1000000

/-- `serialize_string`; the size is cast to 32 bits, and so many bytes are written. -/
def serializeString (text : Bytes) : Bytes :=
  uint32.encode (UInt32.ofNat text.length) ++ text.take (UInt32.ofNat text.length).toNat

def serializeBytes (data : Bytes) : Bytes :=
  uint32.encode (UInt32.ofNat data.length) ++ data.take (UInt32.ofNat data.length).toNat

def serializeTimepoint (time : TimePoint) : Bytes :=
  int64.encode (millis time)

/-- What `save_internal` writes for a ticket. -/
def serializeTicket (ticket : SessionTicket) : Bytes :=
  serializeString ticket.serverId ++ serializeBytes ticket.ticketData ++
    serializeTimepoint ticket.issuedAt ++ serializeTimepoint ticket.expiresAt ++
    uint32.encode ticket.maxEarlyDataSize ++ serializeString ticket.alpnProtocol ++
    serializeString ticket.serverName

/-! ## Reading -/

section

variable (convert : MillisConversion) (allocates : Nat → Nat → Bool)

def deserializeString : Parser Bytes := do
  let len ← Parser.value uint32
  Parser.allocate allocates len.toNat
  Parser.buffer len.toNat

def deserializeBytes : Parser Bytes := do
  let len ← Parser.value uint32
  Parser.allocate allocates len.toNat
  Parser.buffer len.toNat

def deserializeTimepoint : Parser TimePoint := do
  let count ← Parser.value int64
  return convert.toTimePoint count

/-- What `load_internal` reads for a ticket. -/
def deserializeTicket : Parser SessionTicket := do
  let serverId ← deserializeString allocates
  let ticketData ← deserializeBytes allocates
  let issuedAt ← deserializeTimepoint convert
  let expiresAt ← deserializeTimepoint convert
  let maxEarlyDataSize ← Parser.value uint32
  let alpnProtocol ← deserializeString allocates
  let serverName ← deserializeString allocates
  return ⟨serverId, ticketData, issuedAt, expiresAt, maxEarlyDataSize, alpnProtocol, serverName⟩

end

/-! ## Records -/

/-- A string whose length is no more than 32 bits. -/
abbrev ShortBytes := { text : Bytes // text.length < 2 ^ 32 }

namespace ShortBytes

/-- The length, and the string. -/
def encode (text : ShortBytes) : Bytes :=
  uint32.encode (UInt32.ofNat text.val.length) ++ text.val

/-- What is written of a string. -/
def cut (text : Bytes) : ShortBytes where
  val := text.take (UInt32.ofNat text.length).toNat
  property := (List.length_take_le _ _).trans_lt (UInt32.toNat_lt _)

theorem toNat_length (text : ShortBytes) : (UInt32.ofNat text.val.length).toNat = text.val.length :=
  UInt32.toNat_ofNat_of_lt' text.property

theorem encode_cut (text : Bytes) : (cut text).encode = serializeString text := by
  have fits : (UInt32.ofNat text.length).toNat ≤ text.length := by
    rw [UInt32.toNat_ofNat']
    exact Nat.mod_le _ _
  have length : (cut text).val.length = (UInt32.ofNat text.length).toNat := by
    simp only [cut, List.length_take, Nat.min_eq_left fits]
  have same : UInt32.ofNat (cut text).val.length = UInt32.ofNat text.length := by
    rw [length, UInt32.ofNat_toNat]
  rw [encode, same]
  rfl

theorem cut_eq_self {text : Bytes} (short : text.length < 2 ^ 32) : (cut text).val = text := by
  simp only [cut]
  rw [UInt32.toNat_ofNat_of_lt' short, List.take_length]

end ShortBytes

/-- A ticket as a file has it, with its times in milliseconds. -/
structure TicketRecord where
  serverId : ShortBytes
  ticketData : ShortBytes
  issued : Int64
  expires : Int64
  maxEarlyDataSize : UInt32
  alpnProtocol : ShortBytes
  serverName : ShortBytes

namespace TicketRecord

/-- The bytes of a record. -/
def encode (record : TicketRecord) : Bytes :=
  record.serverId.encode ++ record.ticketData.encode ++ int64.encode record.issued ++
    int64.encode record.expires ++ uint32.encode record.maxEarlyDataSize ++
    record.alpnProtocol.encode ++ record.serverName.encode

/-- The ticket that is read from a record. -/
def toTicket (convert : MillisConversion) (record : TicketRecord) : SessionTicket where
  serverId := record.serverId.val
  ticketData := record.ticketData.val
  issuedAt := convert.toTimePoint record.issued
  expiresAt := convert.toTimePoint record.expires
  maxEarlyDataSize := record.maxEarlyDataSize
  alpnProtocol := record.alpnProtocol.val
  serverName := record.serverName.val

end TicketRecord

/-- The record that is written for a ticket. -/
def SessionTicket.toRecord (ticket : SessionTicket) : TicketRecord where
  serverId := .cut ticket.serverId
  ticketData := .cut ticket.ticketData
  issued := millis ticket.issuedAt
  expires := millis ticket.expiresAt
  maxEarlyDataSize := ticket.maxEarlyDataSize
  alpnProtocol := .cut ticket.alpnProtocol
  serverName := .cut ticket.serverName

theorem serializeTicket_eq (ticket : SessionTicket) :
    serializeTicket ticket = ticket.toRecord.encode := by
  simp only [TicketRecord.encode, SessionTicket.toRecord, ShortBytes.encode_cut]
  rfl

/-! ## Reading records -/

section

variable {convert : MillisConversion} {allocates : Nat → Nat → Bool}

open Parser

theorem reads_string (text : ShortBytes) :
    Reads (deserializeString allocates) text.encode text.val := by
  apply (reads_value uint32 (UInt32.ofNat text.val.length)).bind
  have last : Reads (buffer (UInt32.ofNat text.val.length).toNat) text.val text.val := by
    rw [text.toNat_length]
    exact reads_buffer text.val
  rw [← List.nil_append text.val]
  exact (reads_allocate allocates (UInt32.ofNat text.val.length).toNat).bind last

variable (allocates) in
theorem consumes_string :
    Consumes (deserializeString allocates) fun bytes result =>
      ∃ text : ShortBytes, bytes = text.encode ∧ result = text.val := by
  apply Consumes.imp _ ((consumes_value uint32).bind fun len =>
    (consumes_allocate allocates len.toNat).bind fun _ => consumes_buffer len.toNat)
  rintro _ text ⟨_, len, _, rfl, rfl, _, _, _, rfl, rfl, same, length⟩
  have short : text.length < 2 ^ 32 := length ▸ len.toNat_lt
  refine ⟨⟨text, short⟩, ?_, rfl⟩
  rw [ShortBytes.encode, length, UInt32.ofNat_toNat, same, List.nil_append]

theorem returns_string : Returns (deserializeString fun _ _ => true) :=
  (returns_value uint32).bind fun len => (returns_allocate len.toNat).bind fun _ =>
    returns_buffer len.toNat

theorem reads_timepoint (count : Int64) :
    Reads (deserializeTimepoint convert) (int64.encode count) (convert.toTimePoint count) := by
  rw [← List.append_nil (int64.encode count)]
  exact (reads_value int64 count).bind (reads_pure _)

variable (convert) in
theorem consumes_timepoint :
    Consumes (deserializeTimepoint convert) fun bytes result =>
      ∃ count, bytes = int64.encode count ∧ result = convert.toTimePoint count := by
  apply Consumes.imp _ ((consumes_value int64).bind fun count =>
    consumes_pure (convert.toTimePoint count))
  rintro _ _ ⟨_, count, _, rfl, rfl, rfl, rfl⟩
  exact ⟨count, List.append_nil _, rfl⟩

theorem reads_ticket (record : TicketRecord) :
    Reads (deserializeTicket convert allocates) record.encode (record.toTicket convert) := by
  have split : record.encode = record.serverId.encode ++ (record.ticketData.encode ++
      (int64.encode record.issued ++ (int64.encode record.expires ++
      (uint32.encode record.maxEarlyDataSize ++ (record.alpnProtocol.encode ++
      (record.serverName.encode ++ [])))))) := by
    simp [TicketRecord.encode]
  rw [split, deserializeTicket]
  apply (reads_string record.serverId).bind
  apply (reads_string record.ticketData).bind
  apply (reads_timepoint record.issued).bind
  apply (reads_timepoint record.expires).bind
  apply (reads_value uint32 record.maxEarlyDataSize).bind
  apply (reads_string record.alpnProtocol).bind
  apply (reads_string record.serverName).bind
  exact reads_pure (record.toTicket convert)

theorem consumes_ticket :
    Consumes (deserializeTicket convert allocates) fun bytes ticket =>
      ∃ record : TicketRecord, bytes = record.encode ∧ ticket = record.toTicket convert := by
  rw [deserializeTicket]
  have whole := (consumes_string allocates).bind fun serverId =>
    (consumes_string allocates).bind fun ticketData =>
    (consumes_timepoint convert).bind fun issuedAt =>
    (consumes_timepoint convert).bind fun expiresAt =>
    (consumes_value uint32).bind fun maxEarlyDataSize =>
    (consumes_string allocates).bind fun alpnProtocol =>
    (consumes_string allocates).bind fun serverName =>
    consumes_pure (SessionTicket.mk serverId ticketData issuedAt expiresAt maxEarlyDataSize
      alpnProtocol serverName)
  apply Consumes.imp _ whole
  rintro _ _ ⟨_, _, _, rfl, ⟨serverId, rfl, rfl⟩, _, _, _, rfl, ⟨ticketData, rfl, rfl⟩,
    _, _, _, rfl, ⟨issued, rfl, rfl⟩, _, _, _, rfl, ⟨expires, rfl, rfl⟩,
    _, maxEarlyDataSize, _, rfl, rfl, _, _, _, rfl, ⟨alpnProtocol, rfl, rfl⟩,
    _, _, _, rfl, ⟨serverName, rfl, rfl⟩, rfl, rfl⟩
  refine ⟨⟨serverId, ticketData, issued, expires, maxEarlyDataSize, alpnProtocol, serverName⟩,
    ?_, rfl⟩
  simp [TicketRecord.encode]

variable (convert) in
theorem returns_ticket : Returns (deserializeTicket convert fun _ _ => true) :=
  returns_string.bind fun _ => returns_string.bind fun _ =>
    ((returns_value int64).bind fun _ => returns_pure _).bind fun _ =>
    ((returns_value int64).bind fun _ => returns_pure _).bind fun _ =>
    (returns_value uint32).bind fun _ => returns_string.bind fun _ =>
    returns_string.bind fun _ => returns_pure _

end

/-! ## Times -/

/-- A time truncated to milliseconds. -/
def TimePoint.truncate (time : TimePoint) : TimePoint :=
  time / 1000000 * 1000000

theorem toInt_millis (time : TimePoint) : (millis time).toInt = time.toInt.tdiv 1000000 := by
  have divisor : (1000000 : Int64).toInt = 1000000 := rfl
  rw [millis, Int64.toInt_div_of_ne_right time 1000000 (by decide), divisor]

theorem millis_bounds (time : TimePoint) :
    -2 ^ 63 ≤ (millis time).toInt * 1000000 ∧ (millis time).toInt * 1000000 < 2 ^ 63 := by
  have low := time.le_toInt
  have high := time.toInt_lt
  rw [toInt_millis]
  rcases Int.le_total 0 time.toInt with positive | negative
  · rw [Int.tdiv_eq_ediv_of_nonneg positive]
    omega
  · have opposite := Int.neg_tdiv time.toInt 1000000
    rw [Int.tdiv_eq_ediv_of_nonneg (Int.neg_nonneg_of_nonpos negative)] at opposite
    omega

theorem TimePoint.toInt_truncate (time : TimePoint) :
    (truncate time).toInt = time.toInt.tdiv 1000000 * 1000000 := by
  have bounds := millis_bounds time
  have factor : (1000000 : Int64).toInt = 1000000 := rfl
  change (millis time * 1000000).toInt = _
  rw [Int64.toInt_mul, factor, ← toInt_millis]
  exact Int.bmod_eq_of_le (by omega) (by omega)

theorem toTimePoint_millis (convert : MillisConversion) (time : TimePoint) :
    convert.toTimePoint (millis time) = time.truncate := by
  apply Int64.toInt_inj.mp
  rw [convert.exact _ (millis_bounds time).1 (millis_bounds time).2, TimePoint.toInt_truncate,
    toInt_millis]

end FileTrans.Transport
