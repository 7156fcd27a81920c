import FileTrans.Text.Bytes

/-!
# Parsers of byte streams

A number of fixed width is stored with its lowest byte first.  A read from a
stream fills a buffer of zeros; where the stream ends before the buffer is
full, the rest of the buffer stays zero and the stream is no longer good.  A
stream that is not good fills no buffer.

A parser takes a stream to a value and what is left of the stream, or throws.
`Reads` says what it makes of given bytes, `Consumes` which bytes it took when
the stream is still good afterwards, and `Returns` that it does not throw.
Each of the three composes along `bind`.
-/

namespace FileTrans.Binary

universe u

/-! ## Numbers -/

/-- The number with the given bytes, the lowest first. -/
def ofLittleEndian : Bytes → Nat
  | [] => 0
  | byte :: rest => byte.toNat + 256 * ofLittleEndian rest

/-- The lowest bytes of a number, the lowest first. -/
def littleEndian : Nat → Nat → Bytes
  | 0, _ => []
  | width + 1, number => UInt8.ofNat number :: littleEndian width (number / 256)

@[simp]
theorem length_littleEndian (width number : Nat) : (littleEndian width number).length = width := by
  induction width generalizing number with
  | zero => rfl
  | succ width ih => simp [littleEndian, ih]

theorem ofLittleEndian_littleEndian (width number : Nat) :
    ofLittleEndian (littleEndian width number) = number % 256 ^ width := by
  induction width generalizing number with
  | zero => simp [littleEndian, ofLittleEndian, Nat.mod_one]
  | succ width ih =>
      have low : (UInt8.ofNat number).toNat = number % 256 := UInt8.toNat_ofNat'
      rw [littleEndian, ofLittleEndian, ih, low, pow_succ', Nat.mod_mul]

theorem ofLittleEndian_lt (bytes : Bytes) : ofLittleEndian bytes < 256 ^ bytes.length := by
  induction bytes with
  | nil => simp [ofLittleEndian]
  | cons byte rest ih =>
      have small := byte.toNat_lt
      rw [ofLittleEndian, List.length_cons, pow_succ]
      omega

theorem littleEndian_ofLittleEndian (bytes : Bytes) :
    littleEndian bytes.length (ofLittleEndian bytes) = bytes := by
  induction bytes with
  | nil => rfl
  | cons byte rest ih =>
      have small : byte.toNat < 256 := byte.toNat_lt
      have high : (byte.toNat + 256 * ofLittleEndian rest) / 256 = ofLittleEndian rest := by omega
      have low : UInt8.ofNat (byte.toNat + 256 * ofLittleEndian rest) = byte := by
        apply UInt8.toNat_inj.mp
        rw [UInt8.toNat_ofNat']
        omega
      rw [List.length_cons, ofLittleEndian, littleEndian, high, low, ih]

/-- A type whose values are stored in a fixed number of bytes, all of which it uses. -/
structure Representation (α : Type u) where
  width : Nat
  encode : α → Bytes
  decode : Bytes → α
  length_encode : ∀ value, (encode value).length = width
  decode_encode : ∀ value, decode (encode value) = value
  encode_decode : ∀ bytes, bytes.length = width → encode (decode bytes) = bytes

/-- `uint32_t`. -/
def uint32 : Representation UInt32 where
  width := 4
  encode value := littleEndian 4 value.toNat
  decode bytes := UInt32.ofNat (ofLittleEndian bytes)
  length_encode value := length_littleEndian 4 value.toNat
  decode_encode value := by
    apply UInt32.toNat_inj.mp
    rw [ofLittleEndian_littleEndian, UInt32.toNat_ofNat']
    exact (Nat.mod_mod _ _).trans (Nat.mod_eq_of_lt value.toNat_lt)
  encode_decode bytes length := by
    have small : ofLittleEndian bytes < 2 ^ 32 := by
      simpa [length] using ofLittleEndian_lt bytes
    rw [UInt32.toNat_ofNat', Nat.mod_eq_of_lt small, ← length, littleEndian_ofLittleEndian]

/-- `int64_t`. -/
def int64 : Representation Int64 where
  width := 8
  encode value := littleEndian 8 value.toUInt64.toNat
  decode bytes := (UInt64.ofNat (ofLittleEndian bytes)).toInt64
  length_encode value := length_littleEndian 8 value.toUInt64.toNat
  decode_encode value := by
    have same : UInt64.ofNat (ofLittleEndian (littleEndian 8 value.toUInt64.toNat)) =
        value.toUInt64 := by
      apply UInt64.toNat_inj.mp
      rw [ofLittleEndian_littleEndian, UInt64.toNat_ofNat']
      exact (Nat.mod_mod _ _).trans (Nat.mod_eq_of_lt value.toUInt64.toNat_lt)
    rw [same, Int64.toInt64_toUInt64]
  encode_decode bytes length := by
    have small : ofLittleEndian bytes < 2 ^ 64 := by
      simpa [length] using ofLittleEndian_lt bytes
    rw [UInt64.toUInt64_toInt64, UInt64.toNat_ofNat', Nat.mod_eq_of_lt small, ← length,
      littleEndian_ofLittleEndian]

/-! ## Reads -/

/-- What is left to read, and whether no read has failed. -/
structure InputStream where
  rest : Bytes
  good : Bool
  deriving DecidableEq

/-- Read into a buffer of zeros. -/
def InputStream.read (stream : InputStream) (count : Nat) : Bytes × InputStream :=
  if stream.good then
    (stream.rest.take count ++ List.replicate (count - stream.rest.length) 0,
      ⟨stream.rest.drop count, count ≤ stream.rest.length⟩)
  else (List.replicate count 0, stream)

namespace InputStream

theorem length_read (stream : InputStream) (count : Nat) :
    (stream.read count).1.length = count := by
  simp only [read]
  split
  · simp
    omega
  · simp

theorem read_append (bytes rest : Bytes) :
    read ⟨bytes ++ rest, true⟩ bytes.length = (bytes, ⟨rest, true⟩) := by
  simp [read]

theorem read_of_good {stream : InputStream} {count : Nat}
    (good : (stream.read count).2.good = true) :
    stream.good = true ∧ stream.rest = (stream.read count).1 ++ (stream.read count).2.rest := by
  rcases stream with ⟨rest, begins⟩
  cases begins with
  | false => simp [read] at good
  | true =>
      have whole : count ≤ rest.length := by simpa [read] using good
      simp [read, Nat.sub_eq_zero_of_le whole]

end InputStream

/-! ## Parsers -/

/-- A parser; `none` is an exception. -/
abbrev Parser (α : Type) := StateT InputStream Option α

namespace Parser

variable {α β : Type}

/-- From these bytes at the front of a good stream the parser makes this value, unless it
throws. -/
def Reads (parser : Parser α) (bytes : Bytes) (value : α) : Prop :=
  ∀ rest result, parser ⟨bytes ++ rest, true⟩ = some result → result = (value, ⟨rest, true⟩)

/-- If the stream is still good, it was before, and the parser took bytes in this format. -/
def Consumes (parser : Parser α) (format : Bytes → α → Prop) : Prop :=
  ∀ stream value next, parser stream = some (value, next) → next.good = true →
    stream.good = true ∧ ∃ bytes, stream.rest = bytes ++ next.rest ∧ format bytes value

/-- The parser does not throw. -/
def Returns (parser : Parser α) : Prop :=
  ∀ stream, (parser stream).isSome = true

variable {parser : Parser α} {next : α → Parser β}

theorem bind_eq_some_iff {stream : InputStream} {result : β × InputStream} :
    (parser >>= next) stream = some result ↔
      ∃ value left, parser stream = some (value, left) ∧ next value left = some result := by
  change (parser stream).bind (fun pair => next pair.1 pair.2) = some result ↔ _
  simp [Option.bind_eq_some_iff]

/-! ## Sequences -/

theorem reads_pure (value : α) : Reads (pure value) [] value := by
  intro rest result returned
  exact (Option.some.inj returned).symm

theorem Reads.bind {first second : Bytes} {value : α} {result : β}
    (reads : Reads parser first value) (continues : Reads (next value) second result) :
    Reads (parser >>= next) (first ++ second) result := by
  intro rest pair returned
  rw [List.append_assoc] at returned
  rcases bind_eq_some_iff.mp returned with ⟨found, left, begins, ends⟩
  cases reads _ _ begins
  exact continues _ _ ends

theorem consumes_pure (value : α) :
    Consumes (pure value) fun bytes result => bytes = [] ∧ result = value := by
  intro stream result next returned good
  cases Option.some.inj returned
  exact ⟨good, [], rfl, rfl, rfl⟩

theorem Consumes.bind {first : Bytes → α → Prop} {second : α → Bytes → β → Prop}
    (consumes : Consumes parser first) (continues : ∀ value, Consumes (next value) (second value)) :
    Consumes (parser >>= next) fun bytes result =>
      ∃ front value back, bytes = front ++ back ∧ first front value ∧ second value back result := by
  intro stream result last returned good
  rcases bind_eq_some_iff.mp returned with ⟨value, middle, begins, ends⟩
  rcases continues value middle result last ends good with ⟨between, back, split, ended⟩
  rcases consumes stream value middle begins between with ⟨fresh, front, rest, began⟩
  refine ⟨fresh, front ++ back, ?_, front, value, back, rfl, began, ended⟩
  rw [rest, split, List.append_assoc]

theorem Consumes.imp {format weaker : Bytes → α → Prop}
    (implies : ∀ bytes value, format bytes value → weaker bytes value)
    (consumes : Consumes parser format) : Consumes parser weaker := by
  intro stream value next returned good
  rcases consumes stream value next returned good with ⟨fresh, bytes, rest, formatted⟩
  exact ⟨fresh, bytes, rest, implies bytes value formatted⟩

theorem returns_pure (value : α) : Returns (pure value : Parser α) :=
  fun _ => rfl

theorem Returns.bind (returns : Returns parser) (continues : ∀ value, Returns (next value)) :
    Returns (parser >>= next) := by
  intro stream
  rcases Option.isSome_iff_exists.mp (returns stream) with ⟨⟨value, left⟩, begins⟩
  rcases Option.isSome_iff_exists.mp (continues value left) with ⟨result, ends⟩
  apply Option.isSome_iff_exists.mpr
  exact ⟨result, bind_eq_some_iff.mpr ⟨value, left, begins, ends⟩⟩

/-! ## Buffers and values -/

/-- Read into a buffer of zeros. -/
def buffer (count : Nat) : Parser Bytes :=
  fun stream => some (stream.read count)

/-- Read a value of fixed width. -/
def value (representation : Representation α) : Parser α := do
  let bytes ← buffer representation.width
  return representation.decode bytes

/-- Go on if the memory for a buffer can be had, depending on what is left of the stream. -/
def allocate (allocates : Nat → Nat → Bool) (count : Nat) : Parser Unit :=
  fun stream => if allocates stream.rest.length count then some ((), stream) else none

theorem reads_buffer (bytes : Bytes) : Reads (buffer bytes.length) bytes bytes := by
  intro rest result returned
  rw [buffer, InputStream.read_append, Option.some.injEq] at returned
  exact returned.symm

theorem consumes_buffer (count : Nat) :
    Consumes (buffer count) fun bytes result => bytes = result ∧ result.length = count := by
  intro stream result next returned good
  have read : stream.read count = (result, next) := Option.some.inj returned
  have fresh := @InputStream.read_of_good stream count (by rw [read]; exact good)
  have length := InputStream.length_read stream count
  rw [read] at fresh length
  exact ⟨fresh.1, result, fresh.2, rfl, length⟩

theorem returns_buffer (count : Nat) : Returns (buffer count) :=
  fun _ => rfl

variable (representation : Representation α)

theorem reads_value (stored : α) :
    Reads (value representation) (representation.encode stored) stored := by
  have reads := reads_buffer (representation.encode stored)
  rw [representation.length_encode] at reads
  have both := @Reads.bind _ _ _ (fun bytes => pure (representation.decode bytes)) _ _ _ _ reads
    (reads_pure (representation.decode (representation.encode stored)))
  rwa [List.append_nil, representation.decode_encode] at both

theorem consumes_value :
    Consumes (value representation) fun bytes result => bytes = representation.encode result := by
  apply Consumes.imp _ ((consumes_buffer representation.width).bind
    fun bytes => consumes_pure (representation.decode bytes))
  rintro _ _ ⟨front, read, _, rfl, ⟨rfl, length⟩, rfl, rfl⟩
  rw [List.append_nil, representation.encode_decode front length]

theorem returns_value : Returns (value representation) :=
  (returns_buffer _).bind fun _ => returns_pure _

theorem reads_allocate (allocates : Nat → Nat → Bool) (count : Nat) :
    Reads (allocate allocates count) [] () := by
  intro rest result returned
  rw [allocate, Option.ite_none_right_eq_some] at returned
  exact (Option.some.inj returned.2).symm

theorem consumes_allocate (allocates : Nat → Nat → Bool) (count : Nat) :
    Consumes (allocate allocates count) fun bytes _ => bytes = [] := by
  intro stream result next returned good
  rw [allocate, Option.ite_none_right_eq_some] at returned
  cases Option.some.inj returned.2
  exact ⟨good, [], rfl, rfl⟩

theorem returns_allocate (count : Nat) : Returns (allocate (fun _ _ => true) count) :=
  fun _ => rfl

end Parser

end FileTrans.Binary
