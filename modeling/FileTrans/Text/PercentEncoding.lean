import FileTrans.Text.Numeral

/-!
# Percent-encoding

Unreserved bytes stand for themselves, any other byte is written as a percent
sign and two upper-case hexadecimal digits; a slash may be kept.  Decoding
replaces every percent sign that two hexadecimal digits follow.  A text is its
own decoding exactly if it has no such escape.

The encoder writes to a stream, which keeps the base, the case of the digits and
the fill from one byte to the next, but the width only for one item.
-/

namespace FileTrans.Text

/-- Letters, digits, hyphen, underscore, full stop and tilde. -/
def isUnreserved (byte : UInt8) : Bool :=
  (digitValue byte).isSome || byte == 0x2d || byte == 0x5f || byte == 0x2e || byte == 0x7e

/-- Upper-case hexadecimal digit with value `digit`, for `digit < 16`. -/
def upperHexChar (digit : Nat) : UInt8 :=
  UInt8.ofNat (if digit < 10 then 0x30 + digit else 0x37 + digit)

/-- The escape of a byte. -/
def percentByte (byte : UInt8) : Bytes :=
  [0x25, upperHexChar (byte.toNat / 16), upperHexChar (byte.toNat % 16)]

/-- A byte that is written as it is. -/
def isKept (encodeSlash : Bool) (byte : UInt8) : Bool :=
  isUnreserved byte || (byte == 0x2f && !encodeSlash)

def urlEncode (encodeSlash : Bool) (text : Bytes) : Bytes :=
  text.flatMap fun byte => if isKept encodeSlash byte then [byte] else percentByte byte

/-- Value of a hexadecimal digit. -/
def hexValue (byte : UInt8) : Option Nat :=
  (digitValue byte).filter (· < 16)

/-- The byte that two hexadecimal digits at the head stand for. -/
def escapedByte : Bytes → Option UInt8
  | high :: low :: _ =>
      match hexValue high, hexValue low with
      | some high, some low => some (UInt8.ofNat (16 * high + low))
      | _, _ => none
  | _ => none

/-- Decode a text after so many bytes that belong to an escape. -/
def percentDecodeAfter : Nat → Bytes → Bytes
  | _, [] => []
  | skip + 1, _ :: rest => percentDecodeAfter skip rest
  | 0, byte :: rest =>
      if byte = 0x25 then
        match escapedByte rest with
        | some value => value :: percentDecodeAfter 2 rest
        | none => byte :: percentDecodeAfter 0 rest
      else byte :: percentDecodeAfter 0 rest

/-- Replace every escape by its byte. -/
def percentDecode (text : Bytes) : Bytes :=
  percentDecodeAfter 0 text

/-- No percent sign is followed by two hexadecimal digits. -/
def escapeFree : Bytes → Bool
  | [] => true
  | byte :: rest => (byte != 0x25 || (escapedByte rest).isNone) && escapeFree rest

variable {encodeSlash : Bool} {byte : UInt8} {text rest : Bytes}

/-! ## Decoding an encoded text -/

theorem digitValue_upperHexChar {digit : Nat} (small : digit < 16) :
    digitValue (upperHexChar digit) = some digit := by
  interval_cases digit <;> rfl

theorem hexValue_upperHexChar {digit : Nat} (small : digit < 16) :
    hexValue (upperHexChar digit) = some digit := by
  simp [hexValue, digitValue_upperHexChar small, small]

theorem escapedByte_percentByte (byte : UInt8) (rest : Bytes) :
    escapedByte (upperHexChar (byte.toNat / 16) :: upperHexChar (byte.toNat % 16) :: rest) =
      some byte := by
  have high : byte.toNat / 16 < 16 := Nat.div_lt_of_lt_mul byte.toNat_lt
  have low : byte.toNat % 16 < 16 := Nat.mod_lt _ (by decide)
  rw [escapedByte, hexValue_upperHexChar high, hexValue_upperHexChar low]
  simp only [Nat.div_add_mod, UInt8.ofNat_toNat]

theorem ne_percent_of_isKept (kept : isKept encodeSlash byte = true) : byte ≠ 0x25 := by
  rintro rfl
  cases encodeSlash <;> contradiction

@[simp]
theorem percentDecode_urlEncode (encodeSlash : Bool) (text : Bytes) :
    percentDecode (urlEncode encodeSlash text) = text := by
  induction text with
  | nil => rfl
  | cons byte text ih =>
      rw [percentDecode] at ih ⊢
      rw [urlEncode, List.flatMap_cons, ← urlEncode]
      split
      · rename_i kept
        rw [List.singleton_append, percentDecodeAfter, if_neg (ne_percent_of_isKept kept), ih]
      · rw [percentByte]
        simp only [List.cons_append, List.nil_append]
        rw [percentDecodeAfter, if_pos rfl, escapedByte_percentByte]
        simp only [percentDecodeAfter]
        rw [ih]

theorem urlEncode_injective (encodeSlash : Bool) : Function.Injective (urlEncode encodeSlash) :=
  Function.LeftInverse.injective (percentDecode_urlEncode encodeSlash)

theorem mem_urlEncode (mem : byte ∈ urlEncode encodeSlash text) :
    isUnreserved byte = true ∨ byte = 0x25 ∨ byte = 0x2f ∧ encodeSlash = false := by
  rcases List.mem_flatMap.mp mem with ⟨source, -, mem⟩
  split at mem
  · rename_i kept
    rw [List.mem_singleton.mp mem]
    simp only [isKept, Bool.or_eq_true, Bool.and_eq_true, beq_iff_eq, Bool.not_eq_true'] at kept
    rcases kept with unreserved | slash
    · exact .inl unreserved
    · exact .inr (.inr slash)
  · have high : source.toNat / 16 < 16 := Nat.div_lt_of_lt_mul source.toNat_lt
    have low : source.toNat % 16 < 16 := Nat.mod_lt _ (by decide)
    rw [percentByte] at mem
    simp only [List.mem_cons, List.not_mem_nil, or_false] at mem
    rcases mem with rfl | rfl | rfl
    · exact .inr (.inl rfl)
    · left
      rw [isUnreserved, digitValue_upperHexChar high]
      rfl
    · left
      rw [isUnreserved, digitValue_upperHexChar low]
      rfl

theorem notMem_urlEncode (reserved : isKept false byte = false) (percent : byte ≠ 0x25) :
    byte ∉ urlEncode encodeSlash text := by
  intro mem
  simp only [isKept, Bool.not_false, Bool.and_true, Bool.or_eq_false_iff] at reserved
  rcases mem_urlEncode mem with unreserved | same | ⟨slash, -⟩
  · exact Bool.noConfusion (reserved.1.symm.trans unreserved)
  · exact percent same
  · simp [slash] at reserved

theorem urlEncode_of_unreserved (unreserved : ∀ byte ∈ text, isUnreserved byte = true) :
    urlEncode encodeSlash text = text := by
  induction text with
  | nil => rfl
  | cons byte text ih =>
      have kept : isKept encodeSlash byte = true := by
        rw [isKept, unreserved byte List.mem_cons_self, Bool.true_or]
      rw [urlEncode, List.flatMap_cons, ← urlEncode, if_pos kept,
        ih fun other mem => unreserved other (List.mem_cons_of_mem _ mem)]
      rfl

theorem length_le_length_urlEncode (encodeSlash : Bool) (text : Bytes) :
    text.length ≤ (urlEncode encodeSlash text).length := by
  induction text with
  | nil => exact Nat.le_refl _
  | cons byte text ih =>
      rw [urlEncode, List.flatMap_cons, ← urlEncode, List.length_append, List.length_cons]
      split
      · simp only [List.length_cons, List.length_nil]
        omega
      · simp only [percentByte, List.length_cons, List.length_nil]
        omega

theorem urlEncode_eq_self_iff :
    urlEncode encodeSlash text = text ↔ ∀ byte ∈ text, isKept encodeSlash byte = true := by
  induction text with
  | nil => simp [urlEncode]
  | cons byte text ih =>
      rw [urlEncode, List.flatMap_cons, ← urlEncode, List.forall_mem_cons]
      split
      · rename_i kept
        rw [List.singleton_append, List.cons.injEq, and_iff_right rfl, ih, and_iff_right kept]
      · rename_i encoded
        apply iff_of_false
        · intro same
          have longer := length_le_length_urlEncode encodeSlash text
          have lengths := congrArg List.length same
          simp only [percentByte, List.length_append, List.length_cons, List.length_nil] at lengths
          omega
        · exact fun both => encoded both.1

theorem urlEncode_decimal (encodeSlash : Bool) (number : Nat) :
    urlEncode encodeSlash (decimal number) = decimal number := by
  apply urlEncode_of_unreserved
  intro byte mem
  have digit := isDigit_of_mem_decimal mem
  cases value : digitValue byte with
  | none => simp [isDigit, value] at digit
  | some value' => simp [isUnreserved, value]

theorem urlEncode_append (encodeSlash : Bool) (first second : Bytes) :
    urlEncode encodeSlash (first ++ second) =
      urlEncode encodeSlash first ++ urlEncode encodeSlash second :=
  List.flatMap_append

/-! ## Texts without escapes -/

theorem length_of_escapedByte {value : UInt8} (escaped : escapedByte rest = some value) :
    2 ≤ rest.length := by
  rcases rest with _ | ⟨high, _ | ⟨low, rest⟩⟩
  · contradiction
  · contradiction
  · exact Nat.le_add_left 2 rest.length

theorem length_percentDecodeAfter_le (skip : Nat) (text : Bytes) :
    (percentDecodeAfter skip text).length ≤ text.length - skip := by
  induction text generalizing skip with
  | nil => simp [percentDecodeAfter]
  | cons byte rest ih =>
      cases skip with
      | succ skip =>
          rw [percentDecodeAfter, List.length_cons, Nat.add_sub_add_right]
          exact ih skip
      | zero =>
          have kept : (byte :: percentDecodeAfter 0 rest).length ≤ (byte :: rest).length - 0 :=
            Nat.succ_le_succ (ih 0)
          rw [percentDecodeAfter]
          split
          · split
            · rename_i value escaped
              have long := length_of_escapedByte escaped
              have shorter := ih 2
              simp only [List.length_cons]
              omega
            · exact kept
          · exact kept

theorem percentDecode_eq_self_iff : percentDecode text = text ↔ escapeFree text = true := by
  induction text with
  | nil => exact iff_of_true rfl rfl
  | cons byte rest ih =>
      have same : byte :: percentDecodeAfter 0 rest = byte :: rest ↔ escapeFree rest = true := by
        rw [List.cons.injEq, and_iff_right rfl]
        exact ih
      rw [percentDecode, percentDecodeAfter, escapeFree]
      split
      · rename_i percent
        subst percent
        split
        · rename_i value escaped
          -- an escape makes the text shorter
          apply iff_of_false
          · intro decoded
            have lengths := congrArg List.length decoded
            have long := length_of_escapedByte escaped
            have shorter := length_percentDecodeAfter_le 2 rest
            simp only [List.length_cons] at lengths
            omega
          · simp [escaped]
        · rename_i plain
          simpa [plain] using same
      · rename_i other
        simpa [other] using same

/-! ## Encoding to a stream -/

/-- `std::ostringstream`, with the state that formats the next item. -/
structure OutputStream where
  text : Bytes
  fill : UInt8
  width : Nat
  hexadecimal : Bool
  uppercase : Bool

namespace OutputStream

/-- A stream as it is constructed. -/
def new : OutputStream :=
  ⟨[], 0x20, 0, false, false⟩

/-- Write an item in its width, with the fill in front of it; the width is then zero again. -/
def put (item : Bytes) (stream : OutputStream) : OutputStream :=
  { stream with
    text := stream.text ++ List.replicate (stream.width - item.length) stream.fill ++ item
    width := 0 }

/-- Write an `int` that is not negative. -/
def putInt (number : Nat) (stream : OutputStream) : OutputStream :=
  let digits := Nat.digits (if stream.hexadecimal then 16 else 10) number
  stream.put ((if digits = [] then [0] else digits.reverse).map fun digit =>
    if stream.uppercase then upperHexChar digit else hexChar digit)

/-- The body of the loop of `url_encode`. -/
def urlEncodeStep (encodeSlash : Bool) (escaped : OutputStream) (byte : UInt8) : OutputStream :=
  if isUnreserved byte then escaped.put [byte]
  else if byte = 0x2f ∧ encodeSlash = false then escaped.put [byte]
  else { escaped.put [0x25] with width := 2, uppercase := true }.putInt byte.toNat

/-- What `url_encode` returns. -/
def urlEncodeLoop (encodeSlash : Bool) (value : Bytes) : Bytes :=
  (value.foldl (urlEncodeStep encodeSlash) { new with fill := 0x30, hexadecimal := true }).text

/-- The state of the stream between two bytes. -/
structure Ready (stream : OutputStream) : Prop where
  fill : stream.fill = 0x30
  width : stream.width = 0
  hexadecimal : stream.hexadecimal = true

theorem put_text {stream : OutputStream} (narrow : stream.width = 0) (item : Bytes) :
    (stream.put item).text = stream.text ++ item := by
  simp [put, narrow]

theorem byteDigits (byte : UInt8) :
    List.replicate (2 - (if Nat.digits 16 byte.toNat = [] then [0]
        else (Nat.digits 16 byte.toNat).reverse).length) (0x30 : UInt8) ++
      (if Nat.digits 16 byte.toNat = [] then [0]
        else (Nat.digits 16 byte.toNat).reverse).map upperHexChar =
      [upperHexChar (byte.toNat / 16), upperHexChar (byte.toNat % 16)] := by
  have small := byte.toNat_lt
  generalize byte.toNat = number at small
  rcases Nat.eq_zero_or_pos number with rfl | positive
  · rfl
  · rw [Nat.digits_def' (by decide) positive]
    rcases Nat.eq_zero_or_pos (number / 16) with none | more
    · rw [none]
      rfl
    · have last : number / 16 / 16 = 0 := by omega
      have high : number / 16 % 16 = number / 16 := by omega
      rw [Nat.digits_def' (by decide) more, last, high]
      rfl

theorem urlEncodeStep_spec (encodeSlash : Bool) {stream : OutputStream} (ready : stream.Ready)
    (byte : UInt8) :
    (urlEncodeStep encodeSlash stream byte).Ready ∧
      (urlEncodeStep encodeSlash stream byte).text =
        stream.text ++ urlEncode encodeSlash [byte] := by
  have plain : (stream.put [byte]).Ready := ⟨ready.fill, rfl, ready.hexadecimal⟩
  unfold urlEncodeStep
  split_ifs with unreserved slash
  · have kept : isKept encodeSlash byte = true := by
      rw [isKept, unreserved, Bool.true_or]
    refine ⟨plain, ?_⟩
    rw [put_text ready.width]
    simp [urlEncode, kept]
  · have kept : isKept encodeSlash byte = true := by
      simp [isKept, slash]
    refine ⟨plain, ?_⟩
    rw [put_text ready.width]
    simp [urlEncode, kept]
  · have escaped : isKept encodeSlash byte = false := by
      simp only [isKept, Bool.or_eq_false_iff, Bool.and_eq_false_iff, beq_eq_false_iff_ne]
      simp only [Bool.not_eq_true] at unreserved
      refine ⟨unreserved, ?_⟩
      by_cases same : byte = 0x2f
      · right
        simpa [same] using slash
      · exact .inl same
    refine ⟨⟨ready.fill, rfl, ready.hexadecimal⟩, ?_⟩
    have digits := byteDigits byte
    simp only [putInt, put, ready.fill, ready.hexadecimal, ready.width, if_true, List.length_map,
      List.append_assoc, digits]
    simp [urlEncode, escaped, percentByte]

theorem urlEncodeLoop_eq (encodeSlash : Bool) (value : Bytes) :
    urlEncodeLoop encodeSlash value = urlEncode encodeSlash value := by
  have run (value : Bytes) (stream : OutputStream) (ready : stream.Ready) :
      (value.foldl (urlEncodeStep encodeSlash) stream).text =
        stream.text ++ urlEncode encodeSlash value := by
    induction value generalizing stream with
    | nil => exact (List.append_nil _).symm
    | cons byte value ih =>
        have one := urlEncodeStep_spec encodeSlash ready byte
        have split : urlEncode encodeSlash (byte :: value) =
            urlEncode encodeSlash [byte] ++ urlEncode encodeSlash value :=
          urlEncode_append encodeSlash [byte] value
        rw [List.foldl_cons, ih _ one.1, one.2, split, List.append_assoc]
  exact run value _ ⟨rfl, rfl, rfl⟩

end OutputStream

/-- Unreserved bytes, percent signs with two upper-case hexadecimal digits and, where slashes are
kept, slashes. -/
inductive IsUrlText (encodeSlash : Bool) : Bytes → Prop
  | nil : IsUrlText encodeSlash []
  | unreserved {byte : UInt8} {rest : Bytes} (plain : isUnreserved byte = true)
      (after : IsUrlText encodeSlash rest) : IsUrlText encodeSlash (byte :: rest)
  | slash {rest : Bytes} (kept : encodeSlash = false) (after : IsUrlText encodeSlash rest) :
      IsUrlText encodeSlash (0x2f :: rest)
  | escape {high low : Nat} {rest : Bytes} (highSmall : high < 16) (lowSmall : low < 16)
      (after : IsUrlText encodeSlash rest) :
      IsUrlText encodeSlash (0x25 :: upperHexChar high :: upperHexChar low :: rest)

theorem isUrlText_urlEncode (encodeSlash : Bool) (text : Bytes) :
    IsUrlText encodeSlash (urlEncode encodeSlash text) := by
  induction text with
  | nil => exact .nil
  | cons byte text ih =>
      rw [urlEncode, List.flatMap_cons, ← urlEncode]
      split
      · rename_i kept
        simp only [isKept, Bool.or_eq_true, Bool.and_eq_true, beq_iff_eq,
          Bool.not_eq_true'] at kept
        rcases kept with unreserved | ⟨rfl, slash⟩
        · exact .unreserved unreserved ih
        · exact .slash slash ih
      · have high : byte.toNat / 16 < 16 := Nat.div_lt_of_lt_mul byte.toNat_lt
        exact .escape high (Nat.mod_lt _ (by decide)) ih

/-- What is written to the stream can stand in a URL and is decoded to the text, for every byte. -/
theorem urlEncodeLoop_spec (encodeSlash : Bool) :
    (∀ value, IsUrlText encodeSlash (OutputStream.urlEncodeLoop encodeSlash value)) ∧
    (∀ value, percentDecode (OutputStream.urlEncodeLoop encodeSlash value) = value) ∧
    Function.Injective (OutputStream.urlEncodeLoop encodeSlash) := by
  have same : OutputStream.urlEncodeLoop encodeSlash = urlEncode encodeSlash :=
    funext (OutputStream.urlEncodeLoop_eq encodeSlash)
  rw [same]
  exact ⟨isUrlText_urlEncode encodeSlash, percentDecode_urlEncode encodeSlash,
    urlEncode_injective encodeSlash⟩

end FileTrans.Text
