import FileTrans.Resume.Json

/-!
# Reading back single values

Unescaping inverts escaping, and the bits of a bitmap are read back from their
hexadecimal form.
-/

namespace FileTrans.Resume

open Core Text

/-! ## Escaped strings -/

@[simp]
theorem escapeByte_quote : escapeByte quote = [backslash, quote] :=
  rfl

theorem escapeByte_cases (byte : UInt8) :
    (∃ letter, escapedByte letter = some byte ∧ escapeByte byte = [backslash, letter]) ∨
      (byte ≠ quote ∧ byte ≠ backslash ∧
        escapeByte byte = backslash :: 0x75 :: 0x30 :: 0x30 :: hexByte byte) ∨
      (byte ≠ quote ∧ byte ≠ backslash ∧ escapeByte byte = [byte]) := by
  by_cases short : byte ∈ [quote, backslash, 0x08, 0x0c, 0x0a, 0x0d, 0x09]
  · left
    simp only [List.mem_cons, List.not_mem_nil, or_false] at short
    rcases short with rfl | rfl | rfl | rfl | rfl | rfl | rfl <;> exact ⟨_, rfl, rfl⟩
  · right
    simp only [List.mem_cons, List.not_mem_nil, or_false, not_or] at short
    obtain ⟨notQuote, notBackslash, notB, notF, notN, notR, notT⟩ := short
    rw [escapeByte, if_neg notQuote, if_neg notBackslash, if_neg notB, if_neg notF,
      if_neg notN, if_neg notR, if_neg notT]
    split
    · exact Or.inl ⟨notQuote, notBackslash, rfl⟩
    · exact Or.inr ⟨notQuote, notBackslash, rfl⟩

variable {byte : UInt8} {bits : List Bool}

theorem escapeByte_of_plain (notQuote : byte ≠ quote) (notBackslash : byte ≠ backslash)
    (printable : ¬ byte < 0x20) : escapeByte byte = [byte] := by
  have above {control : UInt8} (small : control < 0x20) : byte ≠ control := by
    rintro rfl
    exact printable small
  rw [escapeByte, if_neg notQuote, if_neg notBackslash, if_neg (above (by decide)),
    if_neg (above (by decide)), if_neg (above (by decide)), if_neg (above (by decide)),
    if_neg (above (by decide)), if_neg printable]

theorem unescapeFrom_eq_drop (skip : Nat) (text : Bytes) :
    unescapeFrom skip text = unescapeJsonString (text.drop skip) := by
  induction skip generalizing text with
  | zero => rfl
  | succ skip ih =>
      cases text with
      | nil => rfl
      | cons byte rest => rw [unescapeFrom, ih, List.drop_succ_cons]

theorem unescapeJsonString_cons {rest appended : Bytes} {skip : Nat}
    (step : unescapeStep byte rest = some (appended, skip)) :
    unescapeJsonString (byte :: rest) =
      (unescapeJsonString (rest.drop skip)).map (appended ++ ·) := by
  rw [unescapeJsonString, unescapeFrom, step]
  simp only [unescapeFrom_eq_drop]

theorem unescapeJsonString_cons_of_ne (plain : byte ≠ backslash) (rest : Bytes) :
    unescapeJsonString (byte :: rest) = (unescapeJsonString rest).map (byte :: ·) := by
  have step : unescapeStep byte rest = some ([byte], 0) := if_neg plain
  exact unescapeJsonString_cons step

theorem unescapeJsonString_escaped {letter : UInt8} (known : escapedByte letter = some byte)
    (rest : Bytes) :
    unescapeJsonString (backslash :: letter :: rest) =
      (unescapeJsonString rest).map (byte :: ·) := by
  have step : unescapeStep backslash (letter :: rest) = some ([byte], 1) := by
    simp only [unescapeStep, if_true, known]
  exact unescapeJsonString_cons step

theorem unescapeJsonString_control (byte : UInt8) (rest : Bytes) :
    unescapeJsonString (backslash :: 0x75 :: 0x30 :: 0x30 :: (hexByte byte ++ rest)) =
      (unescapeJsonString rest).map (byte :: ·) := by
  have reads : stoi 16 (0x30 :: 0x30 :: hexByte byte) = some (byte.toNat : Int) :=
    stoi_zeros_hexByte 2 (by decide) byte
  have step : unescapeStep backslash (0x75 :: 0x30 :: 0x30 :: (hexByte byte ++ rest)) =
      some ([byte], 5) := by
    have unknown : escapedByte 0x75 = none := rfl
    have digits : (0x30 :: 0x30 :: (hexByte byte ++ rest)).take 4 =
        0x30 :: 0x30 :: hexByte byte := rfl
    have enough : 4 ≤ (0x30 :: 0x30 :: (hexByte byte ++ rest)).length := by
      simp [hexByte]
    simp only [unescapeStep, if_true, unknown, if_pos enough, digits, reads, Option.map_some,
      ofInt_toNat]
  rw [unescapeJsonString_cons step]
  rfl

theorem unescapeJsonString_escapeByte (byte : UInt8) (rest : Bytes) :
    unescapeJsonString (escapeByte byte ++ rest) =
      (unescapeJsonString rest).map (byte :: ·) := by
  rcases escapeByte_cases byte with ⟨letter, known, escape⟩ | ⟨-, -, escape⟩ | ⟨-, plain, escape⟩
  · rw [escape]
    exact unescapeJsonString_escaped known rest
  · rw [escape]
    exact unescapeJsonString_control byte rest
  · rw [escape]
    exact unescapeJsonString_cons_of_ne plain rest

theorem unescapeJsonString_escape_append (text rest : Bytes) :
    unescapeJsonString (escapeJsonString text ++ rest) =
      (unescapeJsonString rest).map (text ++ ·) := by
  induction text with
  | nil => simp [escapeJsonString]
  | cons byte text ih =>
      rw [escapeJsonString] at ih ⊢
      rw [List.flatMap_cons, List.append_assoc, unescapeJsonString_escapeByte, ih,
        Option.map_map]
      rfl

theorem unescapeJsonString_escapeJsonString (text : Bytes) :
    unescapeJsonString (escapeJsonString text) = some text := by
  have whole := unescapeJsonString_escape_append text []
  have nothing : unescapeJsonString [] = some [] := rfl
  rw [nothing, List.append_nil, Option.map_some, List.append_nil] at whole
  exact whole

theorem escapeJsonString_injective {first second : Bytes}
    (same : escapeJsonString first = escapeJsonString second) : first = second := by
  have read := unescapeJsonString_escapeJsonString first
  rw [same, unescapeJsonString_escapeJsonString] at read
  exact (Option.some.inj read).symm

theorem quote_notMem_escapeByte (plain : byte ≠ quote) : quote ∉ escapeByte byte := by
  rcases escapeByte_cases byte with ⟨letter, known, escape⟩ | ⟨-, -, escape⟩ | ⟨-, -, escape⟩
  · rw [escape, List.mem_cons, List.mem_singleton, not_or]
    refine ⟨by decide, ?_⟩
    rintro rfl
    exact plain (Option.some.inj known).symm
  · rw [escape]
    simp only [List.mem_cons, not_or]
    exact ⟨by decide, by decide, by decide, by decide, fun mem =>
      TransferId.ne_of_isDigit (isDigit_of_mem_hexByte mem) rfl rfl⟩
  · rw [escape, List.mem_singleton]
    exact Ne.symm plain

theorem lastByte_escapeByte_eq_backslash_iff (before byte : UInt8) :
    lastByte before (escapeByte byte) = backslash ↔ byte = backslash := by
  rcases escapeByte_cases byte with ⟨letter, known, escape⟩ | ⟨-, plain, escape⟩ | ⟨-, -, escape⟩
  · have last : lastByte before (escapeByte byte) = letter := by
      rw [escape]
      rfl
    rw [last]
    constructor
    · rintro rfl
      exact (Option.some.inj known).symm
    · rintro rfl
      have written : [backslash, letter] = [backslash, backslash] := escape.symm
      exact (List.cons.inj (List.cons.inj written).2).1
  · have last : lastByte before (escapeByte byte) = hexChar (byte.toNat % 16) := by
      rw [escape]
      rfl
    rw [last]
    have digit : isDigit 16 (hexChar (byte.toNat % 16)) = true :=
      isDigit_hexChar (Nat.mod_lt _ (by decide))
    exact iff_of_false (TransferId.ne_of_isDigit digit rfl) plain
  · rw [escape]
    rfl

theorem lastByte_escapeJsonString (text : Bytes) :
    lastByte quote (escapeJsonString text) = backslash ↔ text.getLast? = some backslash := by
  induction text using List.reverseRecOn with
  | nil => decide
  | append_singleton text last ih =>
      rw [escapeJsonString, List.flatMap_append, List.flatMap_singleton, lastByte_append,
        lastByte_escapeByte_eq_backslash_iff, List.getLast?_concat, Option.some.injEq]

/-! ## Bitmaps -/

/-- The byte after the bits from position `count` on are packed into it. -/
def packFrom : UInt8 → Nat → List Bool → UInt8
  | byte, _, [] => byte
  | byte, count, bit :: bits =>
      packFrom (if bit then byte ||| UInt8.ofNat (1 <<< (7 - count)) else byte) (count + 1) bits

theorem packFrom_append_zeros (byte : UInt8) (count : Nat) (bits : List Bool) (zeros : Nat) :
    packFrom byte count (bits ++ List.replicate zeros false) = packFrom byte count bits := by
  induction bits generalizing byte count with
  | nil =>
      induction zeros generalizing count with
      | zero => rfl
      | succ zeros ih => exact ih (count + 1)
  | cons bit bits ih => exact ih _ _

theorem byteBits_packFrom (whole : bits.length = 8) : byteBits (packFrom 0 0 bits) = bits := by
  have every : ∀ b0 b1 b2 b3 b4 b5 b6 b7 : Bool,
      byteBits (packFrom 0 0 [b0, b1, b2, b3, b4, b5, b6, b7]) =
        [b0, b1, b2, b3, b4, b5, b6, b7] := by decide +kernel
  match bits, whole with
  | [b0, b1, b2, b3, b4, b5, b6, b7], _ => exact every b0 b1 b2 b3 b4 b5 b6 b7

theorem take_byteBits_packFrom (short : bits.length ≤ 8) :
    (byteBits (packFrom 0 0 bits)).take bits.length = bits := by
  have whole : (bits ++ List.replicate (8 - bits.length) false).length = 8 := by
    rw [List.length_append, List.length_replicate]
    omega
  rw [← packFrom_append_zeros 0 0 bits (8 - bits.length), byteBits_packFrom whole,
    List.take_left]

theorem bitmapToHexStep_partial (byte : UInt8) (count : Nat) (written : Bytes) (bit : Bool)
    (more : count + 1 ≠ 8) :
    bitmapToHexStep (byte, count, written) bit =
      (if bit then byte ||| UInt8.ofNat (1 <<< (7 - count)) else byte, count + 1, written) :=
  if_neg more

theorem foldl_bitmapToHexStep_short (byte : UInt8) (count : Nat) (written : Bytes)
    (bits : List Bool) (short : count + bits.length < 8) :
    bits.foldl bitmapToHexStep (byte, count, written) =
      (packFrom byte count bits, count + bits.length, written) := by
  induction bits generalizing byte count with
  | nil => rfl
  | cons bit bits ih =>
      rw [List.length_cons] at short
      have next : count + 1 ≠ 8 := by omega
      have later : count + 1 + bits.length < 8 := by omega
      rw [List.foldl_cons, bitmapToHexStep_partial _ _ _ _ next, ih _ _ later, packFrom,
        List.length_cons, Nat.add_right_comm, Nat.add_assoc]

theorem foldl_bitmapToHexStep_whole (byte : UInt8) (count : Nat) (written : Bytes)
    (bits : List Bool) (nonempty : bits ≠ []) (whole : count + bits.length = 8) :
    bits.foldl bitmapToHexStep (byte, count, written) =
      (0, 0, written ++ hexByte (packFrom byte count bits)) := by
  induction bits generalizing byte count with
  | nil => exact absurd rfl nonempty
  | cons bit bits ih =>
      rw [List.length_cons] at whole
      cases bits with
      | nil =>
          rw [List.length_nil] at whole
          rw [List.foldl_cons, bitmapToHexStep, if_pos whole]
          rfl
      | cons next bits =>
          have more : count + 1 ≠ 8 := by
            rw [List.length_cons] at whole
            omega
          have later : count + 1 + (next :: bits).length = 8 := by omega
          rw [List.foldl_cons, bitmapToHexStep_partial _ _ _ _ more,
            ih _ _ (List.cons_ne_nil _ _) later]
          rfl

theorem foldl_bitmapToHexStep_written (byte : UInt8) (count : Nat) (written : Bytes)
    (bits : List Bool) :
    bits.foldl bitmapToHexStep (byte, count, written) =
      let state := bits.foldl bitmapToHexStep (byte, count, [])
      (state.1, state.2.1, written ++ state.2.2) := by
  induction bits generalizing byte count written with
  | nil => simp
  | cons bit bits ih =>
      simp only [List.foldl_cons, bitmapToHexStep]
      split
      · rw [ih 0 0 (written ++ _), ih 0 0 ([] ++ _)]
        simp
      · exact ih _ _ _

theorem bitmapToHexString_short (short : bits.length < 8) (nonempty : bits ≠ []) :
    bitmapToHexString bits = hexByte (packFrom 0 0 bits) := by
  have positive : 0 < bits.length := List.length_pos_iff.mpr nonempty
  rw [bitmapToHexString, foldl_bitmapToHexStep_short 0 0 [] bits (by omega)]
  simp [positive]

theorem bitmapToHexString_append {first : List Bool} (whole : first.length = 8)
    (rest : List Bool) :
    bitmapToHexString (first ++ rest) =
      hexByte (packFrom 0 0 first) ++ bitmapToHexString rest := by
  have nonempty : first ≠ [] := by
    rintro rfl
    cases whole
  simp only [bitmapToHexString, List.foldl_append]
  rw [foldl_bitmapToHexStep_whole 0 0 [] first nonempty (by omega),
    foldl_bitmapToHexStep_written]
  split <;> simp

theorem length_byteBits (byte : UInt8) : (byteBits byte).length = 8 := by
  simp [byteBits]

theorem hexBits_hexByte (remaining : Nat) (byte : UInt8) (rest : Bytes) :
    hexBits (remaining + 1) (hexByte byte ++ rest) =
      (hexBits (remaining + 1 - 8) rest).map
        ((byteBits byte).take (remaining + 1) ++ ·) := by
  have reads : stoi 16 (hexByte byte) = some (byte.toNat : Int) :=
    stoi_zeros_hexByte 0 (by decide) byte
  rw [hexByte] at reads
  rw [hexByte, List.cons_append, List.cons_append, List.nil_append, hexBits, reads]
  simp only [ofInt_toNat]

theorem hexBits_bitmapToHexString (bits : List Bool) :
    hexBits bits.length (bitmapToHexString bits) = some bits := by
  induction size : bits.length using Nat.strong_induction_on generalizing bits with
  | _ total ih =>
      cases total with
      | zero => rw [hexBits, List.length_eq_zero_iff.mp size]
      | succ remaining =>
          have nonempty : bits ≠ [] := List.ne_nil_of_length_eq_add_one size
          by_cases short : bits.length < 8
          · have taken := take_byteBits_packFrom short.le
            have none_left : remaining + 1 - 8 = 0 := by omega
            rw [bitmapToHexString_short short nonempty, ← List.append_nil (hexByte _),
              hexBits_hexByte, none_left, ← size, taken]
            simp [hexBits]
          · have whole : (bits.take 8).length = 8 := by
              rw [List.length_take]
              omega
            have left : (bits.drop 8).length = remaining + 1 - 8 := by
              rw [List.length_drop, size]
            have later := ih (remaining + 1 - 8) (by omega) (bits.drop 8) left
            have all : (byteBits (packFrom 0 0 (bits.take 8))).take (remaining + 1) =
                bits.take 8 := by
              rw [byteBits_packFrom whole, List.take_of_length_le (by omega)]
            calc hexBits (remaining + 1) (bitmapToHexString bits)
                = hexBits (remaining + 1)
                    (bitmapToHexString (bits.take 8 ++ bits.drop 8)) := by
                  rw [List.take_append_drop]
              _ = some (bits.take 8 ++ bits.drop 8) := by
                  rw [bitmapToHexString_append whole, hexBits_hexByte, later, Option.map_some,
                    all]
              _ = some bits := by rw [List.take_append_drop]

theorem hexStringToBitmap_bitmapToHexString (bits : List Bool) :
    hexStringToBitmap (bitmapToHexString bits) bits.length = some bits := by
  rw [hexStringToBitmap, hexBits_bitmapToHexString]
  simp

theorem isDigit_of_mem_bitmapToHexString {bitmap : List Bool}
    (mem : byte ∈ bitmapToHexString bitmap) : isDigit 16 byte = true := by
  have loop : ∀ state : UInt8 × Nat × Bytes, (∀ byte ∈ state.2.2, isDigit 16 byte = true) →
      ∀ byte ∈ (bitmap.foldl bitmapToHexStep state).2.2, isDigit 16 byte = true := by
    clear mem
    induction bitmap with
    | nil => exact fun state digits => digits
    | cons bit bitmap ih =>
        intro state digits
        apply ih
        rw [bitmapToHexStep]
        split
        · intro byte mem
          rcases List.mem_append.mp mem with before | written
          · exact digits byte before
          · exact isDigit_of_mem_hexByte written
        · exact digits
  have start := loop (0, 0, []) fun _ mem => absurd mem List.not_mem_nil
  simp only [bitmapToHexString] at mem
  split at mem
  · rcases List.mem_append.mp mem with before | last
    · exact start byte before
    · exact isDigit_of_mem_hexByte last
  · exact start byte mem

end FileTrans.Resume
