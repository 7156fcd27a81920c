import FileTrans.Core.Sha256Loops
import FileTrans.Hashing.Sha256

/-!
# SHA-256 as the standard defines it

The digests of the checksum utilities are those of the standard, on the bits of
the bytes: the constants, the schedule and the rounds are the same, and the
bytes that both loops put after the message are the bits of the padding, as
long as the length in bits fits into the 64 bits that are kept for it.
-/

namespace FileTrans.Core.Checksum

open Hashing

/-- The eight words as a hash value of the standard. -/
def Sha256State.value (state : Sha256State) : HashValue :=
  ⟨state.a, state.b, state.c, state.d, state.e, state.f, state.g, state.h⟩

/-! ## Rounds -/

theorem value_sha256H0 : sha256H0.value = initialHash := by
  decide +kernel

theorem sha256K_eq : sha256K = roundConstants := by
  rw [roundConstants, primes_eq]
  decide +kernel

theorem value_sha256Round (state : Sha256State) (k w : UInt32) :
    (sha256Round state k w).value = round state.value k w :=
  rfl

/-! ## Schedule -/

theorem bytes_or (b0 b1 b2 b3 : UInt8) :
    (b0.toUInt32 <<< 24) ||| (b1.toUInt32 <<< 16) ||| (b2.toUInt32 <<< 8) ||| b3.toUInt32 =
      UInt32.ofNat (bitsNat (bytesBits [b0, b1, b2, b3])) := by
  have number : bitsNat (bytesBits [b0, b1, b2, b3]) =
      b0.toNat * 2 ^ 24 + (b1.toNat * 2 ^ 16 + (b2.toNat * 2 ^ 8 + b3.toNat)) := by
    have none : bitsNat (bytesBits []) = 0 := rfl
    simp only [bytesBits_cons, bitsNat_append, bitsNat_natBits, List.length_append,
      length_natBits, length_bytesBits, List.length_nil, none]
    rw [Nat.mod_eq_of_lt b0.toNat_lt, Nat.mod_eq_of_lt b1.toNat_lt, Nat.mod_eq_of_lt b2.toNat_lt,
      Nat.mod_eq_of_lt b3.toNat_lt]
    omega
  have h1 := b1.toNat_lt
  have h2 := b2.toNat_lt
  have h3 := b3.toNat_lt
  have or2 : b2.toNat <<< 8 ||| b3.toNat = b2.toNat * 2 ^ 8 + b3.toNat := by
    rw [← Nat.shiftLeft_add_eq_or_of_lt (by omega), Nat.shiftLeft_eq]
  have or1 : b1.toNat <<< 16 ||| (b2.toNat * 2 ^ 8 + b3.toNat) =
      b1.toNat * 2 ^ 16 + (b2.toNat * 2 ^ 8 + b3.toNat) := by
    rw [← Nat.shiftLeft_add_eq_or_of_lt (by omega), Nat.shiftLeft_eq]
  have or0 : b0.toNat <<< 24 ||| (b1.toNat * 2 ^ 16 + (b2.toNat * 2 ^ 8 + b3.toNat)) =
      b0.toNat * 2 ^ 24 + (b1.toNat * 2 ^ 16 + (b2.toNat * 2 ^ 8 + b3.toNat)) := by
    rw [← Nat.shiftLeft_add_eq_or_of_lt (by omega), Nat.shiftLeft_eq]
  apply UInt32.toNat.inj
  rw [number, ← or0, ← or1, ← or2]
  simp [Nat.or_assoc]

theorem blockWords_eq (block : Bytes) :
    blockWords block =
      (List.range (block.length / 4)).map (blockWord (bytesBits block)) := by
  fun_induction blockWords block with
  | case1 b0 b1 b2 b3 rest ih =>
      have count : (b0 :: b1 :: b2 :: b3 :: rest).length / 4 = rest.length / 4 + 1 := by
        simp only [List.length_cons]
        omega
      have first : blockWord (bytesBits (b0 :: b1 :: b2 :: b3 :: rest)) 0 =
          UInt32.ofNat (bitsNat (bytesBits [b0, b1, b2, b3])) := by
        rw [blockWord, Nat.mul_zero, List.drop_zero]
        exact congrArg (fun bits => UInt32.ofNat (bitsNat bits)) (bytesBits_take _ 4)
      rw [count, List.range_succ_eq_map, List.map_cons, List.map_map, first, bytes_or, ih]
      refine congrArg (List.cons _) (List.map_congr_left fun position _ => ?_)
      have later : (bytesBits (b0 :: b1 :: b2 :: b3 :: rest)).drop 32 = bytesBits rest :=
        bytesBits_drop _ 4
      rw [Function.comp_apply, blockWord, blockWord, Nat.mul_succ, Nat.add_comm,
        ← List.drop_drop, later]
  | case2 bytes short =>
      have few : bytes.length / 4 = 0 := by
        rcases bytes with _ | ⟨b0, _ | ⟨b1, _ | ⟨b2, _ | ⟨b3, rest⟩⟩⟩⟩
        · simp
        · simp
        · simp
        · simp
        · exact absurd rfl (short b0 b1 b2 b3 rest)
      rw [few]
      rfl

theorem extendSchedule_eq (block : List Bool) (count : Nat) {early : Nat} (late : 16 ≤ early) :
    extendSchedule count ((List.range early).map (schedule block)) =
      (List.range (early + count)).map (schedule block) := by
  induction count generalizing early with
  | zero => rfl
  | succ count ih =>
      have word (back : Nat) (inside : early - back < early) :
          ((List.range early).map (schedule block)).getD
            (((List.range early).map (schedule block)).length - back) 0 =
          schedule block (early - back) := by
        rw [List.length_map, List.length_range, List.getD_eq_getElem _ _ (by simpa using inside),
          List.getElem_map, List.getElem_range]
      have next : ((List.range early).map (schedule block)) ++ [schedule block early] =
          (List.range (early + 1)).map (schedule block) := by
        rw [List.range_succ, List.map_append]
        rfl
      have sum (w16 s0 w7 s1 : UInt32) : w16 + s0 + w7 + s1 = s1 + w7 + s0 + w16 := by
        ac_rfl
      rw [extendSchedule]
      simp only [word 15 (by omega), word 2 (by omega), word 16 (by omega), word 7 (by omega)]
      rw [sum]
      have entry := schedule_of_le block late
      have later : 16 ≤ early + 1 := Nat.le_succ_of_le late
      have appended := ih later
      rw [← next, entry, Nat.add_right_comm] at appended
      exact appended

/-! ## Blocks -/

theorem value_sha256Transform (state : Sha256State) {block : Bytes} (whole : block.length = 64) :
    (sha256Transform state block).value = Hashing.compress state.value (bytesBits block) := by
  have early : blockWords block = (List.range 16).map (schedule (bytesBits block)) := by
    rw [blockWords_eq, whole]
    exact List.map_congr_left fun time mem => (schedule_of_lt _ (List.mem_range.mp mem)).symm
  have constants : sha256K = (List.range 64).map (roundConstants.getD · 0) := by
    rw [← sha256K_eq]
    rfl
  have rounds (pairs : List (UInt32 × UInt32)) :
      pairs.foldl (fun value kw => round value kw.1 kw.2) state.value =
        (pairs.foldl (fun s kw => sha256Round s kw.1 kw.2) state).value :=
    List.foldl_hom Sha256State.value fun s kw => (value_sha256Round s kw.1 kw.2).symm
  have pairs : sha256K.zip (extendSchedule 48 (blockWords block)) =
      (List.range 64).map fun time =>
        (roundConstants.getD time 0, schedule (bytesBits block) time) := by
    rw [early, extendSchedule_eq _ _ (Nat.le_refl 16), constants, List.zip_map']
  have working : (List.range 64).foldl
      (fun value time => round value (roundConstants.getD time 0) (schedule (bytesBits block) time))
      state.value =
        ((sha256K.zip (extendSchedule 48 (blockWords block))).foldl
          (fun s kw => sha256Round s kw.1 kw.2) state).value := by
    rw [← rounds, pairs, List.foldl_map]
  rw [Hashing.compress, working, HashValue.add_comm]
  simp only [sha256Transform, Sha256State.value, HashValue.add]

theorem value_absorbBlocks (state : Sha256State) (bytes : Bytes) :
    (absorbBlocks state bytes).value =
      (blocks (bytesBits bytes)).foldl Hashing.compress state.value := by
  induction count : bytes.length / 64 generalizing state bytes with
  | zero =>
      have short : ¬64 ≤ bytes.length := by omega
      rw [absorbBlocks, if_neg short, blocks_of_lt (by rw [length_bytesBits]; omega)]
      rfl
  | succ count ih =>
      have whole : (bytes.take 64).length = 64 := List.length_take_of_le (by omega)
      have first : (bytesBits bytes).take 512 = bytesBits (bytes.take 64) := bytesBits_take bytes 64
      have rest : (bytesBits bytes).drop 512 = bytesBits (bytes.drop 64) := bytesBits_drop bytes 64
      rw [absorbBlocks, if_pos (by omega), blocks_of_le (by rw [length_bytesBits]; omega),
        List.foldl_cons, first, rest, ← value_sha256Transform state whole]
      exact ih _ _ (by rw [List.length_drop]; omega)

/-! ## Padding -/

theorem bytesBits_bigEndian (number width : Nat) :
    bytesBits (bigEndian number width) = natBits (8 * width) number := by
  induction width with
  | zero => rfl
  | succ width ih =>
      rw [bigEndian, bytesBits_cons, ih, Nat.mul_succ, Nat.add_comm, natBits_add]
      congr 1
      apply natBits_congr
      intro position below
      rw [UInt8.toNat_ofNat', Nat.testBit_mod_two_pow, decide_eq_true below, Bool.true_and]

theorem bytesBits_padding (length : Nat) {bitLength : UInt64}
    (bits : bitLength.toNat = 8 * length) :
    bytesBits (padding length bitLength) =
      true :: List.replicate (paddingZeros (8 * length)) false ++ natBits 64 (8 * length) := by
  have count : paddingZeros (8 * length) = 7 + 8 * ((119 - length % 64) % 64) := by
    rw [paddingZeros]
    omega
  have mark : natBits 8 (0x80 : UInt8).toNat = true :: List.replicate 7 false := rfl
  rw [padding, bytesBits_append, bytesBits_cons, bytesBits_replicate_zero, bytesBits_bigEndian,
    bits, mark, count, ← List.replicate_append_replicate]
  rfl

theorem bytesBits_append_padding {data : Bytes} (bounded : data.length < 2 ^ 61) :
    bytesBits (data ++ padding data.length (UInt64.ofNat data.length * 8)) =
      padded (bytesBits data) := by
  have bits : (UInt64.ofNat data.length * 8).toNat = 8 * data.length := by
    rw [UInt64.toNat_mul, UInt64.toNat_ofNat']
    change data.length % 2 ^ 64 * 8 % 2 ^ 64 = 8 * data.length
    omega
  rw [bytesBits_append, bytesBits_padding _ bits, padded, length_bytesBits]
  rw [List.append_assoc]

/-! ## Digests -/

theorem flatMap_hexByte (bytes : Bytes) :
    bytes.flatMap Text.hexByte = lowerHex (bytesBits bytes) := by
  induction bytes with
  | nil => rfl
  | cons byte rest ih =>
      have high : (byte.toNat >>> 4) % 16 = byte.toNat / 16 := by
        have below := byte.toNat_lt
        rw [Nat.shiftRight_eq_div_pow]
        omega
      rw [bytesBits_cons, natBits_add 4 4, List.append_assoc, lowerHex_natBits_append,
        lowerHex_natBits_append, high, List.flatMap_cons, ih]
      rfl

theorem hashToHex_eq (state : Sha256State) :
    hashToHex state = lowerHex (state.value.words.flatMap fun word => natBits 32 word.toNat) := by
  have digits : hashToHex state =
      (state.value.words.flatMap fun word => bigEndian word.toNat 4).flatMap Text.hexByte :=
    List.flatMap_assoc.symm
  have bits : bytesBits (state.value.words.flatMap fun word => bigEndian word.toNat 4) =
      state.value.words.flatMap fun word => natBits 32 word.toNat := by
    rw [bytesBits, List.flatMap_assoc]
    exact congrArg state.value.words.flatMap
      (funext fun word => bytesBits_bigEndian word.toNat 4)
  rw [digits, flatMap_hexByte, bits]

/-- Both functions give the digest of the standard, in lower-case hexadecimal. -/
theorem sha256_standard {data : Bytes} (bounded : data.length < 2 ^ 61) :
    sha256FileBuffered data = sha256 data ∧ sha256File data = sha256 data ∧
      sha256 data = lowerHex (Hashing.sha256 (bytesBits data)) := by
  have file := sha256_eq_sha256File data
  refine ⟨(sha256FileBuffered_eq_sha256File data).trans file.symm, file.symm, ?_⟩
  rw [file, sha256File_eq, hashToHex_eq, value_absorbBlocks, bytesBits_append_padding bounded,
    value_sha256H0]
  rfl

/-- The first example of the standard. -/
theorem sha256_abc :
    sha256 (Text.ascii "abc") = lowerHex (Hashing.sha256 (bytesBits (Text.ascii "abc"))) ∧
      sha256File (Text.ascii "abc") =
        Text.ascii "ba7816bf8f01cfea414140de5dae2223b00361a396177a9cb410ff61f20015ad" :=
  ⟨(sha256_standard (by decide)).2.2, by decide +kernel⟩

end FileTrans.Core.Checksum
