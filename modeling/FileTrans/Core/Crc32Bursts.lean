import FileTrans.Codes.ShiftRegister
import FileTrans.Core.Checksum

/-!
# Burst errors under CRC-32

The table-driven checksum takes in the bits of the data one by one, each byte
from its lowest bit on, so that it tells apart data that differ within 32
consecutive bits.
-/

namespace FileTrans.Core.Checksum

open FileTrans.Codes

/-- The bits of the byte, the lowest first. -/
def byteBits (byte : UInt8) : List Bool :=
  List.ofFn fun position : Fin 8 => byte.toBitVec.getLsbD position

/-- The bits of the data in the order in which a reflected check takes them in. -/
def dataBits (data : Bytes) : List Bool :=
  data.flatMap byteBits

/-- CRC-32 by its definition: initial and final value are all ones. -/
def bitwiseCrc32 (data : Bytes) : BitVec 32 :=
  reflectedCrc 0xEDB88320 0xFFFFFFFF 0xFFFFFFFF (dataBits data)

/-- The bytes in which the data differ. -/
def difference (first second : Bytes) : Bytes :=
  first.zipWith (· ^^^ ·) second

/-! ## The table -/

theorem toBitVec_crc32TableStep (crc : UInt32) :
    (crc32TableStep crc).toBitVec = shift 0xEDB88320 crc.toBitVec := by
  have falls : (crc &&& 1 != 0) = crc.toBitVec.getLsbD 0 := by
    rw [Bool.eq_iff_iff, bne_iff_ne, Ne, ← UInt32.toNat_inj, UInt32.toNat_and,
      ← BitVec.testBit_toNat, UInt32.toNat_toBitVec, Nat.testBit_zero, decide_eq_true_iff]
    simp [Nat.and_one_is_mod]
  rw [crc32TableStep, shift, falls]
  cases crc.toBitVec.getLsbD 0 <;> rfl

theorem toBitVec_crc32Table (index : UInt8) :
    (crc32Table index).toBitVec =
      (shift 0xEDB88320)^[8] (index.toBitVec.setWidth 32) := by
  have steps : Function.Semiconj UInt32.toBitVec crc32TableStep (shift 0xEDB88320) :=
    toBitVec_crc32TableStep
  exact steps.iterate_right 8 index.toUInt32

theorem length_byteBits (byte : UInt8) : (byteBits byte).length = 8 :=
  List.length_ofFn

theorem length_dataBits (data : Bytes) : (dataBits data).length = 8 * data.length := by
  induction data with
  | nil => rfl
  | cons byte rest ih =>
      rw [dataBits, List.flatMap_cons, List.length_append, length_byteBits, List.length_cons]
      rw [dataBits] at ih
      omega

theorem packed_byteBits (byte : UInt8) : packed 32 (byteBits byte) = byte.toBitVec.setWidth 32 := by
  apply BitVec.eq_of_getLsbD_eq
  intro position below
  rw [getLsbD_packed, BitVec.getLsbD_setWidth, byteBits]
  by_cases inside : position < 8
  · rw [List.getElem?_ofFn, dif_pos inside]
    simp [inside]
  · simp [inside, BitVec.getLsbD_of_ge byte.toBitVec position (Nat.not_lt.mp inside)]

theorem toBitVec_crc32Update (crc : UInt32) (byte : UInt8) :
    (crc32Update crc byte).toBitVec = absorb 0xEDB88320 crc.toBitVec (byteBits byte) := by
  have index : ((crc.toBitVec ^^^ byte.toBitVec.setWidth 32).setWidth 8).setWidth 32 =
      (crc.toUInt8 ^^^ byte).toBitVec.setWidth 32 := by
    rw [UInt8.toBitVec_xor, UInt32.toBitVec_toUInt8, BitVec.setWidth_xor]
    simp
  have moved : (crc.toBitVec ^^^ byte.toBitVec.setWidth 32) >>> 8 = (crc >>> 8).toBitVec := by
    rw [BitVec.ushiftRight_xor_distrib, UInt32.toBitVec_shiftRight]
    have none : byte.toBitVec.setWidth 32 >>> 8 = 0#32 := by
      apply BitVec.eq_of_getLsbD_eq
      intro position below
      simp
    rw [none, BitVec.xor_zero]
    rfl
  rw [absorb_eq_iterate _ ((length_byteBits byte).trans_le (by decide)), length_byteBits,
    packed_byteBits,
    iterate_shift_eq_table, index, moved, ← toBitVec_crc32Table]
  rfl

theorem toBitVec_crc32 (data : Bytes) : (crc32 data).toBitVec = bitwiseCrc32 data := by
  have registers (crc : UInt32) : (data.foldl crc32Update crc).toBitVec =
      absorb 0xEDB88320 crc.toBitVec (dataBits data) := by
    induction data generalizing crc with
    | nil => rfl
    | cons byte rest ih =>
        rw [List.foldl_cons, ih, toBitVec_crc32Update, dataBits, dataBits, List.flatMap_cons,
          absorb_append]
  have ran := registers 0xFFFFFFFF
  rw [crc32, UInt32.toBitVec_xor, ran]
  rfl

/-! ## Bursts -/

theorem byteBits_xor (first second : UInt8) :
    byteBits (first ^^^ second) = (byteBits first).zipWith xor (byteBits second) := by
  simp [byteBits]

theorem dataBits_difference {first second : Bytes} (same : first.length = second.length) :
    dataBits (difference first second) = (dataBits first).zipWith xor (dataBits second) := by
  induction first generalizing second with
  | nil => rfl
  | cons byte rest ih =>
      obtain ⟨other, others, rfl⟩ := List.exists_cons_of_length_eq_add_one same.symm
      have tails : rest.length = others.length := Nat.succ.inj same
      have heads : (byteBits byte).length = (byteBits other).length := by
        rw [length_byteBits, length_byteBits]
      rw [difference, dataBits, dataBits, dataBits, List.zipWith_cons_cons, List.flatMap_cons,
        List.flatMap_cons, List.flatMap_cons, List.zipWith_append heads, byteBits_xor]
      exact congrArg _ (ih tails)

theorem true_mem_byteBits {byte : UInt8} (some : byte ≠ 0) : true ∈ byteBits byte := by
  by_contra none
  apply some
  apply UInt8.toBitVec_inj.mp
  apply BitVec.eq_of_getLsbD_eq
  intro position below
  cases bit : byte.toBitVec.getLsbD position with
  | true => exact absurd (List.mem_ofFn.mpr ⟨⟨position, below⟩, bit⟩) none
  | false => exact (BitVec.getLsbD_zero).symm

/-- The checksum of the code is the reflected CRC-32, and data of one length that differ, but
only within 32 consecutive bits, do not have the same checksum. -/
theorem crc32_detects_bursts :
    (∀ data, (crc32 data).toBitVec = bitwiseCrc32 data) ∧
    ∀ first second : Bytes, first.length = second.length → ∀ start,
      (∃ byte ∈ difference first second, byte ≠ 0) →
      (∀ position, (dataBits (difference first second))[position]? = some true →
        start ≤ position ∧ position < start + 32) →
      crc32 first ≠ crc32 second ∧ verifyCrc32 second (crc32 first) = false := by
  refine ⟨toBitVec_crc32, ?_⟩
  rintro first second same start ⟨byte, mem, some⟩ window
  have bits : (dataBits first).length = (dataBits second).length := by
    rw [length_dataBits, length_dataBits, same]
  have ones : true ∈ dataBits (difference first second) :=
    List.mem_flatMap.mpr ⟨byte, mem, true_mem_byteBits some⟩
  rw [dataBits_difference same] at ones window
  have apart : crc32 first ≠ crc32 second := by
    intro collide
    have checks := congrArg UInt32.toBitVec collide
    rw [toBitVec_crc32, toBitVec_crc32] at checks
    exact reflectedCrc_ne_of_window (by decide) _ _ bits ones window checks
  refine ⟨apart, ?_⟩
  rw [← Bool.not_eq_true, verifyCrc32_eq_true_iff]
  exact apart.symm

/-- The last letter of a name is changed. -/
theorem crc32_detects_letter :
    crc32 [0x61, 0x62] ≠ crc32 [0x61, 0x64] ∧
      verifyCrc32 [0x61, 0x64] (crc32 [0x61, 0x62]) = false := by
  apply crc32_detects_bursts.2 [0x61, 0x62] [0x61, 0x64] rfl 0 ⟨0x06, by decide, by decide⟩
  intro position one
  have below := (List.getElem?_eq_some_iff.mp one).1
  rw [length_dataBits] at below
  exact ⟨Nat.zero_le position, Nat.lt_trans below (by decide)⟩

end FileTrans.Core.Checksum
