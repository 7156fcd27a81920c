import FileTrans.Core.Compression
import Mathlib.Data.List.Infix

/-!
# Adaptive compression

The engine decides whether to compress, and passes the sizes to LZ4 as a C
`int` when it does.  A size of 2 ^ 32 bytes or more is cut to its low bits; then
only a first part of the bytes is compressed.
-/

namespace FileTrans.Core

inductive CompressionMode
  | disabled
  | enabled
  | adaptive
  deriving DecidableEq

/-- Whether `compress_adaptive` compresses. -/
def shouldCompress (lz4 : Option Lz4) (mode : CompressionMode) (input : Bytes) : Bool :=
  match mode with
  | .disabled => false
  | .enabled => true
  | .adaptive => isCompressible lz4 input

def compressAdaptive (lz4 : Option Lz4) (level : CompressionLevel) (input : Bytes)
    (mode : CompressionMode) : Result (Bytes × Bool) :=
  match lz4 with
  | none => unexpected .internalError "LZ4 compression not enabled"
  | some _ =>
      if input = [] then .ok ([], false)
      else if ¬ shouldCompress lz4 mode input then .ok (input, false)
      else
        match compress lz4 level input with
        | .error failure => .error failure
        | .ok output => .ok (output, true)

/-- `decompress_lz4` of the client. -/
def decompressLz4 (lz4 : Option Lz4) (input : Bytes) (originalSize : Nat) : Result Bytes :=
  match lz4 with
  | some lz4 =>
      if input = [] then .ok []
      else if asInt input.length < 0 ∨ asInt originalSize < 0 then
        unexpected .internalError "LZ4 decompression failed: corrupted data"
      else
        match lz4.decompressSafe (input.take (asInt input.length).toNat)
            (asInt originalSize).toNat with
        | none => unexpected .internalError "LZ4 decompression failed: corrupted data"
        | some output =>
            if output.length ≠ originalSize then
              unexpected .internalError "LZ4 decompression size mismatch"
            else .ok output
  | none => unexpected .internalError "LZ4 compression not enabled"

theorem decompressLz4_eq_decompress (lz4 : Option Lz4) (input : Bytes) (originalSize : Nat) :
    decompressLz4 lz4 input originalSize = decompress lz4 input originalSize := by
  cases lz4 with
  | none => rfl
  | some lz4 => rfl

/-! ## What LZ4 documents -/

/-- A compressor that takes every source up to the limit to a block within the bound, from which
the source comes back. -/
def Lz4.Correct (lz4 : Lz4) (compressor : Bytes → Option Bytes) : Prop :=
  ∀ source : Bytes, source.length ≤ lz4MaxInputSize.toNat →
    ∃ block, compressor source = some block ∧ block ≠ [] ∧
      block.length ≤ source.length + source.length / 255 + 16 ∧
      lz4.decompressSafe block source.length = some source

/-- LZ4 is correct on the buffers whose size it admits, and a decompression writes no more than
the capacity. -/
structure Lz4.CorrectOnInts (lz4 : Lz4) : Prop where
  compressDefault : lz4.Correct lz4.compressDefault
  compressHc : lz4.Correct lz4.compressHc
  capacity : lz4.RespectsCapacity

def Lz4.compressor (lz4 : Lz4) : CompressionLevel → Bytes → Option Bytes
  | .high => lz4.compressHc
  | .fast => lz4.compressDefault

theorem Lz4.CorrectOnInts.compressor {lz4 : Lz4} (correct : lz4.CorrectOnInts)
    (level : CompressionLevel) : lz4.Correct (lz4.compressor level) := by
  cases level with
  | fast => exact correct.compressDefault
  | high => exact correct.compressHc

/-! ## Sizes -/

/-- A size is cast to one that LZ4 admits. -/
def CastFits (size : Nat) : Prop :=
  0 ≤ asInt size ∧ asInt size ≤ lz4MaxInputSize

instance (size : Nat) : Decidable (CastFits size) :=
  inferInstanceAs (Decidable (_ ∧ _))

theorem asInt_of_le_max {size : Nat} (fits : size ≤ lz4MaxInputSize.toNat) :
    asInt size = size ∧ CastFits size := by
  have most : lz4MaxInputSize.toNat = 2113929216 := rfl
  have limit : lz4MaxInputSize = 2113929216 := rfl
  have small : size < 2 ^ 31 := by omega
  have same := asInt_of_lt small
  exact ⟨same, by rw [CastFits, same]; omega⟩

theorem toNat_asInt_le {size : Nat} (fits : CastFits size) : (asInt size).toNat ≤ size := by
  have low := Nat.mod_le size (2 ^ 32)
  rcases fits with ⟨nonneg, -⟩
  rw [asInt] at nonneg ⊢
  split at nonneg <;> split <;> omega

theorem compress_of_castFits {lz4 : Lz4} (correct : lz4.CorrectOnInts) (level : CompressionLevel)
    {input : Bytes} (nonempty : input ≠ []) (fits : CastFits input.length) :
    ∃ block, compress (some lz4) level input = .ok block ∧ block ≠ [] ∧ block.length < 2 ^ 31 ∧
      lz4.decompressSafe block (asInt input.length).toNat =
        some (input.take (asInt input.length).toNat) := by
  have most : lz4MaxInputSize = 2113929216 := rfl
  have length : (input.take (asInt input.length).toNat).length = (asInt input.length).toNat := by
    rw [List.length_take, Nat.min_eq_left (toNat_asInt_le fits)]
  have small : (input.take (asInt input.length).toNat).length ≤ lz4MaxInputSize.toNat := by
    rw [length]
    exact Int.toNat_le_toNat fits.2
  rcases correct.compressor level _ small with ⟨block, compressed, full, bound, restored⟩
  rw [length] at restored
  refine ⟨block, ?_, full, ?_, restored⟩
  · have admitted : ¬ (asInt input.length < 0 ∨ lz4MaxInputSize < asInt input.length) := by
      rcases fits with ⟨nonneg, le⟩
      omega
    simp only [compress, nonempty, admitted, if_false]
    cases level with
    | fast =>
        have same : lz4.compressDefault (input.take (asInt input.length).toNat) = some block :=
          compressed
        rw [same]
    | high =>
        have same : lz4.compressHc (input.take (asInt input.length).toNat) = some block :=
          compressed
        rw [same]
  · rw [most] at small
    have limit : Int.toNat 2113929216 = 2113929216 := rfl
    omega

theorem compress_of_not_castFits (lz4 : Lz4) (level : CompressionLevel) {input : Bytes}
    (nonempty : input ≠ []) (unfit : ¬ CastFits input.length) :
    compress (some lz4) level input = unexpected .internalError "LZ4 compression failed" := by
  have refused : asInt input.length < 0 ∨ lz4MaxInputSize < asInt input.length := by
    rw [CastFits] at unfit
    omega
  simp only [compress, nonempty, refused, if_false, if_true]

theorem decompress_eq_ok_iff (lz4 : Lz4) {input : Bytes} (full : input ≠ [])
    (originalSize : Nat) (output : Bytes) :
    decompress (some lz4) input originalSize = .ok output ↔
      0 ≤ asInt input.length ∧ 0 ≤ asInt originalSize ∧
        lz4.decompressSafe (input.take (asInt input.length).toNat)
          (asInt originalSize).toNat = some output ∧ output.length = originalSize := by
  simp only [decompress, full, if_false]
  by_cases refused : asInt input.length < 0 ∨ asInt originalSize < 0
  · rw [if_pos refused]
    refine iff_of_false (by simp [unexpected]) ?_
    rintro ⟨cut, sized, -⟩
    omega
  · have cut : 0 ≤ asInt input.length := Int.not_lt.mp fun less => refused (.inl less)
    have sized : 0 ≤ asInt originalSize := Int.not_lt.mp fun less => refused (.inr less)
    rw [if_neg refused]
    cases lz4.decompressSafe (input.take (asInt input.length).toNat)
        (asInt originalSize).toNat with
    | none => simp [unexpected]
    | some written =>
        by_cases same : written.length = originalSize
        · simp only [same, ne_eq, not_true_eq_false, if_false, Except.ok.injEq, cut, sized,
            true_and, Option.some.injEq]
          constructor
          · rintro rfl
            exact ⟨rfl, same⟩
          · rintro ⟨rfl, -⟩
            rfl
        · simp only [same, ne_eq, not_false_eq_true, if_true, cut, sized, true_and,
            Option.some.injEq]
          refine iff_of_false (by simp [unexpected]) ?_
          rintro ⟨rfl, equal⟩
          exact same equal

/-! ## What comes back -/

/-- The input is returned unchanged, or bytes from which it comes back; it is rejected only if
LZ4 does not admit its size. -/
def ComesBack (lz4 : Lz4) (level : CompressionLevel) (mode : CompressionMode) (input : Bytes) :
    Prop :=
  compressAdaptive (some lz4) level input mode = .ok (input, false) ∨
    (∃ block, compressAdaptive (some lz4) level input mode = .ok (block, true) ∧
      decompress (some lz4) block input.length = .ok input) ∨
    ((∃ failure, compressAdaptive (some lz4) level input mode = .error failure) ∧
      lz4MaxInputSize.toNat < input.length)

/-- What is decompressed has the size that was announced, and the sizes fit an `int`. -/
def Announced (lz4 : Lz4) (input : Bytes) (originalSize : Nat) : Prop :=
  ∀ output, decompress (some lz4) input originalSize = .ok output →
    output.length = originalSize ∧ input.length < 2 ^ 31 ∧ originalSize < 2 ^ 31

theorem compressAdaptive_of_not (lz4 : Lz4) (level : CompressionLevel) {mode : CompressionMode}
    {input : Bytes} (skipped : ¬ (input ≠ [] ∧ shouldCompress (some lz4) mode input = true)) :
    compressAdaptive (some lz4) level input mode = .ok (input, false) := by
  rw [compressAdaptive]
  by_cases empty : input = []
  · rw [if_pos empty, empty]
  · rw [if_neg empty, if_pos fun should => skipped ⟨empty, should⟩]

theorem compressAdaptive_of_should (lz4 : Lz4) (level : CompressionLevel)
    {mode : CompressionMode} {input : Bytes} (nonempty : input ≠ [])
    (should : shouldCompress (some lz4) mode input = true) :
    compressAdaptive (some lz4) level input mode =
      match compress (some lz4) level input with
      | .error failure => .error failure
      | .ok output => .ok (output, true) := by
  rw [compressAdaptive, if_neg nonempty, if_neg (not_not.mpr should)]

theorem comesBack_iff {lz4 : Lz4} (correct : lz4.CorrectOnInts) (level : CompressionLevel)
    (mode : CompressionMode) (input : Bytes) :
    ComesBack lz4 level mode input ↔
      (input ≠ [] → shouldCompress (some lz4) mode input = true → CastFits input.length →
        input.length ≤ lz4MaxInputSize.toNat) := by
  by_cases compresses : input ≠ [] ∧ shouldCompress (some lz4) mode input = true
  · rcases compresses with ⟨nonempty, should⟩
    have called := compressAdaptive_of_should lz4 level nonempty should
    by_cases fits : CastFits input.length
    · rcases compress_of_castFits correct level nonempty fits with
        ⟨block, compressed, full, small, restored⟩
      rw [compressed] at called
      have read := decompress_eq_ok_iff lz4 full input.length input
      rw [asInt_of_lt small, Int.toNat_natCast, List.take_length] at read
      have length : (input.take (asInt input.length).toNat).length =
          (asInt input.length).toNat := by
        rw [List.length_take, Nat.min_eq_left (toNat_asInt_le fits)]
      constructor
      · rintro (unchanged | ⟨other, returned, back⟩ | ⟨⟨failure, failed⟩, -⟩) _ _ _
        · rw [called] at unchanged
          simp at unchanged
        · rw [called] at returned
          cases Except.ok.inj returned
          rcases read.mp back with ⟨-, -, found, -⟩
          rw [restored] at found
          rw [← congrArg List.length (Option.some.inj found), length]
          exact Int.toNat_le_toNat fits.2
        · rw [called] at failed
          contradiction
      · intro bounded
        have bounded := bounded nonempty should fits
        refine .inr (.inl ⟨block, called, ?_⟩)
        apply read.mpr
        refine ⟨Int.natCast_nonneg _, fits.1, ?_, rfl⟩
        rw [restored, (asInt_of_le_max bounded).1, Int.toNat_natCast, List.take_length]
    · have refused := compress_of_not_castFits lz4 level nonempty fits
      rw [refused] at called
      have large : lz4MaxInputSize.toNat < input.length :=
        Nat.not_le.mp fun small => fits (asInt_of_le_max small).2
      exact iff_of_true (.inr (.inr ⟨⟨_, called⟩, large⟩)) fun _ _ castFits => absurd castFits fits
  · exact iff_of_true (.inl (compressAdaptive_of_not lz4 level compresses))
      fun nonempty should => absurd ⟨nonempty, should⟩ compresses

theorem announced_iff {lz4 : Lz4} (correct : lz4.CorrectOnInts) (input : Bytes)
    (originalSize : Nat) :
    Announced lz4 input originalSize ↔
      (input = [] → originalSize = 0) ∧
        (2 ^ 32 ≤ input.length → 0 ≤ asInt input.length → 0 ≤ asInt originalSize →
          ∀ output ∈ lz4.decompressSafe (input.take (asInt input.length).toNat)
            (asInt originalSize).toNat, output.length ≠ originalSize) := by
  by_cases empty : input = []
  · have returned : decompress (some lz4) input originalSize = .ok [] := by
      rw [decompress, if_pos empty]
    constructor
    · intro announced
      refine ⟨fun _ => (announced [] returned).1.symm, fun large => ?_⟩
      rw [empty] at large
      contradiction
    · rintro ⟨none, -⟩ output decompressed
      rw [returned] at decompressed
      cases Except.ok.inj decompressed
      rw [none empty, empty]
      decide
  · have called := decompress_eq_ok_iff lz4 empty originalSize
    constructor
    · intro announced
      refine ⟨fun none => absurd none empty, fun large cut sized output found same => ?_⟩
      have returned := (called output).mpr ⟨cut, sized, found, same⟩
      have small := (announced output returned).2.1
      omega
    · rintro ⟨-, none⟩ output returned
      rcases (called output).mp returned with ⟨cut, sized, found, same⟩
      have capacity := correct.capacity _ _ _ found
      have below := asInt_lt originalSize
      refine ⟨same, ?_, by omega⟩
      by_contra large
      have wire : 2 ^ 32 ≤ input.length := by
        by_contra short
        exact large (lt_of_asInt_nonneg (Nat.not_le.mp short) cut)
      exact none wire cut sized output found same

/-- What the two claims of the engine need of the sizes; the client decompresses alike. -/
theorem adaptive_iff {lz4 : Lz4} (correct : lz4.CorrectOnInts) :
    (∀ level mode input, ComesBack lz4 level mode input ↔
      (input ≠ [] → shouldCompress (some lz4) mode input = true → CastFits input.length →
        input.length ≤ lz4MaxInputSize.toNat)) ∧
    (∀ input originalSize, Announced lz4 input originalSize ↔
      (input = [] → originalSize = 0) ∧
        (2 ^ 32 ≤ input.length → 0 ≤ asInt input.length → 0 ≤ asInt originalSize →
          ∀ output ∈ lz4.decompressSafe (input.take (asInt input.length).toNat)
            (asInt originalSize).toNat, output.length ≠ originalSize)) ∧
    ∀ input originalSize,
      decompressLz4 (some lz4) input originalSize = decompress (some lz4) input originalSize :=
  ⟨comesBack_iff correct, announced_iff correct, decompressLz4_eq_decompress (some lz4)⟩

/-! ## Blocks of literals -/

namespace LiteralSample

/-- The LZ4 block that holds the source as literals. -/
def literals (source : Bytes) : Bytes :=
  if source.length < 15 then UInt8.ofNat (16 * source.length) :: source
  else 0xF0 :: (List.replicate ((source.length - 15) / 255) 0xFF ++
    [UInt8.ofNat ((source.length - 15) % 255)] ++ source)

/-- LZ4 on sources without repetitions. -/
def lz4 : Lz4 where
  compressDefault source := some (literals source)
  compressHc source := some (literals source)
  decompressSafe block capacity :=
    block.tails.find? fun source => literals source = block ∧ source.length ≤ capacity

theorem length_literals (source : Bytes) :
    (literals source).length =
      if source.length < 15 then source.length + 1
      else source.length + (source.length - 15) / 255 + 2 := by
  rw [literals]
  split
  · rfl
  · simp only [List.length_cons, List.length_append, List.length_replicate, List.length_nil]
    omega

theorem eq_of_literals_eq {source other : Bytes} (same : literals source = literals other) :
    source = other := by
  have lengths := congrArg List.length same
  rw [length_literals, length_literals] at lengths
  have length : source.length = other.length := by
    split at lengths <;> split at lengths <;> omega
  have suffix : ∀ text : Bytes, text <:+ literals text := by
    intro text
    rw [literals]
    split
    · exact List.suffix_cons _ _
    · exact (List.suffix_append _ _).trans (List.suffix_cons _ _)
  exact List.IsSuffix.eq_of_length
    (List.suffix_of_suffix_length_le (suffix source) (same ▸ suffix other) length.le) length

theorem correct_literals : lz4.Correct fun source => some (literals source) := by
  intro source _
  have suffix : source ∈ (literals source).tails := by
    rw [List.mem_tails, literals]
    split
    · exact List.suffix_cons _ _
    · exact (List.suffix_append _ _).trans (List.suffix_cons _ _)
  refine ⟨literals source, rfl, ?_, ?_, ?_⟩
  · rw [literals]
    split <;> exact List.cons_ne_nil _ _
  · rw [length_literals]
    split <;> omega
  · simp only [lz4]
    cases found : (literals source).tails.find?
        (fun other => literals other = literals source ∧ other.length ≤ source.length) with
    | none => exact absurd (List.find?_eq_none.mp found source suffix) (by simp)
    | some other =>
        have held := List.find?_some found
        rw [decide_eq_true_eq] at held
        rw [eq_of_literals_eq held.1]

theorem correct : lz4.CorrectOnInts where
  compressDefault := correct_literals
  compressHc := correct_literals
  capacity block capacity output decompressed := by
    have held := @List.find?_some _ (fun source =>
      decide (literals source = block ∧ source.length ≤ capacity)) _ _ decompressed
    exact (of_decide_eq_true held).2

theorem not_comesBack_of_wraps {count : Nat} (wraps : asInt count = 0)
    (large : lz4MaxInputSize.toNat < count) :
    ¬ ComesBack lz4 .fast .enabled (List.replicate count 0) := by
  rw [comesBack_iff correct, List.length_replicate]
  intro fits
  have cast : CastFits count := by
    rw [CastFits, wraps]
    decide
  have nonempty : List.replicate count (0 : UInt8) ≠ [] := by
    rw [ne_eq, List.replicate_eq_nil_iff]
    exact Nat.ne_of_gt (Nat.zero_lt_of_lt large)
  exact Nat.not_le.mpr large (fits nonempty rfl cast)

end LiteralSample

open LiteralSample in
theorem adaptive_sample :
    lz4.CorrectOnInts ∧ ComesBack lz4 .fast .enabled [1, 2, 3] ∧ Announced lz4 [48, 1, 2, 3] 3 :=
  ⟨correct, ((adaptive_iff correct).1 .fast .enabled [1, 2, 3]).mpr
    (fun _ _ _ => by simp [lz4MaxInputSize]),
    ((adaptive_iff correct).2.1 [48, 1, 2, 3] 3).mpr
      ⟨by decide, fun large => absurd large (by decide)⟩⟩

open LiteralSample in
/-- Of 2 ^ 32 bytes none is compressed, and an empty block is decompressed to no bytes whatever the
announced size. -/
theorem adaptive_breaks :
    (∃ input : Bytes, input.length = 2 ^ 32 ∧ ¬ ComesBack lz4 .fast .enabled input) ∧
      ¬ Announced lz4 [] 5 := by
  constructor
  · exact ⟨List.replicate (2 ^ 32) 0, List.length_replicate,
      not_comesBack_of_wraps rfl (by simp [lz4MaxInputSize])⟩
  · intro announced
    exact absurd (announced [] rfl).1 (by decide)

end FileTrans.Core
