import FileTrans.Core.Types

/-!
# Compression of chunk data

The LZ4 library is a parameter: two compressors and one decompressor for
blocks, with the sizes passed as a C `int`.  A build without LZ4 has no library
at all.  The engine refuses data of a known compressed format and data whose
first 4096 bytes do not shrink by a factor of 1.1.
-/

namespace FileTrans.Core

/-- The LZ4 block functions.  `none` stands for a returned size that is not
positive when compressing, and negative when decompressing. -/
structure Lz4 where
  compressDefault : Bytes → Option Bytes
  compressHc : Bytes → Option Bytes
  decompressSafe : Bytes → Nat → Option Bytes

/-- What LZ4 documents: a compressed block is not empty, and decompressing it
with the original size as capacity gives back the original bytes. -/
structure Lz4.RoundTrips (lz4 : Lz4) : Prop where
  compressDefault : ∀ source block, lz4.compressDefault source = some block →
    block ≠ [] ∧ lz4.decompressSafe block source.length = some source
  compressHc : ∀ source block, lz4.compressHc source = some block →
    block ≠ [] ∧ lz4.decompressSafe block source.length = some source

/-- What LZ4 documents of a decompression: it writes no more than the capacity. -/
def Lz4.RespectsCapacity (lz4 : Lz4) : Prop :=
  ∀ block capacity output, lz4.decompressSafe block capacity = some output →
    output.length ≤ capacity

/-- `static_cast<int>` of a size. -/
def asInt (size : Nat) : Int :=
  if size % 2 ^ 32 < 2 ^ 31 then (size % 2 ^ 32 : Nat) else (size % 2 ^ 32 : Nat) - 2 ^ 32

/-- `LZ4_MAX_INPUT_SIZE`; beyond it `LZ4_compressBound` is 0 and nothing fits. -/
def lz4MaxInputSize : Int := 0x7E000000

theorem asInt_lt (size : Nat) : asInt size < 2 ^ 31 := by
  unfold asInt
  split <;> omega

theorem asInt_of_lt {size : Nat} (small : size < 2 ^ 31) : asInt size = size := by
  rw [asInt, Nat.mod_eq_of_lt (by omega), if_pos small]

theorem lt_of_asInt_nonneg {size : Nat} (wire : size < 2 ^ 32) (nonneg : 0 ≤ asInt size) :
    size < 2 ^ 31 := by
  rw [asInt, Nat.mod_eq_of_lt wire] at nonneg
  split at nonneg
  · assumption
  · omega

/-! ## Compressibility -/

/-- `compressed_signatures`, each cut to its length. -/
def compressedSignatures : List Bytes :=
  [[0x50, 0x4B, 0x03, 0x04], [0x50, 0x4B, 0x05, 0x06], [0x50, 0x4B, 0x07, 0x08],
    [0x1F, 0x8B], [0x28, 0xB5, 0x2F, 0xFD], [0xFD, 0x37, 0x7A, 0x58, 0x5A, 0x00],
    [0x42, 0x5A, 0x68], [0x04, 0x22, 0x4D, 0x18], [0xFF, 0xD8, 0xFF],
    [0x89, 0x50, 0x4E, 0x47, 0x0D, 0x0A, 0x1A, 0x0A], [0x47, 0x49, 0x46, 0x38],
    [0x52, 0x49, 0x46, 0x46], [0xFF, 0xFB], [0x25, 0x50, 0x44, 0x46],
    [0x37, 0x7A, 0xBC, 0xAF, 0x27, 0x1C]]

/-- `is_mp4_format`: `ftyp` at offset 4. -/
def isMp4Format (data : Bytes) : Bool :=
  12 ≤ data.length && (data.drop 4).take 4 == [0x66, 0x74, 0x79, 0x70]

def isPrecompressedFormat (data : Bytes) : Bool :=
  8 ≤ data.length &&
    (compressedSignatures.any (fun signature => signature.isPrefixOf data) || isMp4Format data)

def sampleSize : Nat := 4096

inductive CompressionLevel
  | fast
  | high
  deriving DecidableEq

/-- `compression_engine::is_compressible`.  The ratio of two sizes of at most a
few thousand bytes reaches 1.1 as a `double` exactly when it does as a
fraction. -/
def isCompressible (lz4 : Option Lz4) (data : Bytes) : Bool :=
  match lz4 with
  | none => false
  | some lz4 =>
      if data = [] then false
      else if isPrecompressedFormat data then false
      else
        let sample := data.take sampleSize
        match lz4.compressDefault sample with
        | none => false
        | some block => 11 * block.length ≤ 10 * sample.length

theorem ne_nil_of_isCompressible {lz4 : Option Lz4} {data : Bytes}
    (compressible : isCompressible lz4 data = true) : data ≠ [] := by
  rintro rfl
  cases lz4 <;> contradiction

/-! ## Blocks -/

def compress (lz4 : Option Lz4) (level : CompressionLevel) (input : Bytes) : Result Bytes :=
  match lz4 with
  | none => unexpected .internalError "LZ4 compression not enabled"
  | some lz4 =>
      if input = [] then .ok []
      else
        let srcSize := asInt input.length
        if srcSize < 0 ∨ lz4MaxInputSize < srcSize then
          unexpected .internalError "LZ4 compression failed"
        else
          let source := input.take srcSize.toNat
          let block := match level with
            | .high => lz4.compressHc source
            | .fast => lz4.compressDefault source
          match block with
          | none => unexpected .internalError "LZ4 compression failed"
          | some output => .ok output

/-- `decompress` of a block, in the engine and in the client's own copy
`decompress_lz4`. -/
def decompress (lz4 : Option Lz4) (input : Bytes) (originalSize : Nat) : Result Bytes :=
  match lz4 with
  | none => unexpected .internalError "LZ4 compression not enabled"
  | some lz4 =>
      if input = [] then .ok []
      else if asInt input.length < 0 ∨ asInt originalSize < 0 then
        unexpected .internalError "LZ4 decompression failed: corrupted data"
      else
        match lz4.decompressSafe (input.take (asInt input.length).toNat)
            (asInt originalSize).toNat with
        | none => unexpected .internalError "LZ4 decompression failed: corrupted data"
        | some output =>
            if output.length ≠ originalSize then
              unexpected .internalError "LZ4 decompression size mismatch"
            else .ok output

variable {library : Option Lz4} {input block : Bytes} {level : CompressionLevel}

theorem length_decompress_lt {output : Bytes} {originalSize : Nat}
    (respects : ∀ lz4, library = some lz4 → lz4.RespectsCapacity)
    (decompressed : decompress library input originalSize = .ok output) :
    output.length < 2 ^ 31 := by
  cases library with
  | none => contradiction
  | some lz4 =>
      unfold decompress at decompressed
      dsimp only at decompressed
      split at decompressed
      · cases decompressed
        decide
      split at decompressed
      · contradiction
      split at decompressed
      · contradiction
      rename_i written stored
      have capacity := respects lz4 rfl _ _ _ stored
      have small := asInt_lt originalSize
      split at decompressed
      · contradiction
      · cases decompressed
        omega

theorem length_decompress {output : Bytes} {originalSize : Nat} (nonempty : input ≠ [])
    (decompressed : decompress library input originalSize = .ok output) :
    output.length = originalSize := by
  cases library with
  | none => contradiction
  | some lz4 =>
      unfold decompress at decompressed
      dsimp only at decompressed
      rw [if_neg nonempty] at decompressed
      split at decompressed
      · contradiction
      split at decompressed
      · contradiction
      split at decompressed
      · contradiction
      · rename_i same
        cases decompressed
        exact not_not.mp same

theorem compress_ne_nil (roundTrips : ∀ lz4, library = some lz4 → lz4.RoundTrips)
    (compressed : compress library level input = .ok block) (nonempty : input ≠ []) :
    block ≠ [] := by
  cases library with
  | none => contradiction
  | some lz4 =>
      have documented := roundTrips lz4 rfl
      simp only [compress, nonempty, if_false] at compressed
      split at compressed
      · contradiction
      split at compressed
      · contradiction
      rename_i output stored
      cases compressed
      cases level with
      | fast => exact (documented.compressDefault _ _ stored).1
      | high => exact (documented.compressHc _ _ stored).1

theorem compress_eq_ok (compressed : compress library level input = .ok block)
    (nonempty : input ≠ []) (wire : input.length < 2 ^ 32) :
    ∃ lz4, library = some lz4 ∧ input.length < 2 ^ 31 ∧
      (lz4.compressDefault input = some block ∨ lz4.compressHc input = some block) := by
  cases library with
  | none => simp [compress, unexpected] at compressed
  | some lz4 =>
      simp only [compress, nonempty, if_false] at compressed
      split at compressed
      · simp [unexpected] at compressed
      · rename_i sized
        have small : input.length < 2 ^ 31 := by
          apply lt_of_asInt_nonneg wire
          omega
        rw [asInt_of_lt small, Int.toNat_natCast, List.take_length] at compressed
        refine ⟨lz4, rfl, small, ?_⟩
        cases level with
        | fast =>
            cases stored : lz4.compressDefault input with
            | none => simp [stored, unexpected] at compressed
            | some output =>
                rw [stored] at compressed
                cases compressed
                exact Or.inl rfl
        | high =>
            cases stored : lz4.compressHc input with
            | none => simp [stored, unexpected] at compressed
            | some output =>
                rw [stored] at compressed
                cases compressed
                exact Or.inr rfl

theorem decompress_compress (roundTrips : ∀ lz4, library = some lz4 → lz4.RoundTrips)
    (compressed : compress library level input = .ok block) (nonempty : input ≠ [])
    (wire : input.length < 2 ^ 32) (shorter : block.length < input.length) :
    decompress library block input.length = .ok input := by
  obtain ⟨lz4, rfl, small, stored⟩ := compress_eq_ok compressed nonempty wire
  have restores : block ≠ [] ∧ lz4.decompressSafe block input.length = some input := by
    rcases stored with stored | stored
    · exact (roundTrips lz4 rfl).compressDefault input block stored
    · exact (roundTrips lz4 rfl).compressHc input block stored
  have blockSmall : block.length < 2 ^ 31 := by omega
  have sized : ¬ ((block.length : Int) < 0 ∨ (input.length : Int) < 0) := by omega
  simp only [decompress, restores.1, if_false, asInt_of_lt small, asInt_of_lt blockSmall,
    sized, Int.toNat_natCast, List.take_length, restores.2, ne_eq, not_true_eq_false]

end FileTrans.Core
