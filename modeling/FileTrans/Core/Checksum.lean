import FileTrans.Core.Types
import FileTrans.Text.Numeral

/-!
# Checksums

The table-driven CRC-32 and the block-wise SHA-256 of the checksum utilities.
`sha256File` follows the loop that reads a file in blocks of 64 bytes and pads
the first short block.
-/

namespace FileTrans.Core.Checksum

/-! ## CRC-32 -/

/-- `CRC32_POLYNOMIAL`, the reflected IEEE 802.3 polynomial. -/
def crc32Polynomial : UInt32 := 0xEDB88320

/-- One of the eight bit steps of `generate_crc32_table`. -/
def crc32TableStep (crc : UInt32) : UInt32 :=
  if crc &&& 1 != 0 then (crc >>> 1) ^^^ crc32Polynomial else crc >>> 1

/-- `CRC32_TABLE`, as a function of the index. -/
def crc32Table (index : UInt8) : UInt32 :=
  Nat.iterate crc32TableStep 8 index.toUInt32

/-- The loop body of `checksum::crc32`. -/
def crc32Update (crc : UInt32) (byte : UInt8) : UInt32 :=
  crc32Table (crc.toUInt8 ^^^ byte) ^^^ (crc >>> 8)

def crc32 (data : Bytes) : UInt32 :=
  data.foldl crc32Update 0xFFFFFFFF ^^^ 0xFFFFFFFF

def verifyCrc32 (data : Bytes) (expected : UInt32) : Bool :=
  crc32 data == expected

/-! ## SHA-256 -/

def sha256K : List UInt32 :=
  [0x428a2f98, 0x71374491, 0xb5c0fbcf, 0xe9b5dba5, 0x3956c25b, 0x59f111f1,
    0x923f82a4, 0xab1c5ed5, 0xd807aa98, 0x12835b01, 0x243185be, 0x550c7dc3,
    0x72be5d74, 0x80deb1fe, 0x9bdc06a7, 0xc19bf174, 0xe49b69c1, 0xefbe4786,
    0x0fc19dc6, 0x240ca1cc, 0x2de92c6f, 0x4a7484aa, 0x5cb0a9dc, 0x76f988da,
    0x983e5152, 0xa831c66d, 0xb00327c8, 0xbf597fc7, 0xc6e00bf3, 0xd5a79147,
    0x06ca6351, 0x14292967, 0x27b70a85, 0x2e1b2138, 0x4d2c6dfc, 0x53380d13,
    0x650a7354, 0x766a0abb, 0x81c2c92e, 0x92722c85, 0xa2bfe8a1, 0xa81a664b,
    0xc24b8b70, 0xc76c51a3, 0xd192e819, 0xd6990624, 0xf40e3585, 0x106aa070,
    0x19a4c116, 0x1e376c08, 0x2748774c, 0x34b0bcb5, 0x391c0cb3, 0x4ed8aa4a,
    0x5b9cca4f, 0x682e6ff3, 0x748f82ee, 0x78a5636f, 0x84c87814, 0x8cc70208,
    0x90befffa, 0xa4506ceb, 0xbef9a3f7, 0xc67178f2]

/-- The eight working words `a` to `h`. -/
structure Sha256State where
  a : UInt32
  b : UInt32
  c : UInt32
  d : UInt32
  e : UInt32
  f : UInt32
  g : UInt32
  h : UInt32
  deriving DecidableEq

def sha256H0 : Sha256State :=
  ⟨0x6a09e667, 0xbb67ae85, 0x3c6ef372, 0xa54ff53a, 0x510e527f, 0x9b05688c,
    0x1f83d9ab, 0x5be0cd19⟩

def rotr (x n : UInt32) : UInt32 :=
  (x >>> n) ||| (x <<< (32 - n))

/-- The first sixteen words of the message schedule, read big-endian. -/
def blockWords : Bytes → List UInt32
  | b0 :: b1 :: b2 :: b3 :: rest =>
      ((b0.toUInt32 <<< 24) ||| (b1.toUInt32 <<< 16) ||| (b2.toUInt32 <<< 8) |||
        b3.toUInt32) :: blockWords rest
  | _ => []

/-- Append `count` further words to the message schedule `w`. -/
def extendSchedule : Nat → List UInt32 → List UInt32
  | 0, w => w
  | count + 1, w =>
      let word (back : Nat) := w.getD (w.length - back) 0
      let s0 := rotr (word 15) 7 ^^^ rotr (word 15) 18 ^^^ (word 15 >>> 3)
      let s1 := rotr (word 2) 17 ^^^ rotr (word 2) 19 ^^^ (word 2 >>> 10)
      extendSchedule count (w ++ [word 16 + s0 + word 7 + s1])

/-- One round of the main loop, for the round constant `k` and the word `w`. -/
def sha256Round (s : Sha256State) (k w : UInt32) : Sha256State :=
  let S1 := rotr s.e 6 ^^^ rotr s.e 11 ^^^ rotr s.e 25
  let ch := (s.e &&& s.f) ^^^ (~~~s.e &&& s.g)
  let temp1 := s.h + S1 + ch + k + w
  let S0 := rotr s.a 2 ^^^ rotr s.a 13 ^^^ rotr s.a 22
  let maj := (s.a &&& s.b) ^^^ (s.a &&& s.c) ^^^ (s.b &&& s.c)
  let temp2 := S0 + maj
  ⟨temp1 + temp2, s.a, s.b, s.c, s.d + temp1, s.e, s.f, s.g⟩

/-- `sha256_transform` on one block of 64 bytes. -/
def sha256Transform (state : Sha256State) (block : Bytes) : Sha256State :=
  let w := extendSchedule 48 (blockWords block)
  let s := (sha256K.zip w).foldl (fun s kw => sha256Round s kw.1 kw.2) state
  ⟨state.a + s.a, state.b + s.b, state.c + s.c, state.d + s.d, state.e + s.e,
    state.f + s.f, state.g + s.g, state.h + s.h⟩

/-- The `width` low bytes of a number, most significant first. -/
def bigEndian (number : Nat) : Nat → Bytes
  | 0 => []
  | width + 1 => UInt8.ofNat (number >>> (8 * width)) :: bigEndian number width

/-- The final block or blocks: `tail` holds the fewer than 64 bytes that are
left, `totalBytes` the length of the whole message. -/
def sha256Finish (state : Sha256State) (tail : Bytes) (totalBytes : Nat) : Sha256State :=
  let length := bigEndian (totalBytes * 8 % 2 ^ 64) 8
  let padded := tail ++ [0x80]
  if padded.length > 56 then
    let state := sha256Transform state (padded ++ List.replicate (64 - padded.length) 0)
    sha256Transform state (List.replicate 56 0 ++ length)
  else
    sha256Transform state (padded ++ List.replicate (56 - padded.length) 0 ++ length)

/-- The reading loop of `sha256_file`: whole blocks of 64 bytes, then the
short one. -/
def sha256Blocks (state : Sha256State) (unread : Bytes) (totalBytes : Nat) : Sha256State :=
  if 64 ≤ unread.length then
    sha256Blocks (sha256Transform state (unread.take 64)) (unread.drop 64) (totalBytes + 64)
  else
    sha256Finish state unread (totalBytes + unread.length)
termination_by unread.length
decreasing_by
  rw [List.length_drop]
  omega

/-- `hash_to_hex` of the final state. -/
def hashToHex (s : Sha256State) : Bytes :=
  [s.a, s.b, s.c, s.d, s.e, s.f, s.g, s.h].flatMap fun word =>
    (bigEndian word.toNat 4).flatMap Text.hexByte

/-- `checksum::sha256_file` on a file with the given content. -/
def sha256File (content : Bytes) : Bytes :=
  hashToHex (sha256Blocks sha256H0 content 0)

/-- `checksum::verify_sha256`; a file that cannot be opened verifies nothing. -/
def verifySha256 (content : Option Bytes) (expected : Bytes) : Bool :=
  match content with
  | none => false
  | some content => sha256File content == expected

/-- The empty message; the initial and final inversions cancel. -/
example : crc32 [] = 0 := by decide

/-- The standard check value of CRC-32. -/
example : crc32 (Text.ascii "123456789") = 0xCBF43926 := by decide +kernel

theorem verifyCrc32_crc32 (data : Bytes) : verifyCrc32 data (crc32 data) = true := by
  simp [verifyCrc32]

theorem verifyCrc32_eq_true_iff {data : Bytes} {expected : UInt32} :
    verifyCrc32 data expected = true ↔ crc32 data = expected := by
  simp [verifyCrc32]

theorem verifySha256_self (content : Bytes) :
    verifySha256 (some content) (sha256File content) = true := by
  simp [verifySha256]

end FileTrans.Core.Checksum
