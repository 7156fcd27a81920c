import FileTrans.Core.Checksum

/-!
# The two loops of SHA-256

`compute_sha256` puts the data into the block byte by byte, and `sha256_file`
reads the file block by block, each with its own padding.  The block is one
array that is written again and again, so that behind the position there are
bytes of earlier blocks.  Both come down to the transforms of the padded
message, one block after the other.
-/

namespace FileTrans.Core.Checksum

/-- The array `block` and the position `block_pos` in it. -/
structure BlockBuffer where
  block : Bytes
  blockPos : Nat

namespace BlockBuffer

/-- An array of zeros, and the position before it. -/
def empty : BlockBuffer :=
  ⟨List.replicate 64 0, 0⟩

/-- `block[block_pos++] = byte`. -/
def put (buffer : BlockBuffer) (byte : UInt8) : BlockBuffer :=
  ⟨buffer.block.set buffer.blockPos byte, buffer.blockPos + 1⟩

/-- The loop that puts zeros while `block_pos < limit`. -/
def putZeros (limit : Nat) (buffer : BlockBuffer) : BlockBuffer :=
  if buffer.blockPos < limit then (buffer.put 0).putZeros limit else buffer
termination_by limit - buffer.blockPos
decreasing_by
  change limit - (buffer.blockPos + 1) < limit - buffer.blockPos
  omega

/-- The loop that appends the length, with `i` from 7 down to 0. -/
def putLength (buffer : BlockBuffer) (bitLength : UInt64) : BlockBuffer :=
  ([7, 6, 5, 4, 3, 2, 1, 0] : List UInt64).foldl
    (fun buffer i => buffer.put (bitLength >>> (i * 8)).toUInt8) buffer

end BlockBuffer

/-- The loop body of `compute_sha256`. -/
def putByte (hashed : Sha256State × BlockBuffer) (byte : UInt8) : Sha256State × BlockBuffer :=
  let buffer := hashed.2.put byte
  if buffer.blockPos = 64 then
    (sha256Transform hashed.1 buffer.block, { buffer with blockPos := 0 })
  else (hashed.1, buffer)

/-- What both functions do after the last byte.  When the length does not fit, an extra block is
transformed, and the array is left as `cleared` says. -/
def finish (cleared : Bytes → Bytes) (state : Sha256State) (buffer : BlockBuffer)
    (bitLength : UInt64) : Sha256State :=
  let buffer := buffer.put 0x80
  let hashed :=
    if buffer.blockPos > 56 then
      let buffer := buffer.putZeros 64
      (sha256Transform state buffer.block, ⟨cleared buffer.block, 0⟩)
    else (state, buffer)
  let buffer := (hashed.2.putZeros 56).putLength bitLength
  sha256Transform hashed.1 buffer.block

/-- `compute_sha256`: the array keeps its bytes. -/
def computeSha256 (data : Bytes) : Sha256State :=
  let hashed := data.foldl putByte (sha256H0, .empty)
  let bitLength := UInt64.ofNat data.length * 8
  finish id hashed.1 hashed.2 bitLength

def sha256 (data : Bytes) : Bytes :=
  hashToHex (computeSha256 data)

/-- The loop of `sha256_file`: `read` puts up to 64 bytes at the front of the block, and
`block.fill(0)` clears it. -/
def sha256FileLoop (state : Sha256State) (block : Bytes) (totalBytes : UInt64)
    (unread : Bytes) : Sha256State :=
  let read := unread.take 64
  let block := read ++ block.drop read.length
  let totalBytes := totalBytes + UInt64.ofNat read.length
  if 64 = read.length then
    sha256FileLoop (sha256Transform state block) block totalBytes (unread.drop 64)
  else
    let bitLength := totalBytes * 8
    finish (fun _ => List.replicate 64 0) state ⟨block, read.length⟩ bitLength
termination_by unread.length
decreasing_by
  rename_i whole
  rw [List.length_take] at whole
  rw [List.length_drop]
  omega

/-- `checksum::sha256_file` on a file with the given content, with the array that it reads
into. -/
def sha256FileBuffered (content : Bytes) : Bytes :=
  hashToHex (sha256FileLoop sha256H0 (List.replicate 64 0) 0 content)

/-! ## Blocks one after the other -/

/-- The transforms of whole blocks. -/
def absorbBlocks (state : Sha256State) (bytes : Bytes) : Sha256State :=
  if 64 ≤ bytes.length then
    absorbBlocks (sha256Transform state (bytes.take 64)) (bytes.drop 64)
  else state
termination_by bytes.length
decreasing_by
  rw [List.length_drop]
  omega

/-- What follows a message of so many bytes, with the length as the code appends it. -/
def padding (length : Nat) (bitLength : UInt64) : Bytes :=
  0x80 :: List.replicate ((119 - length % 64) % 64) 0 ++ bigEndian bitLength.toNat 8

variable {block rest message : Bytes} {hashed : Sha256State × BlockBuffer}

theorem absorbBlocks_block (state : Sha256State) (whole : block.length = 64) (rest : Bytes) :
    absorbBlocks state (block ++ rest) = absorbBlocks (sha256Transform state block) rest := by
  rw [absorbBlocks, if_pos (by rw [List.length_append]; omega), List.take_left' whole,
    List.drop_left' whole]

theorem absorbBlocks_nil (state : Sha256State) : absorbBlocks state [] = state := by
  rw [absorbBlocks, if_neg (by decide)]

theorem absorbBlocks_single (state : Sha256State) (whole : block.length = 64) :
    absorbBlocks state block = sha256Transform state block := by
  have single := absorbBlocks_block state whole []
  rwa [List.append_nil, absorbBlocks_nil] at single

/-! ## What the buffer holds -/

/-- The bytes stand in the block, up to the position. -/
structure BlockBuffer.Holds (buffer : BlockBuffer) (content : Bytes) : Prop where
  length_block : buffer.block.length = 64
  blockPos : buffer.blockPos = content.length
  content : buffer.block.take content.length = content

namespace BlockBuffer

variable {buffer : BlockBuffer} {content : Bytes}

theorem holds_nil (block : Bytes) (length : block.length = 64) : Holds ⟨block, 0⟩ [] :=
  ⟨length, rfl, rfl⟩

theorem Holds.put (holds : buffer.Holds content) (room : content.length < 64) (byte : UInt8) :
    (buffer.put byte).Holds (content ++ [byte]) where
  length_block := by
    rw [BlockBuffer.put, List.length_set]
    exact holds.length_block
  blockPos := by
    rw [BlockBuffer.put, List.length_append, holds.blockPos]
    rfl
  content := by
    have inside : content.length < (buffer.block.set content.length byte).length := by
      rwa [List.length_set, holds.length_block]
    rw [BlockBuffer.put, holds.blockPos, List.length_append, List.length_singleton,
      List.take_succ_eq_append_getElem inside, List.take_set_of_le (Nat.le_refl _),
      holds.content, List.getElem_set_self]

theorem Holds.block_eq (holds : buffer.Holds content) (full : content.length = 64) :
    buffer.block = content := by
  have whole := holds.content
  rwa [full, ← holds.length_block, List.take_length] at whole

theorem Holds.putZeros (holds : buffer.Holds content) (limit : Nat)
    (above : content.length ≤ limit) (inside : limit ≤ 64) :
    (buffer.putZeros limit).Holds (content ++ List.replicate (limit - content.length) 0) := by
  induction missing : limit - content.length generalizing buffer content with
  | zero =>
      rw [BlockBuffer.putZeros, if_neg (by rw [holds.blockPos]; omega), List.replicate_zero,
        List.append_nil]
      exact holds
  | succ count ih =>
      have next := holds.put (by omega) 0
      have zeros := ih next (by rw [List.length_append, List.length_singleton]; omega)
        (by rw [List.length_append, List.length_singleton]; omega)
      rw [BlockBuffer.putZeros, if_pos (by rw [holds.blockPos]; omega), List.replicate_succ,
        ← List.singleton_append, ← List.append_assoc]
      exact zeros

theorem toUInt8_shiftRight (bitLength : UInt64) {i : UInt64} (small : i.toNat < 8) :
    (bitLength >>> (i * 8)).toUInt8 = UInt8.ofNat (bitLength.toNat >>> (8 * i.toNat)) := by
  have amount : (i * 8).toNat % 64 = 8 * i.toNat := by
    rw [UInt64.toNat_mul]
    change i.toNat * 8 % 2 ^ 64 % 64 = 8 * i.toNat
    omega
  apply UInt8.toNat.inj
  rw [UInt64.toNat_toUInt8, UInt64.toNat_shiftRight, amount, UInt8.toNat_ofNat']

theorem Holds.putLength (holds : buffer.Holds content) (room : content.length = 56)
    (bitLength : UInt64) :
    (buffer.putLength bitLength).Holds (content ++ bigEndian bitLength.toNat 8) := by
  have written (pending : List UInt64) (small : ∀ i ∈ pending, i.toNat < 8)
      (held : Bytes) (buffer : BlockBuffer) (holds : buffer.Holds held)
      (fits : held.length + pending.length ≤ 64) :
      (pending.foldl (fun buffer i => buffer.put (bitLength >>> (i * 8)).toUInt8) buffer).Holds
        (held ++ pending.map fun i => UInt8.ofNat (bitLength.toNat >>> (8 * i.toNat))) := by
    induction pending generalizing held buffer with
    | nil =>
        rw [List.map_nil, List.append_nil]
        exact holds
    | cons i rest ih =>
        rw [List.length_cons] at fits
        have next := holds.put (by omega) (bitLength >>> (i * 8)).toUInt8
        rw [toUInt8_shiftRight _ (small i (.head _))] at next
        rw [List.foldl_cons, List.map_cons, ← List.singleton_append, ← List.append_assoc,
          toUInt8_shiftRight _ (small i (.head _))]
        refine ih (fun j mem => small j (.tail _ mem)) _ _ next ?_
        rw [List.length_append, List.length_singleton]
        omega
  have small : ([7, 6, 5, 4, 3, 2, 1, 0] : List UInt64).all (·.toNat < 8) = true := rfl
  exact written _ (fun i mem => of_decide_eq_true (List.all_eq_true.mp small i mem)) content buffer
    holds (by rw [room]; decide)

end BlockBuffer

/-! ## The final blocks -/

theorem length_bigEndian (number width : Nat) : (bigEndian number width).length = width := by
  induction width with
  | zero => rfl
  | succ width ih => rw [bigEndian, List.length_cons, ih]

theorem padding_congr {first second : Nat} (same : first % 64 = second % 64)
    (bitLength : UInt64) : padding first bitLength = padding second bitLength := by
  rw [padding, padding, same]

theorem append_padding_of_lt (fits : rest.length < 56) (bitLength : UInt64) :
    rest ++ padding rest.length bitLength =
      rest ++ [0x80] ++ List.replicate (55 - rest.length) 0 ++ bigEndian bitLength.toNat 8 := by
  have count : (119 - rest.length % 64) % 64 = 55 - rest.length := by omega
  rw [padding, count]
  simp only [List.append_assoc, List.cons_append, List.nil_append]

theorem append_padding_of_le (past : 56 ≤ rest.length) (short : rest.length < 64)
    (bitLength : UInt64) :
    rest ++ padding rest.length bitLength =
      (rest ++ [0x80] ++ List.replicate (63 - rest.length) 0) ++
        (List.replicate 56 0 ++ bigEndian bitLength.toNat 8) := by
  have count : (119 - rest.length % 64) % 64 = (63 - rest.length) + 56 := by omega
  rw [padding, count, ← List.replicate_append_replicate]
  simp only [List.append_assoc, List.cons_append, List.nil_append]

theorem finish_eq {cleared : Bytes → Bytes}
    (cleared_length : ∀ block, block.length = 64 → (cleared block).length = 64)
    (state : Sha256State) {buffer : BlockBuffer} (holds : buffer.Holds rest)
    (short : rest.length < 64) (bitLength : UInt64) :
    finish cleared state buffer bitLength =
      absorbBlocks state (rest ++ padding rest.length bitLength) := by
  have marked := holds.put short 0x80
  have position := marked.blockPos
  have marked_length : (rest ++ [0x80]).length = rest.length + 1 := List.length_append
  rw [marked_length] at position
  rcases Nat.lt_or_ge rest.length 56 with fits | past
  · have missing : 56 - (rest.length + 1) = 55 - rest.length := by omega
    have zeros := marked.putZeros 56 (by omega) (by decide)
    rw [marked_length, missing] at zeros
    have whole := zeros.putLength (by simp; omega) bitLength
    have length : (rest ++ [0x80] ++ List.replicate (55 - rest.length) 0 ++
        bigEndian bitLength.toNat 8).length = 64 := by
      simp [length_bigEndian]
      omega
    rw [append_padding_of_lt fits, absorbBlocks_single _ length, ← whole.block_eq length]
    simp only [finish, position, gt_iff_lt]
    rw [if_neg (by omega)]
  · have missing : 64 - (rest.length + 1) = 63 - rest.length := by omega
    have zeros := marked.putZeros 64 (by omega) (Nat.le_refl 64)
    rw [marked_length, missing] at zeros
    have length : (rest ++ [0x80] ++ List.replicate (63 - rest.length) 0).length = 64 := by
      simp
      omega
    have again := (BlockBuffer.holds_nil _ (cleared_length _ zeros.length_block)).putZeros 56
      (Nat.zero_le _) (by decide)
    rw [List.nil_append, List.length_nil, Nat.sub_zero] at again
    have whole := again.putLength (by simp) bitLength
    have last : (List.replicate 56 0 ++ bigEndian bitLength.toNat 8).length = 64 := by
      simp [length_bigEndian]
    rw [append_padding_of_le past short, absorbBlocks_block _ length, absorbBlocks_single _ last,
      ← whole.block_eq last, ← zeros.block_eq length]
    simp only [finish, position, gt_iff_lt]
    rw [if_pos (by omega)]

/-! ## Byte by byte -/

/-- The message so far: its whole blocks are absorbed, and the rest stands in the buffer. -/
structure Absorbed (message : Bytes) (hashed : Sha256State × BlockBuffer) (rest : Bytes) :
    Prop where
  holds : hashed.2.Holds rest
  length_rest : rest.length = message.length % 64
  continues : ∀ suffix,
    absorbBlocks sha256H0 (message ++ suffix) = absorbBlocks hashed.1 (rest ++ suffix)

theorem Absorbed.short (absorbed : Absorbed message hashed rest) : rest.length < 64 := by
  rw [absorbed.length_rest]
  exact Nat.mod_lt _ (by decide)

theorem absorbed_nil : Absorbed [] (sha256H0, .empty) [] where
  holds := BlockBuffer.holds_nil _ List.length_replicate
  length_rest := rfl
  continues _ := rfl

theorem Absorbed.putByte (absorbed : Absorbed message hashed rest) (byte : UInt8) :
    ∃ next, Absorbed (message ++ [byte]) (putByte hashed byte) next := by
  have short := absorbed.short
  have buffered := absorbed.holds.put short byte
  have position := buffered.blockPos
  have length_message : (message ++ [byte]).length = message.length + 1 := List.length_append
  have length_rest : (rest ++ [byte]).length = rest.length + 1 := List.length_append
  have old_rest := absorbed.length_rest
  have longer (suffix : Bytes) : absorbBlocks sha256H0 (message ++ [byte] ++ suffix) =
      absorbBlocks hashed.1 (rest ++ [byte] ++ suffix) := by
    rw [List.append_assoc, absorbed.continues, ← List.append_assoc]
  rw [length_rest] at position
  by_cases full : rest.length + 1 = 64
  · refine ⟨[], ?_⟩
    rw [Checksum.putByte, if_pos (by rw [position, full]), buffered.block_eq (by omega)]
    refine ⟨BlockBuffer.holds_nil _ ?_, ?_, fun suffix => ?_⟩
    · omega
    · rw [length_message, List.length_nil]
      omega
    · rw [longer, absorbBlocks_block _ (by omega), List.nil_append]
  · refine ⟨rest ++ [byte], ?_⟩
    rw [Checksum.putByte, if_neg (by rw [position]; exact full)]
    refine ⟨buffered, ?_, longer⟩
    omega

theorem Absorbed.foldl (absorbed : Absorbed message hashed rest) (data : Bytes) :
    ∃ next, Absorbed (message ++ data) (data.foldl Checksum.putByte hashed) next := by
  induction data generalizing message hashed rest with
  | nil =>
      rw [List.append_nil]
      exact ⟨rest, absorbed⟩
  | cons byte data ih =>
      obtain ⟨next, advanced⟩ := absorbed.putByte byte
      rw [← List.singleton_append, ← List.append_assoc]
      exact ih advanced

theorem computeSha256_eq (data : Bytes) :
    computeSha256 data =
      absorbBlocks sha256H0 (data ++ padding data.length (UInt64.ofNat data.length * 8)) := by
  obtain ⟨rest, absorbed⟩ := absorbed_nil.foldl data
  rw [List.nil_append] at absorbed
  have same : rest.length % 64 = data.length % 64 := by
    rw [absorbed.length_rest, Nat.mod_mod]
  rw [absorbed.continues, ← padding_congr same]
  exact finish_eq (fun _ length => length) _ absorbed.holds absorbed.short _

/-! ## Block by block -/

theorem sha256FileLoop_eq (state : Sha256State) (length : block.length = 64) (totalBytes : UInt64)
    (unread : Bytes) :
    sha256FileLoop state block totalBytes unread =
      absorbBlocks state (unread ++
        padding unread.length ((totalBytes + UInt64.ofNat unread.length) * 8)) := by
  induction count : unread.length / 64 generalizing state block totalBytes unread with
  | zero =>
      have short : unread.length < 64 := by omega
      have all : unread.take 64 = unread := List.take_of_length_le (Nat.le_of_lt short)
      have held : BlockBuffer.Holds ⟨unread ++ block.drop unread.length, unread.length⟩ unread :=
        ⟨by rw [List.length_append, List.length_drop]; omega, rfl, List.take_left⟩
      rw [sha256FileLoop, all, if_neg (Nat.ne_of_gt short)]
      exact finish_eq (fun _ _ => List.length_replicate) state held short _
  | succ count ih =>
      have whole : (unread.take 64).length = 64 := List.length_take_of_le (by omega)
      have kept : unread.take 64 ++ block.drop 64 = unread.take 64 := by
        rw [List.drop_of_length_le (Nat.le_of_eq length), List.append_nil]
      have less : (unread.drop 64).length + 64 = unread.length := by
        rw [List.length_drop]
        omega
      have sum : totalBytes + UInt64.ofNat 64 + UInt64.ofNat (unread.drop 64).length =
          totalBytes + UInt64.ofNat unread.length := by
        rw [← less, UInt64.ofNat_add, UInt64.add_assoc, UInt64.add_comm (UInt64.ofNat 64)]
      have same : (unread.drop 64).length % 64 = unread.length % 64 := by omega
      rw [sha256FileLoop, whole, if_pos rfl, kept, ih _ whole _ _ (by omega), sum,
        padding_congr same, ← absorbBlocks_block state whole, ← List.append_assoc,
        List.take_append_drop]

theorem sha256FileBuffered_eq (content : Bytes) :
    sha256FileBuffered content = hashToHex (absorbBlocks sha256H0
      (content ++ padding content.length (UInt64.ofNat content.length * 8))) := by
  rw [sha256FileBuffered, sha256FileLoop_eq _ List.length_replicate, UInt64.zero_add]

/-! ## Without the array -/

theorem sha256Finish_eq (state : Sha256State) {tail : Bytes} (short : tail.length < 64)
    (totalBytes : Nat) :
    sha256Finish state tail totalBytes =
      absorbBlocks state (tail ++ padding tail.length (UInt64.ofNat totalBytes * 8)) := by
  have bits : (UInt64.ofNat totalBytes * 8).toNat = totalBytes * 8 % 2 ^ 64 := by
    rw [UInt64.toNat_mul, UInt64.toNat_ofNat']
    change totalBytes % 2 ^ 64 * 8 % 2 ^ 64 = totalBytes * 8 % 2 ^ 64
    omega
  have marked_length : (tail ++ [0x80]).length = tail.length + 1 := List.length_append
  rw [sha256Finish, marked_length, ← bits]
  rcases Nat.lt_or_ge tail.length 56 with fits | past
  · have missing : 56 - (tail.length + 1) = 55 - tail.length := by omega
    have length : (tail ++ [0x80] ++ List.replicate (55 - tail.length) 0 ++
        bigEndian (UInt64.ofNat totalBytes * 8).toNat 8).length = 64 := by
      simp [length_bigEndian]
      omega
    rw [if_neg (by omega), missing, append_padding_of_lt fits, absorbBlocks_single _ length]
  · have missing : 64 - (tail.length + 1) = 63 - tail.length := by omega
    have length : (tail ++ [0x80] ++ List.replicate (63 - tail.length) 0).length = 64 := by
      simp
      omega
    have last : (List.replicate 56 0 ++
        bigEndian (UInt64.ofNat totalBytes * 8).toNat 8).length = 64 := by
      simp [length_bigEndian]
    rw [if_pos (by omega), missing, append_padding_of_le past short, absorbBlocks_block _ length,
      absorbBlocks_single _ last]

theorem sha256Blocks_eq (state : Sha256State) (unread : Bytes) (totalBytes : Nat) :
    sha256Blocks state unread totalBytes =
      absorbBlocks state (unread ++
        padding unread.length (UInt64.ofNat (totalBytes + unread.length) * 8)) := by
  induction count : unread.length / 64 generalizing state unread totalBytes with
  | zero =>
      have short : unread.length < 64 := by omega
      rw [sha256Blocks, if_neg (Nat.not_le.mpr short), sha256Finish_eq state short]
  | succ count ih =>
      have whole : (unread.take 64).length = 64 := List.length_take_of_le (by omega)
      have less : (unread.drop 64).length + 64 = unread.length := by
        rw [List.length_drop]
        omega
      have sum : totalBytes + 64 + (unread.drop 64).length = totalBytes + unread.length := by omega
      have same : (unread.drop 64).length % 64 = unread.length % 64 := by omega
      rw [sha256Blocks, if_pos (by omega), ih _ _ _ (by omega), sum, padding_congr same,
        ← absorbBlocks_block state whole, ← List.append_assoc, List.take_append_drop]

theorem sha256File_eq (content : Bytes) :
    sha256File content = hashToHex (absorbBlocks sha256H0
      (content ++ padding content.length (UInt64.ofNat content.length * 8))) := by
  rw [sha256File, sha256Blocks_eq, Nat.zero_add]

theorem sha256_eq_sha256File (data : Bytes) : sha256 data = sha256File data := by
  rw [sha256, computeSha256_eq, sha256File_eq]

theorem sha256FileBuffered_eq_sha256File (content : Bytes) :
    sha256FileBuffered content = sha256File content := by
  rw [sha256FileBuffered_eq, sha256File_eq]

end FileTrans.Core.Checksum
