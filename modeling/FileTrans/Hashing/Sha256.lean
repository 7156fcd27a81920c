import Mathlib.Data.List.TakeDrop
import Mathlib.Data.Nat.Bitwise
import Mathlib.Data.Nat.NthRoot.Defs
import Mathlib.Data.Nat.Prime.Basic
import Mathlib.Tactic.Ring

/-!
# SHA-256

The hash function on strings of bits, as the secure hash standard defines it:
the message is padded to blocks of 512 bits, each block is expanded to a
schedule of 64 words, and 64 rounds mix the schedule into the hash value.

A number is written with so many bits, the highest first, and read back.  The
bytes of a message follow each other the same way.
-/

namespace FileTrans.Hashing

/-! ## Bit strings -/

/-- The low bits of a number, the highest first. -/
def natBits : Nat → Nat → List Bool
  | 0, _ => []
  | width + 1, value => value.testBit width :: natBits width value

/-- The number that the bits write. -/
def bitsNat (bits : List Bool) : Nat :=
  bits.foldl (fun value bit => 2 * value + bit.toNat) 0

def bytesBits (bytes : List UInt8) : List Bool :=
  bytes.flatMap fun byte => natBits 8 byte.toNat

@[simp]
theorem length_natBits (width value : Nat) : (natBits width value).length = width := by
  induction width with
  | zero => rfl
  | succ width ih => rw [natBits, List.length_cons, ih]

theorem natBits_add (high low value : Nat) :
    natBits (high + low) value = natBits high (value >>> low) ++ natBits low value := by
  induction high with
  | zero => rw [Nat.zero_add, natBits, List.nil_append]
  | succ high ih =>
      rw [Nat.succ_add, natBits, natBits, ih, Nat.testBit_shiftRight, List.cons_append,
        Nat.add_comm]

theorem natBits_congr {width first second : Nat}
    (agree : ∀ position < width, first.testBit position = second.testBit position) :
    natBits width first = natBits width second := by
  induction width with
  | zero => rfl
  | succ width ih =>
      rw [natBits, natBits, agree width (Nat.lt_succ_self width),
        ih fun position below => agree position (Nat.lt_succ_of_lt below)]

theorem natBits_zero (width : Nat) : natBits width 0 = List.replicate width false := by
  induction width with
  | zero => rfl
  | succ width ih => rw [natBits, ih, Nat.zero_testBit, List.replicate_succ]

theorem bitsNat_append (first second : List Bool) :
    bitsNat (first ++ second) = bitsNat first * 2 ^ second.length + bitsNat second := by
  have from_any (start : Nat) : second.foldl (fun value bit => 2 * value + bit.toNat) start =
      start * 2 ^ second.length + bitsNat second := by
    induction second generalizing start with
    | nil => simp [bitsNat]
    | cons bit rest ih =>
        have whole : bitsNat (bit :: rest) =
            (2 * 0 + bit.toNat) * 2 ^ rest.length + bitsNat rest := by
          rw [bitsNat, List.foldl_cons, ih]
        rw [List.foldl_cons, ih, whole, List.length_cons]
        ring
  rw [bitsNat, List.foldl_append, from_any]
  rfl

theorem bitsNat_natBits (width value : Nat) :
    bitsNat (natBits width value) = value % 2 ^ width := by
  induction width with
  | zero => rw [natBits, Nat.pow_zero, Nat.mod_one]; rfl
  | succ width ih =>
      rw [natBits, ← List.singleton_append, bitsNat_append, ih, length_natBits,
        Nat.mod_pow_succ, ← Nat.toNat_testBit]
      have single : bitsNat [value.testBit width] = (value.testBit width).toNat := by
        simp [bitsNat]
      rw [single]
      ring

/-! ## Bytes -/

theorem bytesBits_append (first second : List UInt8) :
    bytesBits (first ++ second) = bytesBits first ++ bytesBits second :=
  List.flatMap_append

theorem bytesBits_cons (byte : UInt8) (rest : List UInt8) :
    bytesBits (byte :: rest) = natBits 8 byte.toNat ++ bytesBits rest :=
  List.flatMap_cons

@[simp]
theorem length_bytesBits (bytes : List UInt8) : (bytesBits bytes).length = 8 * bytes.length := by
  induction bytes with
  | nil => rfl
  | cons byte rest ih =>
      rw [bytesBits_cons, List.length_append, length_natBits, ih, List.length_cons]
      omega

theorem bytesBits_drop (bytes : List UInt8) (count : Nat) :
    (bytesBits bytes).drop (8 * count) = bytesBits (bytes.drop count) := by
  induction count generalizing bytes with
  | zero => rfl
  | succ count ih =>
      cases bytes with
      | nil => simp [bytesBits]
      | cons byte rest =>
          rw [bytesBits_cons, List.drop_succ_cons, ← ih, Nat.mul_succ, Nat.add_comm,
            ← List.drop_drop, List.drop_left' (length_natBits 8 _)]

theorem bytesBits_take (bytes : List UInt8) (count : Nat) :
    (bytesBits bytes).take (8 * count) = bytesBits (bytes.take count) := by
  have parts : bytesBits bytes = bytesBits (bytes.take count) ++ bytesBits (bytes.drop count) := by
    rw [← bytesBits_append, List.take_append_drop]
  rcases Nat.le_total count bytes.length with some | all
  · rw [parts, List.take_left']
    rw [length_bytesBits, List.length_take, Nat.min_eq_left some]
  · rw [List.take_of_length_le all, List.take_of_length_le]
    rw [length_bytesBits]
    omega

theorem bytesBits_replicate_zero (count : Nat) :
    bytesBits (List.replicate count 0) = List.replicate (8 * count) false := by
  induction count with
  | zero => rfl
  | succ count ih =>
      rw [List.replicate_succ, bytesBits_cons, ih, UInt8.toNat_zero, natBits_zero,
        List.replicate_append_replicate]
      congr 1
      omega

/-! ## Words -/

/-- The circular right shift of a word. -/
def rotateRight (count : Nat) (word : UInt32) : UInt32 :=
  ⟨word.toBitVec.rotateRight count⟩

def shiftRight (count : Nat) (word : UInt32) : UInt32 :=
  ⟨word.toBitVec >>> count⟩

/-- `Ch`. -/
def choose (x y z : UInt32) : UInt32 :=
  (x &&& y) ^^^ (~~~x &&& z)

/-- `Maj`. -/
def majority (x y z : UInt32) : UInt32 :=
  (x &&& y) ^^^ (x &&& z) ^^^ (y &&& z)

/-- The function written with an upper-case sigma and 0. -/
def bigSigma0 (x : UInt32) : UInt32 :=
  rotateRight 2 x ^^^ rotateRight 13 x ^^^ rotateRight 22 x

/-- The function written with an upper-case sigma and 1. -/
def bigSigma1 (x : UInt32) : UInt32 :=
  rotateRight 6 x ^^^ rotateRight 11 x ^^^ rotateRight 25 x

/-- The function written with a lower-case sigma and 0. -/
def smallSigma0 (x : UInt32) : UInt32 :=
  rotateRight 7 x ^^^ rotateRight 18 x ^^^ shiftRight 3 x

/-- The function written with a lower-case sigma and 1. -/
def smallSigma1 (x : UInt32) : UInt32 :=
  rotateRight 17 x ^^^ rotateRight 19 x ^^^ shiftRight 10 x

/-! ## Constants -/

/-- The first 64 primes. -/
def primes : List Nat :=
  (List.range 312).filter Nat.Prime

/-- The first 32 bits of the fractional part of a root. -/
def fractionOfRoot (degree number : Nat) : UInt32 :=
  .ofNat (Nat.nthRoot degree (number * 2 ^ (32 * degree)))

/-- The round constants: from the cube roots of the primes. -/
def roundConstants : List UInt32 :=
  primes.map (fractionOfRoot 3)

/-- The eight words of a hash value, and of the working variables. -/
structure HashValue where
  a : UInt32
  b : UInt32
  c : UInt32
  d : UInt32
  e : UInt32
  f : UInt32
  g : UInt32
  h : UInt32
  deriving DecidableEq

namespace HashValue

/-- The words in their order. -/
def words (value : HashValue) : List UInt32 :=
  [value.a, value.b, value.c, value.d, value.e, value.f, value.g, value.h]

/-- The sum, word by word. -/
def add (first second : HashValue) : HashValue :=
  ⟨first.a + second.a, first.b + second.b, first.c + second.c, first.d + second.d,
    first.e + second.e, first.f + second.f, first.g + second.g, first.h + second.h⟩

theorem add_comm (first second : HashValue) : first.add second = second.add first := by
  simp only [add, UInt32.add_comm]

end HashValue

/-- The initial hash value: from the square roots of the first eight primes. -/
def initialHash : HashValue where
  a := fractionOfRoot 2 2
  b := fractionOfRoot 2 3
  c := fractionOfRoot 2 5
  d := fractionOfRoot 2 7
  e := fractionOfRoot 2 11
  f := fractionOfRoot 2 13
  g := fractionOfRoot 2 17
  h := fractionOfRoot 2 19

/-! ## Preprocessing -/

/-- The number of zeros of the padding: the least one that makes the length, with the one before
and the 64 bits after the zeros, a multiple of 512. -/
def paddingZeros (length : Nat) : Nat :=
  (447 + 512 - length % 512) % 512

def padded (message : List Bool) : List Bool :=
  message ++ true :: List.replicate (paddingZeros message.length) false ++
    natBits 64 message.length

def blockWord (block : List Bool) (position : Nat) : UInt32 :=
  .ofNat (bitsNat ((block.drop (32 * position)).take 32))

/-- The blocks of a padded message. -/
def blocks (message : List Bool) : List (List Bool) :=
  (List.range (message.length / 512)).map fun index => (message.drop (512 * index)).take 512

/-! ## Hash computation -/

def schedule (block : List Bool) (time : Nat) : UInt32 :=
  if time < 16 then blockWord block time
  else
    smallSigma1 (schedule block (time - 2)) + schedule block (time - 7) +
      smallSigma0 (schedule block (time - 15)) + schedule block (time - 16)
termination_by time

/-- One round, with the constant and the word of the schedule for it. -/
def round (value : HashValue) (constant word : UInt32) : HashValue :=
  let t1 := value.h + bigSigma1 value.e + choose value.e value.f value.g + constant + word
  let t2 := bigSigma0 value.a + majority value.a value.b value.c
  ⟨t1 + t2, value.a, value.b, value.c, value.d + t1, value.e, value.f, value.g⟩

/-- The next hash value. -/
def compress (value : HashValue) (block : List Bool) : HashValue :=
  ((List.range 64).foldl
    (fun working time => round working (roundConstants.getD time 0) (schedule block time))
    value).add value

/-- The digest of a message. -/
def sha256 (message : List Bool) : List Bool :=
  ((blocks (padded message)).foldl compress initialHash).words.flatMap fun word =>
    natBits 32 word.toNat

/-- The digits `0` to `9` and `a` to `f`. -/
def lowerHexDigit (value : Nat) : UInt8 :=
  .ofNat (if value < 10 then 48 + value else 87 + value)

/-- Bits in lower-case hexadecimal, four to a digit. -/
def lowerHex : List Bool → List UInt8
  | first :: second :: third :: fourth :: rest =>
      lowerHexDigit (bitsNat [first, second, third, fourth]) :: lowerHex rest
  | _ => []

/-! ## Lengths -/

theorem schedule_of_lt (block : List Bool) {time : Nat} (early : time < 16) :
    schedule block time = blockWord block time := by
  rw [schedule, if_pos early]

theorem schedule_of_le (block : List Bool) {time : Nat} (late : 16 ≤ time) :
    schedule block time =
      smallSigma1 (schedule block (time - 2)) + schedule block (time - 7) +
        smallSigma0 (schedule block (time - 15)) + schedule block (time - 16) := by
  rw [schedule, if_neg (Nat.not_lt.mpr late)]

theorem blocks_of_lt {message : List Bool} (short : message.length < 512) :
    blocks message = [] := by
  rw [blocks, Nat.div_eq_of_lt short]
  rfl

theorem blocks_of_le {message : List Bool} (long : 512 ≤ message.length) :
    blocks message = message.take 512 :: blocks (message.drop 512) := by
  have count : message.length / 512 = (message.drop 512).length / 512 + 1 := by
    rw [List.length_drop]
    omega
  rw [blocks, count, List.range_succ_eq_map, List.map_cons, List.map_map, blocks]
  congr 1
  apply List.map_congr_left
  intro index _
  rw [Function.comp_apply, List.drop_drop, Nat.mul_succ, Nat.add_comm]

theorem lowerHex_natBits_append (value : Nat) (bits : List Bool) :
    lowerHex (natBits 4 value ++ bits) = lowerHexDigit (value % 16) :: lowerHex bits := by
  have digit : bitsNat (natBits 4 value) = value % 16 := bitsNat_natBits 4 value
  rw [← digit]
  rfl

/-! ## Primes below 312 -/

/-- Nothing from 2 up to 17 divides the number, but perhaps itself. -/
def hasNoSmallDivisor (number : Nat) : Bool :=
  decide (2 ≤ number) &&
    (List.range 18).all fun divisor =>
      decide (divisor < 2) || decide (number ≤ divisor) || number % divisor != 0

theorem prime_iff_of_lt {number : Nat} (small : number < 312) :
    number.Prime ↔ hasNoSmallDivisor number = true := by
  rw [hasNoSmallDivisor, Bool.and_eq_true, decide_eq_true_iff, List.all_eq_true]
  constructor
  · intro prime
    obtain ⟨two, indivisible⟩ := Nat.prime_def_lt'.mp prime
    refine ⟨two, fun divisor _ => ?_⟩
    by_cases proper : 2 ≤ divisor ∧ divisor < number
    · have remains := indivisible divisor proper.1 proper.2
      rw [Nat.dvd_iff_mod_eq_zero] at remains
      simp [remains]
    · have outside : divisor < 2 ∨ number ≤ divisor := by omega
      rcases outside with low | high
      · simp [low]
      · simp [high]
  · rintro ⟨two, indivisible⟩
    refine Nat.prime_def_le_sqrt.mpr ⟨two, fun divisor proper below divides => ?_⟩
    have root : number.sqrt < 18 := Nat.sqrt_lt'.mpr (small.trans (by decide))
    have less : number.sqrt < number := Nat.sqrt_lt_self two
    have remains := indivisible divisor (List.mem_range.mpr (by omega))
    rw [Nat.mod_eq_zero_of_dvd divides] at remains
    simp only [bne_self_eq_false, Bool.or_false, Bool.or_eq_true, decide_eq_true_iff] at remains
    omega

theorem primes_eq : primes = (List.range 312).filter hasNoSmallDivisor := by
  apply List.filter_congr
  intro number mem
  have iff := prime_iff_of_lt (List.mem_range.mp mem)
  rw [Bool.eq_iff_iff, decide_eq_true_iff]
  exact iff

end FileTrans.Hashing
