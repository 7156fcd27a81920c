import FileTrans.Text.Bytes
import Mathlib.Data.List.DropRight
import Mathlib.Tactic.IntervalCases

/-!
# Base64

Three bytes are four digits of six bits; a last group of one or two bytes is
padded.  Different byte strings are encoded differently.

The decoder shifts its digits into 32 bits, which it never clears.  What it takes
from them are the lowest bits that were not taken yet, and these are fewer than
fourteen.
-/

namespace FileTrans.Text

/-- The digit with value `value`, for `value < 64`. -/
def base64Digit (value : Nat) : UInt8 :=
  if value < 26 then UInt8.ofNat (0x41 + value)
  else if value < 52 then UInt8.ofNat (0x61 + (value - 26))
  else if value < 62 then UInt8.ofNat (0x30 + (value - 52))
  else if value = 62 then 0x2b
  else 0x2f

/-- The padding character. -/
def base64Pad : UInt8 := 0x3d

/-- The six bits of a group of 24 from this place on. -/
def sextet (group shift : Nat) : UInt8 :=
  base64Digit (group / 2 ^ shift % 64)

/-- The 24 bits of three bytes. -/
def base64Group (first second third : UInt8) : Nat :=
  first.toNat * 2 ^ 16 + second.toNat * 2 ^ 8 + third.toNat

def base64Encode : Bytes → Bytes
  | [] => []
  | [first] =>
      let group := base64Group first 0 0
      [sextet group 18, sextet group 12, base64Pad, base64Pad]
  | [first, second] =>
      let group := base64Group first second 0
      [sextet group 18, sextet group 12, sextet group 6, base64Pad]
  | first :: second :: third :: rest =>
      let group := base64Group first second third
      [sextet group 18, sextet group 12, sextet group 6, sextet group 0] ++ base64Encode rest

def base64Value (digit : UInt8) : Nat :=
  if 0x61 ≤ digit.toNat then digit.toNat - 0x61 + 26
  else if 0x41 ≤ digit.toNat then digit.toNat - 0x41
  else if 0x30 ≤ digit.toNat then digit.toNat - 0x30 + 52
  else if digit = 0x2b then 62
  else 63

variable {value bitCount pending : Nat} {bits : BitVec 32}

theorem base64Value_base64Digit (small : value < 64) : base64Value (base64Digit value) = value := by
  decide +revert

theorem base64Digit_ne_pad (small : value < 64) : base64Digit value ≠ base64Pad := by
  decide +revert

theorem sextet_ne_pad (group shift : Nat) : sextet group shift ≠ base64Pad :=
  base64Digit_ne_pad (Nat.mod_lt _ (by simp))

theorem sextet_inj {first second shift : Nat} (same : sextet first shift = sextet second shift) :
    first / 2 ^ shift % 64 = second / 2 ^ shift % 64 := by
  have left := base64Value_base64Digit (Nat.mod_lt (first / 2 ^ shift) (by simp : 64 > 0))
  have right := base64Value_base64Digit (Nat.mod_lt (second / 2 ^ shift) (by simp : 64 > 0))
  rw [sextet, sextet] at same
  rw [← left, same, right]

theorem bytes_eq_of_sextets {a b c d e f : UInt8}
    (one : sextet (base64Group a b c) 18 = sextet (base64Group d e f) 18)
    (two : sextet (base64Group a b c) 12 = sextet (base64Group d e f) 12)
    (three : sextet (base64Group a b c) 6 = sextet (base64Group d e f) 6)
    (four : sextet (base64Group a b c) 0 = sextet (base64Group d e f) 0) :
    a = d ∧ b = e ∧ c = f := by
  have one := sextet_inj one
  have two := sextet_inj two
  have three := sextet_inj three
  have four := sextet_inj four
  have first := And.intro a.toNat_lt (And.intro b.toNat_lt c.toNat_lt)
  have second := And.intro d.toNat_lt (And.intro e.toNat_lt f.toNat_lt)
  rw [base64Group, base64Group] at one two three four
  refine ⟨UInt8.toNat_inj.mp ?_, UInt8.toNat_inj.mp ?_, UInt8.toNat_inj.mp ?_⟩ <;> omega

theorem sextet_of_missing (a b d e : UInt8) :
    sextet (base64Group a b 0) 0 = sextet (base64Group d e 0) 0 ∧
      sextet (base64Group a 0 0) 6 = sextet (base64Group d 0 0) 6 := by
  have last (first second : Nat) :
      (first * 2 ^ 16 + second * 2 ^ 8 + 0) / 2 ^ 0 % 64 = 0 := by omega
  have third (first : Nat) : (first * 2 ^ 16 + 0 * 2 ^ 8 + 0) / 2 ^ 6 % 64 = 0 := by omega
  constructor
  · exact congrArg base64Digit ((last _ _).trans (last _ _).symm)
  · exact congrArg base64Digit ((third _).trans (third _).symm)

theorem base64Encode_injective : Function.Injective base64Encode := by
  intro left
  induction left using base64Encode.induct with
  | case1 =>
      intro right same
      rcases right with _ | ⟨a, _ | ⟨b, _ | ⟨c, rest⟩⟩⟩ <;> simp_all [base64Encode]
  | case2 first =>
      intro right same
      rcases right with _ | ⟨a, _ | ⟨b, _ | ⟨c, rest⟩⟩⟩
      · simp [base64Encode] at same
      · simp only [base64Encode, List.cons.injEq, and_true] at same
        have equal := bytes_eq_of_sextets same.1 same.2 (sextet_of_missing first 0 a 0).2
          (sextet_of_missing first 0 a 0).1
        rw [equal.1]
      · simp only [base64Encode, List.cons.injEq] at same
        exact absurd same.2.2.1.symm (sextet_ne_pad _ _)
      · simp only [base64Encode, List.cons_append, List.cons.injEq] at same
        exact absurd same.2.2.1.symm (sextet_ne_pad _ _)
  | case3 first second =>
      intro right same
      rcases right with _ | ⟨a, _ | ⟨b, _ | ⟨c, rest⟩⟩⟩
      · simp [base64Encode] at same
      · simp only [base64Encode, List.cons.injEq] at same
        exact absurd same.2.2.1 (sextet_ne_pad _ _)
      · simp only [base64Encode, List.cons.injEq, and_true] at same
        have equal := bytes_eq_of_sextets same.1 same.2.1 same.2.2
          (sextet_of_missing first second a b).1
        rw [equal.1, equal.2.1]
      · simp only [base64Encode, List.cons_append, List.cons.injEq] at same
        exact absurd same.2.2.2.1.symm (sextet_ne_pad _ _)
  | case4 first second third rest ih =>
      intro right same
      rcases right with _ | ⟨a, _ | ⟨b, _ | ⟨c, others⟩⟩⟩
      · simp [base64Encode] at same
      · simp only [base64Encode, List.cons_append, List.cons.injEq] at same
        exact absurd same.2.2.1 (sextet_ne_pad _ _)
      · simp only [base64Encode, List.cons_append, List.cons.injEq] at same
        exact absurd same.2.2.2.1 (sextet_ne_pad _ _)
      · simp only [base64Encode, List.cons_append, List.cons.injEq, List.nil_append] at same
        rcases same with ⟨one, two, three, four, later⟩
        have equal := bytes_eq_of_sextets one two three four
        rw [equal.1, equal.2.1, equal.2.2, ih later]

/-! ## Decoding -/

/-- `BASE64_DECODE_TABLE`, with nothing for an entry that is negative. -/
def decodeTable (byte : UInt8) : Option Nat :=
  if 0x41 ≤ byte ∧ byte ≤ 0x5a then some (byte.toNat - 0x41)
  else if 0x61 ≤ byte ∧ byte ≤ 0x7a then some (byte.toNat - 0x61 + 26)
  else if 0x30 ≤ byte ∧ byte ≤ 0x39 then some (byte.toNat - 0x30 + 52)
  else if byte = 0x2b then some 62
  else if byte = 0x2f then some 63
  else none

/-- The loop of `base64_decode` with `bits` and `bit_count`. -/
def decodeDigits (bits : BitVec 32) (bitCount : Nat) : Bytes → Bytes
  | [] => []
  | digit :: rest =>
      if digit = base64Pad then []
      else
        match decodeTable digit with
        | none => decodeDigits bits bitCount rest
        | some value =>
            let bits := bits <<< 6 ||| BitVec.ofNat 32 value
            if 8 ≤ bitCount + 6 then
              ⟨(bits.sshiftRight (bitCount + 6 - 8) &&& 0xff#32).setWidth 8⟩ ::
                decodeDigits bits (bitCount + 6 - 8) rest
            else decodeDigits bits (bitCount + 6) rest

def base64Decode (encoded : Bytes) : Bytes :=
  decodeDigits 0#32 0 encoded

theorem decodeTable_base64Digit (small : value < 64) :
    decodeTable (base64Digit value) = some value := by
  interval_cases value <;> rfl

/-- The lowest bits that were not taken yet. -/
def Pending (bits : BitVec 32) (bitCount pending : Nat) : Prop :=
  bits.toNat % 2 ^ bitCount = pending

theorem Pending.shift (holds : Pending bits bitCount pending) (few : bitCount + 6 ≤ 32)
    (small : value < 64) :
    Pending (bits <<< 6 ||| BitVec.ofNat 32 value) (bitCount + 6) (pending * 64 + value) := by
  have digit : value % 2 ^ 32 = value := Nat.mod_eq_of_lt (by omega)
  have free : bits.toNat <<< 6 ||| value = bits.toNat * 64 + value := by
    rw [← Nat.shiftLeft_add_eq_or_of_lt small, Nat.shiftLeft_eq]
  have whole : (bits <<< 6 ||| BitVec.ofNat 32 value).toNat =
      (bits.toNat * 64 + value) % 2 ^ 32 := by
    rw [BitVec.toNat_or, BitVec.toNat_shiftLeft, BitVec.toNat_ofNat, digit, ← free]
    apply Nat.eq_of_testBit_eq
    intro index
    have zero (high : 32 ≤ index) : value.testBit index = false := by
      have large : 2 ^ 6 ≤ 2 ^ index := Nat.pow_le_pow_right (Nat.zero_lt_two) (by omega)
      exact Nat.testBit_lt_two_pow (by omega)
    rw [Nat.testBit_or, Nat.testBit_mod_two_pow, Nat.testBit_mod_two_pow, Nat.testBit_or]
    by_cases low : index < 32
    · simp [low]
    · simp [low, zero (Nat.le_of_not_lt low)]
  have divides : 2 ^ (bitCount + 6) ∣ 2 ^ 32 := Nat.pow_dvd_pow 2 few
  have split : bits.toNat = 2 ^ bitCount * (bits.toNat / 2 ^ bitCount) + pending := by
    rw [← holds, Nat.div_add_mod]
  have below : pending < 2 ^ bitCount := by
    rw [← holds]
    exact Nat.mod_lt _ (Nat.two_pow_pos _)
  have power : 2 ^ (bitCount + 6) = 2 ^ bitCount * 64 := pow_add 2 bitCount 6
  rw [Pending, whole, Nat.mod_mod_of_dvd _ divides]
  calc (bits.toNat * 64 + value) % 2 ^ (bitCount + 6)
      = (2 ^ (bitCount + 6) * (bits.toNat / 2 ^ bitCount) + (pending * 64 + value)) %
          2 ^ (bitCount + 6) := by
        congr 1
        rw [power]
        conv_lhs => rw [split]
        ring
    _ = (pending * 64 + value) % 2 ^ (bitCount + 6) := Nat.mul_add_mod _ _ _
    _ = pending * 64 + value := Nat.mod_eq_of_lt (by rw [power]; omega)

theorem Pending.take (holds : Pending bits (bitCount + 8) pending) (few : bitCount + 8 ≤ 32) :
    (⟨(bits.sshiftRight bitCount &&& 0xff#32).setWidth 8⟩ : UInt8) =
        UInt8.ofNat (pending / 2 ^ bitCount) ∧
      Pending bits bitCount (pending % 2 ^ bitCount) := by
  have byte : (bits.sshiftRight bitCount &&& 0xff#32).setWidth 8 =
      BitVec.ofNat 8 (pending / 2 ^ bitCount) := by
    apply BitVec.eq_of_getLsbD_eq
    intro index small
    have inside : bitCount + index < 32 := by omega
    have mask : (0xff#32).getLsbD index = true := by
      interval_cases index <;> rfl
    rw [BitVec.getLsbD_setWidth, BitVec.getLsbD_and, BitVec.getLsbD_sshiftRight, mask,
      if_pos inside, BitVec.getLsbD_ofNat, Nat.testBit_div_two_pow, ← holds,
      Nat.testBit_mod_two_pow]
    have early : ¬ 32 ≤ index := by omega
    simp [small, early, BitVec.getLsbD, Nat.add_comm index]
  constructor
  · rw [byte]
    rfl
  · rw [Pending, ← holds, Nat.mod_mod_of_dvd _ (Nat.pow_dvd_pow 2 (Nat.le_add_right _ _))]

theorem decodeDigits_first (small : value < 64) :
    ∃ after, Pending after 6 value ∧ ∀ rest,
      decodeDigits bits 0 (base64Digit value :: rest) = decodeDigits after 6 rest := by
  have nothing : Pending bits 0 0 := Nat.mod_one _
  have shifted := nothing.shift (by decide) small
  have alone : 0 * 64 + value = value := by omega
  rw [alone] at shifted
  refine ⟨_, shifted, fun rest => ?_⟩
  rw [decodeDigits, if_neg (base64Digit_ne_pad small), decodeTable_base64Digit small]
  rfl

theorem decodeDigits_next (holds : Pending bits (bitCount + 2) pending) (few : bitCount ≤ 4)
    (small : value < 64) :
    ∃ after, Pending after bitCount ((pending * 64 + value) % 2 ^ bitCount) ∧ ∀ rest,
      decodeDigits bits (bitCount + 2) (base64Digit value :: rest) =
        UInt8.ofNat
          ((pending * 64 + value) / 2 ^ bitCount) :: decodeDigits after bitCount rest := by
  have taken := (holds.shift (by omega) small).take (by omega)
  have full : 8 ≤ bitCount + 2 + 6 := by omega
  have left : bitCount + 2 + 6 - 8 = bitCount := rfl
  refine ⟨_, taken.2, fun rest => ?_⟩
  rw [decodeDigits, if_neg (base64Digit_ne_pad small), decodeTable_base64Digit small]
  simp only [if_pos full, left, taken.1]

section Groups

variable (bits : BitVec 32) (first second third : UInt8)

theorem decodeDigits_two : ∃ after, Pending after 4 (second.toNat / 16) ∧ ∀ rest,
    decodeDigits bits 0 (sextet (base64Group first second third) 18 ::
      sextet (base64Group first second third) 12 :: rest) = first :: decodeDigits after 4 rest := by
  have highBits := first.toNat_lt
  have middleBits := second.toNat_lt
  have lowBits := third.toNat_lt
  have one : base64Group first second third / 2 ^ 18 % 64 = first.toNat / 4 := by
    rw [base64Group]
    omega
  have two : base64Group first second third / 2 ^ 12 % 64 =
      first.toNat % 4 * 16 + second.toNat / 16 := by
    rw [base64Group]
    omega
  have small : first.toNat / 4 < 64 := by omega
  obtain ⟨waiting, pending, start⟩ : ∃ after, Pending after 6 (first.toNat / 4) ∧ ∀ rest,
      decodeDigits bits 0 (base64Digit (first.toNat / 4) :: rest) = decodeDigits after 6 rest :=
    decodeDigits_first small
  rcases decodeDigits_next pending le_rfl
    (show first.toNat % 4 * 16 + second.toNat / 16 < 64 by omega) with ⟨after, left, next⟩
  have byte : (first.toNat / 4 * 64 + (first.toNat % 4 * 16 + second.toNat / 16)) / 2 ^ 4 =
      first.toNat := by omega
  have rest : (first.toNat / 4 * 64 + (first.toNat % 4 * 16 + second.toNat / 16)) % 2 ^ 4 =
      second.toNat / 16 := by omega
  rw [rest] at left
  refine ⟨after, left, fun text => ?_⟩
  rw [sextet, sextet, one, two, start, next, byte, UInt8.ofNat_toNat]

theorem decodeDigits_three {waiting : BitVec 32} (pending : Pending waiting 4 (second.toNat / 16)) :
    ∃ after, Pending after 2 (third.toNat / 64) ∧ ∀ rest,
      decodeDigits waiting 4 (sextet (base64Group first second third) 6 :: rest) =
        second :: decodeDigits after 2 rest := by
  have middleBits := second.toNat_lt
  have lowBits := third.toNat_lt
  have three : base64Group first second third / 2 ^ 6 % 64 =
      second.toNat % 16 * 4 + third.toNat / 64 := by
    rw [base64Group]
    omega
  rcases decodeDigits_next pending (by decide)
    (show second.toNat % 16 * 4 + third.toNat / 64 < 64 by omega) with ⟨after, left, next⟩
  have byte : (second.toNat / 16 * 64 + (second.toNat % 16 * 4 + third.toNat / 64)) / 2 ^ 2 =
      second.toNat := by omega
  have rest : (second.toNat / 16 * 64 + (second.toNat % 16 * 4 + third.toNat / 64)) % 2 ^ 2 =
      third.toNat / 64 := by omega
  rw [rest] at left
  refine ⟨after, left, fun text => ?_⟩
  rw [sextet, three, next, byte, UInt8.ofNat_toNat]

theorem decodeDigits_four {waiting : BitVec 32} (pending : Pending waiting 2 (third.toNat / 64)) :
    ∃ after, ∀ rest, decodeDigits waiting 2 (sextet (base64Group first second third) 0 :: rest) =
      third :: decodeDigits after 0 rest := by
  have lowBits := third.toNat_lt
  have four : base64Group first second third / 2 ^ 0 % 64 = third.toNat % 64 := by
    rw [base64Group]
    omega
  rcases decodeDigits_next pending (by decide)
    (show third.toNat % 64 < 64 by omega) with ⟨after, -, next⟩
  have byte : (third.toNat / 64 * 64 + third.toNat % 64) / 2 ^ 0 = third.toNat := by omega
  refine ⟨after, fun text => ?_⟩
  rw [sextet, four, next, byte, UInt8.ofNat_toNat]

end Groups

theorem decodeDigits_pad (bits : BitVec 32) (bitCount : Nat) (rest : Bytes) :
    decodeDigits bits bitCount (base64Pad :: rest) = [] :=
  if_pos rfl

theorem decodeDigits_base64Encode (bits : BitVec 32) (data : Bytes) :
    decodeDigits bits 0 (base64Encode data) = data := by
  induction data using base64Encode.induct generalizing bits with
  | case1 => rfl
  | case2 first =>
      rcases decodeDigits_two bits first 0 0 with ⟨after, -, two⟩
      rw [base64Encode, two, decodeDigits_pad]
  | case3 first second =>
      rcases decodeDigits_two bits first second 0 with ⟨waiting, pending, two⟩
      rcases decodeDigits_three first second 0 pending with ⟨after, -, three⟩
      rw [base64Encode, two, three, decodeDigits_pad]
  | case4 first second third rest ih =>
      rcases decodeDigits_two bits first second third with ⟨waiting, pending, two⟩
      rcases decodeDigits_three first second third pending with ⟨later, left, three⟩
      rcases decodeDigits_four first second third left with ⟨after, four⟩
      rw [base64Encode]
      simp only [List.cons_append, List.nil_append, two, three, four, ih]

/-! ## The alphabet of URLs -/

/-- The loop of `base64url_encode` over the digits. -/
def urlDigit (digit : UInt8) : UInt8 :=
  if digit = 0x2b then 0x2d else if digit = 0x2f then 0x5f else digit

def base64UrlEncode (data : Bytes) : Bytes :=
  ((base64Encode data).map urlDigit).rdropWhile (· == base64Pad)

/-- Letters, digits, hyphen and underscore. -/
def isUrlDigit (byte : UInt8) : Bool :=
  (0x41 ≤ byte && byte ≤ 0x5a) || (0x61 ≤ byte && byte ≤ 0x7a) || (0x30 ≤ byte && byte ≤ 0x39) ||
    byte == 0x2d || byte == 0x5f

/-- The digit that is written like this in a URL. -/
def plainDigit (digit : UInt8) : UInt8 :=
  if digit = 0x2d then 0x2b else if digit = 0x5f then 0x2f else digit

theorem isUrlDigit_urlDigit (small : value < 64) :
    isUrlDigit (urlDigit (base64Digit value)) = true := by
  interval_cases value <;> rfl

theorem plainDigit_urlDigit (small : value < 64) :
    plainDigit (urlDigit (base64Digit value)) = base64Digit value := by
  interval_cases value <;> rfl

theorem base64Encode_eq_append (data : Bytes) : ∃ digits padding,
    base64Encode data = digits ++ List.replicate padding base64Pad ∧
      ∀ digit ∈ digits, ∃ value < 64, digit = base64Digit value := by
  have isDigit (group shift : Nat) : ∃ value < 64, sextet group shift = base64Digit value :=
    ⟨_, Nat.mod_lt _ (by decide), rfl⟩
  induction data using base64Encode.induct with
  | case1 => exact ⟨[], 0, rfl, fun _ mem => absurd mem List.not_mem_nil⟩
  | case2 first =>
      refine ⟨[_, _], 2, rfl, ?_⟩
      simp only [List.forall_mem_cons]
      exact ⟨isDigit _ _, isDigit _ _, fun _ mem => absurd mem List.not_mem_nil⟩
  | case3 first second =>
      refine ⟨[_, _, _], 1, rfl, ?_⟩
      simp only [List.forall_mem_cons]
      exact ⟨isDigit _ _, isDigit _ _, isDigit _ _, fun _ mem => absurd mem List.not_mem_nil⟩
  | case4 first second third rest ih =>
      rcases ih with ⟨digits, padding, written, every⟩
      let group := base64Group first second third
      refine ⟨sextet group 18 :: sextet group 12 :: sextet group 6 :: sextet group 0 :: digits,
        padding, ?_, ?_⟩
      · rw [base64Encode, written]
        rfl
      · simp only [List.forall_mem_cons]
        exact ⟨isDigit _ _, isDigit _ _, isDigit _ _, isDigit _ _, every⟩

theorem rdropWhile_append_replicate {digits : Bytes} (plain : base64Pad ∉ digits) (padding : Nat) :
    (digits ++ List.replicate padding base64Pad).rdropWhile (· == base64Pad) = digits := by
  induction padding with
  | zero =>
      rw [List.replicate_zero, List.append_nil, List.rdropWhile_eq_self_iff]
      intro nonempty last
      have mem := List.getLast_mem nonempty
      rw [beq_iff_eq.mp last] at mem
      exact plain mem
  | succ padding ih =>
      rw [List.replicate_succ', ← List.append_assoc, List.rdropWhile_concat_pos _ _ _ (by simp), ih]

theorem base64UrlEncode_eq_map (data : Bytes) : ∃ digits padding,
    base64Encode data = digits ++ List.replicate padding base64Pad ∧
      (∀ digit ∈ digits, ∃ value < 64, digit = base64Digit value) ∧
      base64UrlEncode data = digits.map urlDigit := by
  rcases base64Encode_eq_append data with ⟨digits, padding, written, every⟩
  have plain : base64Pad ∉ digits.map urlDigit := by
    intro mem
    rcases List.mem_map.mp mem with ⟨digit, inside, isPad⟩
    rcases every digit inside with ⟨value, small, rfl⟩
    have safe := isUrlDigit_urlDigit small
    rw [isPad] at safe
    contradiction
  have pad : urlDigit base64Pad = base64Pad := rfl
  refine ⟨digits, padding, written, every, ?_⟩
  rw [base64UrlEncode, written, List.map_append, List.map_replicate, pad,
    rdropWhile_append_replicate plain]

theorem isUrlDigit_of_mem {data : Bytes} {byte : UInt8} (mem : byte ∈ base64UrlEncode data) :
    isUrlDigit byte = true := by
  rcases base64UrlEncode_eq_map data with ⟨digits, padding, -, every, written⟩
  rw [written] at mem
  rcases List.mem_map.mp mem with ⟨digit, inside, rfl⟩
  rcases every digit inside with ⟨value, small, rfl⟩
  exact isUrlDigit_urlDigit small

theorem decodeDigits_append_pad (bits : BitVec 32) (bitCount padding : Nat) (digits : Bytes) :
    decodeDigits bits bitCount (digits ++ List.replicate padding base64Pad) =
      decodeDigits bits bitCount digits := by
  induction digits generalizing bits bitCount with
  | nil =>
      cases padding with
      | zero => rfl
      | succ padding =>
          rw [List.replicate_succ, List.nil_append, decodeDigits_pad]
          rfl
  | cons digit digits ih =>
      rw [List.cons_append, decodeDigits, decodeDigits]
      simp only [ih]

theorem base64Decode_base64UrlEncode (data : Bytes) :
    base64Decode ((base64UrlEncode data).map plainDigit) = data := by
  rcases base64UrlEncode_eq_map data with ⟨digits, padding, encoded, every, written⟩
  have plain : (digits.map urlDigit).map plainDigit = digits := by
    have back : ∀ digit ∈ digits, (plainDigit ∘ urlDigit) digit = id digit := by
      intro digit mem
      rcases every digit mem with ⟨value, small, rfl⟩
      exact plainDigit_urlDigit small
    rw [List.map_map, List.map_congr_left back, List.map_id]
  have read := decodeDigits_base64Encode 0#32 data
  rw [encoded, decodeDigits_append_pad] at read
  rw [written, plain]
  exact read

/-- Decoding undoes encoding, of data of any length; and data in the alphabet of URLs has no
padding and is different for different data. -/
theorem base64_round_trip :
    (∀ data, base64Decode (base64Encode data) = data) ∧
    (∀ data, ∀ byte ∈ base64UrlEncode data, isUrlDigit byte = true) ∧
    Function.Injective base64UrlEncode := by
  refine ⟨decodeDigits_base64Encode 0#32, fun _ _ => isUrlDigit_of_mem, ?_⟩
  intro first second same
  rw [← base64Decode_base64UrlEncode first, same, base64Decode_base64UrlEncode]

end FileTrans.Text
