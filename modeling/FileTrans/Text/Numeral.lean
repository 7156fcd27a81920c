import FileTrans.Text.Bytes
import Mathlib.Data.List.TakeWhile
import Mathlib.Data.Nat.Digits.Lemmas

/-!
# Reading numbers

The C++ string conversions `std::stoi`, `std::stoul`, `std::stoull` and
`std::stoll` on byte strings.  They skip white space, take an optional sign, in
base sixteen an optional prefix `0x`, and then as many digits as there are; text
after the digits is ignored.  An exception is a missing result: there is no
digit, or the value is out of range.
-/

namespace FileTrans.Text

/-! ## Digits -/

/-- Value of a digit among `0` to `9`, `a` to `z` and `A` to `Z`. -/
def digitValue (byte : UInt8) : Option Nat :=
  if 0x30 ≤ byte ∧ byte ≤ 0x39 then some (byte.toNat - 0x30)
  else if 0x61 ≤ byte ∧ byte ≤ 0x7a then some (byte.toNat - 0x57)
  else if 0x41 ≤ byte ∧ byte ≤ 0x5a then some (byte.toNat - 0x37)
  else none

/-- Whether a byte is a digit of the base. -/
def isDigit (base : Nat) (byte : UInt8) : Bool :=
  (digitValue byte).any (· < base)

/-- The number a digit string stands for, most significant digit first. -/
def ofDigits (base : Nat) (digits : Bytes) : Nat :=
  digits.foldl (fun value byte => base * value + (digitValue byte).getD 0) 0

/-- Lower-case hexadecimal digit with value `digit`, for `digit < 16`. -/
def hexChar (digit : Nat) : UInt8 :=
  UInt8.ofNat (if digit < 10 then 0x30 + digit else 0x57 + digit)

/-- Two lower-case hexadecimal digits of a byte. -/
def hexByte (byte : UInt8) : Bytes :=
  [hexChar (byte.toNat / 16), hexChar (byte.toNat % 16)]

variable {digit number base : Nat} {byte : UInt8} {text : Bytes}

theorem digitValue_hexChar (small : digit < 16) : digitValue (hexChar digit) = some digit := by
  interval_cases digit <;> rfl

theorem isDigit_hexChar (small : digit < 16) : isDigit 16 (hexChar digit) = true := by
  simp [isDigit, digitValue_hexChar small, small]

theorem digitValue_decimalDigit (small : digit < 10) :
    digitValue (decimalDigit digit) = some digit := by
  interval_cases digit <;> rfl

theorem isDigit_decimalDigit (small : digit < 10) : isDigit 10 (decimalDigit digit) = true := by
  simp [isDigit, digitValue_decimalDigit small, small]

theorem decimal_ne_nil (number : Nat) : decimal number ≠ [] := by
  unfold decimal
  split
  · simp
  · rename_i nonzero
    simpa [Nat.digits_eq_nil_iff_eq_zero] using nonzero

theorem isDigit_of_mem_decimal (mem : byte ∈ decimal number) : isDigit 10 byte = true := by
  unfold decimal at mem
  split at mem
  · rw [List.mem_singleton.mp mem]
    rfl
  · rcases List.mem_map.mp (List.mem_reverse.mp mem) with ⟨digit, digitMem, rfl⟩
    exact isDigit_decimalDigit (Nat.digits_lt_base (by omega) digitMem)

private theorem ofDigits_map_reverse (digits : List Nat)
    (small : ∀ digit ∈ digits, digit < 10) :
    ofDigits 10 (digits.map decimalDigit).reverse = Nat.ofDigits 10 digits := by
  induction digits with
  | nil => rfl
  | cons digit digits ih =>
      have smallTail : ∀ digit ∈ digits, digit < 10 := fun digit mem =>
        small digit (List.mem_cons_of_mem _ mem)
      have value := ih smallTail
      rw [ofDigits] at value ⊢
      rw [List.map_cons, List.reverse_cons, List.foldl_append, value,
        Nat.ofDigits_cons]
      simp only [List.foldl_cons, List.foldl_nil]
      rw [digitValue_decimalDigit (small digit List.mem_cons_self)]
      simp only [Option.getD_some]
      omega

theorem ofDigits_decimal (number : Nat) : ofDigits 10 (decimal number) = number := by
  unfold decimal
  split
  · rename_i zero
    rw [zero]
    rfl
  · rw [ofDigits_map_reverse _ fun digit mem => Nat.digits_lt_base (by omega) mem,
      Nat.ofDigits_digits]

/-! ## Signed numerals -/

/-- `isspace` in the C locale. -/
def isSpace (byte : UInt8) : Bool :=
  byte == 0x20 || (0x09 ≤ byte && byte ≤ 0x0d)

/-- Drop a sign, and say whether it was a minus. -/
def takeSign : Bytes → Bool × Bytes
  | [] => (false, [])
  | byte :: rest =>
      if byte = 0x2d then (true, rest)
      else if byte = 0x2b then (false, rest)
      else (false, byte :: rest)

/-- Drop a prefix `0x` that a hexadecimal digit follows. -/
def dropHexPrefix : Bytes → Bytes
  | zero :: x :: first :: rest =>
      if zero = 0x30 ∧ (x = 0x78 ∨ x = 0x58) ∧ isDigit 16 first then first :: rest
      else zero :: x :: first :: rest
  | text => text

/-- The number that the digits at the front stand for, if there is a digit. -/
def leadingDigits (base : Nat) (text : Bytes) : Option Nat :=
  let digits := text.takeWhile (isDigit base)
  if digits = [] then none else some (ofDigits base digits)

/-- The number without its sign. -/
def magnitude (base : Nat) (text : Bytes) : Option Nat :=
  leadingDigits base (if base = 16 then dropHexPrefix text else text)

/-- The number at the front of the text, as the `strtol` family reads it. -/
def numeral (base : Nat) (text : Bytes) : Option Int :=
  let signed := takeSign (text.dropWhile isSpace)
  (magnitude base signed.2).map fun value : Nat =>
    if signed.1 then -(value : Int) else (value : Int)

/-- `std::stoi(text, nullptr, base)`. -/
def stoi (base : Nat) (text : Bytes) : Option Int :=
  (numeral base text).filter fun value => -(2 ^ 31) ≤ value && value < 2 ^ 31

/-- `std::stoull(text, nullptr, base)`: a minus negates the value modulo `2 ^ 64`. -/
def stoull (base : Nat) (text : Bytes) : Option UInt64 :=
  ((numeral base text).filter fun value => value.natAbs < 2 ^ 64).map UInt64.ofInt

/-- `std::stoul(text, nullptr, base)`, where `unsigned long` has 64 bits. -/
def stoul (base : Nat) (text : Bytes) : Option UInt64 :=
  stoull base text

/-- `std::stoll(text, nullptr, base)`. -/
def stoll (base : Nat) (text : Bytes) : Option Int64 :=
  ((numeral base text).filter fun value => -(2 ^ 63) ≤ value && value < 2 ^ 63).map Int64.ofInt

/-- After white space and a sign comes a digit of the base. -/
def beginsNumeral (base : Nat) (text : Bytes) : Bool :=
  (takeSign (text.dropWhile isSpace)).2.head?.any (isDigit base)

theorem takeSign_of_ne (minus : byte ≠ 0x2d) (plus : byte ≠ 0x2b) (rest : Bytes) :
    takeSign (byte :: rest) = (false, byte :: rest) := by
  rw [takeSign, if_neg minus, if_neg plus]

theorem head?_dropHexPrefix (text : Bytes) :
    (dropHexPrefix text).head?.any (isDigit 16) = text.head?.any (isDigit 16) := by
  unfold dropHexPrefix
  split
  · rename_i zero x first rest
    split
    · rename_i found
      rw [List.head?_cons, List.head?_cons, Option.any_some, Option.any_some, found.1, found.2.2]
      rfl
    · rfl
  · rfl

theorem leadingDigits_isSome (base : Nat) (text : Bytes) :
    (leadingDigits base text).isSome = text.head?.any (isDigit base) := by
  cases text with
  | nil => rfl
  | cons byte rest => cases digit : isDigit base byte <;> simp [leadingDigits, digit]

theorem magnitude_isSome (base : Nat) (text : Bytes) :
    (magnitude base text).isSome = text.head?.any (isDigit base) := by
  rw [magnitude, leadingDigits_isSome]
  split
  · rename_i hex
    rw [hex, head?_dropHexPrefix]
  · rfl

theorem numeral_isSome (base : Nat) (text : Bytes) :
    (numeral base text).isSome = beginsNumeral base text := by
  rw [numeral, Option.isSome_map, magnitude_isSome, beginsNumeral]

/-! ## Reading what was written -/

theorem digitValue_isSome (digit : isDigit base byte = true) :
    ∃ value, digitValue byte = some value ∧ value < base := by
  cases value : digitValue byte with
  | none => simp [isDigit, value] at digit
  | some number => exact ⟨number, rfl, by simpa [isDigit, value] using digit⟩

theorem digitValue_eq_none_of_sign (other : isSpace byte = true ∨ byte = 0x2d ∨ byte = 0x2b) :
    digitValue byte = none := by
  rcases other with space | rfl | rfl
  · simp only [isSpace, Bool.or_eq_true, beq_iff_eq, Bool.and_eq_true, decide_eq_true_eq,
      UInt8.le_iff_toNat_le] at space
    rcases space with rfl | ⟨-, upper⟩
    · rfl
    · have below : byte.toNat ≤ 0x0d := upper
      have early : ∀ bound : UInt8, 0x0e ≤ bound.toNat → ¬ bound ≤ byte := by
        intro bound large le
        have := UInt8.le_iff_toNat_le.mp le
        omega
      simp [digitValue, early 0x30 (by decide), early 0x61 (by decide), early 0x41 (by decide)]
  · rfl
  · rfl

theorem takeSign_dropWhile_of_digit (digit : isDigit base byte = true) (rest : Bytes) :
    takeSign ((byte :: rest).dropWhile isSpace) = (false, byte :: rest) := by
  obtain ⟨value, reads, -⟩ := digitValue_isSome digit
  have plain : ¬ (isSpace byte = true ∨ byte = 0x2d ∨ byte = 0x2b) := by
    intro other
    rw [digitValue_eq_none_of_sign other] at reads
    cases reads
  rw [not_or, not_or] at plain
  rw [List.dropWhile_cons_of_neg plain.1, takeSign_of_ne plain.2.1 plain.2.2]

theorem dropHexPrefix_of_digits (digits : ∀ byte ∈ text, isDigit 16 byte = true) :
    dropHexPrefix text = text := by
  unfold dropHexPrefix
  split
  · rename_i zero x first rest
    apply if_neg
    rintro ⟨-, rfl | rfl, -⟩
    · exact absurd (digits 0x78 (by simp)) (by decide)
    · exact absurd (digits 0x58 (by simp)) (by decide)
  · rfl

theorem magnitude_of_digits (nonempty : text ≠ [])
    (digits : ∀ byte ∈ text, isDigit base byte = true) :
    magnitude base text = some (ofDigits base text) := by
  have whole : text.takeWhile (isDigit base) = text := List.takeWhile_eq_self_iff.mpr digits
  have kept : (if base = 16 then dropHexPrefix text else text) = text := by
    split
    · rename_i hex
      exact dropHexPrefix_of_digits (hex ▸ digits)
    · rfl
  rw [magnitude, kept, leadingDigits, whole, if_neg nonempty]

theorem numeral_of_digits (nonempty : text ≠ [])
    (digits : ∀ byte ∈ text, isDigit base byte = true) :
    numeral base text = some (ofDigits base text : Int) := by
  cases text with
  | nil => exact absurd rfl nonempty
  | cons byte rest =>
      rw [numeral, takeSign_dropWhile_of_digit (digits byte List.mem_cons_self)]
      rw [magnitude_of_digits nonempty digits]
      rfl

theorem decimalInt_natCast (number : Nat) : decimalInt (number : Int) = decimal number := by
  have nonnegative : ¬ (number : Int) < 0 := by omega
  rw [decimalInt, if_neg nonnegative, Int.natAbs_natCast]

theorem numeral_decimalInt (number : Int) : numeral 10 (decimalInt number) = some number := by
  have digits : ∀ byte ∈ decimal number.natAbs, isDigit 10 byte = true := fun _ mem =>
    isDigit_of_mem_decimal mem
  unfold decimalInt
  split
  · rename_i negative
    have signed : takeSign ((0x2d :: decimal number.natAbs).dropWhile isSpace) =
        (true, decimal number.natAbs) := rfl
    rw [numeral, signed, magnitude_of_digits (decimal_ne_nil _) digits, ofDigits_decimal]
    simp only [Option.map_some, if_true, Option.some.injEq]
    omega
  · rename_i nonnegative
    rw [numeral_of_digits (decimal_ne_nil _) digits, ofDigits_decimal]
    simp only [Option.some.injEq]
    omega

theorem numeral_decimal (number : Nat) : numeral 10 (decimal number) = some (number : Int) := by
  rw [← decimalInt_natCast, numeral_decimalInt]

theorem stoull_of_digits (nonempty : text ≠ []) (digits : ∀ byte ∈ text, isDigit base byte = true)
    (bounded : ofDigits base text < 2 ^ 64) :
    stoull base text = some (UInt64.ofNat (ofDigits base text)) := by
  have fits : decide ((ofDigits base text : Int).natAbs < 2 ^ 64) = true := by simpa using bounded
  rw [stoull, numeral_of_digits nonempty digits, Option.filter_some, if_pos fits,
    Option.map_some, UInt64.ofInt]
  congr 2
  omega

@[simp]
theorem stoull_decimal (number : UInt64) : stoull 10 (decimal number.toNat) = some number := by
  have value := ofDigits_decimal number.toNat
  have bounded : ofDigits 10 (decimal number.toNat) < 2 ^ 64 := by
    rw [value]
    exact number.toNat_lt
  rw [stoull_of_digits (decimal_ne_nil _) (fun _ mem => isDigit_of_mem_decimal mem) bounded,
    value, UInt64.ofNat_toNat]

@[simp]
theorem stoul_decimal (number : UInt32) :
    stoul 10 (decimal number.toNat) = some number.toUInt64 := by
  rw [stoul, ← UInt32.toNat_toUInt64, stoull_decimal]

theorem stoll_decimalInt {number : Int} (lower : -(2 ^ 63) ≤ number) (upper : number < 2 ^ 63) :
    stoll 10 (decimalInt number) = some (Int64.ofInt number) := by
  have fits : (decide (-(2 ^ 63) ≤ number) && decide (number < 2 ^ 63)) = true := by
    rw [decide_eq_true lower, decide_eq_true upper]
    rfl
  rw [stoll, numeral_decimalInt, Option.filter_some, if_pos fits, Option.map_some]

theorem stoll_decimalInt_eq_none {number : Int} (large : 2 ^ 63 ≤ number) :
    stoll 10 (decimalInt number) = none := by
  have misfit : ¬ (decide (-(2 ^ 63) ≤ number) && decide (number < 2 ^ 63)) = true := by
    rw [Bool.and_eq_true, decide_eq_true_eq, decide_eq_true_eq]
    omega
  rw [stoll, numeral_decimalInt, Option.filter_some, if_neg misfit, Option.map_none]

/-! ## Numerals that are cut short -/

theorem ofDigits_lt (base : Nat) (text : Bytes)
    (digits : ∀ byte ∈ text, isDigit base byte = true) :
    ofDigits base text < base ^ text.length := by
  induction text using List.reverseRecOn with
  | nil => simp [ofDigits]
  | append_singleton text last ih =>
      have before := ih fun byte mem => digits byte (List.mem_append_left _ mem)
      obtain ⟨value, reads, small⟩ := digitValue_isSome
        (digits last (List.mem_append_right _ List.mem_cons_self))
      have split : ofDigits base (text ++ [last]) = base * ofDigits base text + value := by
        simp [ofDigits, List.foldl_append, reads]
      rw [split, List.length_append, List.length_singleton, pow_succ, mul_comm (base ^ _)]
      calc base * ofDigits base text + value < base * ofDigits base text + base := by omega
        _ = base * (ofDigits base text + 1) := by ring
        _ ≤ base * base ^ text.length := Nat.mul_le_mul_left _ before

theorem pow_length_decimal_le (nonzero : number ≠ 0) :
    10 ^ ((decimal number).length - 1) ≤ number := by
  have length : (decimal number).length = (Nat.digits 10 number).length := by
    rw [decimal, if_neg nonzero, List.length_reverse, List.length_map]
  have positive : 0 < (Nat.digits 10 number).length :=
    List.length_pos_iff.mpr (mt Nat.digits_eq_nil_iff_eq_zero.mp nonzero)
  have bound := Nat.base_pow_length_digits_le 10 number (by decide) nonzero
  obtain ⟨rest, size⟩ := Nat.exists_eq_add_one_of_ne_zero positive.ne'
  rw [size, pow_succ] at bound
  rw [length, size, Nat.add_sub_cancel]
  omega

theorem ofDigits_take_decimal_lt {count : Nat} (positive : 0 < count)
    (short : count < (decimal number).length) :
    ofDigits 10 ((decimal number).take count) < number := by
  have nonzero : number ≠ 0 := by
    rintro rfl
    have single : (decimal 0).length = 1 := rfl
    omega
  have digits : ∀ byte ∈ (decimal number).take count, isDigit 10 byte = true := fun _ mem =>
    isDigit_of_mem_decimal (List.mem_of_mem_take mem)
  have size : ((decimal number).take count).length = count := by
    rw [List.length_take]
    omega
  have bound := ofDigits_lt 10 _ digits
  rw [size] at bound
  calc ofDigits 10 ((decimal number).take count) < 10 ^ count := bound
    _ ≤ 10 ^ ((decimal number).length - 1) := Nat.pow_le_pow_right (by decide) (by omega)
    _ ≤ number := pow_length_decimal_le nonzero

theorem natAbs_lt_of_numeral_take {number value : Int} {count : Nat}
    (short : count < (decimalInt number).length)
    (reads : numeral 10 ((decimalInt number).take count) = some value) :
    value.natAbs < number.natAbs := by
  have digits (length : Nat) : ∀ byte ∈ (decimal number.natAbs).take length,
      isDigit 10 byte = true := fun _ mem =>
    isDigit_of_mem_decimal (List.mem_of_mem_take mem)
  have nonempty {length : Nat} (positive : 0 < length) :
      (decimal number.natAbs).take length ≠ [] := by
    intro empty
    rcases List.take_eq_nil_iff.mp empty with zero | nil
    · omega
    · exact decimal_ne_nil _ nil
  have noNumber : numeral 10 [] = none := rfl
  unfold decimalInt at short reads
  split at short
  · rename_i negative
    rw [if_pos negative] at reads
    cases count with
    | zero =>
        rw [List.take_zero, noNumber] at reads
        cases reads
    | succ count =>
        rw [List.length_cons] at short
        have signed : takeSign ((0x2d :: (decimal number.natAbs).take count).dropWhile isSpace) =
            (true, (decimal number.natAbs).take count) := rfl
        rw [List.take_succ_cons, numeral, signed] at reads
        cases count with
        | zero => cases reads
        | succ count =>
            rw [magnitude_of_digits (nonempty (Nat.succ_pos _)) (digits _)] at reads
            cases reads
            have smaller := ofDigits_take_decimal_lt (Nat.succ_pos count)
              (Nat.lt_of_succ_lt_succ short)
            simpa using smaller
  · rename_i nonnegative
    rw [if_neg nonnegative] at reads
    cases count with
    | zero =>
        rw [List.take_zero, noNumber] at reads
        cases reads
    | succ count =>
        rw [numeral_of_digits (nonempty (Nat.succ_pos _)) (digits _)] at reads
        cases reads
        simpa using ofDigits_take_decimal_lt (Nat.succ_pos count) short

/-! ## Short hexadecimal texts -/

theorem length_takeSign_le (text : Bytes) : (takeSign text).2.length ≤ text.length := by
  cases text with
  | nil => exact Nat.le_refl _
  | cons byte rest =>
      rw [takeSign]
      split
      · exact Nat.le_succ _
      · split
        · exact Nat.le_succ _
        · exact Nat.le_refl _

theorem length_dropHexPrefix_le (text : Bytes) : (dropHexPrefix text).length ≤ text.length := by
  unfold dropHexPrefix
  split
  · split <;> simp
  · exact Nat.le_refl _

theorem leadingDigits_lt {value : Nat} (positive : 0 < base)
    (reads : leadingDigits base text = some value) : value < base ^ text.length := by
  rw [leadingDigits] at reads
  split at reads
  · cases reads
  · cases reads
    have digits := ofDigits_lt base (text.takeWhile (isDigit base)) fun _ mem =>
      List.mem_takeWhile_imp mem
    exact digits.trans_le
      (Nat.pow_le_pow_right positive (List.takeWhile_sublist _).length_le)

theorem magnitude_lt {value : Nat} (positive : 0 < base)
    (reads : magnitude base text = some value) : value < base ^ text.length := by
  have bound := leadingDigits_lt positive reads
  split at bound
  · exact bound.trans_le (Nat.pow_le_pow_right positive (length_dropHexPrefix_le text))
  · exact bound

theorem numeral_natAbs_lt {value : Int} (positive : 0 < base)
    (reads : numeral base text = some value) : value.natAbs < base ^ text.length := by
  rw [numeral, Option.map_eq_some_iff] at reads
  obtain ⟨number, found, rfl⟩ := reads
  have shorter : (takeSign (text.dropWhile isSpace)).2.length ≤ text.length :=
    (length_takeSign_le _).trans (List.dropWhile_sublist _).length_le
  have bound := (magnitude_lt positive found).trans_le (Nat.pow_le_pow_right positive shorter)
  split <;> simpa using bound

theorem stoi_of_short (short : text.length ≤ 7) : stoi 16 text = numeral 16 text := by
  cases reads : numeral 16 text with
  | none => rw [stoi, reads, Option.filter_none]
  | some value =>
      have bound := (numeral_natAbs_lt (by decide) reads).trans_le
        (Nat.pow_le_pow_right (by decide) short)
      have fits : (decide (-(2 ^ 31) ≤ value) && decide (value < 2 ^ 31)) = true := by
        simp only [Bool.and_eq_true, decide_eq_true_eq]
        omega
      rw [stoi, reads, Option.filter_some, if_pos fits]

theorem stoi_isSome_of_short (short : text.length ≤ 7) :
    (stoi 16 text).isSome = beginsNumeral 16 text := by
  rw [stoi_of_short short, numeral_isSome]

private theorem hexByte_digits (byte : UInt8) :
    byte.toNat / 16 < 16 ∧ byte.toNat % 16 < 16 := by
  have := byte.toNat_lt
  omega

theorem ofInt_toNat (byte : UInt8) : UInt8.ofInt (byte.toNat : Int) = byte := by
  have small : ((byte.toNat : Int) % 2 ^ 8).toNat = byte.toNat := by
    have := byte.toNat_lt
    omega
  rw [UInt8.ofInt, small, UInt8.ofNat_toNat]

theorem ofDigits_hexByte (byte : UInt8) : ofDigits 16 (hexByte byte) = byte.toNat := by
  have digits := hexByte_digits byte
  simp only [ofDigits, hexByte, List.foldl_cons, List.foldl_nil, digitValue_hexChar digits.1,
    digitValue_hexChar digits.2, Option.getD_some]
  omega

theorem isDigit_of_mem_hexByte {character : UInt8} (mem : character ∈ hexByte byte) :
    isDigit 16 character = true := by
  have digits := hexByte_digits byte
  simp only [hexByte, List.mem_cons, List.not_mem_nil, or_false] at mem
  rcases mem with rfl | rfl
  · exact isDigit_hexChar digits.1
  · exact isDigit_hexChar digits.2

theorem ofDigits_zeros (base zeros : Nat) (digits : Bytes) :
    ofDigits base (List.replicate zeros 0x30 ++ digits) = ofDigits base digits := by
  induction zeros with
  | zero => rfl
  | succ zeros ih => exact ih

theorem stoi_zeros_hexByte (zeros : Nat) (few : zeros ≤ 5) (byte : UInt8) :
    stoi 16 (List.replicate zeros 0x30 ++ hexByte byte) = some (byte.toNat : Int) := by
  have short : (List.replicate zeros 0x30 ++ hexByte byte).length ≤ 7 := by
    simpa [hexByte] using few
  have digits : ∀ character ∈ List.replicate zeros 0x30 ++ hexByte byte,
      isDigit 16 character = true := by
    intro character mem
    rcases List.mem_append.mp mem with zero | digit
    · rw [List.eq_of_mem_replicate zero]
      rfl
    · exact isDigit_of_mem_hexByte digit
  have nonempty : List.replicate zeros 0x30 ++ hexByte byte ≠ [] := by simp [hexByte]
  rw [stoi_of_short short, numeral_of_digits nonempty digits, ofDigits_zeros, ofDigits_hexByte]

end FileTrans.Text
