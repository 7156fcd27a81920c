import FileTrans.Core.Types
import FileTrans.Text.Numeral

/-!
# Transfer identifiers as text

`to_string` writes the sixteen bytes as hexadecimal digits in five groups;
`from_string` ignores dashes wherever they stand.
-/

namespace FileTrans.Core.TransferId

open Text

/-- The dash between the groups. -/
def dash : UInt8 := 0x2d

def toString (id : TransferId) : Bytes :=
  let group (from' count : Nat) := ((id.bytes.drop from').take count).flatMap hexByte
  group 0 4 ++ dash :: (group 4 2 ++ dash :: (group 6 2 ++ dash :: (group 8 2 ++
    dash :: group 10 6)))

/-- The bytes that the pairs of digits stand for. -/
def pairBytes : Bytes → Bytes
  | high :: low :: rest =>
      UInt8.ofNat ((stoul 16 [high, low]).getD 0).toNat :: pairBytes rest
  | [_] => []
  | [] => []

theorem length_pairBytes (digits : Bytes) : (pairBytes digits).length = digits.length / 2 := by
  induction digits using pairBytes.induct with
  | case1 high low rest ih =>
      rw [pairBytes, List.length_cons, ih, List.length_cons, List.length_cons]
      omega
  | case2 => simp [pairBytes]
  | case3 => rfl

def fromString (str : Bytes) : Option TransferId :=
  let hexStr := str.filter (· != dash)
  if valid : hexStr.all (isDigit 16) ∧ hexStr.length = 32 then
    some ⟨pairBytes hexStr, by rw [length_pairBytes, valid.2]⟩
  else none

/-! ## The round trip -/

theorem pairBytes_hexByte (bytes : Bytes) : pairBytes (bytes.flatMap hexByte) = bytes := by
  induction bytes with
  | nil => rfl
  | cons byte bytes ih =>
      have nonempty : hexByte byte ≠ [] := List.cons_ne_nil _ _
      have bounded : ofDigits 16 (hexByte byte) < 2 ^ 64 := by
        rw [ofDigits_hexByte]
        exact byte.toNat_lt.trans (by decide)
      have reads : stoul 16 (hexByte byte) = some (UInt64.ofNat byte.toNat) := by
        rw [stoul, stoull_of_digits nonempty (fun _ mem => isDigit_of_mem_hexByte mem) bounded,
          ofDigits_hexByte]
      rw [List.flatMap_cons, hexByte, List.cons_append, List.cons_append, pairBytes,
        List.nil_append, ih, ← hexByte, reads]
      simp

theorem ne_of_isDigit {base : Nat} {byte other : UInt8} (digit : isDigit base byte = true)
    (notDigit : digitValue other = none) : byte ≠ other := by
  rintro rfl
  simp [isDigit, notDigit] at digit

theorem mem_toString {id : TransferId} {byte : UInt8} (mem : byte ∈ id.toString) :
    byte = dash ∨ isDigit 16 byte = true := by
  have inGroup {bytes : Bytes} (inside : byte ∈ bytes.flatMap hexByte) :
      isDigit 16 byte = true := by
    obtain ⟨_, -, digit⟩ := List.mem_flatMap.mp inside
    exact isDigit_of_mem_hexByte digit
  simp only [toString, List.mem_append, List.mem_cons] at mem
  rcases mem with digit | rfl | digit | rfl | digit | rfl | digit | rfl | digit
  all_goals first
    | exact Or.inl rfl
    | exact Or.inr (inGroup digit)

private theorem filter_flatMap_hexByte (bytes : Bytes) :
    (bytes.flatMap hexByte).filter (· != dash) = bytes.flatMap hexByte := by
  apply List.filter_eq_self.mpr
  intro byte mem
  obtain ⟨_, -, digit⟩ := List.mem_flatMap.mp mem
  have plain : byte ≠ dash := ne_of_isDigit (isDigit_of_mem_hexByte digit) rfl
  simpa using plain

@[simp]
theorem fromString_toString (id : TransferId) : fromString id.toString = some id := by
  have grouped : id.toString.filter (· != dash) = id.bytes.flatMap hexByte := by
    obtain ⟨bytes, length⟩ := id
    simp only [toString, List.filter_append, List.filter_cons, bne_self_eq_false,
      Bool.false_eq_true, if_false, filter_flatMap_hexByte, ← List.flatMap_append]
    congr 1
    match bytes, length with
    | [_, _, _, _, _, _, _, _, _, _, _, _, _, _, _, _], _ => rfl
  have digits : (id.bytes.flatMap hexByte).all (isDigit 16) = true := by
    apply List.all_eq_true.mpr
    intro byte mem
    obtain ⟨_, -, digit⟩ := List.mem_flatMap.mp mem
    exact isDigit_of_mem_hexByte digit
  have length : (id.bytes.flatMap hexByte).length = 32 := by
    rw [List.length_flatMap]
    simp [hexByte, id.length_eq]
  have same : fromString id.toString = some ⟨pairBytes (id.bytes.flatMap hexByte), by
      rw [length_pairBytes, length]⟩ := by
    simp only [fromString, grouped, digits, length, and_self, dite_true]
  rw [same]
  congr 1
  rw [TransferId.mk.injEq]
  exact pairBytes_hexByte id.bytes

theorem toString_injective : Function.Injective toString := by
  intro first second same
  have read := congrArg fromString same
  rw [fromString_toString, fromString_toString] at read
  exact Option.some.inj read

/-! ## Which texts are accepted -/

/-- A text without its dashes. -/
def digitsOf (str : Bytes) : Bytes :=
  str.filter (· != dash)

/-- Besides dashes there are exactly 32 hexadecimal digits. -/
def IsIdText (str : Bytes) : Prop :=
  (∀ byte ∈ digitsOf str, isDigit 16 byte = true) ∧ (digitsOf str).length = 32

instance (str : Bytes) : Decidable (IsIdText str) :=
  inferInstanceAs (Decidable (_ ∧ _))

/-- `std::tolower` of a letter; other bytes stay as they are. -/
def foldCase (byte : UInt8) : UInt8 :=
  if 0x41 ≤ byte ∧ byte ≤ 0x5a then byte + 0x20 else byte

theorem fromString_isSome_iff {str : Bytes} : (fromString str).isSome ↔ IsIdText str := by
  unfold fromString IsIdText digitsOf
  simp only [List.all_eq_true]
  split
  · rename_i valid
    exact iff_of_true rfl valid
  · rename_i invalid
    exact iff_of_false Bool.false_ne_true invalid

theorem fromString_of_isIdText {str : Bytes} (valid : IsIdText str) :
    ∃ id, fromString str = some id ∧ id.bytes = pairBytes (digitsOf str) := by
  have digits : (digitsOf str).all (isDigit 16) ∧ (digitsOf str).length = 32 :=
    ⟨List.all_eq_true.mpr valid.1, valid.2⟩
  exact ⟨⟨pairBytes (digitsOf str), by rw [length_pairBytes, valid.2]⟩, dif_pos digits, rfl⟩

theorem hexChar_digitValue {byte : UInt8} {value : Nat} (reads : digitValue byte = some value)
    (small : value < 16) : hexChar value = foldCase byte := by
  have every : ∀ code < 256, (digitValue (UInt8.ofNat code)).all fun value =>
      decide (value < 16 → hexChar value = foldCase (UInt8.ofNat code)) := by decide +kernel
  have one := every byte.toNat byte.toNat_lt
  rw [UInt8.ofNat_toNat, reads] at one
  exact of_decide_eq_true one small

theorem flatMap_hexByte_pairBytes {digits : Bytes} (valid : ∀ byte ∈ digits, isDigit 16 byte = true)
    (even : digits.length % 2 = 0) :
    (pairBytes digits).flatMap hexByte = digits.map foldCase := by
  induction digits using pairBytes.induct with
  | case1 high low rest ih =>
      simp only [List.forall_mem_cons] at valid
      rcases valid with ⟨highDigit, lowDigit, later⟩
      rcases digitValue_isSome highDigit with ⟨first, firstReads, firstSmall⟩
      rcases digitValue_isSome lowDigit with ⟨second, secondReads, secondSmall⟩
      have number : ofDigits 16 [high, low] = 16 * first + second := by
        simp [ofDigits, firstReads, secondReads]
      have pair : ∀ byte ∈ [high, low], isDigit 16 byte = true := by
        simp [highDigit, lowDigit]
      have reads : stoul 16 [high, low] = some (UInt64.ofNat (16 * first + second)) := by
        rw [stoul, stoull_of_digits (List.cons_ne_nil _ _) pair (by omega), number]
      have byte : (UInt8.ofNat (UInt64.ofNat (16 * first + second)).toNat).toNat =
          16 * first + second := by
        rw [UInt64.toNat_ofNat', UInt8.toNat_ofNat']
        omega
      have parts : (16 * first + second) / 16 = first ∧ (16 * first + second) % 16 = second := by
        omega
      rw [List.length_cons, List.length_cons] at even
      rw [pairBytes, reads, List.flatMap_cons, ih later (by omega), Option.getD_some, hexByte, byte,
        parts.1, parts.2, hexChar_digitValue firstReads firstSmall,
        hexChar_digitValue secondReads secondSmall]
      rfl
  | case2 digit =>
      rw [List.length_singleton] at even
      contradiction
  | case3 => rfl

/-- Two texts that are accepted stand for one identifier exactly if their digits agree but for the
case of letters. -/
theorem fromString_eq_iff {first second : Bytes} (firstValid : IsIdText first)
    (secondValid : IsIdText second) :
    fromString first = fromString second ↔
      (digitsOf first).map foldCase = (digitsOf second).map foldCase := by
  rcases fromString_of_isIdText firstValid with ⟨id, read, bytes⟩
  rcases fromString_of_isIdText secondValid with ⟨other, otherRead, otherBytes⟩
  have written : id.bytes.flatMap hexByte = (digitsOf first).map foldCase := by
    rw [bytes, flatMap_hexByte_pairBytes firstValid.1 (by rw [firstValid.2])]
  have otherWritten : other.bytes.flatMap hexByte = (digitsOf second).map foldCase := by
    rw [otherBytes, flatMap_hexByte_pairBytes secondValid.1 (by rw [secondValid.2])]
  rw [read, otherRead, Option.some.injEq, ← written, ← otherWritten]
  constructor
  · rintro rfl
    rfl
  · intro same
    have equal := congrArg pairBytes same
    rw [pairBytes_hexByte, pairBytes_hexByte] at equal
    rcases id with ⟨_, _⟩
    rcases other with ⟨_, _⟩
    rw [TransferId.mk.injEq]
    exact equal

/-- Formatting and parsing are inverse to each other, as far as a text is accepted at all. -/
theorem fromString_spec :
    (∀ id : TransferId, fromString id.toString = some id) ∧
    Function.Injective toString ∧
    (∀ str, (fromString str).isSome ↔ IsIdText str) ∧
    ∀ first second, IsIdText first → IsIdText second →
      (fromString first = fromString second ↔
        (digitsOf first).map foldCase = (digitsOf second).map foldCase) :=
  ⟨fromString_toString, toString_injective, fun _ => fromString_isSome_iff,
    fun _ _ => fromString_eq_iff⟩

/-- Dashes may stand anywhere, and letters are of either case. -/
theorem fromString_eq_upper :
    fromString (ascii "0123456789abcdef-0123456789abcdef") =
      fromString (ascii "01-23456789ABCDEF0123456789ABCDEF-") :=
  (fromString_spec.2.2.2 _ _ (by decide) (by decide)).mpr (by decide)

end FileTrans.Core.TransferId
