import Mathlib.Data.BitVec

/-!
# Linear shift registers

A register that is shifted to the right and reduced by a polynomial whenever a
one falls out, as in a reflected cyclic redundancy check.  A shift is linear
with respect to the exclusive or, and it loses nothing if the polynomial has
its highest coefficient.  From the first a table can take in several bits at
once, and from both every short burst of errors leaves a trace.
-/

namespace FileTrans.Codes

variable {w : Nat}

def shift (polynomial register : BitVec w) : BitVec w :=
  if register.getLsbD 0 then (register >>> 1) ^^^ polynomial else register >>> 1

/-- The bit in the lowest place. -/
def lowest (w : Nat) (bit : Bool) : BitVec w :=
  (BitVec.ofBool bit).setWidth w

/-- The register after it took in the bits, one with each shift. -/
def absorb (polynomial register : BitVec w) (bits : List Bool) : BitVec w :=
  bits.foldl (fun register bit => shift polynomial (register ^^^ lowest w bit)) register

/-- The reflected cyclic redundancy check of the bits. -/
def reflectedCrc (polynomial initial final : BitVec w) (bits : List Bool) : BitVec w :=
  absorb polynomial initial bits ^^^ final

/-- The bits as a number, the first in the lowest place. -/
def packed (w : Nat) : List Bool → BitVec w
  | [] => 0#w
  | bit :: rest => lowest w bit ^^^ packed w rest <<< 1

/-! ## Linearity -/

section

variable (polynomial : BitVec w)

theorem shift_xor (first second : BitVec w) :
    shift polynomial (first ^^^ second) = shift polynomial first ^^^ shift polynomial second := by
  rw [shift, shift, shift, BitVec.getLsbD_xor, BitVec.ushiftRight_xor_distrib]
  cases first.getLsbD 0 <;> cases second.getLsbD 0
  · rfl
  · simp [BitVec.xor_assoc]
  · simp only [Bool.xor_false, if_true, Bool.false_eq_true, if_false]
    ac_rfl
  · simp only [Bool.xor_self, Bool.false_eq_true, if_false, if_true]
    rw [BitVec.xor_comm (second >>> 1), BitVec.xor_assoc, ← BitVec.xor_assoc polynomial,
      BitVec.xor_self, BitVec.zero_xor]

theorem shift_zero : shift polynomial 0#w = 0#w := by
  simp [shift]

theorem iterate_shift_xor (count : Nat) (first second : BitVec w) :
    (shift polynomial)^[count] (first ^^^ second) =
      (shift polynomial)^[count] first ^^^ (shift polynomial)^[count] second := by
  induction count generalizing first second with
  | zero => rfl
  | succ count ih =>
      rw [Function.iterate_succ_apply, shift_xor, ih]
      rfl

theorem iterate_shift_zero (count : Nat) : (shift polynomial)^[count] 0#w = 0#w :=
  Function.iterate_fixed (shift_zero polynomial) count

theorem lowest_xor (first second : Bool) :
    lowest w (first ^^ second) = lowest w first ^^^ lowest w second := by
  cases first <;> cases second <;> simp [lowest]

theorem absorb_append (register : BitVec w) (first second : List Bool) :
    absorb polynomial register (first ++ second) =
      absorb polynomial (absorb polynomial register first) second :=
  List.foldl_append

theorem absorb_cons (register : BitVec w) (bit : Bool) (rest : List Bool) :
    absorb polynomial register (bit :: rest) =
      absorb polynomial (shift polynomial (register ^^^ lowest w bit)) rest :=
  rfl

/-- Two messages of one length are taken in side by side. -/
theorem absorb_xor (left right : BitVec w) {first second : List Bool}
    (same : first.length = second.length) :
    absorb polynomial (left ^^^ right) (first.zipWith xor second) =
      absorb polynomial left first ^^^ absorb polynomial right second := by
  induction first generalizing left right second with
  | nil =>
      rw [List.length_eq_zero_iff.mp same.symm]
      rfl
  | cons bit rest ih =>
      obtain ⟨other, others, rfl⟩ := List.exists_cons_of_length_eq_add_one same.symm
      have tails : rest.length = others.length := Nat.succ.inj same
      have regroup : left ^^^ right ^^^ lowest w (bit ^^ other) =
          (left ^^^ lowest w bit) ^^^ (right ^^^ lowest w other) := by
        rw [lowest_xor]
        ac_rfl
      rw [List.zipWith_cons_cons, absorb_cons, absorb_cons, absorb_cons, regroup, shift_xor,
        ih _ _ tails]

theorem absorb_replicate_false (register : BitVec w) (count : Nat) :
    absorb polynomial register (List.replicate count false) =
      (shift polynomial)^[count] register := by
  induction count generalizing register with
  | zero => rfl
  | succ count ih =>
      rw [List.replicate_succ, absorb_cons, ih, Function.iterate_succ_apply]
      simp [lowest]

end

/-! ## Several bits at once -/

section

variable {polynomial : BitVec w}

/-- As long as zeros fall out nothing is reduced. -/
theorem iterate_shift_of_low {count : Nat} {register : BitVec w}
    (low : ∀ position < count, register.getLsbD position = false) :
    (shift polynomial)^[count] register = register >>> count := by
  induction count generalizing register with
  | zero => simp
  | succ count ih =>
      have first : register.getLsbD 0 = false := low 0 (Nat.zero_lt_succ count)
      rw [Function.iterate_succ_apply, shift, first, if_neg Bool.false_ne_true, ih,
        Nat.add_comm, BitVec.shiftRight_add]
      intro position below
      rw [BitVec.getLsbD_ushiftRight]
      exact low _ (by omega)

theorem getLsbD_packed (bits : List Bool) (position : Nat) :
    (packed w bits).getLsbD position = (decide (position < w) && bits[position]?.getD false) := by
  induction bits generalizing position with
  | nil => simp [packed]
  | cons bit rest ih =>
      rw [packed, BitVec.getLsbD_xor, BitVec.getLsbD_shiftLeft, lowest, BitVec.getLsbD_setWidth,
        ih]
      cases position with
      | zero => cases bit <;> simp
      | succ position =>
          have inner : decide (position + 1 < w) = true → decide (position < w) = true := by
            simp only [decide_eq_true_iff]
            omega
          cases within : decide (position + 1 < w) with
          | false => simp
          | true => simp [inner within]

/-- Bits that fit into the register may be taken in before the shifts. -/
theorem absorb_eq_iterate (register : BitVec w) {bits : List Bool} (short : bits.length ≤ w) :
    absorb polynomial register bits =
      (shift polynomial)^[bits.length] (register ^^^ packed w bits) := by
  induction bits generalizing register with
  | nil => simp [absorb, packed]
  | cons bit rest ih =>
      rw [List.length_cons] at short
      have kept : shift polynomial (packed w rest <<< 1) = packed w rest := by
        rw [shift, if_neg (by simp)]
        apply BitVec.eq_of_getLsbD_eq
        intro position below
        have beyond : (packed w rest).getLsbD (w - 1) = false := by
          rw [getLsbD_packed, List.getElem?_eq_none (by omega)]
          simp
        rw [BitVec.getLsbD_ushiftRight, BitVec.getLsbD_shiftLeft]
        by_cases last : 1 + position < w
        · simp [last]
        · have top : position = w - 1 := by omega
          simp [top, beyond]
      have taken : shift polynomial (register ^^^ (lowest w bit ^^^ packed w rest <<< 1)) =
          shift polynomial (register ^^^ lowest w bit) ^^^ packed w rest := by
        rw [← BitVec.xor_assoc, shift_xor polynomial (register ^^^ lowest w bit), kept]
      rw [absorb_cons, ih _ (by omega), List.length_cons, Function.iterate_succ_apply, packed,
        taken]

theorem iterate_shift_eq_table (count : Nat) (register : BitVec w) :
    (shift polynomial)^[count] register =
      (shift polynomial)^[count] ((register.setWidth count).setWidth w) ^^^
        register >>> count := by
  have split : register = (register.setWidth count).setWidth w ^^^
      (register ^^^ (register.setWidth count).setWidth w) := by
    rw [BitVec.xor_comm register, ← BitVec.xor_assoc, BitVec.xor_self, BitVec.zero_xor]
  have low : ∀ position < count,
      (register ^^^ (register.setWidth count).setWidth w).getLsbD position = false := by
    intro position below
    rw [BitVec.getLsbD_xor, BitVec.getLsbD_setWidth, BitVec.getLsbD_setWidth]
    by_cases within : position < w
    · simp [below, within]
    · simp [within, BitVec.getLsbD_of_ge register position (Nat.not_lt.mp within)]
  have moved : ((register.setWidth count).setWidth w) >>> count = 0#w := by
    apply BitVec.eq_of_getLsbD_eq
    intro position below
    simp
  conv_lhs => rw [split, iterate_shift_xor, iterate_shift_of_low low,
    BitVec.ushiftRight_xor_distrib, moved, BitVec.xor_zero]

end

/-! ## Bursts -/

section

variable {polynomial : BitVec w}

theorem shift_eq_zero_iff (top : polynomial.msb = true) {register : BitVec w} :
    shift polynomial register = 0#w ↔ register = 0#w := by
  refine ⟨fun zero => ?_, fun zero => zero ▸ shift_zero polynomial⟩
  rw [shift] at zero
  cases first : register.getLsbD 0 with
  | true =>
      rw [first, if_pos rfl, BitVec.xor_eq_zero_iff] at zero
      rw [← zero, BitVec.msb_ushiftRight] at top
      simp at top
  | false =>
      rw [first, if_neg Bool.false_ne_true] at zero
      apply BitVec.eq_of_getLsbD_eq
      intro position below
      cases position with
      | zero => simpa using first
      | succ position =>
          have moved := BitVec.getLsbD_ushiftRight register 1 position
          rw [zero, Nat.add_comm] at moved
          simpa using moved.symm

theorem iterate_shift_eq_zero_iff (top : polynomial.msb = true) (count : Nat)
    {register : BitVec w} : (shift polynomial)^[count] register = 0#w ↔ register = 0#w := by
  induction count generalizing register with
  | zero => rfl
  | succ count ih => rw [Function.iterate_succ_apply, ih, shift_eq_zero_iff top]

theorem eq_replicate_false {bits : List Bool} (none : true ∉ bits) :
    bits = List.replicate bits.length false := by
  rw [List.eq_replicate_iff]
  refine ⟨rfl, fun bit mem => ?_⟩
  cases bit with
  | true => exact absurd mem none
  | false => rfl

theorem absorb_ne_zero_of_window (top : polynomial.msb = true) {bits : List Bool} {start : Nat}
    (ones : true ∈ bits)
    (window : ∀ position, bits[position]? = some true →
      start ≤ position ∧ position < start + w) :
    absorb polynomial 0#w bits ≠ 0#w := by
  have before : true ∉ bits.take start := by
    intro mem
    obtain ⟨position, held⟩ := List.mem_iff_getElem?.mp mem
    rw [List.getElem?_take] at held
    split at held
    · have := window position held
      omega
    · contradiction
  have after : true ∉ (bits.drop start).drop w := by
    intro mem
    obtain ⟨position, held⟩ := List.mem_iff_getElem?.mp mem
    rw [List.drop_drop, List.getElem?_drop] at held
    have := window _ held
    omega
  have parts :
      bits = bits.take start ++ ((bits.drop start).take w ++ (bits.drop start).drop w) := by
    rw [List.take_append_drop, List.take_append_drop]
  have inside : true ∈ (bits.drop start).take w := by
    rw [parts, List.mem_append, List.mem_append] at ones
    exact (ones.resolve_left before).resolve_right after
  rw [parts, absorb_append, absorb_append, eq_replicate_false before, eq_replicate_false after,
    absorb_replicate_false, absorb_replicate_false, iterate_shift_zero,
    absorb_eq_iterate _ (List.length_take_le _ _), BitVec.zero_xor, Ne,
    iterate_shift_eq_zero_iff top, iterate_shift_eq_zero_iff top]
  intro empty
  obtain ⟨position, held⟩ := List.mem_iff_getElem?.mp inside
  have one := getLsbD_packed (w := w) ((bits.drop start).take w) position
  rw [empty, held] at one
  have short := (List.getElem?_eq_some_iff.mp held).1
  rw [List.length_take] at short
  have below : position < w := by omega
  simp [below] at one

/-- Messages of one length that differ, but only within a window as wide as the register, have
different checks. -/
theorem reflectedCrc_ne_of_window (top : polynomial.msb = true) (initial final : BitVec w)
    {first second : List Bool} (same : first.length = second.length) {start : Nat}
    (ones : true ∈ first.zipWith xor second)
    (window : ∀ position, (first.zipWith xor second)[position]? = some true →
      start ≤ position ∧ position < start + w) :
    reflectedCrc polynomial initial final first ≠ reflectedCrc polynomial initial final second := by
  intro collide
  have registers := (BitVec.xor_left_inj final).mp collide
  apply absorb_ne_zero_of_window top ones window
  have apart := absorb_xor polynomial initial initial same
  rw [registers, BitVec.xor_self, BitVec.xor_self] at apart
  exact apart

end

end FileTrans.Codes
