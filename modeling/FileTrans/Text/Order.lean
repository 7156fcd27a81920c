import FileTrans.Text.Bytes
import Mathlib.Data.List.Lex
import Mathlib.Data.List.Sort

/-!
# Byte strings in order

Byte strings are compared byte by byte, and a byte by its value.  A list
sorted by its keys is cut short by counting the smaller keys.
-/

namespace FileTrans

/-- Bytes in the order of their values. -/
instance linearOrderUInt8 : LinearOrder UInt8 where
  le_refl := UInt8.le_refl
  le_trans _ _ _ := UInt8.le_trans
  lt_iff_le_not_ge left right := by
    rw [UInt8.not_le]
    exact ⟨fun less => ⟨UInt8.le_of_lt less, less⟩, And.right⟩
  le_antisymm _ _ := UInt8.le_antisymm
  le_total := UInt8.le_total
  toDecidableLE := inferInstance

namespace Text

universe u v

variable {α : Type u} {Key : Type v} [LinearOrder Key] (key : α → Key)

def sortByKey (items : List α) : List α :=
  items.insertionSort fun left right => key left ≤ key right

variable {key} {items others : List α}

theorem perm_sortByKey : (sortByKey key items).Perm items :=
  List.perm_insertionSort _ items

theorem mem_sortByKey {item : α} : item ∈ sortByKey key items ↔ item ∈ items :=
  perm_sortByKey.mem_iff

theorem pairwise_sortByKey (distinct : (items.map key).Nodup) :
    (sortByKey key items).Pairwise fun left right => key left < key right := by
  have sorted : (sortByKey key items).Pairwise fun left right => key left ≤ key right :=
    List.pairwise_insertionSort _ items
  have apart : (sortByKey key items).Pairwise fun left right => key left ≠ key right :=
    List.pairwise_map.mp ((perm_sortByKey.map key).nodup_iff.mpr distinct)
  exact sorted.imp₂ (fun _ _ le ne => lt_of_le_of_ne le ne) apart

theorem sortByKey_eq_of_perm (distinct : (items.map key).Nodup) (same : items.Perm others) :
    sortByKey key items = sortByKey key others := by
  have alike : (sortByKey key items).Perm (sortByKey key others) :=
    perm_sortByKey.trans (same.trans perm_sortByKey.symm)
  apply alike.eq_of_pairwise _ (pairwise_sortByKey distinct)
    (pairwise_sortByKey ((same.map key).nodup_iff.mp distinct))
  intro left right _ _ less more
  exact absurd more (lt_asymm less)

theorem sortByKey_of_pairwise
    (increasing : items.Pairwise fun left right => key left < key right) :
    sortByKey key items = items :=
  (increasing.imp le_of_lt).insertionSort_eq

theorem mem_take_iff_of_pairwise {item : α} [DecidablePred fun other => key other < key item]
    {count : Nat} (increasing : items.Pairwise fun left right => key left < key right) :
    item ∈ items.take count ↔
      item ∈ items ∧ (items.filter fun other => key other < key item).length < count := by
  induction items generalizing count with
  | nil => simp
  | cons head items ih =>
      obtain ⟨above, increasing⟩ := List.pairwise_cons.mp increasing
      cases count with
      | zero => simp
      | succ count =>
          rw [List.take_succ_cons, List.mem_cons, List.mem_cons, ih increasing]
          by_cases first : item = head
          · subst first
            have least : ((item :: items).filter fun other => key other < key item) = [] := by
              apply List.filter_eq_nil_iff.mpr
              intro other mem
              rcases List.mem_cons.mp mem with rfl | mem
              · simp
              · simpa using (above other mem).le
            simp [least]
          · simp only [first, false_or]
            apply and_congr_right
            intro mem
            rw [List.filter_cons, if_pos (decide_eq_true (above item mem)), List.length_cons]
            exact Nat.add_lt_add_iff_right.symm

end Text

end FileTrans
