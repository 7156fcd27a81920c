import Mathlib.Data.Set.Lattice
import Mathlib.Order.CompletePartialOrder
import Mathlib.Order.Interval.Set.LinearOrder

/-!
# Pieces with offsets

Pieces that carry offsets tile a content if they are the content in order and
each offset says how much comes before its piece.  Their spans are then
disjoint and cover the content.
-/

namespace FileTrans.Collections

universe u

variable {α : Type u}

/-- The content of the pieces, in order. -/
def joined (pieces : List (Nat × List α)) : List α :=
  (pieces.map Prod.snd).flatten

@[simp]
theorem joined_nil : joined ([] : List (Nat × List α)) = [] :=
  rfl

@[simp]
theorem joined_cons (piece : Nat × List α) (rest : List (Nat × List α)) :
    joined (piece :: rest) = piece.2 ++ joined rest :=
  rfl

@[simp]
theorem joined_append (first second : List (Nat × List α)) :
    joined (first ++ second) = joined first ++ joined second := by
  rw [joined, List.map_append, List.flatten_append]
  rfl

/-- Pieces with one offset are joined as they are. -/
@[simp]
theorem joined_map_offset (offset : Nat) (pieces : List (List α)) :
    joined (pieces.map fun piece => (offset, piece)) = pieces.flatten := by
  rw [joined, List.map_map]
  exact congrArg List.flatten (List.map_id pieces)

/-- The places that a piece takes. -/
def span (piece : Nat × List α) : Set Nat :=
  Set.Ico piece.1 (piece.1 + piece.2.length)

/-- The pieces tile the content. -/
structure Tiles (content : List α) (pieces : List (Nat × List α)) : Prop where
  joined : Collections.joined pieces = content
  offsets : ∀ before piece after, pieces = before ++ piece :: after →
    piece.1 = (Collections.joined before).length
  disjoint : pieces.Pairwise fun first second => Disjoint (span first) (span second)
  covers : ⋃ piece ∈ pieces, span piece = Set.Ico 0 content.length

/-- From this start on, each offset is where the piece before it ends. -/
def Consecutive : Nat → List (Nat × List α) → Prop
  | _, [] => True
  | start, piece :: rest => piece.1 = start ∧ Consecutive (start + piece.2.length) rest

variable {start : Nat} {pieces : List (Nat × List α)} {content : List α}

theorem consecutive_append_iff {more : List (Nat × List α)} :
    Consecutive start (pieces ++ more) ↔
      Consecutive start pieces ∧ Consecutive (start + (joined pieces).length) more := by
  induction pieces generalizing start with
  | nil => simp [Consecutive]
  | cons piece rest ih =>
      rw [List.cons_append, Consecutive, Consecutive, ih, joined_cons, List.length_append,
        ← Nat.add_assoc, and_assoc]

/-- Consecutive pieces are those whose offsets say how much comes before them. -/
theorem consecutive_iff_forall_split :
    Consecutive start pieces ↔ ∀ before piece after, pieces = before ++ piece :: after →
      piece.1 = start + (joined before).length := by
  constructor
  · rintro consecutive before piece after rfl
    exact (consecutive_append_iff.mp consecutive).2.1
  · intro every
    induction pieces generalizing start with
    | nil => exact trivial
    | cons piece rest ih =>
        refine ⟨every [] piece rest rfl, ih ?_⟩
        intro before later after split
        rw [every (piece :: before) later after (congrArg (piece :: ·) split), joined_cons,
          List.length_append, Nat.add_assoc]

/-- Pieces of one size with one offset are consecutive only if there is one at most. -/
theorem consecutive_map_offset_iff {offset size : Nat} {pieces : List (List α)}
    (positive : 0 < size)
    (sized : ∀ piece ∈ pieces, piece.length = size) :
    Consecutive start (pieces.map fun piece => (offset, piece)) ↔
      pieces = [] ∨ start = offset ∧ pieces.length = 1 := by
  match pieces with
  | [] => simp [Consecutive]
  | [piece] => simp [Consecutive, eq_comm]
  | piece :: second :: rest =>
      have length := sized piece List.mem_cons_self
      simp only [List.map_cons, Consecutive, length, List.length_cons]
      constructor
      · rintro ⟨rfl, same, -⟩
        omega
      · rintro (none | ⟨-, one⟩)
        · contradiction
        · omega

/-- Consecutive pieces cover what lies between their start and their end. -/
theorem Consecutive.covers (consecutive : Consecutive start pieces) :
    ⋃ piece ∈ pieces, span piece = Set.Ico start (start + (joined pieces).length) := by
  induction pieces generalizing start with
  | nil => simp
  | cons piece rest ih =>
      obtain ⟨rfl, later⟩ := consecutive
      have first : span piece = Set.Ico piece.1 (piece.1 + piece.2.length) := rfl
      simp only [List.mem_cons, Set.iUnion_iUnion_eq_or_left, ih later, first]
      rw [Set.Ico_union_Ico_eq_Ico (Nat.le_add_right _ _) (Nat.le_add_right _ _), joined_cons,
        List.length_append, Nat.add_assoc]

/-- Consecutive pieces share no place. -/
theorem Consecutive.disjoint (consecutive : Consecutive start pieces) :
    pieces.Pairwise fun first second => Disjoint (span first) (span second) := by
  induction pieces generalizing start with
  | nil => exact List.Pairwise.nil
  | cons piece rest ih =>
      obtain ⟨rfl, later⟩ := consecutive
      refine List.Pairwise.cons ?_ (ih later)
      intro second mem
      apply Set.disjoint_left.mpr
      intro place inFirst inSecond
      have covered : place ∈ ⋃ piece ∈ rest, span piece := Set.mem_biUnion mem inSecond
      rw [later.covers] at covered
      exact absurd inFirst.2 (Nat.not_lt.mpr covered.1)

/-- Pieces tile a content exactly if they are it in order, and are consecutive. -/
theorem tiles_iff : Tiles content pieces ↔ joined pieces = content ∧ Consecutive 0 pieces := by
  constructor
  · intro tiles
    refine ⟨tiles.joined, consecutive_iff_forall_split.mpr ?_⟩
    intro before piece after split
    rw [Nat.zero_add]
    exact tiles.offsets before piece after split
  · rintro ⟨rfl, consecutive⟩
    refine ⟨rfl, ?_, consecutive.disjoint, ?_⟩
    · intro before piece after split
      have offset := consecutive_iff_forall_split.mp consecutive before piece after split
      rwa [Nat.zero_add] at offset
    · rw [consecutive.covers, Nat.zero_add]

end FileTrans.Collections
