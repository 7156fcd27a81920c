import Mathlib.Data.List.Basic
import Mathlib.Data.List.Induction
import Mathlib.Order.Interval.Set.Basic
import Mathlib.Order.MinMax

/-!
# Seekable files

A file is a finite sequence of cells.  A write at a position past the end
fills the gap, and a write of no cells changes nothing, whatever the position.

`Restores content file covered` says that a file of the right length already
agrees with `content` on the positions in `covered`.  Writing a slice of the
content at its own offset extends the covered set, in any order and with any
repetition; once every position is covered the file is the content.

A file after several writes holds, in every cell that some write covers, what the last
of these writes put there.  It is as long as the file was, or as the write that reaches
furthest.  `writeAll_exact_iff` compares the two: the writes leave the length of a file
alone and replace every cell of it exactly if the ranges they cover make up the file.
-/

namespace FileTrans.Storage

universe u

variable {α : Type u}

/-- The cells `[position, position + count)` of a file, cut at its end. -/
def readAt (file : List α) (position count : Nat) : List α :=
  (file.drop position).take count

/-- Overwrite a file from `position` on with `data`. -/
def writeAt (fill : α) (file : List α) (position : Nat) : List α → List α
  | [] => file
  | cell :: rest =>
      (file ++ List.replicate (position - file.length) fill).take position ++
        (cell :: rest) ++ file.drop (position + (rest.length + 1))

@[simp]
theorem writeAt_nil (fill : α) (file : List α) (position : Nat) :
    writeAt fill file position [] = file :=
  rfl

theorem writeAt_of_ne_nil (fill : α) (file : List α) (position : Nat)
    {data : List α} (nonempty : data ≠ []) :
    writeAt fill file position data =
      (file ++ List.replicate (position - file.length) fill).take position ++
        data ++ file.drop (position + data.length) := by
  cases data with
  | nil => contradiction
  | cons cell rest => rfl

theorem length_writeAt (fill : α) (file : List α) (position : Nat)
    {data : List α} (nonempty : data ≠ []) :
    (writeAt fill file position data).length =
      max file.length (position + data.length) := by
  rw [writeAt_of_ne_nil fill file position nonempty]
  simp only [List.length_append, List.length_take, List.length_replicate,
    List.length_drop]
  omega

variable {position index : Nat}

theorem getElem?_writeAt_of_mem (fill : α) (file data : List α) (lower : position ≤ index)
    (upper : index < position + data.length) :
    (writeAt fill file position data)[index]? = data[index - position]? := by
  have nonempty : data ≠ [] := by
    rintro rfl
    simp only [List.length_nil, Nat.add_zero] at upper
    omega
  have headLength : ((file ++ List.replicate (position - file.length) fill).take
      position).length = position := by
    simp only [List.length_take, List.length_append, List.length_replicate]
    omega
  rw [writeAt_of_ne_nil fill file position nonempty, List.append_assoc,
    List.getElem?_append_right (by omega), headLength,
    List.getElem?_append_left (by omega)]

theorem getElem?_writeAt_of_not_mem (fill : α) (file data : List α)
    (exists_cell : index < file.length)
    (outside : index < position ∨ position + data.length ≤ index) :
    (writeAt fill file position data)[index]? = file[index]? := by
  cases data with
  | nil => rfl
  | cons cell rest =>
      have headLength : ((file ++ List.replicate (position - file.length) fill).take
          position).length = position := by
        simp only [List.length_take, List.length_append, List.length_replicate]
        omega
      rw [writeAt_of_ne_nil fill file position (List.cons_ne_nil cell rest)]
      rcases outside with before | after
      · rw [List.append_assoc, List.getElem?_append_left (by omega),
          List.getElem?_take_of_lt before, List.getElem?_append_left exists_cell]
      · rw [List.getElem?_append_right (by rw [List.length_append]; omega),
          List.length_append, headLength, List.getElem?_drop]
        congr 1
        omega

theorem length_readAt (file : List α) (position count : Nat) :
    (readAt file position count).length = min count (file.length - position) := by
  simp [readAt]

theorem getElem?_readAt (file : List α) {count : Nat} (within : index < count) :
    (readAt file position count)[index]? = file[position + index]? := by
  rw [readAt, List.getElem?_take_of_lt within, List.getElem?_drop]

/-- The file has the length of the content and agrees with it on `covered`. -/
structure Restores (content file : List α) (covered : Set Nat) : Prop where
  length_eq : file.length = content.length
  agrees : ∀ index ∈ covered, file[index]? = content[index]?

namespace Restores

variable {content file : List α}

theorem empty (length_eq : file.length = content.length) : Restores content file ∅ :=
  ⟨length_eq, fun _ mem => absurd mem (Set.notMem_empty _)⟩

theorem writeSlice {covered : Set Nat} (fill : α) (restores : Restores content file covered)
    {position count : Nat} (inside : position + count ≤ content.length) :
    Restores content (writeAt fill file position (readAt content position count))
      (covered ∪ Set.Ico position (position + count)) := by
  have sliceLength : (readAt content position count).length = count := by
    rw [length_readAt]
    omega
  have length_eq := restores.length_eq
  constructor
  · by_cases slice_nil : readAt content position count = []
    · rw [slice_nil, writeAt_nil, length_eq]
    · rw [length_writeAt fill file position slice_nil, sliceLength]
      omega
  · intro index mem
    by_cases written : position ≤ index ∧ index < position + count
    · rw [getElem?_writeAt_of_mem fill file _ written.1 (by omega),
        getElem?_readAt content (by omega)]
      congr 1
      omega
    · have old : index ∈ covered := by
        rcases mem with old | range
        · exact old
        · exact absurd (Set.mem_Ico.mp range) written
      by_cases exists_cell : index < file.length
      · rw [getElem?_writeAt_of_not_mem fill file _ exists_cell (by omega)]
        exact restores.agrees index old
      · have pastEnd : content.length ≤ index := by omega
        rw [List.getElem?_eq_none pastEnd, List.getElem?_eq_none]
        by_cases slice_nil : readAt content position count = []
        · rw [slice_nil, writeAt_nil]
          omega
        · rw [length_writeAt fill file position slice_nil, sliceLength]
          omega

theorem eq_content {covered : Set Nat} (restores : Restores content file covered)
    (complete : ∀ index < content.length, index ∈ covered) : file = content := by
  apply List.ext_getElem?
  intro index
  by_cases inside : index < content.length
  · exact restores.agrees index (complete index inside)
  · rw [List.getElem?_eq_none (by rw [restores.length_eq]; omega),
      List.getElem?_eq_none (by omega)]

end Restores

end FileTrans.Storage

namespace FileTrans.Storage

universe u

/-! ## Sequences of writes -/

variable {α : Type u}

/-- Some cells and where they go. -/
structure Write (α : Type u) where
  position : Nat
  data : List α

/-- The write puts something at the index. -/
def Write.Covers (write : Write α) (index : Nat) : Prop :=
  write.position ≤ index ∧ index < write.position + write.data.length

instance (write : Write α) (index : Nat) : Decidable (write.Covers index) :=
  inferInstanceAs (Decidable (_ ∧ _))

/-- One write after the other. -/
def writeAll (fill : α) (file : List α) (writes : List (Write α)) : List α :=
  writes.foldl (fun file write => writeAt fill file write.position write.data) file

/-- What the last write that covers an index puts there. -/
def lastWritten (writes : List (Write α)) (index : Nat) : Option α :=
  writes.foldl (fun cell write =>
    if write.Covers index then write.data[index - write.position]? else cell) none

@[simp]
theorem writeAll_nil (fill : α) (file : List α) : writeAll fill file [] = file :=
  rfl

theorem writeAll_concat (fill : α) (file : List α) (writes : List (Write α)) (last : Write α) :
    writeAll fill file (writes ++ [last]) =
      writeAt fill (writeAll fill file writes) last.position last.data := by
  rw [writeAll, List.foldl_append]
  rfl

theorem lastWritten_concat (writes : List (Write α)) (last : Write α) (index : Nat) :
    lastWritten (writes ++ [last]) index =
      if last.Covers index then last.data[index - last.position]?
      else lastWritten writes index := by
  rw [lastWritten, List.foldl_append]
  rfl

variable {index : Nat}

theorem Write.Covers.exists_cell {write : Write α} (covers : write.Covers index) :
    ∃ cell, write.data[index - write.position]? = some cell := by
  obtain ⟨lower, upper⟩ := covers
  have inside : index - write.position < write.data.length := by omega
  exact ⟨_, List.getElem?_eq_getElem inside⟩

theorem exists_lastWritten_iff {writes : List (Write α)} :
    (∃ cell, lastWritten writes index = some cell) ↔ ∃ write ∈ writes, write.Covers index := by
  induction writes using List.reverseRecOn with
  | nil => simp [lastWritten]
  | append_singleton writes last ih =>
      rw [lastWritten_concat]
      constructor
      · split
        · rename_i covers
          exact fun _ => ⟨last, by simp, covers⟩
        · intro written
          obtain ⟨write, mem, covers⟩ := ih.mp written
          exact ⟨write, List.mem_append_left _ mem, covers⟩
      · rintro ⟨write, mem, covers⟩
        split
        · rename_i lastCovers
          exact lastCovers.exists_cell
        · rename_i uncovered
          rcases List.mem_append.mp mem with old | new
          · exact ih.mpr ⟨write, old, covers⟩
          · rw [List.mem_singleton.mp new] at covers
            exact absurd covers uncovered

theorem lt_length_writeAt_iff (fill : α) (file : List α) (write : Write α) (index : Nat) :
    index < (writeAt fill file write.position write.data).length ↔
      index < file.length ∨ ∃ reached, index ≤ reached ∧ write.Covers reached := by
  by_cases empty : write.data = []
  · have uncovered : ¬ ∃ reached, index ≤ reached ∧ write.Covers reached := by
      rintro ⟨reached, -, lower, upper⟩
      rw [empty, List.length_nil] at upper
      omega
    rw [empty, writeAt_nil]
    exact (or_iff_left uncovered).symm
  · have positive := List.length_pos_iff.mpr empty
    rw [length_writeAt fill file write.position empty, lt_max_iff]
    constructor
    · rintro (old | new)
      · exact Or.inl old
      · right
        refine ⟨max index write.position, le_max_left _ _, le_max_right _ _, ?_⟩
        omega
    · rintro (old | ⟨reached, below, -, upper⟩)
      · exact Or.inl old
      · right
        omega

theorem lt_length_writeAll_iff (fill : α) (file : List α) (writes : List (Write α))
    (index : Nat) :
    index < (writeAll fill file writes).length ↔
      index < file.length ∨ ∃ write ∈ writes, ∃ reached, index ≤ reached ∧
        write.Covers reached := by
  induction writes using List.reverseRecOn with
  | nil => simp
  | append_singleton writes last ih =>
      rw [writeAll_concat, lt_length_writeAt_iff, ih]
      constructor
      · rintro ((old | ⟨write, mem, reaches⟩) | reaches)
        · exact Or.inl old
        · exact Or.inr ⟨write, List.mem_append_left _ mem, reaches⟩
        · exact Or.inr ⟨last, by simp, reaches⟩
      · rintro (old | ⟨write, mem, reaches⟩)
        · exact Or.inl (Or.inl old)
        · rcases List.mem_append.mp mem with earlier | isLast
          · exact Or.inl (Or.inr ⟨write, earlier, reaches⟩)
          · rw [List.mem_singleton.mp isLast] at reaches
            exact Or.inr reaches

theorem getElem?_writeAll (fill : α) (file : List α) {writes : List (Write α)} {cell : α}
    (written : lastWritten writes index = some cell) :
    (writeAll fill file writes)[index]? = some cell := by
  induction writes using List.reverseRecOn with
  | nil => cases written
  | append_singleton writes last ih =>
      rw [lastWritten_concat] at written
      rw [writeAll_concat]
      split at written
      · rename_i covers
        rw [getElem?_writeAt_of_mem fill _ _ covers.1 covers.2]
        exact written
      · rename_i uncovered
        have earlier := ih written
        have inside := (List.getElem?_eq_some_iff.mp earlier).1
        have outside : index < last.position ∨ last.position + last.data.length ≤ index := by
          rw [Write.Covers] at uncovered
          omega
        rw [getElem?_writeAt_of_not_mem fill _ _ inside outside]
        exact earlier

/-- A file of the given length whose every cell is what some write put there last. -/
structure FullyWritten (file : List α) (length : Nat) (writes : List (Write α)) : Prop where
  length_eq : file.length = length
  written : ∀ index < length, ∃ cell,
    lastWritten writes index = some cell ∧ file[index]? = some cell

theorem fullyWritten_writeAll_iff (fill : α) (file : List α) (writes : List (Write α)) :
    FullyWritten (writeAll fill file writes) file.length writes ↔
      ∀ index, index < file.length ↔ ∃ write ∈ writes, write.Covers index := by
  constructor
  · rintro ⟨length_eq, written⟩ index
    constructor
    · intro inside
      obtain ⟨cell, last, -⟩ := written index inside
      exact exists_lastWritten_iff.mp ⟨cell, last⟩
    · rintro ⟨write, mem, covers⟩
      rw [← length_eq, lt_length_writeAll_iff]
      exact Or.inr ⟨write, mem, index, Nat.le_refl _, covers⟩
  · intro exact_cover
    constructor
    · apply Nat.le_antisymm
      · apply Nat.le_of_not_lt
        intro longer
        rcases (lt_length_writeAll_iff fill file writes _).mp longer with
          inside | ⟨write, mem, reached, below, covers⟩
        · exact Nat.lt_irrefl _ inside
        · have inside := (exact_cover reached).mpr ⟨write, mem, covers⟩
          omega
      · apply Nat.le_of_not_lt
        intro shorter
        have inside := (lt_length_writeAll_iff fill file writes _).mpr (Or.inl shorter)
        exact Nat.lt_irrefl _ inside
    · intro index inside
      obtain ⟨cell, last⟩ := exists_lastWritten_iff.mpr ((exact_cover index).mp inside)
      exact ⟨cell, last, getElem?_writeAll fill file last⟩

end FileTrans.Storage
