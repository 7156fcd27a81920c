import Mathlib.Data.List.Basic

/-!
# Buffered writers

A writer copies its input to a buffer, and hands the buffer on whenever it is
full.  Handing on may fail, and then the full buffer is kept; it may also not
return.  What is handed on are pieces of one size, and together with the buffer
they are the input in order.
-/

namespace FileTrans.Transition

universe u v w

variable {α : Type u} {Rest : Type v} {Failure : Type w}

/-- What handing on a piece comes to, if it returns. -/
abbrev Flush (α : Type u) (Rest : Type v) (Failure : Type w) :=
  List α → Rest → Option (Except Failure Unit × Rest)

/-- Copy the input to the buffer, a room full at a time, within so many passes. -/
def fill (size : Nat) (flush : Flush α Rest Failure) :
    Nat → List α → List α → Rest → Option (Except Failure Unit × List α × Rest)
  | 0, _, _, _ => none
  | passes + 1, remaining, buffer, rest =>
      if remaining = [] then some (.ok (), buffer, rest)
      else
        let room := size - buffer.length
        let held := buffer ++ remaining.take room
        if held.length < size then fill size flush passes (remaining.drop room) held rest
        else
          match flush held rest with
          | none => none
          | some (.error failure, rest) => some (.error failure, held, rest)
          | some (.ok (), rest) => fill size flush passes (remaining.drop room) [] rest

variable {size : Nat} {flush : Flush α Rest Failure} {passes : Nat}
  {remaining buffer held : List α} {rest after : Rest}

/-- The buffer does not grow beyond its size. -/
theorem length_held_le (fits : buffer.length ≤ size) :
    (buffer ++ remaining.take (size - buffer.length)).length ≤ size := by
  rw [List.length_append, List.length_take]
  omega

/-- What the buffer took and what it left are what there was. -/
theorem held_append_drop (room : Nat) :
    (buffer ++ remaining.take room) ++ remaining.drop room = buffer ++ remaining := by
  rw [List.append_assoc, List.take_append_drop]

/-- A pass that fills the buffer hands on a piece of the full size. -/
theorem length_held_eq (fits : buffer.length ≤ size)
    (full : ¬ (buffer ++ remaining.take (size - buffer.length)).length < size) :
    (buffer ++ remaining.take (size - buffer.length)).length = size :=
  Nat.le_antisymm (length_held_le fits) (Nat.le_of_not_lt full)

/-- Pieces of one size are as long together as their number says. -/
theorem length_flatten_pieces {Piece : Type v} {content : Piece → List α} {pieces : List Piece}
    (sized : ∀ piece ∈ pieces, (content piece).length = size) :
    (pieces.map content).flatten.length = pieces.length * size := by
  induction pieces with
  | nil => simp
  | cons piece rest ih =>
      rw [List.map_cons, List.flatten_cons, List.length_append, List.length_cons, Nat.succ_mul,
        ih fun other mem => sized other (List.mem_cons_of_mem _ mem),
        sized piece List.mem_cons_self, Nat.add_comm]

/-- A writer that returns has handed on pieces of the full size, and kept a buffer with room.
The invariant speaks of what has been handed on. -/
theorem fill_ok (invariant : List α → Rest → Prop)
    (flushes : ∀ content piece rest after, invariant content rest → piece.length = size →
      flush piece rest = some (.ok (), after) → invariant (content ++ piece) after)
    {content : List α} (initial : invariant content rest) (fits : buffer.length ≤ size)
    (ends : fill size flush passes remaining buffer rest = some (.ok (), held, after)) :
    ∃ handed, invariant handed after ∧ handed ++ held = content ++ (buffer ++ remaining) ∧
      held.length ≤ size ∧ (buffer.length < size → held.length < size) := by
  induction passes generalizing remaining buffer rest content with
  | zero => contradiction
  | succ passes ih =>
      rw [fill] at ends
      split at ends
      · rename_i empty
        cases ends
        exact ⟨content, initial, by rw [empty, List.append_nil], fits, id⟩
      · simp only at ends
        split at ends
        · rename_i room
          rcases ih initial (length_held_le fits) ends with ⟨handed, kept, content_eq, le, less⟩
          refine ⟨handed, kept, ?_, le, fun _ => less room⟩
          rw [content_eq, held_append_drop]
        · rename_i full
          split at ends
          · contradiction
          · simp at ends
          · rename_i next flushed
            have piece := length_held_eq fits full
            have kept := flushes _ _ _ _ initial piece flushed
            have empty : ([] : List α).length ≤ size := Nat.zero_le size
            rcases ih kept empty ends with ⟨handed, later, content_eq, le, less⟩
            refine ⟨handed, later, ?_, le, ?_⟩
            · rw [content_eq, List.nil_append, List.append_assoc, held_append_drop]
            · intro room
              apply less
              exact Nat.lt_of_le_of_lt (Nat.zero_le _) room

/-- A writer that can hand on nothing keeps everything in its buffer. -/
theorem fill_ok_of_stuck
    (stuck : ∀ piece rest after, piece ≠ [] → piece.length = size →
      flush piece rest ≠ some (.ok (), after)) (fits : buffer.length ≤ size)
    (ends : fill size flush passes remaining buffer rest = some (.ok (), held, after)) :
    held = buffer ++ remaining ∧ held.length ≤ size ∧
      (buffer.length < size → held.length < size) := by
  rcases fill_ok (fun content _ => content = [])
    (by
      rintro content piece rest after rfl length flushed
      by_contra nonempty
      exact stuck piece rest after nonempty length flushed)
    rfl fits ends with ⟨handed, rfl, together, le, less⟩
  exact ⟨together, le, less⟩

/-- A writer that fails has handed on pieces of the full size up to the one that it keeps. -/
theorem fill_error (invariant : List α → Rest → Prop)
    (flushes : ∀ content piece rest after, invariant content rest → piece.length = size →
      flush piece rest = some (.ok (), after) → invariant (content ++ piece) after)
    {content : List α} (initial : invariant content rest) (fits : buffer.length ≤ size)
    {failure : Failure}
    (ends : fill size flush passes remaining buffer rest = some (.error failure, held, after)) :
    ∃ handed before, invariant handed before ∧ held.length = size ∧
      flush held before = some (.error failure, after) ∧
      handed ++ held <+: content ++ (buffer ++ remaining) := by
  induction passes generalizing remaining buffer rest content with
  | zero => contradiction
  | succ passes ih =>
      rw [fill] at ends
      split at ends
      · simp at ends
      · simp only at ends
        split at ends
        · rename_i room
          rcases ih initial (length_held_le fits) ends with
            ⟨handed, before, kept, length, flushed, isPrefix⟩
          refine ⟨handed, before, kept, length, flushed, ?_⟩
          rwa [held_append_drop] at isPrefix
        · rename_i full
          have piece := length_held_eq fits full
          split at ends
          · contradiction
          · rename_i found next flushed
            cases ends
            refine ⟨content, rest, initial, piece, flushed, ?_⟩
            apply (List.prefix_append_right_inj content).mpr
            exact ⟨remaining.drop (size - buffer.length), held_append_drop _⟩
          · rename_i next flushed
            have kept := flushes _ _ _ _ initial piece flushed
            have empty : ([] : List α).length ≤ size := Nat.zero_le size
            rcases ih kept empty ends with
              ⟨handed, before, later, length, failed, isPrefix⟩
            refine ⟨handed, before, later, length, failed, ?_⟩
            rwa [List.nil_append, List.append_assoc, held_append_drop] at isPrefix

/-- What every piece preserves, handed on or kept, holds when the writer ends. -/
theorem fill_invariant (invariant : Rest → Prop)
    (flushes : ∀ piece rest result after, invariant rest →
      flush piece rest = some (result, after) → invariant after)
    (initial : invariant rest) {result : Except Failure Unit}
    (ends : fill size flush passes remaining buffer rest = some (result, held, after)) :
    invariant after := by
  induction passes generalizing remaining buffer rest with
  | zero => contradiction
  | succ passes ih =>
      rw [fill] at ends
      split at ends
      · cases ends
        exact initial
      · simp only at ends
        split at ends
        · exact ih initial ends
        · split at ends
          · contradiction
          · rename_i found next flushed
            cases ends
            exact flushes _ _ _ _ initial flushed
          · rename_i next flushed
            exact ih (flushes _ _ _ _ initial flushed) ends

/-- Where every piece of the input can be handed on, a writer with room in its buffer returns:
each pass but the first copies at least one element. -/
theorem fill_returns (positive : 0 < size) (invariant : List α → Rest → Prop) {total : List α}
    (flushes : ∀ content piece rest, invariant content rest → piece.length = size →
      content ++ piece <+: total →
      ∃ after, flush piece rest = some (.ok (), after) ∧ invariant (content ++ piece) after)
    {content : List α} (initial : invariant content rest) (room : buffer.length < size)
    (part : content ++ (buffer ++ remaining) <+: total) (enough : remaining.length < passes) :
    ∃ held after handed, fill size flush passes remaining buffer rest =
        some (.ok (), held, after) ∧
      invariant handed after ∧ handed ++ held = content ++ (buffer ++ remaining) ∧
      held.length < size := by
  induction passes generalizing remaining buffer rest content with
  | zero => contradiction
  | succ passes ih =>
      rw [fill]
      split
      · rename_i empty
        exact ⟨buffer, rest, content, rfl, initial, by rw [empty, List.append_nil], room⟩
      · rename_i nonempty
        have some_left : 0 < remaining.length := List.length_pos_iff.mpr nonempty
        have fewer : (remaining.drop (size - buffer.length)).length < passes := by
          rw [List.length_drop]
          omega
        have same : buffer ++ remaining = _ := (held_append_drop (size - buffer.length)).symm
        rw [same] at part ⊢
        simp only
        split
        · rename_i less
          exact ih initial less part fewer
        · rename_i full
          have piece := length_held_eq (Nat.le_of_lt room) full
          rw [← List.append_assoc] at part
          have begins := (List.prefix_append _ _).trans part
          rcases flushes content _ rest initial piece begins with
            ⟨next, flushed, kept⟩
          rw [flushed]
          have empty : ([] : List α).length < size := positive
          rcases ih kept empty part fewer with ⟨held, after, handed, filled, later, same, less⟩
          refine ⟨held, after, handed, filled, later, ?_, less⟩
          rw [same, List.nil_append, List.append_assoc]

end FileTrans.Transition
