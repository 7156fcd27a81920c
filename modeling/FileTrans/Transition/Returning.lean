import FileTrans.Transition.Buffering
import FileTrans.Transition.Loop

/-!
# Loops and writers that return

A loop returns where each pass that goes on lowers a measure.  Whether a buffered
writer returns depends on what handing on comes to.  With a positive size every piece
uses up some input; with any size a measure that each piece lowers will do.  A writer
whose pieces use up nothing, or are not handed on, goes on for ever.
-/

namespace FileTrans.Transition

universe u v w

variable {α : Type u} {Rest Other : Type v} {Failure : Type w}

/-- A loop exits where each pass that goes on keeps the invariant and lowers a measure. -/
theorem loop_returns_of_measure {State : Type u} {Value : Type v} {body : Body State Value}
    (invariant : State → Prop) (measure : State → Nat)
    (goes : ∀ state next, invariant state → body state = .inr next →
      invariant next ∧ measure next < measure state)
    {state : State} (initial : invariant state) : ∃ count, (loop body count state).isSome := by
  have bounded (bound : Nat) : ∀ state, measure state < bound → invariant state →
      (loop body bound state).isSome := by
    induction bound with
    | zero => exact fun _ impossible => absurd impossible (Nat.not_lt_zero _)
    | succ bound ih =>
        intro state less holds
        cases pass : body state with
        | inl value =>
            rw [loop_of_exit pass]
            rfl
        | inr next =>
            obtain ⟨kept, lower⟩ := goes state next holds pass
            rw [loop_of_next pass]
            exact ih next (Nat.lt_of_lt_of_le lower (Nat.lt_succ_iff.mp less)) kept
  exact ⟨_, bounded _ state (Nat.lt_succ_self _) initial⟩

/-- Handing on that returns within so many passes returns the same within more. -/
def Settled (flush : Nat → Flush α Rest Failure) : Prop :=
  ∀ passes more piece rest result, passes ≤ more →
    flush passes piece rest = some result → flush more piece rest = some result

/-- The writer returns within some number of passes. -/
def Returns (size : Nat) (flush : Nat → Flush α Rest Failure) (remaining buffer : List α)
    (rest : Rest) : Prop :=
  ∃ passes, (fill size (flush passes) passes remaining buffer rest).isSome

variable {size : Nat} {flush : Nat → Flush α Rest Failure} {passes more count : Nat}
  {remaining buffer : List α} {rest after : Rest}

/-- A writer that returns within so many passes returns the same within more. -/
theorem fill_of_le (settled : Settled flush) (le : passes ≤ more) {further : Nat}
    (enough : count ≤ further) {result : Except Failure Unit × List α × Rest}
    (ends : fill size (flush passes) count remaining buffer rest = some result) :
    fill size (flush more) further remaining buffer rest = some result := by
  induction count generalizing remaining buffer rest further with
  | zero => contradiction
  | succ count ih =>
      cases further with
      | zero => contradiction
      | succ further =>
          have fewer := Nat.le_of_succ_le_succ enough
          rw [fill] at ends ⊢
          split at ends
          · rename_i empty
            rw [if_pos empty]
            exact ends
          · rename_i nonempty
            rw [if_neg nonempty]
            dsimp only at ends ⊢
            split at ends
            · rename_i room
              rw [if_pos room]
              exact ih fewer ends
            · rename_i full
              rw [if_neg full]
              split at ends
              · contradiction
              · rename_i failure next failed
                rw [settled _ _ _ _ _ le failed]
                exact ends
              · rename_i next flushed
                rw [settled _ _ _ _ _ le flushed]
                exact ih fewer ends

theorem returns_nil : Returns size flush [] buffer rest :=
  ⟨1, rfl⟩

/-- A piece that leaves room in the buffer is all there is. -/
theorem returns_of_room (room : buffer.length + remaining.length < size) :
    Returns size flush remaining buffer rest := by
  by_cases empty : remaining = []
  · rw [empty]
    exact returns_nil
  · have all : remaining.take (size - buffer.length) = remaining := by
      apply List.take_of_length_le
      omega
    have less : (buffer ++ remaining).length < size := by
      rw [List.length_append]
      exact room
    refine ⟨2, ?_⟩
    rw [fill, if_neg empty]
    dsimp only
    rw [all, List.drop_eq_nil_of_le (by omega), if_pos less, fill, if_pos rfl]
    rfl

/-- A writer with a full buffer returns if handing it on does, and after that the rest. -/
theorem returns_of_flush (settled : Settled flush) {result : Except Failure Unit}
    (full : ¬ (buffer ++ remaining.take (size - buffer.length)).length < size)
    (flushed : flush passes (buffer ++ remaining.take (size - buffer.length)) rest =
      some (result, after))
    (later : result = .ok () →
      Returns size flush (remaining.drop (size - buffer.length)) [] after) :
    Returns size flush remaining buffer rest := by
  by_cases empty : remaining = []
  · rw [empty]
    exact returns_nil
  · cases result with
    | error failure =>
        refine ⟨passes + 1, ?_⟩
        rw [fill, if_neg empty]
        dsimp only
        rw [if_neg full, settled _ _ _ _ _ (Nat.le_succ passes) flushed]
        rfl
    | ok value =>
        obtain ⟨count, ends⟩ := later rfl
        obtain ⟨outcome, ends⟩ := Option.isSome_iff_exists.mp ends
        refine ⟨max passes count + 1, ?_⟩
        rw [fill, if_neg empty]
        dsimp only
        rw [if_neg full, settled _ _ _ _ _ (by omega) flushed]
        dsimp only
        rw [fill_of_le settled (by omega) (by omega) ends]
        rfl

/-- With a positive size a writer returns where handing on always does. -/
theorem returns_of_flushes (settled : Settled flush) (positive : 0 < size)
    (invariant : Rest → Prop)
    (flushes : ∀ piece rest, invariant rest → ∃ passes result after,
      flush passes piece rest = some (result, after) ∧ (result = .ok () → invariant after))
    (initial : invariant rest) : Returns size flush remaining buffer rest := by
  have empty_buffer (length : Nat) : ∀ (remaining : List α) (rest : Rest),
      remaining.length ≤ length → invariant rest → Returns size flush remaining [] rest := by
    induction length with
    | zero =>
        intro remaining rest none_left _
        rw [List.length_eq_zero_iff.mp (Nat.le_zero.mp none_left)]
        exact returns_nil
    | succ length ih =>
        intro remaining rest bounded holds
        by_cases room : ([] : List α).length + remaining.length < size
        · exact returns_of_room room
        · obtain ⟨passes, result, after, flushed, kept⟩ := flushes
            ([] ++ remaining.take (size - ([] : List α).length)) rest holds
          rw [List.length_nil, Nat.zero_add] at room
          refine returns_of_flush settled ?_ flushed fun went => ih _ _ ?_ (kept went)
          · rw [List.length_append, List.length_take, List.length_nil]
            omega
          · rw [List.length_drop, List.length_nil]
            omega
  by_cases full : (buffer ++ remaining.take (size - buffer.length)).length < size
  · rw [List.length_append, List.length_take] at full
    exact returns_of_room (by omega)
  · obtain ⟨passes, result, after, flushed, kept⟩ := flushes _ rest initial
    exact returns_of_flush settled full flushed fun went =>
      empty_buffer _ _ _ (Nat.le_refl _) (kept went)

/-- Whatever the size, a writer returns where each piece that is handed on lowers a measure. -/
theorem returns_of_measure (settled : Settled flush) (invariant : Rest → Prop)
    (measure : Rest → Nat)
    (flushes : ∀ piece rest, invariant rest → ∃ passes result after,
      flush passes piece rest = some (result, after) ∧
        (result = .ok () → invariant after ∧ measure after < measure rest))
    (initial : invariant rest) : Returns size flush remaining buffer rest := by
  have bounded (bound : Nat) : ∀ (remaining buffer : List α) (rest : Rest),
      measure rest < bound → invariant rest → Returns size flush remaining buffer rest := by
    induction bound with
    | zero => exact fun _ _ _ impossible => absurd impossible (Nat.not_lt_zero _)
    | succ bound ih =>
        intro remaining buffer rest less holds
        by_cases full : (buffer ++ remaining.take (size - buffer.length)).length < size
        · rw [List.length_append, List.length_take] at full
          exact returns_of_room (by omega)
        · obtain ⟨passes, result, after, flushed, kept⟩ := flushes _ rest holds
          refine returns_of_flush settled full flushed fun went => ih _ _ _ ?_ (kept went).1
          exact Nat.lt_of_lt_of_le (kept went).2 (Nat.lt_succ_iff.mp less)
  exact bounded _ _ _ _ (Nat.lt_succ_self _) initial

/-- Without a size a writer with some input goes on for ever, where handing on nothing never
fails. -/
theorem not_returns_of_no_size (invariant : Rest → Prop)
    (flushes : ∀ passes rest result after, invariant rest →
      flush passes [] rest = some (result, after) → result = .ok () ∧ invariant after)
    (nonempty : remaining ≠ []) (initial : invariant rest) :
    ¬ Returns 0 flush remaining [] rest := by
  have never (passes count : Nat) : ∀ rest, invariant rest →
      fill 0 (flush passes) count remaining [] rest = none := by
    induction count with
    | zero => exact fun _ _ => rfl
    | succ count ih =>
        intro rest holds
        rw [fill, if_neg nonempty]
        simp only [Nat.zero_sub, List.take_zero, List.append_nil, List.length_nil,
          Nat.lt_irrefl, if_false, List.drop_zero]
        split
        · rfl
        · rename_i failed
          have went := (flushes _ _ _ _ holds failed).1
          contradiction
        · rename_i flushed
          exact ih _ (flushes _ _ _ _ holds flushed).2
  rintro ⟨passes, ends⟩
  rw [never passes passes rest initial] at ends
  contradiction

/-- A writer that fills its buffer goes on for ever, where handing on does. -/
theorem not_returns_of_stuck (stuck : ∀ passes piece, flush passes piece rest = none)
    (nonempty : remaining ≠ []) (fills : size ≤ buffer.length + remaining.length) :
    ¬ Returns size flush remaining buffer rest := by
  rintro ⟨passes, ends⟩
  have full : ¬ (buffer ++ remaining.take (size - buffer.length)).length < size := by
    rw [List.length_append, List.length_take]
    omega
  cases passes with
  | zero => contradiction
  | succ passes =>
      rw [fill, if_neg nonempty] at ends
      dsimp only at ends
      rw [if_neg full, stuck] at ends
      contradiction

/-! ## One writer in the terms of another -/

/-- A writer of another state, that hands on the same, comes to the same. -/
theorem fill_map {flush : Flush α Rest Failure} {other : Flush α Other Failure}
    (view : Rest → Other)
    (same : ∀ piece rest, other piece (view rest) =
      (flush piece rest).map fun result => (result.1, view result.2))
    (count : Nat) (remaining buffer : List α) (rest : Rest) :
    fill size other count remaining buffer (view rest) =
      (fill size flush count remaining buffer rest).map fun result =>
        (result.1, result.2.1, view result.2.2) := by
  induction count generalizing remaining buffer rest with
  | zero => rfl
  | succ count ih =>
      rw [fill, fill]
      split
      · rfl
      · dsimp only
        split
        · exact ih _ _ _
        · rw [same]
          cases flush (buffer ++ remaining.take (size - buffer.length)) rest with
          | none => rfl
          | some result =>
              obtain ⟨outcome, next⟩ := result
              cases outcome with
              | error failure => rfl
              | ok value => exact ih _ _ _

end FileTrans.Transition
