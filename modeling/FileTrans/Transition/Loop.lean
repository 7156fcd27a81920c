import Mathlib.Dynamics.PeriodicPts.Defs

/-!
# Loops

The body of a loop exits with a value, or goes on in another state.  A loop
that is cut off after some passes has no value; whether it exits at all, and
what it exits with, is decided by its passes one at a time.  A loop may gather items,
which its passes only append.

A map settles if every orbit comes to a fixed point.  It does where a rank falls
with every move, and then no orbit comes back to a state that it left.
-/

namespace FileTrans.Transition

universe u v

variable {State : Type u} {Value : Type v}

abbrev Body (State : Type u) (Value : Type v) := State → Value ⊕ State

/-- The value of a loop that exits within so many passes. -/
def loop (body : Body State Value) : Nat → State → Option Value
  | 0, _ => none
  | count + 1, state =>
      match body state with
      | .inl value => some value
      | .inr next => loop body count next

/-- The state after so many passes, if the loop goes on in all of them. -/
def passes (body : Body State Value) : Nat → State → Option State
  | 0, state => some state
  | count + 1, state =>
      match body state with
      | .inl _ => none
      | .inr next => passes body count next

variable {body : Body State Value} {state next : State} {value : Value} {count : Nat}

@[simp]
theorem loop_zero : loop body 0 state = none :=
  rfl

theorem loop_of_exit (exits : body state = .inl value) :
    loop body (count + 1) state = some value := by
  rw [loop, exits]

theorem loop_of_next (goes : body state = .inr next) :
    loop body (count + 1) state = loop body count next := by
  rw [loop, goes]

/-- One more pass. -/
theorem passes_concat {last : State} (reached : passes body count state = some last)
    (goes : body last = .inr next) : passes body (count + 1) state = some next := by
  induction count generalizing state with
  | zero =>
      cases Option.some.inj reached
      simp [passes, goes]
  | succ count ih =>
      rw [passes] at reached ⊢
      cases pass : body state with
      | inl value =>
          rw [pass] at reached
          contradiction
      | inr following =>
          rw [pass] at reached
          exact ih reached

/-- A loop has a value within so many passes exactly if it does not go on in all of them. -/
theorem loop_eq_none_iff : loop body count state = none ↔ (passes body count state).isSome := by
  induction count generalizing state with
  | zero => simp [passes]
  | succ count ih =>
      rw [loop, passes]
      cases body state with
      | inl value => simp
      | inr next => exact ih

/-- More passes do not change the value. -/
theorem loop_of_le {more : Nat} (le : count ≤ more) (exits : loop body count state = some value) :
    loop body more state = some value := by
  induction count generalizing state more with
  | zero => contradiction
  | succ count ih =>
      cases more with
      | zero => contradiction
      | succ more =>
          rw [loop] at exits ⊢
          cases pass : body state with
          | inl found => rwa [pass] at exits
          | inr next =>
              rw [pass] at exits
              exact ih (Nat.le_of_succ_le_succ le) exits

/-- A loop exits with one value only. -/
theorem loop_unique {other : Nat} {found : Value} (first : loop body count state = some value)
    (second : loop body other state = some found) : value = found := by
  have one := loop_of_le (Nat.le_max_left count other) first
  have two := loop_of_le (Nat.le_max_right count other) second
  exact Option.some.inj (one.symm.trans two)

/-- Where every pass from a state of the invariant goes on to another, the loop never exits. -/
theorem loop_eq_none_of_invariant (invariant : State → Prop)
    (goes : ∀ state, invariant state → ∃ next, body state = .inr next ∧ invariant next)
    (initial : invariant state) (count : Nat) : loop body count state = none := by
  induction count generalizing state with
  | zero => rfl
  | succ count ih =>
      rcases goes state initial with ⟨next, pass, kept⟩
      rw [loop_of_next pass]
      exact ih kept

/-- A loop exits from a state of the invariant, where every pass that goes on keeps it. -/
theorem exists_exit_of_invariant (invariant : State → Prop)
    (keeps : ∀ state next, invariant state → body state = .inr next → invariant next)
    (initial : invariant state) (exits : loop body count state = some value) :
    ∃ last, invariant last ∧ body last = .inl value := by
  induction count generalizing state with
  | zero => contradiction
  | succ count ih =>
      cases pass : body state with
      | inl found =>
          rw [loop_of_exit pass] at exits
          cases exits
          exact ⟨state, initial, pass⟩
      | inr next =>
          rw [loop_of_next pass] at exits
          exact ih (keeps state next initial pass) exits

/-- A loop exits with the value of the first pass that does not go on. -/
theorem loop_eq_some_iff :
    loop body count state = some value ↔
      ∃ before < count, ∃ last, passes body before state = some last ∧ body last = .inl value := by
  induction count generalizing state with
  | zero => simp
  | succ count ih =>
      cases pass : body state with
      | inl found =>
          rw [loop_of_exit pass]
          constructor
          · rintro ⟨rfl⟩
            exact ⟨0, Nat.succ_pos count, state, rfl, pass⟩
          · rintro ⟨before, -, last, reached, exits⟩
            cases before with
            | zero =>
                cases Option.some.inj reached
                rw [pass] at exits
                exact congrArg some (Sum.inl.inj exits)
            | succ before =>
                rw [passes, pass] at reached
                contradiction
      | inr next =>
          rw [loop_of_next pass, ih]
          constructor
          · rintro ⟨before, less, last, reached, exits⟩
            refine ⟨before + 1, Nat.succ_lt_succ less, last, ?_, exits⟩
            rw [passes, pass]
            exact reached
          · rintro ⟨before, less, last, reached, exits⟩
            cases before with
            | zero =>
                cases Option.some.inj reached
                rw [pass] at exits
                contradiction
            | succ before =>
                rw [passes, pass] at reached
                exact ⟨before, Nat.lt_of_succ_lt_succ less, last, reached, exits⟩

/-! ## Loops that gather -/

section Gathering

variable {Item : Type v} {body : Body (State × List Item) (List Item)} {state next : State}
  {first items others : List Item}

/-- With enough passes, the loop exits with these items behind those it had. -/
def Gathers (body : Body (State × List Item) (List Item)) (state : State) (items : List Item) :
    Prop :=
  ∃ enough, ∀ passes, enough ≤ passes → ∀ found,
    loop body passes (state, found) = some (found ++ items)

theorem gathers_of_exit (exits : ∀ found, body (state, found) = .inl (found ++ items)) :
    Gathers body state items := by
  refine ⟨1, fun passes enough found => ?_⟩
  obtain ⟨passes, rfl⟩ : ∃ fewer, passes = fewer + 1 := ⟨passes - 1, by omega⟩
  exact loop_of_exit (exits found)

theorem Gathers.of_next (goes : ∀ found, body (state, found) = .inr (next, found ++ first))
    (later : Gathers body next items) : Gathers body state (first ++ items) := by
  rcases later with ⟨enough, exits⟩
  refine ⟨enough + 1, fun passes le found => ?_⟩
  obtain ⟨passes, rfl⟩ : ∃ fewer, passes = fewer + 1 := ⟨passes - 1, by omega⟩
  rw [loop_of_next (goes found), exits passes (Nat.le_of_succ_le_succ le), List.append_assoc]

theorem Gathers.unique (one : Gathers body state items) (two : Gathers body state others) :
    items = others := by
  rcases one with ⟨enough, exits⟩
  rcases two with ⟨other, also⟩
  have same := loop_unique (exits enough le_rfl []) (also other le_rfl [])
  simpa using same

/-- A loop that exits, or goes on in a smaller state, gathers something. -/
theorem exists_gathers (size : State → Nat)
    (moves : ∀ state, (∃ items, ∀ found, body (state, found) = .inl (found ++ items)) ∨
      ∃ next first, size next < size state ∧
          ∀ found, body (state, found) = .inr (next, found ++ first))
    (state : State) : ∃ items, Gathers body state items := by
  induction measured : size state using Nat.strong_induction_on generalizing state with
  | _ bound ih =>
      rcases moves state with ⟨items, exits⟩ | ⟨next, first, smaller, goes⟩
      · exact ⟨items, gathers_of_exit exits⟩
      · rcases ih (size next) (measured ▸ smaller) next rfl with ⟨items, later⟩
        exact ⟨first ++ items, later.of_next goes⟩

end Gathering

end FileTrans.Transition

namespace FileTrans.Transition

open Function

universe u v

/-! ## Maps that settle -/

variable {State : Type u} {move : State → State}

/-- Every orbit comes to a fixed point. -/
def Settles (move : State → State) : Prop :=
  ∀ start, ∃ count, IsFixedPt move (move^[count] start)

/-- A rank that falls with every move makes a map settle. -/
theorem settles_of_rank {Rank : Type v} [Preorder Rank] [WellFoundedLT Rank] (rank : State → Rank)
    (falls : ∀ state, move state ≠ state → rank (move state) < rank state) : Settles move := by
  intro start
  induction start using (InvImage.wf rank wellFounded_lt).induction with
  | _ state ih =>
      by_cases fixed : move state = state
      · exact ⟨0, fixed⟩
      · obtain ⟨count, settled⟩ := ih (move state) (falls state fixed)
        refine ⟨count + 1, ?_⟩
        rwa [iterate_succ_apply]

/-- An orbit that comes back to its start never left it. -/
theorem Settles.isFixedPt_of_mem_periodicPts (settles : Settles move) {state : State}
    (periodic : state ∈ periodicPts move) : IsFixedPt move state := by
  obtain ⟨period, positive, returns⟩ := periodic
  obtain ⟨count, settled⟩ := settles state
  have enough : count ≤ count * period := Nat.le_mul_of_pos_right count positive
  have same : move^[count] state = state := by
    calc
      move^[count] state = move^[count * period - count] (move^[count] state) :=
        (settled.iterate _).symm
      _ = move^[count * period] state := by
        rw [← iterate_add_apply, Nat.sub_add_cancel enough]
      _ = state := returns.const_mul count
  rwa [same] at settled

/-- A map without fixed points does not settle. -/
theorem not_settles_of_forall_ne [Nonempty State] (moves : ∀ state, move state ≠ state) :
    ¬ Settles move := by
  intro settles
  obtain ⟨start⟩ := ‹Nonempty State›
  obtain ⟨count, settled⟩ := settles start
  exact moves _ settled

end FileTrans.Transition
