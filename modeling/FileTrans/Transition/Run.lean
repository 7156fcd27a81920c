import Mathlib.Data.List.Basic
import Mathlib.Logic.Relation

/-!
# Runs of a step function

A step takes a state and an input to an output and a next state.  A run feeds
a finite list of inputs to the step, one after the other.

`Guarded` restricts a run to steps that meet a condition on the state before
the step and the input.  The invariant rules below prove a property of every
guarded run from what a single step preserves; `Guarded` is closed under
prefixes, so the property then holds in every state the run passes through.

Where every state has at most one successor, a path to a target is followed
one step at a time: the first step is the only one, and a state without a
successor reaches only itself.
-/

namespace FileTrans.Transition

universe u v w

variable {State : Type u} {Input : Type v} {Output : Type w}

/-- A deterministic step with an output. -/
abbrev Step (State : Type u) (Input : Type v) (Output : Type w) :=
  State → Input → Output × State

/-- Feed the inputs to the step, collecting the outputs in order. -/
def run (step : Step State Input Output) : State → List Input → List Output × State
  | state, [] => ([], state)
  | state, input :: rest =>
      let current := step state input
      let later := run step current.2 rest
      (current.1 :: later.1, later.2)

/-- The state a run ends in. -/
def final (step : Step State Input Output) (state : State) (inputs : List Input) : State :=
  (run step state inputs).2

def outputs (step : Step State Input Output) (state : State) (inputs : List Input) :
    List Output :=
  (run step state inputs).1

variable (step : Step State Input Output)

@[simp]
theorem final_nil (state : State) : final step state [] = state :=
  rfl

@[simp]
theorem final_cons (state : State) (input : Input) (rest : List Input) :
    final step state (input :: rest) = final step (step state input).2 rest :=
  rfl

@[simp]
theorem outputs_nil (state : State) : outputs step state [] = [] :=
  rfl

@[simp]
theorem outputs_cons (state : State) (input : Input) (rest : List Input) :
    outputs step state (input :: rest) =
      (step state input).1 :: outputs step (step state input).2 rest :=
  rfl

/-- A run splits at any point. -/
theorem final_append (state : State) (first second : List Input) :
    final step state (first ++ second) = final step (final step state first) second := by
  induction first generalizing state with
  | nil => rfl
  | cons input rest ih => exact ih (step state input).2

theorem outputs_append (state : State) (first second : List Input) :
    outputs step state (first ++ second) =
      outputs step state first ++ outputs step (final step state first) second := by
  induction first generalizing state with
  | nil => rfl
  | cons input rest ih => exact congrArg ((step state input).1 :: ·) (ih (step state input).2)

theorem outputs_length (state : State) (inputs : List Input) :
    (outputs step state inputs).length = inputs.length := by
  induction inputs generalizing state with
  | nil => rfl
  | cons input rest ih => exact congrArg (· + 1) (ih (step state input).2)

theorem final_concat (state : State) (inputs : List Input) (last : Input) :
    final step state (inputs ++ [last]) = (step (final step state inputs) last).2 := by
  rw [final_append]
  rfl

variable {state : State} {inputs : List Input} {condition : Input → Prop}

variable {step} in
/-- What every step preserves holds at the end of a run. -/
theorem final_invariant (invariant : State → Prop)
    (preserves : ∀ state input, invariant state → invariant (step state input).2)
    (initial : invariant state) (inputs : List Input) : invariant (final step state inputs) := by
  induction inputs generalizing state with
  | nil => exact initial
  | cons input rest ih => exact ih (preserves state input initial)

/-- Every step of the run meets the guard in the state it starts from. -/
def Guarded (guard : State → Input → Prop) : State → List Input → Prop
  | _, [] => True
  | state, input :: rest => guard state input ∧ Guarded guard (step state input).2 rest

variable {step}
variable {guard : State → Input → Prop}

@[simp]
theorem guarded_nil (state : State) : Guarded step guard state [] :=
  trivial

@[simp]
theorem guarded_cons_iff {input : Input} {rest : List Input} :
    Guarded step guard state (input :: rest) ↔
      guard state input ∧ Guarded step guard (step state input).2 rest :=
  Iff.rfl

theorem guarded_append_iff {first second : List Input} :
    Guarded step guard state (first ++ second) ↔
      Guarded step guard state first ∧ Guarded step guard (final step state first) second := by
  induction first generalizing state with
  | nil => simp
  | cons input rest ih =>
      simp only [List.cons_append, guarded_cons_iff, ih, final_cons, and_assoc]

/-- A run is guarded if each of its inputs meets the guard in the state that it meets. -/
theorem guarded_iff_forall_split :
    Guarded step guard state inputs ↔
      ∀ before input after, inputs = before ++ input :: after →
        guard (final step state before) input := by
  constructor
  · rintro guarded before input after rfl
    exact (guarded_append_iff.mp guarded).2.1
  · intro every
    induction inputs generalizing state with
    | nil => exact trivial
    | cons input rest ih =>
        refine ⟨every [] input rest rfl, ih ?_⟩
        intro before later after split
        exact every (input :: before) later after (congrArg (input :: ·) split)

/-- A guarded run stays guarded when it is cut short. -/
theorem Guarded.firstPart {first second : List Input}
    (guarded : Guarded step guard state (first ++ second)) : Guarded step guard state first :=
  (guarded_append_iff.mp guarded).1

/-- A weaker guard holds along the same run. -/
theorem Guarded.imp {weaker : State → Input → Prop}
    (implies : ∀ state input, guard state input → weaker state input)
    (guarded : Guarded step guard state inputs) : Guarded step weaker state inputs := by
  induction inputs generalizing state with
  | nil => exact trivial
  | cons input rest ih => exact ⟨implies state input guarded.1, ih guarded.2⟩

/-- A guard that does not look at the state holds along a run exactly if it holds of every
input. -/
theorem guarded_iff_forall_mem :
    Guarded step (fun _ input => condition input) state inputs ↔
      ∀ input ∈ inputs, condition input := by
  induction inputs generalizing state with
  | nil => simp
  | cons input rest ih => rw [guarded_cons_iff, ih, List.forall_mem_cons]

variable (step) in
theorem guarded_of_forall_mem (state : State) (every : ∀ input ∈ inputs, condition input) :
    Guarded step (fun _ input => condition input) state inputs :=
  guarded_iff_forall_mem.mpr every

/-- A condition on the inputs joins the guard. -/
theorem Guarded.and_mem (guarded : Guarded step guard state inputs)
    (every : ∀ input ∈ inputs, condition input) :
    Guarded step (fun state input => guard state input ∧ condition input) state inputs := by
  induction inputs generalizing state with
  | nil => exact trivial
  | cons input rest ih =>
      exact ⟨⟨guarded.1, every input List.mem_cons_self⟩,
        ih guarded.2 fun later mem => every later (List.mem_cons_of_mem _ mem)⟩

/-- Under an invariant of all steps, guards that agree restrict the same runs. -/
theorem guarded_iff_of_invariant {other : State → Input → Prop} (invariant : State → Prop)
    (preserves : ∀ state input, invariant state → invariant (step state input).2)
    (agrees : ∀ state input, invariant state → (guard state input ↔ other state input))
    (initial : invariant state) (inputs : List Input) :
    Guarded step guard state inputs ↔ Guarded step other state inputs := by
  induction inputs generalizing state with
  | nil => exact Iff.rfl
  | cons input rest ih =>
      rw [guarded_cons_iff, guarded_cons_iff, agrees state input initial,
        ih (preserves state input initial)]

/-- If a step that meets the guard keeps an invariant, and one that does not breaks a property that
the invariant implies, then the property holds in every state a run passes through exactly if the
run is guarded.  Both may speak of the inputs up to a state. -/
theorem forall_history_iff_guarded {invariant property : List Input → State → Prop}
    (holds : ∀ history state, invariant history state → property history state)
    (kept : ∀ history state input, invariant history state → guard state input →
      invariant (history ++ [input]) (step state input).2)
    (broken : ∀ history state input, invariant history state →
      property (history ++ [input]) (step state input).2 → guard state input)
    (history : List Input) (initial : invariant history state) (inputs : List Input) :
    (∀ first rest, inputs = first ++ rest → property (history ++ first) (final step state first)) ↔
      Guarded step guard state inputs := by
  induction inputs generalizing history state with
  | nil =>
      constructor
      · exact fun _ => trivial
      · intro _ first rest split
        rw [(List.append_eq_nil_iff.mp split.symm).1, List.append_nil]
        exact holds history state initial
  | cons input later ih =>
      constructor
      · intro every
        have allowed := broken history state input initial (every [input] later rfl)
        refine ⟨allowed, (ih _ (kept history state input initial allowed)).mp ?_⟩
        intro first rest split
        rw [List.append_assoc]
        exact every (input :: first) rest (congrArg (input :: ·) split)
      · rintro ⟨allowed, guarded⟩ first rest split
        cases first with
        | nil =>
            rw [List.append_nil]
            exact holds history state initial
        | cons head first =>
            obtain ⟨rfl, tail⟩ := List.cons.inj split
            have later := kept history state input initial allowed
            have reached := (ih _ later).mpr guarded first rest tail
            rwa [List.append_assoc] at reached

/-- A property that a step keeps exactly if it meets the guard holds in every state a run
passes through exactly if the run is guarded. -/
theorem forall_prefix_iff_guarded {property : State → Prop}
    (kept_iff : ∀ state input, property state →
      (property (step state input).2 ↔ guard state input)) (initial : property state)
    (inputs : List Input) :
    (∀ first rest, inputs = first ++ rest → property (final step state first)) ↔
      Guarded step guard state inputs := by
  have holds : ∀ (_ : List Input) state, property state → property state := fun _ _ => id
  have kept : ∀ (_ : List Input) state input, property state → guard state input →
      property (step state input).2 := fun _ state input old => (kept_iff state input old).mpr
  have broken : ∀ (_ : List Input) state input, property state →
      property (step state input).2 → guard state input :=
    fun _ state input old => (kept_iff state input old).mp
  exact forall_history_iff_guarded holds kept broken [] initial inputs

/-- A property that a step keeps exactly if it meets the guard, and never brings back, holds
at the end of a run exactly if the run is guarded. -/
theorem final_iff_guarded (invariant : State → Prop) {property : State → Prop}
    (preserves : ∀ state input, invariant state → invariant (step state input).2)
    (kept_iff : ∀ state input, invariant state → property state →
      (property (step state input).2 ↔ guard state input))
    (lasted : ∀ state input, invariant state → property (step state input).2 → property state)
    (begins : invariant state) (initial : property state) (inputs : List Input) :
    property (final step state inputs) ↔ Guarded step guard state inputs := by
  have backward : ∀ (inputs : List Input) (state : State), invariant state →
      property (final step state inputs) → property state := by
    intro inputs
    induction inputs with
    | nil => exact fun state _ ends => ends
    | cons input rest ih =>
        intro state holds ends
        exact lasted state input holds (ih _ (preserves state input holds) ends)
  induction inputs generalizing state with
  | nil => exact iff_of_true initial trivial
  | cons input rest ih =>
      have later := preserves state input begins
      constructor
      · intro ends
        have kept := backward rest _ later ends
        exact ⟨(kept_iff state input begins initial).mp kept, (ih later kept).mp ends⟩
      · rintro ⟨allowed, guarded⟩
        have kept := (kept_iff state input begins initial).mpr allowed
        exact (ih later kept).mpr guarded

/-- What every guarded step preserves holds at the end of a guarded run. -/
theorem Guarded.invariant (invariant : State → Prop)
    (preserves : ∀ state input, invariant state → guard state input →
      invariant (step state input).2) (guarded : Guarded step guard state inputs)
    (initial : invariant state) : invariant (final step state inputs) := by
  induction inputs generalizing state with
  | nil => exact initial
  | cons input rest ih =>
      obtain ⟨first, later⟩ := guarded
      exact ih later (preserves state input initial first)

/-- The invariant rule with the list of inputs consumed so far. -/
theorem Guarded.history_invariant (invariant : List Input → State → Prop)
    (preserves : ∀ past state input, invariant past state → guard state input →
      invariant (past ++ [input]) (step state input).2) (past : List Input)
    (guarded : Guarded step guard state inputs) (initial : invariant past state) :
    invariant (past ++ inputs) (final step state inputs) := by
  induction inputs generalizing past state with
  | nil => simpa using initial
  | cons input rest ih =>
      obtain ⟨first, later⟩ := guarded
      have tail := ih (past ++ [input]) later (preserves past state input initial first)
      rwa [List.append_assoc] at tail

/-- What every guarded step outputs under the invariant, the run outputs. -/
theorem Guarded.outputs (invariant : State → Prop) (allowed : Output → Prop)
    (preserves : ∀ state input, invariant state → guard state input →
      invariant (step state input).2)
    (emits : ∀ state input, invariant state → guard state input → allowed (step state input).1)
    (guarded : Guarded step guard state inputs) (initial : invariant state) :
    ∀ output ∈ outputs step state inputs, allowed output := by
  induction inputs generalizing state with
  | nil => simp
  | cons input rest ih =>
      obtain ⟨first, later⟩ := guarded
      intro output mem
      rcases List.mem_cons.mp mem with rfl | mem
      · exact emits state input initial first
      · exact ih later (preserves state input initial first) output mem

end FileTrans.Transition

namespace FileTrans.Transition

open Relation

universe u

/-! ## Paths of a deterministic relation -/

variable {State : Type u} {relates : State → State → Prop}

/-- Every state has at most one successor. -/
def Deterministic (relates : State → State → Prop) : Prop :=
  ∀ state first second, relates state first → relates state second → first = second

variable {state target : State}

/-- A path to another state starts with the only step. -/
theorem reflTransGen_iff_of_step (deterministic : Deterministic relates) {next : State}
    (step : relates state next) (distinct : state ≠ target) :
    ReflTransGen relates state target ↔ ReflTransGen relates next target := by
  constructor
  · intro path
    rcases path.cases_head with same | ⟨other, first, rest⟩
    · exact absurd same distinct
    · rwa [deterministic state next other step first]
  · intro path
    exact path.head step

/-- A state without a successor reaches only itself. -/
theorem reflTransGen_iff_of_stuck (stuck : ∀ next, ¬ relates state next) :
    ReflTransGen relates state target ↔ state = target := by
  constructor
  · intro path
    rcases path.cases_head with same | ⟨next, first, -⟩
    · exact same
    · exact absurd first (stuck next)
  · rintro rfl
    exact ReflTransGen.refl

/-- A path to another state has a first step. -/
theorem exists_step_of_reflTransGen (path : ReflTransGen relates state target)
    (distinct : state ≠ target) :
    ∃ next, relates state next ∧ ReflTransGen relates next target := by
  rcases path.cases_head with same | found
  · exact absurd same distinct
  · exact found

end FileTrans.Transition
