import FileTrans.Transition.Run

/-!
# Linearization

Threads call the operations of a shared object, and their calls interleave.  A
step of the system emits events: a call begins, it takes effect with the answer
that it is going to return, or it returns.  Each call takes effect once, between
its beginning and its return, so the calls in the order of their effects are a
sequential order that respects the real-time order.

A run is linearized if the object, used by one thread only, gives the same
answers to the calls in that order, each of which meets a condition.  It is enough
that each guarded step keeps a relation between the shared object and the sequential
one.
-/

namespace FileTrans.Concurrency

open FileTrans.Transition

universe u v w x y z

/-- What happens to a call.  `fates` is what the environment did in it. -/
inductive Event (Thread : Type u) (Call : Type v) (Fates : Type w) (Answer : Type x)
  | invoke (thread : Thread) (call : Call)
  | effect (thread : Thread) (call : Call) (fates : Fates) (answer : Answer)
  | respond (thread : Thread) (answer : Answer)
  deriving DecidableEq

/-- Where a thread is in its call. -/
inductive Phase (Call : Type v) (Answer : Type x)
  | idle
  | invoked (call : Call)
  | answered (answer : Answer)

variable {Thread : Type u} {Call : Type v} {Fates : Type w} {Answer : Type x}

namespace Event

def thread : Event Thread Call Fates Answer → Thread
  | invoke thread _ => thread
  | effect thread _ _ _ => thread
  | respond thread _ => thread

/-- The call that takes effect. -/
def taken : Event Thread Call Fates Answer → Option (Call × Fates)
  | effect _ call fates _ => some (call, fates)
  | _ => none

/-- The answer of the call that takes effect. -/
def answer : Event Thread Call Fates Answer → Option Answer
  | effect _ _ _ answer => some answer
  | _ => none

end Event

/-- The calls that take effect, in order. -/
def calls (events : List (Event Thread Call Fates Answer)) : List (Call × Fates) :=
  events.filterMap Event.taken

/-- The answers of the calls that take effect, in order. -/
def answers (events : List (Event Thread Call Fates Answer)) : List Answer :=
  events.filterMap Event.answer

/-- An event moves its thread from one phase to the next: a call is invoked, takes effect
once, and returns the answer of its effect. -/
inductive Moves (thread : Thread) :
    Phase Call Answer → Event Thread Call Fates Answer → Phase Call Answer → Prop
  | foreign {phase : Phase Call Answer} {event : Event Thread Call Fates Answer}
      (other : event.thread ≠ thread) : Moves thread phase event phase
  | invoke (call : Call) : Moves thread .idle (.invoke thread call) (.invoked call)
  | effect (call : Call) (fates : Fates) (answer : Answer) :
      Moves thread (.invoked call) (.effect thread call fates answer) (.answered answer)
  | respond (answer : Answer) : Moves thread (.answered answer) (.respond thread answer) .idle

/-- The events move the thread from one phase to another. -/
def Advances (thread : Thread) :
    Phase Call Answer → List (Event Thread Call Fates Answer) → Phase Call Answer → Prop
  | before, [], after => before = after
  | before, event :: rest, after =>
      ∃ middle, Moves thread before event middle ∧ Advances thread middle rest after

theorem Advances.append {thread : Thread} {before middle after : Phase Call Answer}
    {first second : List (Event Thread Call Fates Answer)}
    (left : Advances thread before first middle) (right : Advances thread middle second after) :
    Advances thread before (first ++ second) after := by
  induction first generalizing before with
  | nil =>
      obtain rfl : before = middle := left
      exact right
  | cons event rest ih =>
      obtain ⟨next, moves, later⟩ := left
      exact ⟨next, moves, ih later⟩

theorem advances_foreign {thread : Thread} {phase : Phase Call Answer}
    {events : List (Event Thread Call Fates Answer)}
    (foreign : ∀ event ∈ events, event.thread ≠ thread) :
    Advances thread phase events phase := by
  induction events with
  | nil => rfl
  | cons event rest ih =>
      have other : event.thread ≠ thread := foreign event List.mem_cons_self
      exact ⟨phase, .foreign other, ih fun later mem => foreign later (List.mem_cons_of_mem _ mem)⟩

/-! ## The sequential order -/

section

variable {State : Type y} (sequential : Step State (Call × Fates) Answer)
variable (allowed : State → Call × Fates → Prop)

/-- The object, used by one thread only, allows the calls in the order of their effects and
answers them as they were answered, and each thread invokes its calls one after the other. -/
structure Linearized (initial : State) (before : Thread → Phase Call Answer)
    (events : List (Event Thread Call Fates Answer)) (reached : State)
    (after : Thread → Phase Call Answer) : Prop where
  answered : outputs sequential initial (calls events) = answers events
  reached : final sequential initial (calls events) = reached
  guarded : Guarded sequential allowed initial (calls events)
  advances : ∀ thread, Advances thread (before thread) events (after thread)

variable {sequential allowed}

variable {events : List (Event Thread Call Fates Answer)} {call : Call} {fates : Fates}
  {initial reached : State} {before after : Thread → Phase Call Answer} {thread : Thread}
  {answer : Answer}

theorem mem_calls_iff :
    (call, fates) ∈ calls events ↔
      ∃ thread answer, .effect thread call fates answer ∈ events := by
  constructor
  · intro mem
    obtain ⟨event, found, taken⟩ := List.mem_filterMap.mp mem
    cases event with
    | effect thread other otherFates answer =>
        obtain ⟨rfl, rfl⟩ := Prod.mk.inj (Option.some.inj taken)
        exact ⟨thread, answer, found⟩
    | invoke => contradiction
    | respond => contradiction
  · rintro ⟨thread, answer, found⟩
    exact List.mem_filterMap.mpr ⟨_, found, rfl⟩

theorem calls_append (first second : List (Event Thread Call Fates Answer)) :
    calls (first ++ second) = calls first ++ calls second :=
  List.filterMap_append

theorem answers_append (first second : List (Event Thread Call Fates Answer)) :
    answers (first ++ second) = answers first ++ answers second :=
  List.filterMap_append

theorem answers_length (events : List (Event Thread Call Fates Answer)) :
    (answers events).length = (calls events).length := by
  induction events with
  | nil => rfl
  | cons event rest ih =>
      cases event with
      | effect => exact congrArg (· + 1) ih
      | invoke => exact ih
      | respond => exact ih

theorem Linearized.nil (initial : State) (phase : Thread → Phase Call Answer) :
    Linearized sequential allowed initial phase ([] : List (Event Thread Call Fates Answer))
      initial phase :=
  ⟨rfl, rfl, trivial, fun _ => rfl⟩

theorem Linearized.append {middle : State} {between : Thread → Phase Call Answer}
    {first second : List (Event Thread Call Fates Answer)}
    (left : Linearized sequential allowed initial before first middle between)
    (right : Linearized sequential allowed middle between second reached after) :
    Linearized sequential allowed initial before (first ++ second) reached after := by
  constructor
  · rw [calls_append, answers_append, outputs_append, left.answered, left.reached,
      right.answered]
  · rw [calls_append, final_append, left.reached, right.reached]
  · rw [calls_append, guarded_append_iff, left.reached]
    exact ⟨left.guarded, right.guarded⟩
  · intro thread
    exact (left.advances thread).append (right.advances thread)

theorem Linearized.imp {weaker : State → Call × Fates → Prop}
    (implies : ∀ state input, allowed state input → weaker state input)
    (linearized : Linearized sequential allowed initial before events reached after) :
    Linearized sequential weaker initial before events reached after :=
  ⟨linearized.answered, linearized.reached, linearized.guarded.imp implies,
    linearized.advances⟩

theorem Linearized.answer_eq {earlier later : List (Event Thread Call Fates Answer)}
    (linearized : Linearized sequential allowed initial before
      (earlier ++ .effect thread call fates answer :: later) reached after) :
    (sequential (final sequential initial (calls earlier)) (call, fates)).1 = answer := by
  have equal := linearized.answered
  rw [calls_append, answers_append, outputs_append] at equal
  have lengths : (outputs sequential initial (calls earlier)).length =
      (answers earlier).length := by
    rw [outputs_length, answers_length]
  exact (List.cons.inj (List.append_inj equal lengths).2).1

theorem Linearized.of_silent {state : State} (silent : ∀ event ∈ events, event.taken = none)
    (advances : ∀ thread, Advances thread (before thread) events (after thread)) :
    Linearized sequential allowed state before events state after := by
  have noCalls : calls events = [] := List.filterMap_eq_nil_iff.mpr silent
  have noAnswers : answers events = [] := by
    apply List.eq_nil_of_length_eq_zero
    rw [answers_length, noCalls]
    rfl
  constructor
  · rw [noCalls, noAnswers]
    rfl
  · rw [noCalls]
    rfl
  · rw [noCalls]
    trivial
  · exact advances

theorem advances_singleton {event : Event Thread Call Fates Answer} (own : event.thread = thread)
    (moves : Moves thread (before thread) event (after thread))
    (still : ∀ other, other ≠ thread → after other = before other) (other : Thread) :
    Advances other (before other) [event] (after other) := by
  by_cases same : other = thread
  · subst same
    exact ⟨after other, moves, rfl⟩
  · rw [still other same]
    apply advances_foreign
    intro found mem
    rw [List.mem_singleton.mp mem, own]
    exact Ne.symm same

theorem Linearized.effect (invoked : before thread = .invoked call)
    (answered : after thread = .answered answer)
    (still : ∀ other, other ≠ thread → after other = before other)
    (permitted : allowed initial (call, fates))
    (taken : sequential initial (call, fates) = (answer, reached)) :
    Linearized sequential allowed initial before [.effect thread call fates answer] reached
      after := by
  constructor
  · exact congrArg (fun result => [result.1]) taken
  · exact congrArg Prod.snd taken
  · exact ⟨permitted, trivial⟩
  · have moves : Moves thread (before thread) (.effect thread call fates answer)
        (after thread) := by
      rw [invoked, answered]
      exact .effect call fates answer
    exact advances_singleton rfl moves still

theorem Linearized.respond {state : State} (answered : before thread = .answered answer)
    (idle : after thread = .idle) (still : ∀ other, other ≠ thread → after other = before other) :
    Linearized sequential allowed state before
      [(Event.respond thread answer : Event Thread Call Fates Answer)] state after := by
  have moves : Moves thread (before thread)
      (.respond thread answer : Event Thread Call Fates Answer) (after thread) := by
    rw [answered, idle]
    exact .respond answer
  exact .of_silent (List.forall_mem_singleton.mpr rfl) (advances_singleton rfl moves still)

theorem Linearized.completed [DecidableEq Thread] (invoked : before thread = .invoked call)
    (idle : after thread = .idle) (still : ∀ other, other ≠ thread → after other = before other)
    (permitted : allowed initial (call, fates))
    (taken : sequential initial (call, fates) = (answer, reached)) :
    Linearized sequential allowed initial before
      [.effect thread call fates answer, .respond thread answer] reached after := by
  have first : Linearized sequential allowed initial before
      [.effect thread call fates answer] reached
      (Function.update before thread (.answered answer)) :=
    .effect invoked (Function.update_self _ _ _)
      (fun other distinct => Function.update_of_ne distinct _ _) permitted taken
  have second : Linearized sequential allowed reached
      (Function.update before thread (.answered answer))
      [(Event.respond thread answer : Event Thread Call Fates Answer)] reached after := by
    refine .respond (Function.update_self _ _ _) idle ?_
    intro other distinct
    rw [Function.update_of_ne distinct]
    exact still other distinct
  exact first.append second

theorem Linearized.invoked [DecidableEq Thread] (idle : before thread = .idle)
    (rest : Linearized sequential allowed initial
      (Function.update before thread (.invoked call)) events reached after) :
    Linearized sequential allowed initial before (.invoke thread call :: events) reached
      after := by
  have first : Linearized sequential allowed initial before
      [(Event.invoke thread call : Event Thread Call Fates Answer)] initial
      (Function.update before thread (.invoked call)) := by
    have moves : Moves thread (before thread)
        (.invoke thread call : Event Thread Call Fates Answer)
        (Function.update before thread (.invoked call) thread) := by
      rw [idle, Function.update_self]
      exact .invoke call
    exact .of_silent (List.forall_mem_singleton.mpr rfl)
      (advances_singleton rfl moves fun other distinct => Function.update_of_ne distinct _ _)
  exact first.append rest

end

/-! ## Simulation -/

section

variable {State : Type y} {Shared : Type z} {Input : Type u}
variable (step : Step Shared Input (List (Event Thread Call Fates Answer)))
variable (guard : Shared → Input → Prop)
variable (sequential : Step State (Call × Fates) Answer)
variable (allowed : State → Call × Fates → Prop)
variable (relation : Shared → State → Prop) (phase : Shared → Thread → Phase Call Answer)

/-- A guarded step from related objects is linearized and leads to related objects. -/
def Simulated : Prop :=
  ∀ shared state input, relation shared state → guard shared input →
    ∃ state', Linearized sequential allowed state (phase shared) (step shared input).1 state'
      (phase (step shared input).2) ∧ relation (step shared input).2 state'

variable {step guard sequential allowed relation phase}

theorem Simulated.linearized
    (simulated : Simulated step guard sequential allowed relation phase)
    {shared : Shared} {state : State} (initial : relation shared state) {inputs : List Input}
    (guarded : Guarded step guard shared inputs) :
    ∃ state', Linearized sequential allowed state (phase shared)
      (outputs step shared inputs).flatten state' (phase (final step shared inputs)) ∧
        relation (final step shared inputs) state' := by
  induction inputs generalizing shared state with
  | nil => exact ⟨state, .nil state (phase shared), initial⟩
  | cons input rest ih =>
      obtain ⟨permitted, later⟩ := guarded
      obtain ⟨middle, first, kept⟩ := simulated shared state input initial permitted
      obtain ⟨reached, second, ends⟩ := ih kept later
      exact ⟨reached, first.append second, ends⟩

end

end FileTrans.Concurrency
