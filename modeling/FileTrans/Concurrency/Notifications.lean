import FileTrans.Transition.Run

/-!
# Waiting for what changes without the mutex

One thread waits on a condition variable for a predicate of some state, again and again.
Any number of operations run at once: they lock and unlock the mutex, change the state
with or without it, and notify the variable.  The thread checks its predicate while it
holds the mutex, and gives it up when it falls asleep; between the two, what does not
take the mutex may change.

A wake-up is lost when the thread sleeps, its predicate holds and no operation has yet to
notify.  `noLostWakeup_iff_guarded` traces every loss to one step: a change that makes the
predicate hold while the thread sleeps, or the fall asleep after such a change.
-/

namespace FileTrans.Concurrency

open Transition

universe u v w

/-- What an operation does. -/
inductive Move (Change : Type v)
  | lock
  | change (change : Change)
  | unlock
  | notify

/-- Where the waiting thread is. -/
inductive Sleeper
  | ready
  | checking (waited : Bool)
  /-- The predicate did not hold, and the mutex is still held. -/
  | committed
  | asleep
  | woken
  | returned
  deriving DecidableEq

/-- Who holds the mutex. -/
inductive Holder
  | waiter
  | operation (index : Nat)
  deriving DecidableEq

/-- The state, what is left of the operations that were begun, and the waiting thread. -/
structure Scene (State : Type u) (Change : Type v) where
  shared : State
  running : List (List (Move Change))
  holder : Option Holder
  waiter : Sleeper

/-- A step of the waiting thread, or of the thread of an operation. -/
inductive SceneEvent (Operation : Type w)
  | waiterCalls
  | waiterLocks
  | waiterChecks (timedOut : Bool)
  | waiterSleeps
  | waiterWakes
  | begins (operation : Operation)
  | acts (index : Nat)

/-- The operations, and the thread: when it does not return at once, what it waits for, and what it
does before it returns. -/
structure Exchange (State : Type u) (Change : Type v) (Operation : Type w) where
  apply : Change → State → State
  moves : Operation → State → List (Move Change)
  enters : State → Bool
  done : State → Bool
  leave : Bool → State → State

namespace Scene

variable {State : Type u} {Change : Type v} {Operation : Type w}

/-- Nothing runs, and the thread has not called. -/
def start (shared : State) : Scene State Change :=
  ⟨shared, [], none, .returned⟩

/-- An operation has made its next move. -/
def advance (scene : Scene State Change) (index : Nat) (rest : List (Move Change)) :
    Scene State Change :=
  { scene with running := scene.running.set index rest }

variable (exchange : Exchange State Change Operation)

/-- The next move of an operation; it waits for a mutex that is held. -/
def act (scene : Scene State Change) (index : Nat) : Scene State Change :=
  match scene.running[index]? with
  | some (.lock :: rest) =>
      if scene.holder = none then
        { scene.advance index rest with holder := some (.operation index) }
      else scene
  | some (.change change :: rest) =>
      { scene.advance index rest with shared := exchange.apply change scene.shared }
  | some (.unlock :: rest) => { scene.advance index rest with holder := none }
  | some (.notify :: rest) => { scene.advance index rest with
      waiter := if scene.waiter = .asleep then .woken else scene.waiter }
  | _ => scene

/-- One step; a thread that cannot move stays where it is. -/
def step : Step (Scene State Change) (SceneEvent Operation) Unit := fun scene event =>
  ((), match event with
  | .waiterCalls =>
      if scene.waiter = .returned ∧ exchange.enters scene.shared = true then
        { scene with waiter := .ready }
      else scene
  | .waiterLocks =>
      if (scene.waiter = .ready ∨ scene.waiter = .woken) ∧ scene.holder = none then
        { scene with waiter := .checking (scene.waiter = .woken), holder := some .waiter }
      else scene
  | .waiterChecks timedOut =>
      match scene.waiter with
      | .checking waited =>
          if exchange.done scene.shared then { scene with
            shared := exchange.leave waited scene.shared
            waiter := .returned
            holder := none }
          else if timedOut then { scene with waiter := .returned, holder := none }
          else { scene with waiter := .committed }
      | _ => scene
  | .waiterSleeps =>
      if scene.waiter = .committed then { scene with waiter := .asleep, holder := none }
      else scene
  | .waiterWakes =>
      if scene.waiter = .asleep then { scene with waiter := .woken } else scene
  | .begins operation =>
      { scene with running := scene.running ++ [exchange.moves operation scene.shared] }
  | .acts index => scene.act exchange index)

/-- An operation has yet to notify. -/
def Pending (scene : Scene State Change) : Prop :=
  ∃ (index : Nat) (moves : List (Move Change)),
    scene.running[index]? = some moves ∧ Move.notify ∈ moves

/-- While the thread sleeps and its predicate holds, a notification is still to come. -/
def NoLostWakeup (scene : Scene State Change) : Prop :=
  scene.waiter = .asleep → exchange.done scene.shared = true → scene.Pending

/-- The predicate begins to hold while the thread sleeps, or holds when it falls asleep, and no
notification is to come. -/
def Silent (scene : Scene State Change) (event : SceneEvent Operation) : Prop :=
  ¬ scene.Pending ∧ match event with
  | .acts index => scene.waiter = .asleep ∧ ∃ change rest,
      scene.running[index]? = some (.change change :: rest) ∧
        exchange.done (exchange.apply change scene.shared) = true
  | .waiterSleeps => scene.waiter = .committed ∧ exchange.done scene.shared = true
  | _ => False

variable {exchange}

variable {scene : Scene State Change}

theorem noLostWakeup_of_awake (awake : scene.waiter ≠ .asleep) : scene.NoLostWakeup exchange :=
  fun asleep => absurd asleep awake

theorem running_advance_cases {index place : Nat} {rest moves : List (Move Change)}
    (found : (scene.advance index rest).running[place]? = some moves) :
    place = index ∧ moves = rest ∨ place ≠ index ∧ scene.running[place]? = some moves := by
  rw [advance, List.getElem?_set] at found
  split at found
  · rename_i same
    split at found
    · exact .inl ⟨same.symm, (Option.some.inj found).symm⟩
    · cases found
  · rename_i other
    exact .inr ⟨fun same => other same.symm, found⟩

theorem pending_advance_iff {index : Nat} {move : Move Change} {rest : List (Move Change)}
    (next : scene.running[index]? = some (move :: rest)) (other : move ≠ .notify) :
    (scene.advance index rest).Pending ↔ scene.Pending := by
  have inside : index < scene.running.length := (List.getElem?_eq_some_iff.mp next).1
  constructor
  · rintro ⟨place, moves, found, mem⟩
    rcases running_advance_cases found with ⟨-, rfl⟩ | ⟨-, kept⟩
    · exact ⟨index, _, next, List.mem_cons_of_mem _ mem⟩
    · exact ⟨place, moves, kept, mem⟩
  · rintro ⟨place, moves, found, mem⟩
    by_cases same : index = place
    · subst same
      rw [next, Option.some.injEq] at found
      subst found
      refine ⟨index, rest, ?_, (List.mem_cons.mp mem).resolve_left other.symm⟩
      rw [advance, List.getElem?_set_self inside]
    · exact ⟨place, moves, by rw [advance, List.getElem?_set_ne same, found], mem⟩

theorem noLostWakeup_act_iff (safe : scene.NoLostWakeup exchange) (index : Nat) :
    (scene.act exchange index).NoLostWakeup exchange ↔
      ¬ scene.Silent exchange (.acts index : SceneEvent Operation) := by
  rw [act]
  split
  · rename_i rest next
    have loud : ¬ scene.Silent exchange (.acts index : SceneEvent Operation) := by
      rintro ⟨-, -, change, later, found, -⟩
      rw [next] at found
      cases found
    apply iff_of_true _ loud
    split
    · intro asleep isDone
      exact (pending_advance_iff next (by simp)).mpr (safe asleep isDone)
    · exact safe
  · rename_i change rest next
    have pending := pending_advance_iff next (by simp)
    constructor
    · rintro kept ⟨quiet, asleep, other, later, found, isDone⟩
      rw [next] at found
      cases found
      exact quiet (pending.mp (kept asleep isDone))
    · intro loud asleep isDone
      apply pending.mpr
      by_contra quiet
      exact loud ⟨quiet, asleep, change, rest, next, isDone⟩
  · rename_i rest next
    have loud : ¬ scene.Silent exchange (.acts index : SceneEvent Operation) := by
      rintro ⟨-, -, change, later, found, -⟩
      rw [next] at found
      cases found
    refine iff_of_true (fun asleep isDone => ?_) loud
    exact (pending_advance_iff next (by simp)).mpr (safe asleep isDone)
  · rename_i rest next
    have loud : ¬ scene.Silent exchange (.acts index : SceneEvent Operation) := by
      rintro ⟨-, -, change, later, found, -⟩
      rw [next] at found
      cases found
    apply iff_of_true _ loud
    apply noLostWakeup_of_awake
    dsimp only
    split
    · decide
    · rename_i awake
      exact awake
  · rename_i noLock noChange noUnlock noNotify
    apply iff_of_true safe
    rintro ⟨-, -, change, later, found, -⟩
    exact noChange change later found

theorem noLostWakeup_step_iff (scene : Scene State Change) (event : SceneEvent Operation)
    (safe : scene.NoLostWakeup exchange) :
    (step exchange scene event).2.NoLostWakeup exchange ↔ ¬ scene.Silent exchange event := by
  cases event with
  | acts index => exact noLostWakeup_act_iff safe index
  | waiterSleeps =>
      simp only [step, Silent]
      split
      · rename_i committed
        constructor
        · rintro kept ⟨quiet, -, isDone⟩
          exact quiet (kept rfl isDone)
        · intro loud _ isDone
          by_contra quiet
          exact loud ⟨quiet, committed, isDone⟩
      · rename_i other
        exact iff_of_true safe fun silent => other silent.2.1
  | waiterCalls =>
      apply iff_of_true _ fun silent => silent.2
      simp only [step]
      split
      · exact noLostWakeup_of_awake fun impossible => by cases impossible
      · exact safe
  | waiterLocks =>
      apply iff_of_true _ fun silent => silent.2
      simp only [step]
      split
      · exact noLostWakeup_of_awake fun impossible => by cases impossible
      · exact safe
  | waiterChecks timedOut =>
      apply iff_of_true _ fun silent => silent.2
      simp only [step]
      split
      · split_ifs
        all_goals exact noLostWakeup_of_awake fun impossible => by cases impossible
      · exact safe
  | waiterWakes =>
      apply iff_of_true _ fun silent => silent.2
      simp only [step]
      split
      · exact noLostWakeup_of_awake fun impossible => by cases impossible
      · exact safe
  | begins operation =>
      refine iff_of_true (fun asleep isDone => ?_) fun silent => silent.2
      rcases safe asleep isDone with ⟨index, moves, found, mem⟩
      refine ⟨index, moves, ?_, mem⟩
      have inside : index < scene.running.length := (List.getElem?_eq_some_iff.mp found).1
      simp only [step]
      rw [List.getElem?_append_left inside, found]

/-- Under an invariant, where the silent steps are those that miss the guard, a run loses no wake-up
exactly if it is guarded. -/
theorem noLostWakeup_iff_guarded {guard : Scene State Change → SceneEvent Operation → Prop}
    (invariant : Scene State Change → Prop)
    (preserves : ∀ scene event, invariant scene → invariant (step exchange scene event).2)
    (silent_iff : ∀ scene event, invariant scene → scene.NoLostWakeup exchange →
      (scene.Silent exchange event ↔ ¬ guard scene event))
    {shared : State} (initial : invariant (start shared)) (events : List (SceneEvent Operation)) :
    (∀ first rest, events = first ++ rest →
      (final (step exchange) (start shared) first).NoLostWakeup exchange) ↔
    Guarded (step exchange) guard (start shared) events := by
  have kept_iff (scene : Scene State Change) (event : SceneEvent Operation)
      (holds : invariant scene) (safe : scene.NoLostWakeup exchange) :
      (step exchange scene event).2.NoLostWakeup exchange ↔ guard scene event := by
    rw [noLostWakeup_step_iff scene event safe, silent_iff scene event holds safe, not_not]
  have safe : (start shared).NoLostWakeup exchange := noLostWakeup_of_awake (by simp [start])
  have holds (_ : List (SceneEvent Operation)) (scene : Scene State Change)
      (both : invariant scene ∧ scene.NoLostWakeup exchange) : scene.NoLostWakeup exchange := both.2
  have kept (_ : List (SceneEvent Operation)) (scene : Scene State Change)
      (event : SceneEvent Operation) (both : invariant scene ∧ scene.NoLostWakeup exchange)
      (allowed : guard scene event) : invariant (step exchange scene event).2 ∧
        (step exchange scene event).2.NoLostWakeup exchange :=
    ⟨preserves scene event both.1, (kept_iff scene event both.1 both.2).mpr allowed⟩
  have broken (_ : List (SceneEvent Operation)) (scene : Scene State Change)
      (event : SceneEvent Operation) (both : invariant scene ∧ scene.NoLostWakeup exchange)
      (later : (step exchange scene event).2.NoLostWakeup exchange) : guard scene event :=
    (kept_iff scene event both.1 both.2).mp later
  exact forall_history_iff_guarded holds kept broken [] ⟨initial, safe⟩ events

end Scene

end FileTrans.Concurrency
