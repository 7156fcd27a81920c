import FileTrans.Transition.Run

/-!
# Waiting for a condition

A mutex protects some state; operations assign to it and notify a condition variable
while they hold the mutex, and one thread sleeps on the variable until the state is done.
The actions of an operation are interleaved with the waiter, which may also wake up
without a notification.

A wake-up is lost when the state is done, the waiter sleeps, and the operation that holds
the mutex, if there is one, will not notify.  `noLostWakeup_iff_guarded` traces every loss
to one step: a silent one, that makes the state done with no notification to follow.
-/

namespace FileTrans.Concurrency

open Transition

universe u v

/-- What an operation does while it holds the mutex. -/
inductive Action (State : Type u)
  | set (next : State)
  | notifyAll
  /-- The thread locks a mutex that it holds, and stays there. -/
  | block
  deriving DecidableEq

/-- Where the waiting thread is. -/
inductive Waiter
  | ready
  | checking
  | asleep
  | woken
  | returned
  deriving DecidableEq

/-- The state, what is left of the operation that holds the mutex, and the waiter. -/
structure Monitor (State : Type u) where
  shared : State
  running : Option (List (Action State))
  waiter : Waiter

/-- A step of the waiter, or of a thread with an operation. -/
inductive MonitorEvent (Operation : Type v)
  | waiterLocks
  | waiterChecks
  | waiterWakes
  | begins (operation : Operation)
  | acts
  | returns

/-- The state after the actions, if none of them blocks. -/
def outcome {State : Type u} (shared : State) : List (Action State) → State
  | [] => shared
  | .set next :: rest => outcome next rest
  | _ :: rest => outcome shared rest

namespace Monitor

variable {State : Type u} {Operation : Type v}

/-- No operation runs and the waiter has not started. -/
def start (shared : State) : Monitor State :=
  ⟨shared, none, .ready⟩

/-- The next action of the operation that holds the mutex. -/
def act (monitor : Monitor State) : Monitor State :=
  match monitor.running with
  | some (.set next :: rest) => { monitor with shared := next, running := some rest }
  | some (.notifyAll :: rest) => { monitor with
      running := some rest
      waiter := if monitor.waiter = .asleep then .woken else monitor.waiter }
  | _ => monitor

variable (actions : Operation → State → List (Action State)) (done : State → Bool)

/-- One step; a thread that cannot move stays where it is.  The mutex is held by an
operation that runs, or by the waiter while it checks the state. -/
def step : Step (Monitor State) (MonitorEvent Operation) Unit := fun monitor event =>
  ((), match event with
  | .waiterLocks =>
      if (monitor.waiter = .ready ∨ monitor.waiter = .woken) ∧ monitor.running.isNone then
        { monitor with waiter := .checking }
      else monitor
  | .waiterChecks =>
      if monitor.waiter = .checking then
        { monitor with waiter := if done monitor.shared then .returned else .asleep }
      else monitor
  | .waiterWakes =>
      if monitor.waiter = .asleep then { monitor with waiter := .woken } else monitor
  | .begins operation =>
      if monitor.running.isNone ∧ monitor.waiter ≠ .checking then
        { monitor with running := some (actions operation monitor.shared) }
      else monitor
  | .acts => monitor.act
  | .returns =>
      match monitor.running with
      | some [] => { monitor with running := none }
      | _ => monitor)

/-- While the state is done and the waiter sleeps, a notification is still to come. -/
def NoLostWakeup (monitor : Monitor State) : Prop :=
  done monitor.shared = true → monitor.waiter = .asleep →
    ∃ rest, monitor.running = some rest ∧ .notifyAll ∈ rest

/-- The step makes the state done while the waiter sleeps, and no notification follows. -/
def Silent (monitor : Monitor State) (event : MonitorEvent Operation) : Prop :=
  event = .acts ∧ monitor.waiter = .asleep ∧
    ∃ next rest, monitor.running = some (.set next :: rest) ∧ done next = true ∧
      .notifyAll ∉ rest

variable {actions done}

theorem noLostWakeup_start (shared : State) : (start shared).NoLostWakeup done := by
  intro _ asleep
  cases asleep

variable {monitor : Monitor State}

theorem noLostWakeup_of_awake (awake : monitor.waiter ≠ .asleep) : monitor.NoLostWakeup done :=
  fun _ asleep => absurd asleep awake

theorem noLostWakeup_act_iff (safe : monitor.NoLostWakeup done) :
    monitor.act.NoLostWakeup done ↔
      ¬ (monitor.waiter = .asleep ∧ ∃ next rest, monitor.running = some (.set next :: rest) ∧
        done next = true ∧ .notifyAll ∉ rest) := by
  rcases monitor with ⟨shared, running, waiter⟩
  rcases running with _ | _ | ⟨next | _ | _, rest⟩
  · apply iff_of_true safe
    rintro ⟨-, next, rest, running, -⟩
    cases running
  · apply iff_of_true safe
    rintro ⟨-, next, rest, running, -⟩
    cases running
  · constructor
    · rintro kept ⟨asleep, next', rest', running, isDone, silent⟩
      obtain ⟨same, rfl⟩ := List.cons.inj (Option.some.inj running)
      obtain rfl := Action.set.inj same
      obtain ⟨later, left, notifies⟩ := kept isDone asleep
      obtain rfl := Option.some.inj left
      exact silent notifies
    · intro loud isDone asleep
      refine ⟨rest, rfl, ?_⟩
      by_contra silent
      exact loud ⟨asleep, next, rest, rfl, isDone, silent⟩
  · apply iff_of_true
    · apply noLostWakeup_of_awake
      simp only [act]
      split
      · exact fun impossible => by cases impossible
      · rename_i awake
        exact awake
    · rintro ⟨-, next, rest', running, -⟩
      cases running
  · apply iff_of_true safe
    rintro ⟨-, next, rest', running, -⟩
    cases running

theorem noLostWakeup_step_iff (monitor : Monitor State) (event : MonitorEvent Operation)
    (safe : monitor.NoLostWakeup done) :
    (step actions done monitor event).2.NoLostWakeup done ↔ ¬ monitor.Silent done event := by
  cases event with
  | acts =>
      rw [Silent]
      simp only [true_and]
      exact noLostWakeup_act_iff safe
  | waiterLocks =>
      apply iff_of_true _ fun silent => by cases silent.1
      simp only [step]
      split
      · exact noLostWakeup_of_awake fun impossible => by cases impossible
      · exact safe
  | waiterChecks =>
      apply iff_of_true _ fun silent => by cases silent.1
      simp only [step]
      split
      · split
        · exact noLostWakeup_of_awake fun impossible => by cases impossible
        · rename_i unfinished
          exact fun isDone => absurd isDone unfinished
      · exact safe
  | waiterWakes =>
      apply iff_of_true _ fun silent => by cases silent.1
      simp only [step]
      split
      · exact noLostWakeup_of_awake fun impossible => by cases impossible
      · exact safe
  | begins operation =>
      apply iff_of_true _ fun silent => by cases silent.1
      simp only [step]
      split
      · rename_i free
        intro isDone asleep
        obtain ⟨rest, running, -⟩ := safe isDone asleep
        rw [running] at free
        cases free.1
      · exact safe
  | returns =>
      apply iff_of_true _ fun silent => by cases silent.1
      simp only [step]
      split
      · rename_i finished
        intro isDone asleep
        obtain ⟨rest, running, notifies⟩ := safe isDone asleep
        rw [finished] at running
        rw [← Option.some.inj running] at notifies
        cases notifies
      · exact safe

theorem noLostWakeup_iff_guarded (safe : monitor.NoLostWakeup done)
    (events : List (MonitorEvent Operation)) :
    (∀ first rest, events = first ++ rest →
      (final (step actions done) monitor first).NoLostWakeup done) ↔
    Guarded (step actions done) (fun monitor event => ¬ monitor.Silent done event) monitor
      events :=
  forall_prefix_iff_guarded noLostWakeup_step_iff safe events

/-! ## Operations that announce -/

/-- Every assignment that makes the state done is followed by a notification exactly if it
is not one of the quiet ones. -/
def Announces (done : State → Bool) (quiet : State → Prop) : List (Action State) → Prop
  | [] => True
  | .set next :: rest => (done next = true → (.notifyAll ∈ rest ↔ ¬ quiet next)) ∧
      Announces done quiet rest
  | _ :: rest => Announces done quiet rest

/-- What is left of the running operation announces. -/
def Announced (done : State → Bool) (quiet : State → Prop) (monitor : Monitor State) : Prop :=
  ∀ rest, monitor.running = some rest → Announces done quiet rest

variable {quiet : State → Prop}

theorem Announced.step
    (announces : ∀ operation shared, Announces done quiet (actions operation shared))
    (announced : monitor.Announced done quiet) (event : MonitorEvent Operation) :
    (Monitor.step actions done monitor event).2.Announced done quiet := by
  intro rest running
  cases event with
  | acts =>
      simp only [Monitor.step, act] at running
      split at running
      · rename_i head
        rw [← Option.some.inj running]
        exact (announced _ head).2
      · rename_i head
        have whole := announced _ head
        rw [← Option.some.inj running]
        exact whole
      · exact announced rest running
  | waiterLocks =>
      simp only [Monitor.step] at running
      split at running <;> exact announced rest running
  | waiterChecks =>
      simp only [Monitor.step] at running
      split at running <;> exact announced rest running
  | waiterWakes =>
      simp only [Monitor.step] at running
      split at running <;> exact announced rest running
  | begins operation =>
      simp only [Monitor.step] at running
      split at running
      · rw [← Option.some.inj running]
        exact announces operation monitor.shared
      · exact announced rest running
  | returns =>
      simp only [Monitor.step] at running
      split at running
      · cases running
      · exact announced rest running

/-- The next action makes the state done in one of the quiet ways while the waiter
sleeps. -/
def QuietlyDone (done : State → Bool) (quiet : State → Prop) (monitor : Monitor State)
    (event : MonitorEvent Operation) : Prop :=
  event = .acts ∧ monitor.waiter = .asleep ∧
    ∃ next rest, monitor.running = some (.set next :: rest) ∧ done next = true ∧ quiet next

theorem Announced.silent_iff (announced : monitor.Announced done quiet)
    (event : MonitorEvent Operation) :
    monitor.Silent done event ↔ monitor.QuietlyDone done quiet event := by
  rw [Silent, QuietlyDone]
  constructor
  · rintro ⟨acts, asleep, next, rest, running, isDone, silent⟩
    refine ⟨acts, asleep, next, rest, running, isDone, ?_⟩
    by_contra loud
    exact silent (((announced _ running).1 isDone).mpr loud)
  · rintro ⟨acts, asleep, next, rest, running, isDone, isQuiet⟩
    exact ⟨acts, asleep, next, rest, running, isDone, fun notifies =>
      ((announced _ running).1 isDone).mp notifies isQuiet⟩

/-- If the operations announce, a run loses no wake-up exactly if no step makes the state
done in one of the quiet ways while the waiter sleeps. -/
theorem noLostWakeup_iff_not_quietlyDone
    (announces : ∀ operation shared, Announces done quiet (actions operation shared))
    (shared : State) (events : List (MonitorEvent Operation)) :
    (∀ first rest, events = first ++ rest →
      (final (step actions done) (start shared) first).NoLostWakeup done) ↔
    Guarded (step actions done) (fun monitor event => ¬ monitor.QuietlyDone done quiet event)
      (start shared) events := by
  rw [noLostWakeup_iff_guarded (noLostWakeup_start shared)]
  apply guarded_iff_of_invariant (Announced done quiet)
  · intro monitor event announced
    exact announced.step announces event
  · intro monitor event announced
    exact not_congr (announced.silent_iff event)
  · intro rest running
    cases running

end Monitor

end FileTrans.Concurrency
