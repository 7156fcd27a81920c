import FileTrans.Concurrency.Notifications
import FileTrans.Transport.EarlyData
import FileTrans.Transport.Receiving

/-!
# Waiting for data

A thread in `receive` sleeps until there is data or the transport is not connected any
more.  A delivery takes the mutex and notifies; `disconnect` and the disconnected
callback change the state without the mutex, and notify nobody.
-/

namespace FileTrans.Transport

open FileTrans.Core FileTrans.Transition FileTrans.Concurrency

/-- What `receive` looks at. -/
structure Inbox where
  receiveQueue : List Bytes
  state : TransportState
  /-- `quic_client->is_connected()`. -/
  clientConnected : Bool

/-- What the operations change. -/
inductive InboxChange
  | push (block : Bytes)
  | setState (state : TransportState)
  | setClient (connected : Bool)

/-- A block is delivered, the transport is disconnected, with the result of `stop_client`, the
disconnected callback runs, or the client changes what it says. -/
inductive InboxOperation
  | deliver (block : Bytes)
  | disconnect (stopped : Bool)
  | disconnected
  | client (connected : Bool)

namespace Inbox

def apply (inbox : Inbox) : InboxChange → Inbox
  | .push block => { inbox with receiveQueue := inbox.receiveQueue ++ [block] }
  | .setState state => { inbox with state := state }
  | .setClient connected => { inbox with clientConnected := connected }

/-- The moves of an operation that finds the inbox like this. -/
def moves (kind : TransportKind) (operation : InboxOperation) (inbox : Inbox) :
    List (Move InboxChange) :=
  match operation with
  | .deliver block => [.lock, .change (.push block), .unlock, .notify]
  | .disconnect stopped =>
      if inbox.state = .disconnected then []
      else [.change (.setState .disconnecting),
        .change (.setState (if stopped then .disconnected else .error))]
  | .disconnected =>
      match kind with
      | .tcp => []
      | .quic => [.change (.setState .disconnected)]
  | .client connected => [.change (.setClient connected)]

def isConnected (kind : TransportKind) (inbox : Inbox) : Bool :=
  match kind with
  | .tcp => inbox.state = .connected
  | .quic => inbox.state = .connected && inbox.clientConnected

/-- The predicate of the wait. -/
def done (inbox : Inbox) : Bool :=
  inbox.receiveQueue ≠ [] ∨ inbox.state ≠ .connected

/-- The end of `receive`: a block is taken, unless there is none or the thread has waited until the
transport was not connected. -/
def leave (waited : Bool) (inbox : Inbox) : Inbox :=
  if waited ∧ inbox.state ≠ .connected then inbox
  else { inbox with receiveQueue := inbox.receiveQueue.tail }

/-- `receive` among the other operations. -/
def exchange (kind : TransportKind) : Exchange Inbox InboxChange InboxOperation where
  apply change inbox := inbox.apply change
  moves := moves kind
  enters := isConnected kind
  done := done
  leave := leave

/-- The transport leaves its connection while the thread sleeps, or has left it when the thread
falls asleep; and no delivery has yet to notify. -/
def LeavesUnnoticed (scene : Scene Inbox InboxChange) (event : SceneEvent InboxOperation) : Prop :=
  ¬ scene.Pending ∧ match event with
  | .acts index => scene.waiter = .asleep ∧ ∃ state rest, state ≠ .connected ∧
      scene.running[index]? = some (.change (.setState state) :: rest)
  | .waiterSleeps => scene.waiter = .committed ∧ scene.shared.state ≠ .connected
  | _ => False

/-! ## The mutex -/

/-- A change that is made without the mutex. -/
def IsFree : InboxChange → Prop
  | .push _ => False
  | .setState state => state ≠ .connected
  | .setClient _ => True

/-- What may be left of an operation. -/
inductive Shaped : List (Move InboxChange) → Prop
  | locks (block : Bytes) : Shaped [.lock, .change (.push block), .unlock, .notify]
  | pushes (block : Bytes) : Shaped [.change (.push block), .unlock, .notify]
  | unlocks : Shaped [.unlock, .notify]
  | notifies : Shaped [.notify]
  | free {moves : List (Move InboxChange)}
      (every : ∀ move ∈ moves, ∃ change, move = .change change ∧ IsFree change) : Shaped moves

/-- What is left of a delivery while it holds the mutex. -/
def Critical (moves : List (Move InboxChange)) : Prop :=
  ∃ move rest, moves = move :: rest ∧ (move = .unlock ∨ ∃ block, move = .change (.push block))

/-- The mutex is held by the delivery that is between its lock and its unlock, and by the thread
while it checks and until it sleeps; where it does not check again, there was no data. -/
structure Sound (scene : Scene Inbox InboxChange) : Prop where
  shaped : ∀ (index : Nat) moves, scene.running[index]? = some moves → Shaped moves
  critical : ∀ (index : Nat) moves, scene.running[index]? = some moves → Critical moves →
    scene.holder = some (.operation index)
  checking : ∀ waited, scene.waiter = .checking waited → scene.holder = some .waiter
  committed : scene.waiter = .committed →
    scene.holder = some .waiter ∧ scene.shared.receiveQueue = []

variable {move : Move InboxChange} {rest : List (Move InboxChange)}

theorem Shaped.tail (shaped : Shaped (move :: rest)) : Shaped rest := by
  cases shaped with
  | locks block => exact .pushes block
  | pushes block => exact .unlocks
  | unlocks => exact .notifies
  | notifies => exact .free fun _ mem => absurd mem List.not_mem_nil
  | free every => exact .free fun later mem => every later (List.mem_cons_of_mem _ mem)

theorem Shaped.critical_tail (shaped : Shaped (move :: rest)) (critical : Critical rest) :
    move = .lock ∨ ∃ block, move = .change (.push block) := by
  rcases critical with ⟨next, later, rfl, isCritical⟩
  cases shaped with
  | locks block => exact .inl rfl
  | pushes block => exact .inr ⟨block, rfl⟩
  | unlocks => rcases isCritical with isUnlock | ⟨block, isPush⟩ <;> contradiction
  | free every =>
      rcases every next (List.mem_cons_of_mem _ List.mem_cons_self) with ⟨change, same, isFree⟩
      rcases isCritical with isUnlock | ⟨block, isPush⟩
      · rw [isUnlock] at same
        cases same
      · rw [isPush] at same
        cases same
        exact isFree.elim

theorem shaped_moves (kind : TransportKind) (operation : InboxOperation) (inbox : Inbox) :
    Shaped (moves kind operation inbox) ∧ ¬ Critical (moves kind operation inbox) := by
  have free {moves : List (Move InboxChange)}
      (every : ∀ move ∈ moves, ∃ change, move = .change change ∧ IsFree change) :
      Shaped moves ∧ ¬ Critical moves := by
    refine ⟨.free every, ?_⟩
    rintro ⟨move, rest, rfl, isCritical⟩
    rcases every move List.mem_cons_self with ⟨change, same, isFree⟩
    rcases isCritical with rfl | ⟨block, rfl⟩
    · cases same
    · cases same
      exact isFree
  cases operation with
  | deliver block =>
      refine ⟨.locks block, ?_⟩
      rintro ⟨move, rest, same, isCritical⟩
      cases same
      rcases isCritical with isUnlock | ⟨other, isPush⟩ <;> contradiction
  | disconnect stopped =>
      apply free
      rw [moves]
      split
      · exact fun _ mem => absurd mem List.not_mem_nil
      · simp only [List.forall_mem_cons]
        refine ⟨⟨_, rfl, ?_⟩, ⟨_, rfl, ?_⟩, fun _ mem => absurd mem List.not_mem_nil⟩
        · exact fun impossible => by cases impossible
        · cases stopped <;> exact fun impossible => by cases impossible
  | disconnected =>
      apply free
      cases kind with
      | tcp => exact fun _ mem => absurd mem List.not_mem_nil
      | quic =>
          refine List.forall_mem_singleton.mpr ⟨_, rfl, fun impossible => by cases impossible⟩
  | client connected => exact free (List.forall_mem_singleton.mpr ⟨_, rfl, trivial⟩)

theorem critical_of_push (block : Bytes) (rest : List (Move InboxChange)) :
    Critical (.change (.push block) :: rest) :=
  ⟨_, _, rfl, .inr ⟨block, rfl⟩⟩

theorem critical_of_unlock (rest : List (Move InboxChange)) : Critical (.unlock :: rest) :=
  ⟨_, _, rfl, .inl rfl⟩

variable {kind : TransportKind} {scene : Scene Inbox InboxChange}

theorem Sound.shaped_advance (sound : Sound scene) {index : Nat}
    (next : scene.running[index]? = some (move :: rest)) {place : Nat}
    {moves : List (Move InboxChange)}
    (found : (scene.advance index rest).running[place]? = some moves) : Shaped moves := by
  rcases Scene.running_advance_cases found with ⟨-, rfl⟩ | ⟨-, kept⟩
  · exact (sound.shaped index _ next).tail
  · exact sound.shaped place moves kept

theorem Sound.not_critical (sound : Sound scene) (held : scene.holder = some .waiter) {index : Nat}
    {moves : List (Move InboxChange)} (found : scene.running[index]? = some moves) :
    ¬ Critical moves := by
  intro critical
  have holder := sound.critical index moves found critical
  rw [held] at holder
  cases holder

theorem Sound.act (sound : Sound scene) (index : Nat) :
    Sound (scene.act (exchange kind) index) := by
  rw [Scene.act]
  split
  · rename_i rest next
    split
    · rename_i free
      refine ⟨fun place moves found => sound.shaped_advance next found, ?_, ?_, ?_⟩
      · intro place moves found critical
        rcases Scene.running_advance_cases found with ⟨rfl, -⟩ | ⟨-, kept⟩
        · rfl
        · have holder := sound.critical place moves kept critical
          rw [free] at holder
          cases holder
      · intro waited checks
        have holder := sound.checking waited checks
        rw [free] at holder
        cases holder
      · intro commits
        have holder := (sound.committed commits).1
        rw [free] at holder
        cases holder
    · exact sound
  · rename_i change rest next
    refine ⟨fun place moves found => sound.shaped_advance next found, ?_, sound.checking, ?_⟩
    · intro place moves found critical
      rcases Scene.running_advance_cases found with ⟨rfl, rfl⟩ | ⟨-, kept⟩
      · rcases (sound.shaped place _ next).critical_tail critical with isLock | ⟨block, isPush⟩
        · cases isLock
        · cases isPush
          exact sound.critical place _ next (critical_of_push block moves)
      · exact sound.critical place moves kept critical
    · intro commits
      have held := sound.committed commits
      refine ⟨held.1, ?_⟩
      cases change with
      | push block => exact absurd (critical_of_push block rest) (sound.not_critical held.1 next)
      | setState state => exact held.2
      | setClient connected => exact held.2
  · rename_i rest next
    have holder := sound.critical index _ next (critical_of_unlock rest)
    refine ⟨fun place moves found => sound.shaped_advance next found, ?_, ?_, ?_⟩
    · intro place moves found critical
      rcases Scene.running_advance_cases found with ⟨rfl, rfl⟩ | ⟨other, kept⟩
      · rcases (sound.shaped place _ next).critical_tail critical with isLock | ⟨block, isPush⟩
        · cases isLock
        · cases isPush
      · have same := sound.critical place moves kept critical
        rw [holder] at same
        cases same
        exact absurd rfl other
    · intro waited checks
      exact absurd (critical_of_unlock rest)
        (sound.not_critical (sound.checking waited checks) next)
    · intro commits
      exact absurd (critical_of_unlock rest)
        (sound.not_critical (sound.committed commits).1 next)
  · rename_i rest next
    refine ⟨fun place moves found => sound.shaped_advance next found, ?_, ?_, ?_⟩
    · intro place moves found critical
      rcases Scene.running_advance_cases found with ⟨rfl, rfl⟩ | ⟨-, kept⟩
      · rcases (sound.shaped place _ next).critical_tail critical with isLock | ⟨block, isPush⟩
        · cases isLock
        · cases isPush
      · exact sound.critical place moves kept critical
    · intro waited checks
      dsimp only at checks
      split at checks
      · cases checks
      · exact sound.checking waited checks
    · intro commits
      dsimp only at commits
      split at commits
      · cases commits
      · exact sound.committed commits
  · exact sound

theorem Sound.step (sound : Sound scene) (event : SceneEvent InboxOperation) :
    Sound (Scene.step (exchange kind) scene event).2 := by
  cases event with
  | acts index => exact sound.act index
  | waiterCalls =>
      simp only [Scene.step]
      split
      · exact ⟨sound.shaped, sound.critical, (fun _ checks => by cases checks),
          fun commits => by cases commits⟩
      · exact sound
  | waiterLocks =>
      simp only [Scene.step]
      split
      · rename_i free
        refine ⟨sound.shaped, fun place moves found critical => ?_, fun _ _ => rfl,
          fun commits => by cases commits⟩
        have holder := sound.critical place moves found critical
        rw [free.2] at holder
        cases holder
      · exact sound
  | waiterChecks timedOut =>
      simp only [Scene.step]
      split
      · rename_i waited checks
        have held := sound.checking waited checks
        split_ifs with isDone
        · exact ⟨sound.shaped, fun _ _ found critical =>
            absurd critical (sound.not_critical held found), (fun _ checks => by cases checks),
            fun commits => by cases commits⟩
        · exact ⟨sound.shaped, fun _ _ found critical =>
            absurd critical (sound.not_critical held found), (fun _ checks => by cases checks),
            fun commits => by cases commits⟩
        · refine ⟨sound.shaped, sound.critical, (fun _ checks => by cases checks), fun _ =>
            ⟨held, ?_⟩⟩
          by_contra nonempty
          exact isDone (decide_eq_true (.inl nonempty))
      · exact sound
  | waiterSleeps =>
      simp only [Scene.step]
      split
      · rename_i commits
        have held := (sound.committed commits).1
        exact ⟨sound.shaped, fun _ _ found critical =>
          absurd critical (sound.not_critical held found), (fun _ checks => by cases checks),
          fun commits => by cases commits⟩
      · exact sound
  | waiterWakes =>
      simp only [Scene.step]
      split
      · exact ⟨sound.shaped, sound.critical, (fun _ checks => by cases checks),
          fun commits => by cases commits⟩
      · exact sound
  | begins operation =>
      have fresh := shaped_moves kind operation scene.shared
      refine ⟨fun place moves found => ?_, fun place moves found critical => ?_, sound.checking,
        sound.committed⟩
      all_goals
        simp only [Scene.step] at found
        rw [List.getElem?_append] at found
        split at found
      · exact sound.shaped place moves found
      · rw [List.getElem?_singleton] at found
        split at found
        · cases found
          exact fresh.1
        · cases found
      · exact sound.critical place moves found critical
      · rw [List.getElem?_singleton] at found
        split at found
        · cases found
          exact absurd critical fresh.2
        · cases found

/-! ## Lost wake-ups -/

/-- Where no wake-up is lost yet, a step is silent exactly if the transport leaves its connection
unnoticed in it. -/
theorem Sound.silent_iff (sound : Sound scene) (safe : scene.NoLostWakeup (exchange kind))
    (event : SceneEvent InboxOperation) :
    scene.Silent (exchange kind) event ↔ LeavesUnnoticed scene event := by
  apply and_congr_right
  intro quiet
  cases event with
  | acts index =>
      apply and_congr_right
      intro asleep
      constructor
      · rintro ⟨change, rest, next, isDone⟩
        have shaped := sound.shaped index _ next
        cases change with
        | push block =>
            -- A block is pushed before its notification.
            cases shaped with
            | pushes => exact absurd ⟨index, _, next, by simp⟩ quiet
            | free every =>
                rcases every _ List.mem_cons_self with ⟨change, same, isFree⟩
                cases same
                exact isFree.elim
        | setState state =>
            cases shaped with
            | free every =>
                rcases every _ List.mem_cons_self with ⟨change, same, isFree⟩
                cases same
                exact ⟨state, rest, isFree, next⟩
        -- The predicate does not look at the client.
        | setClient connected => exact absurd (safe asleep isDone) quiet
      · rintro ⟨state, rest, left, next⟩
        exact ⟨.setState state, rest, next, decide_eq_true (.inr left)⟩
  | waiterSleeps =>
      apply and_congr_right
      intro commits
      have empty := (sound.committed commits).2
      constructor
      · intro isDone
        exact (of_decide_eq_true isDone).resolve_left (not_not_intro empty)
      · exact fun left => decide_eq_true (.inr left)
  | _ => exact .rfl

/-- The thread misses no wake-up, throughout a run, exactly if in no step the transport leaves its
connection unnoticed. -/
theorem noLostWakeup_throughout_iff (kind : TransportKind) (inbox : Inbox)
    (events : List (SceneEvent InboxOperation)) :
    (∀ first rest, events = first ++ rest →
      (final (Scene.step (exchange kind)) (.start inbox) first).NoLostWakeup (exchange kind)) ↔
    Guarded (Scene.step (exchange kind)) (fun scene event => ¬ LeavesUnnoticed scene event)
      (.start inbox) events := by
  apply Scene.noLostWakeup_iff_guarded Sound (fun _ event sound => sound.step event)
  · intro scene event sound safe
    rw [sound.silent_iff safe, not_not]
  · exact ⟨(fun _ _ found => by cases found), (fun _ _ found => by cases found),
      (fun _ checks => by cases checks), fun commits => by cases commits⟩

/-- A thread that sleeps when the transport is disconnected is not woken. -/
theorem disconnect_lost :
    ¬ (final (Scene.step (exchange .tcp)) (.start ⟨[], .connected, true⟩)
      [.waiterCalls, .waiterLocks, .waiterChecks false, .waiterSleeps, .begins (.disconnect true),
        .acts 0, .acts 0]).NoLostWakeup (exchange .tcp) := by
  intro safe
  rcases safe rfl rfl with ⟨index, moves, found, mem⟩
  cases index with
  | zero =>
      cases found
      cases mem
  | succ index => cases found

end Inbox

end FileTrans.Transport
