import FileTrans.Core.Types
import FileTrans.Transition.Run
import Mathlib.Data.List.TakeDrop

/-!
# Receiving from a transport

The network client delivers blocks of data, which wait in a queue; `receive` takes the
first one, and `receive_into` copies what `receive` returns into a buffer.  Either
returns at most as many bytes as its caller has room for, and what is left of a block
is not put back.

Any number of threads receive.  A call that finds no data waits on the condition
variable, and goes on when it is notified or its time is over.  The two transports
share this code and differ in what it means to be connected.
-/

namespace FileTrans.Transport

open FileTrans.Core FileTrans.Transition

inductive TransportKind
  | tcp
  | quic
  deriving DecidableEq

/-- A call that receives data, with the sizes that bound what it returns. -/
inductive ReceiveCall
  | receive (maxSize : Nat)
  | receiveInto (bufferSize maxSize : Nat)
  deriving DecidableEq

/-- The part of a transport that receives, with the threads that wait for data. -/
structure Receiver (Thread : Type) where
  kind : TransportKind
  /-- `current_state` is `connected`. -/
  stateConnected : Bool
  /-- `quic_client->is_connected()`. -/
  clientConnected : Bool
  receiveQueue : List Bytes
  waiting : Thread → Option ReceiveCall

/-- The network client delivers a block, or the connection changes; or a thread calls, or is woken
up, possibly because its time is over. -/
inductive ReceiverInput (Thread : Type)
  | deliver (block : Bytes)
  | setState (connected : Bool)
  | setClient (connected : Bool)
  | call (thread : Thread) (call : ReceiveCall)
  | wake (thread : Thread) (timedOut : Bool)

/-- `receive` from the front of the queue on, without the removal: `data.resize(max_size)`, and
`copy_n` for `receive_into`. -/
def ReceiveCall.returned (block : Bytes) : ReceiveCall → Bytes
  | receive maxSize => if maxSize < block.length then block.take maxSize else block
  | receiveInto bufferSize maxSize =>
      let data := if maxSize < block.length then block.take maxSize else block
      data.take (min bufferSize data.length)

/-- The size that the caller has room for. -/
def ReceiveCall.room : ReceiveCall → Nat
  | receive maxSize => maxSize
  | receiveInto bufferSize maxSize => min bufferSize maxSize

namespace Receiver

variable {Thread : Type} [DecidableEq Thread] (receiver : Receiver Thread)

def isConnected : Bool :=
  match receiver.kind with
  | .tcp => receiver.stateConnected
  | .quic => receiver.stateConnected && receiver.clientConnected

/-- The end of `receive`, after the wait if there was one. -/
def popFront (call : ReceiveCall) : Result Bytes × Receiver Thread :=
  match receiver.receiveQueue with
  | [] => (unexpected .internalError "No data available", receiver)
  | block :: rest => (.ok (call.returned block), { receiver with receiveQueue := rest })

/-- A call up to the point where it returns or waits. -/
def begin (thread : Thread) (call : ReceiveCall) : Option (Result Bytes) × Receiver Thread :=
  if ¬ receiver.isConnected then
    (some (unexpected .notInitialized "Transport is not connected"), receiver)
  else if receiver.receiveQueue = [] then
    (none, { receiver with waiting := Function.update receiver.waiting thread (some call) })
  else
    let popped := receiver.popFront call
    (some popped.1, popped.2)

/-- A call that waits looks at its predicate; it returns if that holds or its time is over. -/
def resume (thread : Thread) (call : ReceiveCall) (timedOut : Bool) :
    Option (Result Bytes) × Receiver Thread :=
  let awake := { receiver with waiting := Function.update receiver.waiting thread none }
  if receiver.receiveQueue ≠ [] ∨ ¬ receiver.stateConnected then
    if ¬ receiver.stateConnected then
      (some (unexpected .connectionLost "Connection lost"), awake)
    else
      let popped := awake.popFront call
      (some popped.1, popped.2)
  else if timedOut then (some (unexpected .transferTimeout "Receive timeout"), awake)
  else (none, receiver)

/-- One step, and what a call returns in it.  A thread that waits makes no other call. -/
def step : Step (Receiver Thread) (ReceiverInput Thread) (Option (Result Bytes)) :=
  fun receiver input =>
    match input with
    | .deliver block => (none, { receiver with receiveQueue := receiver.receiveQueue ++ [block] })
    | .setState connected => (none, { receiver with stateConnected := connected })
    | .setClient connected => (none, { receiver with clientConnected := connected })
    | .call thread call =>
        match receiver.waiting thread with
        | none => receiver.begin thread call
        | some _ => (none, receiver)
    | .wake thread timedOut =>
        match receiver.waiting thread with
        | none => (none, receiver)
        | some call => receiver.resume thread call timedOut

/-- A transport that was just connected. -/
def connected (kind : TransportKind) : Receiver Thread :=
  ⟨kind, true, true, [], fun _ => none⟩

end Receiver

/-! ## Bytes in and out -/

/-- A receiver with the bytes that were delivered to it and those that its calls returned, in the
order in which they left the queue. -/
structure RecordedReceiver (Thread : Type) where
  receiver : Receiver Thread
  delivered : Bytes
  returned : Bytes

def ReceiverInput.delivered {Thread : Type} : ReceiverInput Thread → Bytes
  | .deliver block => block
  | _ => []

/-- The bytes that a call returns. -/
def returnedBytes : Option (Result Bytes) → Bytes
  | some (.ok bytes) => bytes
  | _ => []

namespace RecordedReceiver

variable {Thread : Type} [DecidableEq Thread]

/-- One step. -/
def record : Step (RecordedReceiver Thread) (ReceiverInput Thread) (Option (Result Bytes)) :=
  fun recorded input =>
    let next := recorded.receiver.step input
    (next.1, {
      receiver := next.2
      delivered := recorded.delivered ++ input.delivered
      returned := recorded.returned ++ returnedBytes next.1 })

/-- The start of a run. -/
def create (kind : TransportKind) : RecordedReceiver Thread :=
  ⟨.connected kind, [], []⟩

/-- A byte stream: what was returned is the beginning of what was delivered, the rest is queued,
and once nothing is queued all of it was returned. -/
structure ByteStream (recorded : RecordedReceiver Thread) : Prop where
  isPrefix : recorded.returned <+: recorded.delivered
  nothingLost : recorded.returned ++ recorded.receiver.receiveQueue.flatten = recorded.delivered
  drained : recorded.receiver.receiveQueue = [] → recorded.returned = recorded.delivered

omit [DecidableEq Thread] in
theorem byteStream_iff (recorded : RecordedReceiver Thread) :
    recorded.ByteStream ↔
      recorded.returned ++ recorded.receiver.receiveQueue.flatten = recorded.delivered := by
  constructor
  · exact ByteStream.nothingLost
  · intro nothingLost
    refine ⟨⟨_, nothingLost⟩, nothingLost, fun drained => ?_⟩
    simpa [drained] using nothingLost

end RecordedReceiver

/-! ## Calls with enough room -/

theorem ReceiveCall.returned_eq_take (call : ReceiveCall) (block : Bytes) :
    call.returned block = block.take call.room := by
  have limited : ∀ maxSize,
      (if maxSize < block.length then block.take maxSize else block) = block.take maxSize := by
    intro maxSize
    split
    · rfl
    · rename_i fits
      exact (List.take_of_length_le (Nat.not_lt.mp fits)).symm
  cases call with
  | receive maxSize => exact limited maxSize
  | receiveInto bufferSize maxSize =>
      simp only [returned, limited, room]
      rw [← List.take_eq_take_min, List.take_take]

namespace Receiver

variable {Thread : Type} [DecidableEq Thread]

/-- The call that takes a block from the queue in a step. -/
def taker (receiver : Receiver Thread) : ReceiverInput Thread → Option ReceiveCall
  | .call thread call =>
      if receiver.waiting thread = none ∧ receiver.isConnected then some call else none
  | .wake thread _ => if receiver.stateConnected then receiver.waiting thread else none
  | _ => none

/-- A call that takes a block has room for all of it. -/
def HasRoom (receiver : Receiver Thread) (input : ReceiverInput Thread) : Prop :=
  ∀ call block, receiver.taker input = some call → receiver.receiveQueue.head? = some block →
    block.length ≤ call.room

/-- A step in which a call takes the first block and returns what it has room for. -/
structure Takes (receiver : Receiver Thread) (input : ReceiverInput Thread) (call : ReceiveCall)
    (block : Bytes) (rest : List Bytes) : Prop where
  taker : receiver.taker input = some call
  front : receiver.receiveQueue = block :: rest
  nothing : input.delivered = []
  returned : returnedBytes (receiver.step input).1 = block.take call.room
  queue : (receiver.step input).2.receiveQueue = rest

/-- A step in which no block leaves the queue. -/
structure Keeps (receiver : Receiver Thread) (input : ReceiverInput Thread) : Prop where
  room : receiver.HasRoom input
  returned : returnedBytes (receiver.step input).1 = []
  queue : (receiver.step input).2.receiveQueue.flatten =
    receiver.receiveQueue.flatten ++ input.delivered

theorem keeps_of_noTaker {receiver : Receiver Thread} {input : ReceiverInput Thread}
    (noTaker : receiver.taker input = none)
    (returned : returnedBytes (receiver.step input).1 = [])
    (queue : (receiver.step input).2.receiveQueue.flatten =
      receiver.receiveQueue.flatten ++ input.delivered) : receiver.Keeps input := by
  refine ⟨fun call block taker => ?_, returned, queue⟩
  rw [noTaker] at taker
  cases taker

theorem keeps_of_empty {receiver : Receiver Thread} {input : ReceiverInput Thread}
    (empty : receiver.receiveQueue = [])
    (returned : returnedBytes (receiver.step input).1 = [])
    (queue : (receiver.step input).2.receiveQueue = []) (nothing : input.delivered = []) :
    receiver.Keeps input := by
  refine ⟨fun call block _ front => ?_, returned, ?_⟩
  · rw [empty] at front
    cases front
  · rw [queue, empty, nothing]
    rfl

theorem call_cases (receiver : Receiver Thread) (thread : Thread) (call : ReceiveCall) :
    (∃ block rest, receiver.Takes (.call thread call) call block rest) ∨
      receiver.Keeps (.call thread call) := by
  cases waits : receiver.waiting thread with
  | some other =>
      right
      apply keeps_of_noTaker
      · simp [taker, waits]
      · simp [step, waits, returnedBytes]
      · simp [step, waits, ReceiverInput.delivered]
  | none =>
      by_cases connected : receiver.isConnected = true
      · cases front : receiver.receiveQueue with
        | nil =>
            right
            apply keeps_of_empty front
            · simp [step, waits, begin, connected, front, returnedBytes]
            · simp [step, waits, begin, connected, front]
            · rfl
        | cons block rest =>
            left
            refine ⟨block, rest, by simp [taker, waits, connected], front, rfl, ?_, ?_⟩
            · simp [step, waits, begin, connected, front, popFront, returnedBytes,
                call.returned_eq_take]
            · simp [step, waits, begin, connected, front, popFront]
      · right
        apply keeps_of_noTaker
        · simp [taker, connected]
        · simp [step, waits, begin, connected, returnedBytes, unexpected]
        · simp [step, waits, begin, connected, ReceiverInput.delivered]

theorem wake_cases (receiver : Receiver Thread) (thread : Thread) (timedOut : Bool) :
    (∃ call block rest, receiver.Takes (.wake thread timedOut) call block rest) ∨
      receiver.Keeps (.wake thread timedOut) := by
  cases waits : receiver.waiting thread with
  | none =>
      right
      apply keeps_of_noTaker
      · simp [taker, waits]
      · simp [step, waits, returnedBytes]
      · simp [step, waits, ReceiverInput.delivered]
  | some call =>
      by_cases connected : receiver.stateConnected = true
      · cases front : receiver.receiveQueue with
        | nil =>
            right
            apply keeps_of_empty front
            · cases timedOut <;>
                simp [step, waits, resume, connected, front, returnedBytes, unexpected]
            · cases timedOut <;> simp [step, waits, resume, connected, front]
            · rfl
        | cons block rest =>
            left
            refine ⟨call, block, rest, by simp [taker, waits, connected], front, rfl, ?_, ?_⟩
            · simp [step, waits, resume, connected, front, popFront, returnedBytes,
                call.returned_eq_take]
            · simp [step, waits, resume, connected, front, popFront]
      · right
        apply keeps_of_noTaker
        · simp [taker, connected]
        · simp [step, waits, resume, connected, returnedBytes, unexpected]
        · simp [step, waits, resume, connected, ReceiverInput.delivered]

theorem step_cases (receiver : Receiver Thread) (input : ReceiverInput Thread) :
    (∃ call block rest, receiver.Takes input call block rest) ∨ receiver.Keeps input := by
  cases input with
  | deliver block =>
      exact .inr (keeps_of_noTaker rfl rfl (by simp [step, ReceiverInput.delivered]))
  | setState connected => exact .inr (keeps_of_noTaker rfl rfl (List.append_nil _).symm)
  | setClient connected => exact .inr (keeps_of_noTaker rfl rfl (List.append_nil _).symm)
  | call thread call =>
      rcases receiver.call_cases thread call with ⟨block, rest, takes⟩ | keeps
      · exact .inl ⟨call, block, rest, takes⟩
      · exact .inr keeps
  | wake thread timedOut => exact receiver.wake_cases thread timedOut

end Receiver

namespace RecordedReceiver

variable {Thread : Type} [DecidableEq Thread]

theorem byteStream_record_iff {recorded : RecordedReceiver Thread} (stream : recorded.ByteStream)
    (input : ReceiverInput Thread) :
    (record recorded input).2.ByteStream ↔ recorded.receiver.HasRoom input := by
  have old := stream.nothingLost
  rw [byteStream_iff]
  simp only [record]
  rcases recorded.receiver.step_cases input with ⟨call, block, rest, takes⟩ | keeps
  · rw [takes.returned, takes.queue, takes.nothing, List.append_nil, ← old, takes.front,
      List.flatten_cons, List.append_assoc, List.append_right_inj, List.append_left_inj,
      List.take_eq_self_iff]
    constructor
    · intro fits other first taker front
      cases takes.taker.symm.trans taker
      rw [takes.front] at front
      cases front
      exact fits
    · exact fun room => room call block takes.taker (by rw [takes.front]; rfl)
  · rw [keeps.returned, keeps.queue, List.append_nil, ← List.append_assoc, old]
    exact iff_of_true rfl keeps.room

/-- What a transport returns is a byte stream throughout a run exactly if every call that takes a
block has room for all of it. -/
theorem byteStream_throughout_iff (kind : TransportKind) (inputs : List (ReceiverInput Thread)) :
    (∀ first rest, inputs = first ++ rest →
      (final record (create kind) first).ByteStream) ↔
      Guarded record (fun recorded input => recorded.receiver.HasRoom input) (create kind)
        inputs := by
  have kept_iff : ∀ (recorded : RecordedReceiver Thread) input, recorded.ByteStream →
      ((record recorded input).2.ByteStream ↔ recorded.receiver.HasRoom input) :=
    fun _ input stream => byteStream_record_iff stream input
  exact forall_prefix_iff_guarded kept_iff ((byteStream_iff _).mpr rfl) inputs

/-- A block of two bytes and a call with room for one. -/
theorem byteStream_not_truncated :
    ¬ ∀ (kind : TransportKind) (inputs : List (ReceiverInput Unit)),
      (final record (create kind) inputs).ByteStream := by
  intro every
  have stream := every .tcp [.deliver [1, 2], .call () (.receive 1)]
  exact absurd (stream.drained rfl) (by decide)

end RecordedReceiver

end FileTrans.Transport
