import FileTrans.Transport.EarlyData
import FileTrans.Transport.Receiving

/-!
# Connecting again

A transport that is connected again after its connection has ended.  `connect` and
`disconnect` change its state and start and stop its network client; neither empties
the queue of received blocks.

Every queued block is marked with the connection it was delivered on, counting the
times that the network client was started.  Each of the calls takes several steps, and
other calls may come between them.
-/

namespace FileTrans.Transport

open FileTrans.Core FileTrans.Transition

/-- A transport, with the connection that it is on and those that its queued blocks came from. -/
structure ReusedTransport (Thread : Type) where
  receiver : Receiver Thread
  state : TransportState
  /-- Calls of `connect` that have started the client. -/
  connecting : Nat
  /-- Calls of `disconnect` that stop the client. -/
  disconnecting : Nat
  connection : Nat
  origins : List Nat

/-- A step of a call, of the network client or of a thread that receives. -/
inductive ConnectionEvent (Thread : Type)
  /-- `connect` up to the result of `start_client`. -/
  | connect (started : Bool)
  /-- The end of `connect`. -/
  | connects
  /-- `disconnect` up to `stop_client`. -/
  | disconnect
  /-- The end of `disconnect`, with the result of `stop_client`. -/
  | disconnects (stopped : Bool)
  | deliver (block : Bytes)
  /-- What `quic_client->is_connected()` says from now on. -/
  | setClient (connected : Bool)
  /-- The disconnected callback, which only one transport sets. -/
  | lost
  | call (thread : Thread) (call : ReceiveCall)
  | wake (thread : Thread) (timedOut : Bool)

namespace ReusedTransport

variable {Thread : Type} [DecidableEq Thread]

def setState (transport : ReusedTransport Thread) (state : TransportState) :
    ReusedTransport Thread :=
  { transport with
    state := state
    receiver := { transport.receiver with stateConnected := state = .connected } }

/-- A thread that receives takes the mark of the block that it takes. -/
def receive (transport : ReusedTransport Thread) (input : ReceiverInput Thread) :
    Option (Result Bytes) × ReusedTransport Thread :=
  let next := transport.receiver.step input
  (next.1, { transport with
    receiver := next.2
    origins :=
      if next.2.receiveQueue.length < transport.receiver.receiveQueue.length then
        transport.origins.tail
      else transport.origins })

/-- At the end of a call of `connect`, the client is connected; the one transport does not wait
for that. -/
def Establishes (transport : ReusedTransport Thread) (event : ConnectionEvent Thread) : Prop :=
  match event with
  | .connects => 0 < transport.connecting ∧
      (transport.receiver.kind = .tcp ∨ transport.receiver.clientConnected = true)
  | _ => False

/-- One step, and what a call to receive returns in it. -/
def step : Step (ReusedTransport Thread) (ConnectionEvent Thread) (Option (Result Bytes)) :=
  fun transport event =>
    match event with
    | .connect started =>
        if transport.state = .connected ∨ transport.state = .connecting then (none, transport)
        else if started then
          (none, { transport.setState .connecting with
            connecting := transport.connecting + 1
            connection := transport.connection + 1 })
        else (none, transport.setState .error)
    | .connects =>
        if transport.connecting = 0 then (none, transport)
        else
          let transport := { transport with connecting := transport.connecting - 1 }
          match transport.receiver.kind with
          | .tcp => (none, transport.setState .connected)
          | .quic =>
              if transport.receiver.clientConnected then (none, transport.setState .connected)
              else (none, transport.setState .error)
    | .disconnect =>
        if transport.state = .disconnected then (none, transport)
        else (none, { transport.setState .disconnecting with
          disconnecting := transport.disconnecting + 1 })
    | .disconnects stopped =>
        if transport.disconnecting = 0 then (none, transport)
        else
          let transport := { transport with disconnecting := transport.disconnecting - 1 }
          if stopped then (none, transport.setState .disconnected)
          else (none, transport.setState .error)
    | .deliver block =>
        -- The callback is set once there was a connection.
        if transport.connection = 0 then (none, transport)
        else (none, { transport with
          receiver := (transport.receiver.step (.deliver block)).2
          origins := transport.origins ++ [transport.connection] })
    | .setClient connected =>
        (none, { transport with receiver := (transport.receiver.step (.setClient connected)).2 })
    | .lost =>
        match transport.receiver.kind with
        | .tcp => (none, transport)
        | .quic => (none, transport.setState .disconnected)
    | .call thread call => transport.receive (.call thread call)
    | .wake thread timedOut => transport.receive (.wake thread timedOut)

/-- A transport that was never connected. -/
def create (kind : TransportKind) : ReusedTransport Thread where
  receiver := ⟨kind, false, false, [], fun _ => none⟩
  state := .disconnected
  connecting := 0
  disconnecting := 0
  connection := 0
  origins := []

/-- Whatever a thread may receive now was delivered on the connection that is up. -/
def ReturnsOwn (transport : ReusedTransport Thread) : Prop :=
  ∀ event bytes, (step transport event).1 = some (.ok bytes) →
    transport.origins.head? = some transport.connection

/-- Where a connection is up from now on, nothing is left of another. -/
def NothingLeft (transport : ReusedTransport Thread) (event : ConnectionEvent Thread) : Prop :=
  transport.Establishes event → ∀ origin ∈ transport.origins, origin = transport.connection

end ReusedTransport

/-! ## Threads that receive -/

namespace Receiver

variable {Thread : Type} [DecidableEq Thread]

/-- What a thread that receives may change: it takes the first block, or none.  It only returns
bytes while the transport is connected and has a block. -/
structure Receives (receiver : Receiver Thread) (out : Option (Result Bytes) × Receiver Thread) :
    Prop where
  kind : out.2.kind = receiver.kind
  stateConnected : out.2.stateConnected = receiver.stateConnected
  clientConnected : out.2.clientConnected = receiver.clientConnected
  queue : out.2.receiveQueue = receiver.receiveQueue ∨
    ∃ block, receiver.receiveQueue = block :: out.2.receiveQueue
  returned : ∀ bytes, out.1 = some (.ok bytes) →
    receiver.stateConnected = true ∧ receiver.receiveQueue ≠ []

variable {receiver : Receiver Thread}

omit [DecidableEq Thread] in
theorem receives_popFront (connected : receiver.stateConnected = true) (call : ReceiveCall) :
    receiver.Receives (some (receiver.popFront call).1, (receiver.popFront call).2) := by
  rw [popFront]
  cases queue : receiver.receiveQueue with
  | nil =>
      refine ⟨rfl, rfl, rfl, .inl rfl, fun bytes ok => ?_⟩
      cases ok
  | cons block rest =>
      exact ⟨rfl, rfl, rfl, .inr ⟨block, queue⟩, fun _ _ => ⟨connected, by simp [queue]⟩⟩

omit [DecidableEq Thread] in
theorem stateConnected_of_isConnected (connected : receiver.isConnected = true) :
    receiver.stateConnected = true := by
  rw [isConnected] at connected
  split at connected
  · exact connected
  · exact (Bool.and_eq_true_iff.mp connected).1

omit [DecidableEq Thread] in
theorem receives_of_same {result : Option (Result Bytes)}
    (failed : ∀ bytes, result ≠ some (.ok bytes)) (waiting : Thread → Option ReceiveCall) :
    receiver.Receives (result, { receiver with waiting := waiting }) :=
  ⟨rfl, rfl, rfl, .inl rfl, fun bytes ok => absurd ok (failed bytes)⟩

theorem receives_begin (receiver : Receiver Thread) (thread : Thread) (call : ReceiveCall) :
    receiver.Receives (receiver.begin thread call) := by
  rw [begin]
  split
  · exact receives_of_same (fun _ ok => by cases ok) receiver.waiting
  · rename_i connected
    have up := stateConnected_of_isConnected (not_not.mp connected)
    split
    · exact receives_of_same (fun _ ok => by cases ok) _
    · exact receives_popFront up call

theorem receives_resume (receiver : Receiver Thread) (thread : Thread) (call : ReceiveCall)
    (timedOut : Bool) : receiver.Receives (receiver.resume thread call timedOut) := by
  let awake := { receiver with waiting := Function.update receiver.waiting thread none }
  rw [resume]
  dsimp only
  split
  · split
    · exact receives_of_same (fun _ ok => by cases ok) awake.waiting
    · rename_i connected
      have up : awake.stateConnected = true := not_not.mp connected
      have popped := receives_popFront up call
      exact ⟨popped.kind, popped.stateConnected, popped.clientConnected, popped.queue,
        popped.returned⟩
  · split
    · exact receives_of_same (fun _ ok => by cases ok) awake.waiting
    · exact receives_of_same (fun _ ok => by cases ok) receiver.waiting

theorem receives_call (receiver : Receiver Thread) (thread : Thread) (call : ReceiveCall) :
    receiver.Receives (receiver.step (.call thread call)) := by
  simp only [step]
  split
  · exact receiver.receives_begin thread call
  · exact receives_of_same (fun _ ok => by cases ok) receiver.waiting

theorem receives_wake (receiver : Receiver Thread) (thread : Thread) (timedOut : Bool) :
    receiver.Receives (receiver.step (.wake thread timedOut)) := by
  simp only [step]
  split
  · exact receives_of_same (fun _ ok => by cases ok) receiver.waiting
  · exact receiver.receives_resume thread _ timedOut

theorem exists_returned (up : receiver.isConnected = true) (nonempty : receiver.receiveQueue ≠ [])
    (thread : Thread) :
    ∃ bytes, (∃ call, (receiver.step (.call thread call)).1 = some (.ok bytes)) ∨
      (receiver.step (.wake thread false)).1 = some (.ok bytes) := by
  rcases List.exists_cons_of_ne_nil nonempty with ⟨block, rest, queue⟩
  have connected := stateConnected_of_isConnected up
  cases waits : receiver.waiting thread with
  | none =>
      refine ⟨(ReceiveCall.receive 0).returned block, .inl ⟨.receive 0, ?_⟩⟩
      simp [step, waits, begin, up, popFront, queue]
  | some call =>
      refine ⟨call.returned block, .inr ?_⟩
      simp [step, waits, resume, connected, popFront, queue]

end Receiver

namespace ReusedTransport

variable {Thread : Type} [DecidableEq Thread]

/-! ## Blocks of the connection that is up -/

/-- The queued blocks are marked in the order in which the connections were made; while a
connection is up, all of them came from it. -/
structure Fresh (transport : ReusedTransport Thread) : Prop where
  marked : transport.origins.length = transport.receiver.receiveQueue.length
  ordered : transport.origins.Pairwise (· ≤ ·)
  past : ∀ origin ∈ transport.origins, origin ≤ transport.connection
  own : transport.receiver.stateConnected = true →
    ∀ origin ∈ transport.origins, origin = transport.connection

variable {transport : ReusedTransport Thread}

omit [DecidableEq Thread] in
theorem Fresh.setState (fresh : transport.Fresh) {state : TransportState}
    (other : state ≠ .connected) : (transport.setState state).Fresh :=
  ⟨fresh.marked, fresh.ordered, fresh.past, fun up => absurd (of_decide_eq_true up) other⟩

theorem Fresh.receive (fresh : transport.Fresh) {input : ReceiverInput Thread}
    (receives : transport.receiver.Receives (transport.receiver.step input)) :
    (transport.receive input).2.Fresh := by
  rw [ReusedTransport.receive]
  dsimp only
  have own (up : (transport.receiver.step input).2.stateConnected = true) :=
    fresh.own (receives.stateConnected ▸ up)
  rcases receives.queue with same | ⟨block, taken⟩
  · rw [same, if_neg (Nat.lt_irrefl _)]
    exact ⟨by rw [fresh.marked, same], fresh.ordered, fresh.past, own⟩
  · have shorter : transport.receiver.receiveQueue.length =
        (transport.receiver.step input).2.receiveQueue.length + 1 := congrArg List.length taken
    rw [if_pos (by omega)]
    have later {origin : Nat} (mem : origin ∈ transport.origins.tail) :
        origin ∈ transport.origins := List.mem_of_mem_tail mem
    refine ⟨?_, fresh.ordered.tail, fun origin mem => fresh.past origin (later mem),
      fun up origin mem => own up origin (later mem)⟩
    rw [List.length_tail, fresh.marked, shorter, Nat.add_sub_cancel]

theorem Fresh.returnsOwn (fresh : transport.Fresh) : transport.ReturnsOwn := by
  intro event bytes returned
  have front {result : Option (Result Bytes) × Receiver Thread}
      (receives : transport.receiver.Receives result) (ok : result.1 = some (.ok bytes)) :
      transport.origins.head? = some transport.connection := by
    rcases receives.returned bytes ok with ⟨up, nonempty⟩
    cases marks : transport.origins with
    | nil =>
        have empty := fresh.marked
        rw [marks] at empty
        exact absurd (List.eq_nil_of_length_eq_zero empty.symm) nonempty
    | cons origin origins =>
        rw [List.head?_cons, fresh.own up origin (by rw [marks]; exact List.mem_cons_self)]
  cases event with
  | call thread call => exact front (transport.receiver.receives_call thread call) returned
  | wake thread timedOut =>
      exact front (transport.receiver.receives_wake thread timedOut) returned
  | connect started => simp only [step] at returned; split_ifs at returned
  | connects =>
      simp only [step] at returned
      split at returned
      · cases returned
      · split at returned
        · cases returned
        · split at returned <;> cases returned
  | disconnect => simp only [step] at returned; split_ifs at returned
  | disconnects stopped => simp only [step] at returned; split_ifs at returned
  | deliver block => simp only [step] at returned; split_ifs at returned
  | setClient connected => cases returned
  | lost => simp only [step] at returned; split at returned <;> cases returned

theorem Fresh.step (fresh : transport.Fresh) {event : ConnectionEvent Thread}
    (nothing : transport.NothingLeft event) : (step transport event).2.Fresh := by
  cases event with
  | connect started =>
      simp only [ReusedTransport.step]
      split
      · exact fresh
      · split
        · refine ⟨fresh.marked, fresh.ordered, fun origin mem => ?_, fun up => by cases up⟩
          exact (fresh.past origin mem).trans (Nat.le_succ _)
        · exact fresh.setState (by decide)
  | connects =>
      simp only [ReusedTransport.step]
      split
      · exact fresh
      · rename_i pending
        have positive := Nat.pos_of_ne_zero pending
        split
        · rename_i isTcp
          exact ⟨fresh.marked, fresh.ordered, fresh.past, fun _ => nothing ⟨positive, .inl isTcp⟩⟩
        · split
          · rename_i connected
            exact ⟨fresh.marked, fresh.ordered, fresh.past,
              fun _ => nothing ⟨positive, .inr connected⟩⟩
          · exact ⟨fresh.marked, fresh.ordered, fresh.past, fun up => by cases up⟩
  | disconnect =>
      simp only [ReusedTransport.step]
      split
      · exact fresh
      · exact ⟨fresh.marked, fresh.ordered, fresh.past, fun up => by cases up⟩
  | disconnects stopped =>
      simp only [ReusedTransport.step]
      split
      · exact fresh
      · split
        · exact ⟨fresh.marked, fresh.ordered, fresh.past, fun up => by cases up⟩
        · exact ⟨fresh.marked, fresh.ordered, fresh.past, fun up => by cases up⟩
  | deliver block =>
      simp only [ReusedTransport.step]
      split
      · exact fresh
      · have own := fresh.own
        refine ⟨?_, ?_, ?_, fun up => ?_⟩
        · simp [Receiver.step, fresh.marked]
        · rw [List.pairwise_append]
          refine ⟨fresh.ordered, List.pairwise_singleton _ _, fun origin mem other last => ?_⟩
          rw [List.mem_singleton.mp last]
          exact fresh.past origin mem
        · exact List.forall_mem_append.mpr ⟨fresh.past, List.forall_mem_singleton.mpr le_rfl⟩
        · exact List.forall_mem_append.mpr ⟨own up, List.forall_mem_singleton.mpr rfl⟩
  | setClient connected => exact ⟨fresh.marked, fresh.ordered, fresh.past, fresh.own⟩
  | lost =>
      simp only [ReusedTransport.step]
      split
      · exact fresh
      · exact fresh.setState (by decide)
  | call thread call => exact fresh.receive (transport.receiver.receives_call thread call)
  | wake thread timedOut => exact fresh.receive (transport.receiver.receives_wake thread timedOut)

theorem Fresh.nothingLeft [Inhabited Thread] (fresh : transport.Fresh)
    {event : ConnectionEvent Thread}
    (returnsOwn : (ReusedTransport.step transport event).2.ReturnsOwn) :
    transport.NothingLeft event := by
  cases event with
  | connects =>
      rintro ⟨pending, connected⟩ origin mem
      let after := { transport with connecting := transport.connecting - 1 }.setState .connected
      have reached : (ReusedTransport.step transport .connects).2 = after := by
        simp only [ReusedTransport.step]
        rw [if_neg (Nat.ne_of_gt pending)]
        rcases connected with isTcp | connected
        · rw [isTcp]
        · cases transport.receiver.kind with
          | tcp => rfl
          | quic => rw [if_pos connected]
      have up : after.receiver.isConnected = true := by
        have kind : after.receiver.kind = transport.receiver.kind := rfl
        rw [Receiver.isConnected, kind]
        cases isKind : transport.receiver.kind with
        | tcp => rfl
        | quic =>
            rw [isKind] at connected
            exact connected.resolve_left (by decide)
      have nonempty : after.receiver.receiveQueue ≠ [] := by
        intro empty
        have marks := fresh.marked
        rw [show transport.receiver.receiveQueue = [] from empty] at marks
        rw [List.eq_nil_of_length_eq_zero marks] at mem
        cases mem
      have front : transport.origins.head? = some transport.connection := by
        rw [reached] at returnsOwn
        rcases Receiver.exists_returned up nonempty default with ⟨bytes, ⟨call, ok⟩ | ok⟩
        · exact returnsOwn (.call default call) bytes ok
        · exact returnsOwn (.wake default false) bytes ok
      rcases List.head?_eq_some_iff.mp front with ⟨rest, marks⟩
      have ordered := fresh.ordered
      rw [marks] at mem ordered
      rcases List.mem_cons.mp mem with same | later
      · exact same
      · have past : origin ≤ transport.connection :=
          fresh.past origin (marks ▸ List.mem_cons_of_mem _ later)
        exact past.antisymm (List.rel_of_pairwise_cons ordered later)
  | _ => exact fun establishes => establishes.elim

/-- Every call that receives returns bytes of the connection that is up, throughout a run, exactly
if whenever a connection is made, no block that was delivered before it is left. -/
theorem returnsOwn_throughout_iff [Inhabited Thread] (kind : TransportKind)
    (events : List (ConnectionEvent Thread)) :
    (∀ first rest, events = first ++ rest → (final step (create kind) first).ReturnsOwn) ↔
      Guarded step NothingLeft (create kind) events := by
  have initial : (create kind : ReusedTransport Thread).Fresh :=
    ⟨rfl, .nil, fun _ mem => absurd mem List.not_mem_nil, fun up => by cases up⟩
  have holds : ∀ (_ : List (ConnectionEvent Thread)) (transport : ReusedTransport Thread),
      transport.Fresh → transport.ReturnsOwn := fun _ _ fresh => fresh.returnsOwn
  have kept : ∀ (_ : List (ConnectionEvent Thread)) (transport : ReusedTransport Thread) event,
      transport.Fresh → transport.NothingLeft event → (step transport event).2.Fresh :=
    fun _ _ _ fresh => fresh.step
  have broken : ∀ (_ : List (ConnectionEvent Thread)) (transport : ReusedTransport Thread) event,
      transport.Fresh → (step transport event).2.ReturnsOwn → transport.NothingLeft event :=
    fun _ _ _ fresh => fresh.nothingLeft
  exact forall_history_iff_guarded holds kept broken [] initial events

/-- A block that nobody receives before the transport is disconnected and connected again. -/
def unread : List (ConnectionEvent Unit) :=
  [.connect true, .connects, .deliver [7], .disconnect, .disconnects true, .connect true, .connects]

/-- The first call on the second connection returns it. -/
theorem unread_returned :
    (step (final step (create .tcp) unread) (.call () (.receive 8))).1 = some (.ok [7]) ∧
      (final step (create .tcp) unread).origins = [1] ∧
      (final step (create .tcp) unread).connection = 2 ∧
      ¬ (final step (create .tcp) unread).ReturnsOwn := by
  have returned : (step (final step (create .tcp) unread) (.call () (.receive 8))).1 =
      some (.ok [7]) := rfl
  refine ⟨returned, rfl, rfl, fun returnsOwn => ?_⟩
  have front := returnsOwn (.call () (.receive 8)) [7] returned
  exact absurd front (by decide)

end ReusedTransport

end FileTrans.Transport
