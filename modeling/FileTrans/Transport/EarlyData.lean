import FileTrans.Core.Types
import FileTrans.Transition.Run

/-!
# Early data

`connect_with_0rtt` sends its early data before the connection is established, looks
afterwards whether the handshake is complete, which it takes for the acceptance of the
early data, and sends the data again if it is not.  Where 0-RTT is not available it
connects and sends the data then.  A send that fails is only logged.

The peer receives what is sent on a connection, in order, and early data exactly if it
was sent and the peer accepts it.  What the network client answers is part of the input
of a call.
-/

namespace FileTrans.Transport

open FileTrans.Core FileTrans.Transition

inductive TransportState
  | disconnected
  | connecting
  | connected
  | disconnecting
  | error
  deriving DecidableEq

structure Endpoint where
  host : Bytes
  port : UInt16
  deriving DecidableEq

/-- `connection_result`, as far as it is filled in. -/
structure ConnectionResult where
  success : Bool
  remoteAddress : Bytes
  remotePort : UInt16
  deriving DecidableEq

/-- What a send meets: whether the client is connected, and what `send_packet` answers. -/
structure SendOutcome where
  clientConnected : Bool
  sendError : Option Bytes
  deriving DecidableEq

/-- What an attempt to connect meets. -/
structure ConnectOutcome where
  /-- `can_use_0rtt` of the session manager. -/
  canUse0rtt : Bool
  /-- The session manager has a ticket when the configuration is built. -/
  ticket : Bool
  startError : Option Bytes
  /-- `send_packet` of the early data. -/
  earlyError : Option Bytes
  /-- The client is connected before the time is over. -/
  connected : Bool
  /-- `is_handshake_complete`. -/
  handshakeComplete : Bool
  /-- The peer accepts early data. -/
  accepted : Bool
  /-- The callback for a lost connection comes before the data are sent on the connection. -/
  dropped : Bool
  send : SendOutcome
  deriving DecidableEq

/-- The data that are sent on the connection reach it. -/
def ConnectOutcome.sends (outcome : ConnectOutcome) : Bool :=
  !outcome.dropped && outcome.send.clientConnected && outcome.send.sendError.isNone

/-- `quic_transport`, as far as these calls read it. -/
structure QuicTransport where
  enable0rtt : Bool
  hasSessionManager : Bool
  currentState : TransportState
  remote : Option Endpoint
  used0rtt : Bool
  is0rttAccepted : Bool
  deriving DecidableEq

/-- What a call returns, what the peer receives in it, and the transport afterwards. -/
structure QuicReply (α : Type) where
  result : Result α
  received : List Bytes
  transport : QuicTransport

namespace QuicTransport

variable (transport : QuicTransport)

/-- `quic_transport::create`, with `set_session_manager` if there is a session manager. -/
def create (enable0rtt hasSessionManager : Bool) : QuicTransport :=
  ⟨enable0rtt, hasSessionManager, .disconnected, none, false, false⟩

/-- The transport is connected or connecting, so that it cannot connect. -/
def Busy : Prop :=
  transport.currentState = .connected ∨ transport.currentState = .connecting

instance : Decidable transport.Busy :=
  inferInstanceAs (Decidable (_ ∨ _))

/-- The error of a call that connects a busy transport. -/
def alreadyConnected {α : Type} : Result α :=
  unexpected .alreadyInitialized "Transport is already connected or connecting"

def send (outcome : SendOutcome) (data : Bytes) : QuicReply Nat :=
  if ¬ (transport.currentState = .connected ∧ outcome.clientConnected) then
    ⟨unexpected .notInitialized "Transport is not connected", [], transport⟩
  else if data = [] then ⟨.ok 0, [], transport⟩
  else
    match outcome.sendError with
    | some message =>
        ⟨.error ⟨.internalError, Text.ascii "Send failed: " ++ message⟩, [], transport⟩
    | none => ⟨.ok data.length, [data], transport⟩

def connect (outcome : ConnectOutcome) (remote : Endpoint) : QuicReply ConnectionResult :=
  if transport.Busy then ⟨alreadyConnected, [], transport⟩
  else
    let attempting := transport.enable0rtt && transport.hasSessionManager && outcome.ticket
    let started := { transport with
      currentState := .connecting, used0rtt := attempting, is0rttAccepted := false }
    match outcome.startError with
    | some message =>
        ⟨.error ⟨.connectionFailed, Text.ascii "Connection failed: " ++ message⟩, [],
          { started with currentState := .error }⟩
    | none =>
        if ¬ outcome.connected then
          ⟨unexpected .connectionFailed "Connection timeout", [],
            { started with currentState := .error }⟩
        else
          ⟨.ok ⟨true, remote.host, remote.port⟩, [], { started with
            currentState := .connected
            remote := some remote
            is0rttAccepted := attempting && outcome.handshakeComplete }⟩

def can0rtt (outcome : ConnectOutcome) : Bool :=
  transport.enable0rtt && transport.hasSessionManager && outcome.canUse0rtt

/-- The callback for a lost connection, if it comes. -/
def afterDrop (dropped : Bool) : QuicTransport :=
  if dropped then { transport with currentState := .disconnected } else transport

/-- The data that `connect_with_0rtt` sends on the connection: the result of `send` is ignored. -/
def sendIgnoring (outcome : ConnectOutcome) (data : Bytes) : List Bytes × QuicTransport :=
  let sent := (transport.afterDrop outcome.dropped).send outcome.send data
  (if data = [] then [] else sent.received, sent.transport)

def connectWith0rtt (outcome : ConnectOutcome) (remote : Endpoint) (earlyData : Bytes) :
    QuicReply ConnectionResult :=
  if transport.Busy then ⟨alreadyConnected, [], transport⟩
  else if ¬ transport.can0rtt outcome then
    let connected := transport.connect outcome remote
    match connected.result with
    | .error _ => connected
    | .ok result =>
        let sent := connected.transport.sendIgnoring outcome earlyData
        ⟨.ok result, sent.1, sent.2⟩
  else
    let started := { transport with
      currentState := .connecting, used0rtt := true, is0rttAccepted := false }
    match outcome.startError with
    | some message =>
        ⟨.error ⟨.connectionFailed, Text.ascii "Connection failed: " ++ message⟩, [],
          { started with currentState := .error }⟩
    | none =>
        let early := if earlyData ≠ [] ∧ outcome.earlyError = none ∧ outcome.accepted then
          [earlyData] else []
        if ¬ outcome.connected then
          ⟨unexpected .connectionFailed "Connection timeout", early,
            { started with currentState := .error }⟩
        else
          let connected := { started with
            currentState := .connected
            remote := some remote
            is0rttAccepted := outcome.handshakeComplete }
          if outcome.handshakeComplete then
            ⟨.ok ⟨true, remote.host, remote.port⟩, early,
              connected.afterDrop outcome.dropped⟩
          else
            let sent := connected.sendIgnoring outcome earlyData
            ⟨.ok ⟨true, remote.host, remote.port⟩, early ++ sent.1, sent.2⟩

def disconnect (stopError : Option Bytes) : QuicReply Unit :=
  if transport.currentState = .disconnected then ⟨.ok (), [], transport⟩
  else
    match stopError with
    | some message =>
        ⟨.error ⟨.internalError, Text.ascii "Disconnect failed: " ++ message⟩, [],
          { transport with currentState := .error }⟩
    | none => ⟨.ok (), [], { transport with
        currentState := .disconnected, remote := none, used0rtt := false
        is0rttAccepted := false }⟩

end QuicTransport

/-! ## Runs -/

/-- A call, with what it meets; or the callback for a lost connection. -/
inductive QuicCall
  | connect (outcome : ConnectOutcome) (remote : Endpoint)
  | connectWith0rtt (outcome : ConnectOutcome) (remote : Endpoint) (earlyData : Bytes)
  | send (outcome : SendOutcome) (data : Bytes)
  | disconnect (stopError : Option Bytes)
  | dropped

/-- Data that the peer received, with the number of the call that sent it. -/
structure PeerMessage where
  origin : Nat
  data : Bytes
  deriving DecidableEq

/-- A transport with the number of calls so far, what the peer received, and the calls of
`connect_with_0rtt` that returned success for some early data. -/
structure QuicSession where
  transport : QuicTransport
  calls : Nat
  received : List PeerMessage
  promised : List PeerMessage

namespace QuicSession

/-- Before the first call. -/
def create (enable0rtt hasSessionManager : Bool) : QuicSession :=
  ⟨.create enable0rtt hasSessionManager, 0, [], []⟩

/-- What the peer receives in a call, and the transport afterwards. -/
def effect (transport : QuicTransport) : QuicCall → List Bytes × QuicTransport
  | .connect outcome remote =>
      ((transport.connect outcome remote).received, (transport.connect outcome remote).transport)
  | .connectWith0rtt outcome remote earlyData =>
      ((transport.connectWith0rtt outcome remote earlyData).received,
        (transport.connectWith0rtt outcome remote earlyData).transport)
  | .send outcome data => ((transport.send outcome data).received,
      (transport.send outcome data).transport)
  | .disconnect stopError => ([], (transport.disconnect stopError).transport)
  | .dropped => ([], transport.afterDrop true)

/-- The early data of a call that returns success. -/
def promise (transport : QuicTransport) : QuicCall → Option Bytes
  | .connectWith0rtt outcome remote earlyData =>
      if (transport.connectWith0rtt outcome remote earlyData).result.isOk ∧ earlyData ≠ [] then
        some earlyData
      else none
  | _ => none

/-- One call. -/
def step : Step QuicSession QuicCall Unit := fun session call =>
  ((), {
    transport := (effect session.transport call).2
    calls := session.calls + 1
    received := session.received ++
      (effect session.transport call).1.map fun data => ⟨session.calls, data⟩
    promised := session.promised ++
      ((promise session.transport call).map fun data => ⟨session.calls, data⟩).toList })

/-- The peer received the early data of every successful call exactly once, after the data of the
calls before it and before those of the calls after it. -/
def EarlyDataOnce (session : QuicSession) : Prop :=
  ∀ message ∈ session.promised, ∃ earlier later,
    session.received = earlier ++ message :: later ∧
      (∀ other ∈ earlier, other.origin < message.origin) ∧
      ∀ other ∈ later, message.origin < other.origin

/-- The calls that sent something are over. -/
def Numbered (session : QuicSession) : Prop :=
  (∀ message ∈ session.received, message.origin < session.calls) ∧
    ∀ message ∈ session.promised, message.origin < session.calls

/-- With 0-RTT, either the early data are sent and accepted, or the handshake is not complete and
the data are sent again; without, the data are sent. -/
def SentOnce (transport : QuicTransport) : QuicCall → Prop
  | .connectWith0rtt outcome _ earlyData =>
      ¬ transport.Busy → outcome.startError = none → outcome.connected = true → earlyData ≠ [] →
        if transport.can0rtt outcome then
          (outcome.earlyError.isNone && outcome.accepted) ≠
            (!outcome.handshakeComplete && ConnectOutcome.sends outcome)
        else ConnectOutcome.sends outcome = true
  | _ => True

/-! ## One call -/

variable {transport : QuicTransport}

theorem send_received_of_connected (connected : transport.currentState = .connected)
    {data : Bytes} (nonempty : data ≠ []) (outcome : SendOutcome) :
    (transport.send outcome data).received =
      if outcome.clientConnected && outcome.sendError.isNone then [data] else [] := by
  rcases outcome with ⟨_ | _, _ | message⟩ <;>
    simp [QuicTransport.send, connected, nonempty]

/-- Data that are sent after the handshake reach the peer, unless the connection is lost or the
send fails. -/
theorem sendIgnoring_fst (connected : transport.currentState = .connected) {data : Bytes}
    (nonempty : data ≠ []) (outcome : ConnectOutcome) :
    (transport.sendIgnoring outcome data).1 = if outcome.sends then [data] else [] := by
  cases dropped : outcome.dropped with
  | true =>
      simp [QuicTransport.sendIgnoring, QuicTransport.afterDrop, QuicTransport.send, nonempty,
        ConnectOutcome.sends, dropped]
  | false =>
      simp [QuicTransport.sendIgnoring, QuicTransport.afterDrop, nonempty, ConnectOutcome.sends,
        dropped, send_received_of_connected connected nonempty]

theorem connectWith0rtt_isOk (transport : QuicTransport) (outcome : ConnectOutcome)
    (remote : Endpoint) (earlyData : Bytes) :
    (transport.connectWith0rtt outcome remote earlyData).result.isOk = true ↔
      ¬ transport.Busy ∧ outcome.startError = none ∧ outcome.connected = true := by
  unfold QuicTransport.connectWith0rtt
  by_cases busy : transport.Busy
  · simp [busy, QuicTransport.alreadyConnected, unexpected, Except.isOk, Except.toBool]
  · cases failure : outcome.startError <;> cases connected : outcome.connected <;>
      cases available : transport.can0rtt outcome <;>
      cases complete : outcome.handshakeComplete <;>
      simp [busy, failure, connected, complete, QuicTransport.connect, unexpected,
        Except.isOk, Except.toBool]

theorem connectWith0rtt_received {outcome : ConnectOutcome} (idle : ¬ transport.Busy)
    (started : outcome.startError = none) (connected : outcome.connected = true)
    (remote : Endpoint) {earlyData : Bytes} (nonempty : earlyData ≠ []) :
    (transport.connectWith0rtt outcome remote earlyData).received =
      if transport.can0rtt outcome then
        (if outcome.earlyError.isNone && outcome.accepted then [earlyData] else []) ++
          (if !outcome.handshakeComplete && outcome.sends then [earlyData] else [])
      else if outcome.sends then [earlyData] else [] := by
  unfold QuicTransport.connectWith0rtt
  rw [if_neg idle]
  by_cases available : transport.can0rtt outcome = true
  · rw [if_neg (not_not.mpr available), if_pos available, started]
    have early : (if earlyData ≠ [] ∧ outcome.earlyError = none ∧ outcome.accepted = true then
        [earlyData] else []) =
        if outcome.earlyError.isNone && outcome.accepted then [earlyData] else [] := by
      simp [nonempty]
    dsimp only
    rw [if_neg (by simp [connected]), early]
    cases complete : outcome.handshakeComplete with
    | true => simp
    | false => simp [sendIgnoring_fst _ nonempty]
  · rw [if_pos available, if_neg available]
    simp [QuicTransport.connect, idle, started, connected, sendIgnoring_fst _ nonempty]

/-- The peer receives the early data of a successful call once in the call exactly under
`SentOnce`. -/
theorem effect_of_promise_iff (transport : QuicTransport) (call : QuicCall) :
    (∀ data, promise transport call = some data → (effect transport call).1 = [data]) ↔
      SentOnce transport call := by
  cases call with
  | connectWith0rtt outcome remote earlyData =>
      by_cases succeeds : ¬ transport.Busy ∧ outcome.startError = none ∧
          outcome.connected = true
      · obtain ⟨idle, started, connected⟩ := succeeds
        have success := (connectWith0rtt_isOk transport outcome remote earlyData).mpr
          ⟨idle, started, connected⟩
        by_cases nonempty : earlyData = []
        · simp [promise, SentOnce, nonempty]
        · have received := connectWith0rtt_received idle started connected remote nonempty
          simp only [promise, success, effect, received, SentOnce, idle, started, connected,
            nonempty, ne_eq, not_false_eq_true, and_self, if_true, Option.some.injEq,
            forall_eq', forall_const]
          by_cases available : transport.can0rtt outcome = true
          · simp only [available, if_true]
            cases outcome.earlyError.isNone && outcome.accepted <;>
              cases !outcome.handshakeComplete && outcome.sends <;> simp
          · simp only [available]
            cases outcome.sends <;> simp
      · have fails := mt (connectWith0rtt_isOk transport outcome remote earlyData).mp succeeds
        simp only [promise, fails, SentOnce]
        refine iff_of_true (fun _ none => by cases none) fun idle started connected => ?_
        exact absurd ⟨idle, started, connected⟩ succeeds
  | _ => exact iff_of_true (fun _ none => by cases none) trivial

/-! ## All calls -/

theorem between_iff {received new : List PeerMessage} {message : PeerMessage}
    (old : ∀ other ∈ received, other.origin < message.origin)
    (fresh : ∀ other ∈ new, other.origin = message.origin) :
    (∃ earlier later, received ++ new = earlier ++ message :: later ∧
      (∀ other ∈ earlier, other.origin < message.origin) ∧
      ∀ other ∈ later, message.origin < other.origin) ↔ new = [message] := by
  constructor
  · rintro ⟨earlier, later, split, before, after⟩
    have same := congrArg (List.filter fun other => other.origin = message.origin) split
    have none : ∀ list : List PeerMessage, (∀ other ∈ list, other.origin ≠ message.origin) →
        list.filter (fun other => other.origin = message.origin) = [] := by
      intro list distinct
      simpa using distinct
    rw [List.filter_append, List.filter_append, List.filter_cons,
      none received fun other mem => Nat.ne_of_lt (old other mem),
      none earlier fun other mem => Nat.ne_of_lt (before other mem),
      none later fun other mem => Nat.ne_of_gt (after other mem),
      List.filter_eq_self.mpr (by simpa using fresh)] at same
    simpa using same
  · rintro rfl
    exact ⟨received, [], rfl, old, by simp⟩

theorem between_append {received new : List PeerMessage} {message : PeerMessage}
    (later' : ∀ other ∈ new, message.origin < other.origin)
    (between : ∃ earlier later, received = earlier ++ message :: later ∧
      (∀ other ∈ earlier, other.origin < message.origin) ∧
      ∀ other ∈ later, message.origin < other.origin) :
    ∃ earlier later, received ++ new = earlier ++ message :: later ∧
      (∀ other ∈ earlier, other.origin < message.origin) ∧
      ∀ other ∈ later, message.origin < other.origin := by
  obtain ⟨earlier, later, rfl, before, after⟩ := between
  refine ⟨earlier, later ++ new, by simp, before, fun other mem => ?_⟩
  rcases List.mem_append.mp mem with mem | mem
  · exact after other mem
  · exact later' other mem

theorem numbered_step {session : QuicSession} (numbered : session.Numbered) (call : QuicCall) :
    (step session call).2.Numbered := by
  constructor
  · intro message mem
    rcases List.mem_append.mp mem with old | new
    · exact Nat.lt_succ_of_lt (numbered.1 message old)
    · obtain ⟨data, -, rfl⟩ := List.mem_map.mp new
      exact Nat.lt_succ_self _
  · intro message mem
    rcases List.mem_append.mp mem with old | new
    · exact Nat.lt_succ_of_lt (numbered.2 message old)
    · obtain ⟨data, -, rfl⟩ := Option.map_eq_some_iff.mp (Option.mem_toList.mp new)
      exact Nat.lt_succ_self _

theorem earlyDataOnce_step_iff {session : QuicSession}
    (holds : session.Numbered ∧ session.EarlyDataOnce) (call : QuicCall) :
    (step session call).2.Numbered ∧ (step session call).2.EarlyDataOnce ↔
      SentOnce session.transport call := by
  obtain ⟨numbered, once⟩ := holds
  rw [and_iff_right (numbered_step numbered call), ← effect_of_promise_iff]
  have single : ∀ data, (effect session.transport call).1 = [data] ↔
      ((effect session.transport call).1.map fun data => PeerMessage.mk session.calls data) =
        [⟨session.calls, data⟩] := by
    intro data
    rcases (effect session.transport call).1 with _ | ⟨first, _ | ⟨second, rest⟩⟩ <;> simp
  have fresh : ∀ other ∈
      (effect session.transport call).1.map fun data => PeerMessage.mk session.calls data,
      other.origin = session.calls := by
    intro other mem
    obtain ⟨data, -, rfl⟩ := List.mem_map.mp mem
    rfl
  constructor
  · intro every data promised
    have mem : (⟨session.calls, data⟩ : PeerMessage) ∈ (step session call).2.promised := by
      simp [step, promised]
    exact (single data).mpr ((between_iff numbered.1 fresh).mp (every _ mem))
  · intro kept message mem
    rcases List.mem_append.mp mem with old | new
    · apply between_append _ (once message old)
      intro other otherMem
      rw [fresh other otherMem]
      exact numbered.2 message old
    · obtain ⟨data, promised, rfl⟩ := Option.map_eq_some_iff.mp (Option.mem_toList.mp new)
      exact (between_iff numbered.1 fresh).mpr ((single data).mp (kept data promised))

/-- Throughout a run the peer has received the early data of every successful call exactly once,
in the order of the calls, exactly if every call with early data sends them once. -/
theorem earlyDataOnce_throughout_iff (enable0rtt hasSessionManager : Bool)
    (calls : List QuicCall) :
    (∀ first rest, calls = first ++ rest →
      (final step (create enable0rtt hasSessionManager) first).EarlyDataOnce) ↔
      Guarded step (fun session call => SentOnce session.transport call)
        (create enable0rtt hasSessionManager) calls := by
  have start : (create enable0rtt hasSessionManager).Numbered ∧
      (create enable0rtt hasSessionManager).EarlyDataOnce := by
    simp [create, Numbered, EarlyDataOnce]
  have numbered : ∀ first, (final step (create enable0rtt hasSessionManager) first).Numbered :=
    final_invariant Numbered (fun _ call holds => numbered_step holds call) start.1
  have kept_iff : ∀ (session : QuicSession) call,
      session.Numbered ∧ session.EarlyDataOnce →
      ((step session call).2.Numbered ∧ (step session call).2.EarlyDataOnce ↔
        SentOnce session.transport call) :=
    fun _ call holds => earlyDataOnce_step_iff holds call
  have all := forall_prefix_iff_guarded kept_iff start calls
  simp only [numbered, true_and] at all
  exact all

/-- The early data could not be sent, and the handshake is complete, so that they are not sent
again: the call returns success and the peer receives nothing. -/
theorem earlyDataOnce_not_unsent :
    ¬ ∀ (enable0rtt hasSessionManager : Bool) (calls : List QuicCall),
      (final step (create enable0rtt hasSessionManager) calls).EarlyDataOnce := by
  intro every
  let outcome : ConnectOutcome :=
    ⟨true, true, none, some [], true, true, true, false, ⟨true, none⟩⟩
  have once := every true true [.connectWith0rtt outcome ⟨[104], 443⟩ [1]]
  obtain ⟨earlier, later, split, -⟩ := once ⟨0, [1]⟩ (by decide)
  have nothing : (final step (create true true)
      [.connectWith0rtt outcome ⟨[104], 443⟩ [1]]).received = [] := by decide
  rw [nothing] at split
  simp at split

end QuicSession

end FileTrans.Transport
