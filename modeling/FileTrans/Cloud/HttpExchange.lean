import FileTrans.Text.Bytes
import Mathlib.Data.Finset.Lattice.Fold

/-!
# Requests to a server

A request is executed and answered, refused with an error status, lost on its
way to the server, or executed without the answer coming back.  The wire keeps
the server and what was sent, in order.
-/

namespace FileTrans.Cloud

/-- A status code that reports an error. -/
structure ErrorStatus where
  code : Nat
  isError : 400 ≤ code
  deriving DecidableEq

/-- What becomes of a request. -/
inductive Fate
  | served
  | refused (status : ErrorStatus)
  | lost
  | unanswered
  deriving DecidableEq

/-- What becomes of the requests, in the order in which they are begun, and at which look the
answers to those on threads of their own are there. -/
structure Network where
  fate : Nat → Fate
  finishes : Nat → Nat

/-- Every request is executed and answered. -/
def Network.Serves (network : Network) : Prop :=
  ∀ number, network.fate number = .served

/-- A request reaches the server and is executed and answered, or is lost in transport. -/
def Network.Transports (network : Network) : Prop :=
  ∀ number, network.fate number = .served ∨ network.fate number = .lost

theorem Network.Serves.transports {network : Network} (serves : network.Serves) :
    network.Transports :=
  fun number => .inl (serves number)

theorem Network.finishes_bounded (network : Network) (count length : Nat) :
    ∃ bound, length ≤ bound ∧ ∀ number ≤ count, network.finishes number ≤ bound := by
  refine ⟨max length ((Finset.range (count + 1)).sup network.finishes), le_max_left _ _, ?_⟩
  intro number le
  apply le_trans _ (le_max_right _ _)
  exact Finset.le_sup (Finset.mem_range.mpr (Nat.lt_succ_of_le le))

/-- How a server executes requests, and how it refuses them. -/
structure Service (Request Response Server : Type) where
  serve : Request → Server → Response × Server
  refuse : ErrorStatus → Response

/-- The server, and the requests sent so far with their answers. -/
structure Wire (Request Response Server : Type) where
  server : Server
  sent : List (Request × Option Response)

variable {Request Response Server : Type}

/-- A server before the first request. -/
def Wire.begin (server : Server) : Wire Request Response Server :=
  ⟨server, []⟩

/-- The answer to a request with this fate, and the server after it. -/
def deliver (service : Service Request Response Server) (fate : Fate) (request : Request)
    (server : Server) : Option Response × Server :=
  match fate with
  | .served => (some (service.serve request server).1, (service.serve request server).2)
  | .refused status => (some (service.refuse status), server)
  | .lost => (none, server)
  | .unanswered => (none, (service.serve request server).2)

/-- Send a request.  No answer is a failure in transport. -/
def exchange (service : Service Request Response Server) (network : Network) (request : Request)
    (wire : Wire Request Response Server) : Option Response × Wire Request Response Server :=
  let delivered := deliver service (network.fate wire.sent.length) request wire.server
  (delivered.1, ⟨delivered.2, wire.sent ++ [(request, delivered.1)]⟩)

section

variable {service : Service Request Response Server} {network : Network} {request : Request}
  {wire : Wire Request Response Server}

theorem exchange_of_served (served : network.fate wire.sent.length = .served) :
    (exchange service network request wire).1 = some (service.serve request wire.server).1 ∧
      (exchange service network request wire).2.server =
        (service.serve request wire.server).2 := by
  simp [exchange, deliver, served]

theorem exchange_of_refused {status : ErrorStatus}
    (refused : network.fate wire.sent.length = .refused status) :
    (exchange service network request wire).1 = some (service.refuse status) ∧
      (exchange service network request wire).2.server = wire.server := by
  simp [exchange, deliver, refused]

theorem exchange_of_lost (lost : network.fate wire.sent.length = .lost) :
    (exchange service network request wire).1 = none ∧
      (exchange service network request wire).2.server = wire.server := by
  simp [exchange, deliver, lost]

end

end FileTrans.Cloud
