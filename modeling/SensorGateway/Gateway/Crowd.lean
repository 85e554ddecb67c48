import SensorGateway.Gateway.Interleaving

/-!
# Several calls at once

A gateway can be used from several threads.  Then calls overlap: each has its own accesses left to
make, and whose turn it is is anybody's guess.  A call sees the gateway as if it were the only one
(`Crowd.moment`), which is why nothing is said here about what an access does.
-/

namespace SensorGateway

/-- A gateway with the calls that are under way, or have been. -/
structure Crowd where
  gateway : Gateway
  /-- For each call that has begun, the accesses that it has still to make. -/
  calls : List (List Access) := []

/-- Something that happens. -/
inductive Turn
  /-- One more call begins. -/
  | call (c : Call)
  /-- The call with this number makes its next access. -/
  | access (k : Nat)
  /-- Something happens that is no call's doing. -/
  | beside (move : Move)

namespace Crowd

/-- A gateway that has just been made, with its publisher. -/
def start (config : Config) (capacity : Nat) (suppressRepeats : Bool) : Crowd where
  gateway := .new config (.new capacity suppressRepeats)

/-- The gateway as the call with this number sees it. -/
def moment (c : Crowd) (k : Nat) : Moment where
  gateway := c.gateway
  pending := c.calls.getD k []

/-- The gateway as everybody else sees it. -/
def beside (c : Crowd) : Moment where
  gateway := c.gateway

/-- Whether every call has returned. -/
def isIdle (c : Crowd) : Bool := c.calls.all List.isEmpty

/-- The gateway and the calls after a turn; nothing if the turn is not possible. -/
def step? (c : Crowd) : Turn → Option Crowd
  | .call call => some { c with calls := c.calls ++ [call.accesses c.gateway.config] }
  | .access k =>
      ((c.moment k).step? .access).map fun m =>
        { gateway := m.gateway, calls := c.calls.set k m.pending }
  | .beside move =>
      if move.isCall then none
      else (c.beside.step? move).map fun m => { c with gateway := m.gateway }

/-- The gateway and the calls after several turns; nothing if one of them is not possible. -/
def run? (c : Crowd) : List Turn → Option Crowd
  | [] => some c
  | turn :: turns => (c.step? turn).bind fun c' => c'.run? turns

end Crowd

end SensorGateway
