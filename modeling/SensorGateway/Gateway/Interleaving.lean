import SensorGateway.Gateway.Operations

/-!
# Calls and tasks side by side

An operation is not one change but several, and between two of them anything else may happen: tasks
make steps, the dispatcher delivers, somebody who has kept the number of a task sends it chunks.
Here a call is the list of its *accesses* to what it shares with them.  An access makes one change
and can add accesses in front of those that are left, since what a call does next depends on what it
has found.

Two accesses can have to wait: a task is not silenced while it holds its lock, and a chunk that must
not be lost is sent only when there is room for it.
-/

namespace SensorGateway

/-- What can be asked of a gateway. -/
inductive Call
  | connect (id : String)
  | disconnect (id : String)
  | sendChunk (id : String) (chunk : Bytes)
  | routeAdvertisement (suffix : String) (payload : Bytes)
  | shutdown
  deriving DecidableEq, Repr

/-- One access of a call to what is shared. -/
inductive Access
  /-- Takes a device off the list, to stop the task that it had. -/
  | unlist (id : String)
  /-- Takes all devices off the list, to stop their tasks. -/
  | unlistAll
  | silence (n : Nat)
  | abort (n : Nat)
  | detach (id : String)
  | bind (id : String) (topics : List String)
  /-- Starts a task for a device, to list it and then to offer it a chunk. -/
  | start (id : String) (device : DeviceConfig) (chunk : Option Bytes)
  | enlist (id : String) (n : Nat)
  /-- Looks for the task of a device, to send it a chunk. -/
  | find (id : String) (chunk : Bytes)
  /-- Looks for the task of a tank, to offer it a chunk, or to start one. -/
  | findTank (id : String) (chunk : Bytes)
  /-- Sends a chunk when there is room. -/
  | send (n : Nat) (chunk : Bytes)
  /-- Sends a chunk if there is room. -/
  | offer (n : Nat) (chunk : Bytes)

namespace Access

/-- The accesses that stop the task of a device and forget the device. -/
def stopping (id : String) (n : Nat) : List Access := [.silence n, .abort n, .detach id]

/-- The accesses that start a session for a device, and offer its task a chunk. -/
def connecting (config : Config) (id : String) (chunk : Option Bytes) : List Access :=
  match config.device? id with
  | none => []
  | some device => [.unlist id, .bind id device.topics, .start id device chunk]

/-- Whether the access has to wait. -/
def waits (g : Gateway) : Access → Bool
  | silence n => (g.task? n).any Task.holdsLock
  | send n chunk => (g.push n chunk).1 == .full
  | _ => false

/-- The change that the access makes. -/
def change (g : Gateway) : Access → Gateway
  | unlist id => g.unlist id
  | unlistAll => { g with devices := [] }
  | silence n => g.silence n
  | abort n => g.abort n
  | detach id => g.detach id
  | bind id topics => g.bind id topics
  | start _ device _ => g.start (g.newSession device)
  | enlist id n => g.enlist id n
  | find _ _ => g
  | findTank _ _ => g
  | send n chunk => (g.push n chunk).2
  | offer n chunk => (g.push n chunk).2

/-- What the call has to do next, after what it has found. -/
def next (g : Gateway) : Access → List Access
  | unlist id => (g.deviceTask? id).elim [] (stopping id)
  | unlistAll => g.devices.flatMap fun entry => stopping entry.1 entry.2
  | start id _ chunk => .enlist id g.tasks.length :: chunk.toList.map (.offer g.tasks.length)
  | find id chunk => (g.deviceTask? id).toList.map fun n => .send n chunk
  | findTank id chunk =>
      match g.deviceTask? id with
      | some n => [.offer n chunk]
      | none => connecting g.config id (some chunk)
  | _ => []

end Access

namespace Call

/-- The accesses that a call begins with. -/
def accesses (config : Config) : Call → List Access
  | connect id => Access.connecting config id none
  | disconnect id => [.unlist id]
  | sendChunk id chunk => [.find id chunk]
  | routeAdvertisement suffix payload =>
      (config.tankBySuffix? suffix).toList.map fun tank => .findTank tank.id payload
  | shutdown => [.unlistAll]

/-- The gateway after a call that nothing has come between. -/
def perform (g : Gateway) : Call → Gateway
  | connect id => (g.connect id).gateway
  | disconnect id => (g.disconnect id).gateway
  | sendChunk id chunk => (g.deviceTask? id).elim g fun n => (g.push n chunk).2
  | routeAdvertisement suffix payload => (g.routeAdvertisement suffix payload).gateway
  | shutdown => g.shutdown.gateway

end Call

/-- A gateway at a moment when a call may be under way. -/
structure Moment where
  gateway : Gateway
  /-- The accesses that the call under way has still to make. -/
  pending : List Access := []

/-- Something that happens. -/
inductive Move
  /-- A call begins; no other is under way. -/
  | call (c : Call)
  /-- The call under way makes its next access. -/
  | access
  /-- A task makes a step. -/
  | task (n : Nat) (now : Instant)
  /-- A task goes on with the next chunk, though it may have been aborted. -/
  | linger (n : Nat)
  /-- Somebody who knows the number of a task offers it a chunk. -/
  | offer (n : Nat) (chunk : Bytes)
  /-- The dispatcher makes a step with a sink. -/
  | dispatch {σ : Type} [TopicSink σ] (sink : σ)
  /-- The application takes so many of the events that wait, or all if there are fewer. -/
  | receive (count : Nat)

/-- Whether a call begins. -/
def Move.isCall : Move → Bool
  | call _ => true
  | _ => false

namespace Moment

/-- A gateway that has just been made, with its publisher. -/
def start (config : Config) (capacity : Nat) (suppressRepeats : Bool) : Moment where
  gateway := .new config (.new capacity suppressRepeats)

/-- The moment after a move; nothing if the move is not possible. -/
def step? (m : Moment) : Move → Option Moment
  | .call c =>
      if m.pending.isEmpty then some { m with pending := c.accesses m.gateway.config } else none
  | .access =>
      match m.pending with
      | [] => none
      | a :: rest =>
          if a.waits m.gateway then none
          else some { gateway := a.change m.gateway, pending := a.next m.gateway ++ rest }
  | .task n now => (m.gateway.advance n now).map fun o => { m with gateway := o.gateway }
  | .linger n => some { m with gateway := m.gateway.modifyTask n Task.linger }
  | .offer n chunk => some { m with gateway := (m.gateway.push n chunk).2 }
  | @Move.dispatch _ _ sink =>
      (m.gateway.publisher.step sink).map fun d =>
        { m with gateway := { m.gateway with publisher := d.publisher } }
  | .receive count => some { m with gateway := (m.gateway.receive count).2 }

/-- The moment after several moves; nothing if one of them is not possible. -/
def run? (m : Moment) : List Move → Option Moment
  | [] => some m
  | move :: moves => (m.step? move).bind fun m' => m'.run? moves

end Moment

end SensorGateway
