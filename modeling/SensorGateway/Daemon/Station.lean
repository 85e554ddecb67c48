import SensorGateway.Bluetooth.Link
import SensorGateway.Gateway.Schedule

/-!
# A gateway with a radio

A station has a radio and a gateway, whose payloads go to a sink, and keeps a log.  What it does is
made of operations of its parts; after each of them the tasks of the gateway may run.
-/

namespace SensorGateway

open Bluetooth

/-- A station. -/
structure Station (ρ σ : Type) where
  radio : ρ
  gateway : Gateway
  sink : σ
  /-- The time that payloads are stamped with. -/
  time : Instant
  logs : List Log.Entry := []

namespace Station

variable {ρ σ : Type}

instance [Radio ρ] : Radio (Station ρ σ) := Radio.ofPart radio fun s radio => { s with radio }

/-- Adds lines to the log. -/
def log (entries : List Log.Entry) : StateM (Station ρ σ) Unit :=
  modify fun s => { s with logs := s.logs ++ entries }

instance : Journal (Station ρ σ) where
  note entry := log [entry]

/-- An operation of the gateway. -/
def onGateway {α : Type} (f : Gateway → Outcome α) : StateM (Station ρ σ) α := fun s =>
  let o := f s.gateway
  (o.value, { s with gateway := o.gateway, logs := s.logs ++ o.logs })

variable [TopicSink σ]

/-- Lets the tasks of the gateway run. -/
def settle : StateM (Station ρ σ) Unit :=
  modify fun s =>
    let rested := s.gateway.settle s.sink s.time
    { s with gateway := rested.gateway, sink := rested.sink, logs := s.logs ++ rested.logs }

/-- Hands a chunk to a session, waiting for room, and says whether it was taken. -/
def deliver (task : Nat) (chunk : Bytes) : StateM (Station ρ σ) Bool := fun s =>
  let sent := s.gateway.send s.sink task chunk s.time
  (sent.value.toBool,
    { s with
      gateway := sent.settled.gateway
      sink := sent.settled.sink
      logs := s.logs ++ sent.settled.logs })

end Station

end SensorGateway
