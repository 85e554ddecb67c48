import SensorGateway.Daemon.Startup
import SensorGateway.Daemon.Supervisor
import SensorGateway.Daemon.TankScan

/-!
# The daemon

The daemon supervises the batteries, listens to the tank sensors and warns of low batteries, until it
is told to stop.

What it does is cut into turns.  In a turn one supervisor does what is due, or the tank scan is made,
or one notification is taken, and then the gateway comes to rest.  When there is nothing to do the
clock goes forward to when something is due.
-/

namespace SensorGateway

open Bluetooth

/-- A daemon. -/
structure Daemon (ρ σ : Type) where
  station : Station ρ σ
  supervisors : List Supervisor
  /-- Whether the tank scan has yet to be made. -/
  scanDue : Bool
  /-- The time since the start, in half milliseconds. -/
  now : Nat := 0

namespace Daemon

variable {ρ σ : Type}

/-- A daemon that has done nothing: each battery has a supervisor, and there is a tank scan if there
are tanks. -/
def new (config : Config) (radio : ρ) (sink : σ) (time : Instant) : Daemon ρ σ where
  station :=
    { radio
      gateway :=
        .new config (.new config.publisher.queueCapacity config.publisher.suppressRepeats)
      sink
      time }
  supervisors := config.batteries.map fun battery => { battery }
  scanDue := !config.tanks.isEmpty

/-- What is said of an event. -/
def warning? (e : Event) : Option Log.Entry :=
  match e.happening with
  | .lowBattery soc threshold =>
      some (Startup.note .warn s!"{e.device}: low battery, {soc}% (threshold {threshold}%)")
  | _ => none

/-- Takes the events that wait and says what there is to say of them. -/
def attend : StateM (Station ρ σ) Unit := do
  let events ← Station.onGateway fun g =>
    let (value, gateway) := g.takeEvents
    { value, gateway, logs := [] }
  Station.log (events.filterMap warning?)

variable [Radio ρ] [TopicSink σ]

/-- The first supervisor with something due does it. -/
def serveFirst (now : Nat) : List Supervisor → StateM (Station ρ σ) (Option (List Supervisor))
  | [] => return none
  | s :: rest => do
      if s.due ≤ now then return some ((← s.serve now) :: rest)
      else return (← serveFirst now rest).map (s :: ·)

/-- The first supervisor to whose battery something has come takes it. -/
def hearFirst (now : Nat) : List Supervisor → StateM (Station ρ σ) (Option (List Supervisor))
  | [] => return none
  | s :: rest => do
      match ← s.hear now with
      | some s => return some (s :: rest)
      | none => return (← hearFirst now rest).map (s :: ·)

/-- Listens to the tank sensors for as long as the scan goes on. -/
def listen : StateM (Station ρ σ) Unit := do
  match ← Station.scanTanks with
  | some e => Station.log [Startup.note .error s!"Tank scan stopped: {e.message}"]
  | none => return ()

/-- What is done in a turn: the supervisors after it, or nothing if there is nothing to do. -/
def act (d : Daemon ρ σ) : StateM (Station ρ σ) (Option (List Supervisor)) := do
  match ← serveFirst d.now d.supervisors with
  | some supervisors => return some supervisors
  | none =>
      if d.scanDue then
        listen
        return some d.supervisors
      else hearFirst d.now d.supervisors

/-- Whether a supervisor has something due, which comes before the scan. -/
def isServing (d : Daemon ρ σ) : Bool := d.supervisors.any fun s => s.due ≤ d.now

/-- The gateway comes to rest, and what it tells is attended to. -/
def rest : StateM (Station ρ σ) Unit := do
  Station.settle
  attend

/-- One turn, if there is something to do. -/
def turn (d : Daemon ρ σ) : Option (Daemon ρ σ) :=
  let (acted, station) := d.act.run d.station
  acted.map fun supervisors =>
    { d with
      station := (rest.run station).2
      supervisors
      scanDue := d.scanDue && d.isServing }

/-- Lets the clock go forward to when something is due, if anything ever is. -/
def wait (d : Daemon ρ σ) : Option (Daemon ρ σ) :=
  (d.supervisors.map (·.due)).min?.map fun now => { d with now }

/-- Goes on until it has come to rest and is told to stop, or forever: at most so many turns. -/
def run (isStopped : Daemon ρ σ → Bool) : Nat → Daemon ρ σ → Daemon ρ σ
  | 0, d => d
  | fuel + 1, d =>
      match d.turn with
      | some d => run isStopped fuel d
      | none =>
          if isStopped d then d
          else
            match d.wait with
            | some d => run isStopped fuel d
            | none => d

/-- Stops. -/
def shutdown (d : Daemon ρ σ) : Daemon ρ σ :=
  let act : StateM (Station ρ σ) Unit := do
    Station.log [Startup.note .info "Received shutdown signal"]
    Station.onGateway (·.shutdown)
  { d with station := (act.run d.station).2 }

end Daemon

end SensorGateway
