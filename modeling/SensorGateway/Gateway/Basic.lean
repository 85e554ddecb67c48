import SensorGateway.Bus.Publisher
import SensorGateway.Config.Basic
import SensorGateway.Error
import SensorGateway.Gateway.Task

/-!
# The state of a gateway

The gateway knows the task of each connected device.  Tasks are numbered in the order in which they
were started and a number is never used again, so that somebody who holds the number of a task that
is over cannot take another one for it.

This module has the smallest changes of the state.  The operations are made of them, and so is every
interleaving of operations with each other and with the tasks.
-/

namespace SensorGateway

/-- A gateway. -/
structure Gateway where
  config : Config
  publisher : Publisher
  /-- All tasks ever started, by number. -/
  tasks : List Task := []
  /-- The task of each connected device. -/
  devices : KeyMap Nat := []
  /-- The tasks that have been given something to do, in the order in which that happened. -/
  ready : List Nat := []
  /-- Events that wait for the application. -/
  events : List Event := []

/-- What an operation answers, and the state after it. -/
structure Outcome (α : Type) where
  value : α
  gateway : Gateway
  logs : List Log.Entry

namespace Gateway

/-- The most events that wait. -/
def eventCapacity : Nat := 256

/-- A gateway without connections. -/
def new (config : Config) (publisher : Publisher) : Gateway where
  config
  publisher

/-- A line about the gateway. -/
def note (text : String) : Log.Entry where
  level := .info
  source := .registry
  message := "Gateway: " ++ text

/-- The task with a number. -/
def task? (g : Gateway) (n : Nat) : Option Task := g.tasks[n]?

/-- The task of a connected device. -/
def deviceTask? (g : Gateway) (id : String) : Option Nat := g.devices.find? id

/-- Changes a task. -/
def modifyTask (g : Gateway) (n : Nat) (f : Task → Task) : Gateway :=
  { g with tasks := g.tasks.modify n f }

/-- Notes that a task has something to do. -/
def wake (g : Gateway) (n : Nat) : Gateway :=
  { g with ready := if g.ready.contains n then g.ready else g.ready ++ [n] }

/-- Takes a device off the list of connected ones. -/
def unlist (g : Gateway) (id : String) : Gateway := { g with devices := g.devices.erase id }

/-- Puts the task of a device on the list of connected ones. -/
def enlist (g : Gateway) (id : String) (n : Nat) : Gateway :=
  { g with devices := g.devices.insert id n }

/-- Keeps a task from reporting ever again. -/
def silence (g : Gateway) (n : Nat) : Gateway :=
  g.modifyTask n fun t => { t with live := false }

/-- Makes a task end when it would wait. -/
def abort (g : Gateway) (n : Nat) : Gateway :=
  (g.modifyTask n fun t => { t with aborted := true }).wake n

/-- Forgets what is known of a device. -/
def detach (g : Gateway) (id : String) : Gateway :=
  { g with publisher := g.publisher.detach id }

/-- Binds a device to its topics; one without topics stays unbound, which the publisher will say. -/
def bind (g : Gateway) (id : String) (topics : List String) : Gateway :=
  if topics.isEmpty then g else { g with publisher := g.publisher.bind id topics }

/-- Starts a task with a new session. -/
def start (g : Gateway) (session : DeviceSession) : Gateway :=
  { g with tasks := g.tasks ++ [Task.new session] }.wake g.tasks.length

/-- A session for a device that has been given nothing. -/
def newSession (g : Gateway) : DeviceConfig → DeviceSession
  | .battery b => .battery (.new b.id b.lowSocThreshold)
  | .tank t => .tank (.new t.id t.calibration g.config.volumeTable? t.heightOffsetIn)

/-! ## Steps of a task -/

/-- Puts events into the queue as long as there is room; the others are lost. -/
def emit (g : Gateway) (events : List Event) : Gateway :=
  { g with events := g.events ++ events.take (eventCapacity - g.events.length) }

/-- One step of a task; nothing if it is over, or waits for a chunk that is not there. -/
def advance (g : Gateway) (n : Nat) (now : Instant) : Option (Outcome Unit) :=
  match g.task? n with
  | none => none
  | some t =>
      match t.phase with
      | .ended => none
      | .waiting =>
          if t.chunks.isEmpty && !t.aborted then none
          else some { value := (), gateway := g.modifyTask n Task.take, logs := [] }
      | .decoding chunk =>
          let (decoded, logs) := t.decode chunk now
          some { value := (), gateway := g.modifyTask n fun _ => decoded, logs }
      | .reporting events =>
          some { value := (), gateway := g.modifyTask n (Task.check · events), logs := [] }
      | .publishing events =>
          let published := g.publisher.publish t.session.device t.session.record now
          some
            { value := ()
              gateway :=
                { g with publisher := published.publisher }.modifyTask n fun t =>
                  { t with phase := .emitting events }
              logs := published.logs }
      | .emitting events =>
          some
            { value := ()
              gateway := (g.emit (events.take 1)).modifyTask n (Task.goOn · events.tail)
              logs := [] }

end Gateway

end SensorGateway
