import SensorGateway.Gateway.Basic

/-!
# What a gateway can be asked to do

Each operation is made of the smallest changes in a fixed order.  To stop a task, the device first
goes off the list, then the task is silenced and aborted, and only then is the device forgotten: when
a task is silenced nothing that it does can bring the device's payload back.
-/

namespace SensorGateway.Gateway

/-- Stops a task. -/
def stop (g : Gateway) (n : Nat) : Gateway := (g.silence n).abort n

/-- Disconnects a device, and says whether it was connected. -/
def disconnect (g : Gateway) (id : String) : Outcome Bool :=
  match g.deviceTask? id with
  | none => { value := false, gateway := g, logs := [] }
  | some n =>
      { value := true
        gateway := ((g.unlist id).stop n).detach id
        logs := [note s!"{id} disconnected"] }

/-- Starts a session for a device of the configuration, and answers the number of its task.  A
session that the device has is disconnected first. -/
def connect (g : Gateway) (id : String) : Outcome (Except Error Nat) :=
  match g.config.device? id with
  | none => { value := .error (.unknownDevice id), gateway := g, logs := [] }
  | some device =>
      let stopped := g.disconnect id
      let g := stopped.gateway.bind id device.topics
      let n := g.tasks.length
      { value := .ok n
        gateway := (g.start (g.newSession device)).enlist id n
        logs := stopped.logs ++ [note s!"{id} connected"] }

/-- What becomes of a chunk that is sent to a task. -/
inductive Reception
  | queued
  /-- There is no room at the moment. -/
  | full
  /-- The task is over. -/
  | closed
  deriving DecidableEq, Repr

/-- Sends a chunk to a task. -/
def push (g : Gateway) (n : Nat) (chunk : Bytes) : Reception × Gateway :=
  match g.task? n with
  | none => (.closed, g)
  | some t =>
      if t.isEnded then (.closed, g)
      else if t.isFull then (.full, g)
      else (.queued, (g.modifyTask n (·.enqueue chunk)).wake n)

/-- Whether a device is connected. -/
def isConnected (g : Gateway) (id : String) : Bool := g.devices.contains id

/-- The connected devices, in order. -/
def connected (g : Gateway) : List String := g.devices.keys

/-- The task for a tank's broadcasts, which is started if the tank has none. -/
def tankTask (g : Gateway) (id : String) : Outcome (Option Nat) :=
  match g.deviceTask? id with
  | some n => { value := some n, gateway := g, logs := [] }
  | none =>
      let connected := g.connect id
      { value := connected.value.toOption, gateway := connected.gateway, logs := connected.logs }

/-- Hands a broadcast to the tank with an address, and says whether it was taken: it is not if there
is no such tank or its queue is full. -/
def routeAdvertisement (g : Gateway) (suffix : String) (payload : Bytes) : Outcome Bool :=
  match g.config.tankBySuffix? suffix with
  | none => { value := false, gateway := g, logs := [] }
  | some tank =>
      let found := g.tankTask tank.id
      match found.value with
      | none => { value := false, gateway := found.gateway, logs := found.logs }
      | some n =>
          let (reception, g) := found.gateway.push n payload
          { value := reception == .queued, gateway := g, logs := found.logs }

/-- Disconnects every device. -/
def shutdown (g : Gateway) : Outcome Unit where
  value := ()
  gateway :=
    g.devices.foldl (fun g entry => (g.stop entry.2).detach entry.1) { g with devices := [] }
  logs := [note "shut down"]

/-- Lets the gateway go: its tasks are stopped, but nothing is forgotten. -/
def release (g : Gateway) : Gateway :=
  g.devices.foldl (fun g entry => g.stop entry.2) g

/-- Takes the first events that wait, at most so many. -/
def receive (g : Gateway) (count : Nat) : List Event × Gateway :=
  (g.events.take count, { g with events := g.events.drop count })

/-- Takes the events that wait. -/
def takeEvents (g : Gateway) : List Event × Gateway := g.receive g.events.length

end SensorGateway.Gateway
