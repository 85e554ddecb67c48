import SensorGateway.Bluetooth.Radio
import SensorGateway.Wire.Command

/-!
# The link to a battery

A battery offers a service with two characteristics: requests are written to one, and answers come
as notifications of the other, cut up as the radio likes.  The link passes them on untouched.

A link is *established* by looking for the battery by name, connecting to it and finding the two
characteristics.  It is then *begun* by subscribing and asking for the name.  From then on it
*reacts*: to a tick of its clock by the next request, for the pack and for the cells in turn, and to
a notification by handing it to the battery's session.  Before every request the connection is
looked at, and made again if it is lost.
-/

namespace SensorGateway.Bluetooth

/-- Why there is no link, or none any more. -/
inductive LinkError
  | radio (fault : RadioFault)
  /-- The scan came to its end without the battery. -/
  | absent
  /-- The scan took too long. -/
  | notFound (name : String)
  | noService (name : String)
  | noWriteCharacteristic (name : String)
  | noNotifyCharacteristic (name : String)
  /-- The battery will notify no more. -/
  | endOfStream
  /-- The scan for broadcasts came to its end. -/
  | endOfScan
  deriving DecidableEq, Repr

/-- The wording of an error. -/
def LinkError.message : LinkError → String
  | radio fault => fault.text
  | absent => "Device not found"
  | notFound name => s!"BMS {name} not found"
  | noService name => s!"{name} does not support the BMS UART service."
  | noWriteCharacteristic name => s!"{name} does not support the BMS UART write characteristic."
  | noNotifyCharacteristic name => s!"{name} does not support the BMS UART notify characteristic."
  | endOfStream => "end of notification stream"
  | endOfScan => "tank scan ended"

/-- The service of a battery. -/
def uartService : Uuid := ⟨"0000ff00-0000-1000-8000-00805f9b34fb"⟩

/-- The characteristic that notifies of answers. -/
def uartNotify : Uuid := ⟨"0000ff01-0000-1000-8000-00805f9b34fb"⟩

/-- The characteristic that requests are written to. -/
def uartWrite : Uuid := ⟨"0000ff02-0000-1000-8000-00805f9b34fb"⟩

/-- What a battery is asked for from time to time. -/
inductive Query
  | pack
  | cells
  deriving DecidableEq, Repr

namespace Query

/-- The one that comes after. -/
def next : Query → Query
  | pack => cells
  | cells => pack

/-- The request for it. -/
def command : Query → Wire.Command
  | pack => .readHardwareInfo
  | cells => .readCellInfo

end Query

/-- A link. -/
structure Link where
  device : Handle
  name : String
  writeTo : Nat
  notifyFrom : Nat
  /-- What will be asked for at the next tick. -/
  query : Query := .pack
  deriving DecidableEq, Repr

namespace Link

variable {σ : Type} [Radio σ] [Journal σ]

/-- Says something about the link to a battery. -/
def say (level : Log.Level) (name text : String) : StateM σ Unit :=
  Journal.note { level, source := .bluetooth, message := s!"BMS {name}: {text}" }

/-! ## Establishing a link -/

/-- What may fail while a link is established. -/
abbrev Establishing (σ : Type) := ExceptT LinkError (StateM σ)

/-- An operation of the radio whose failure is the link's. -/
def tried {α : Type} (act : Tried σ α) : Establishing σ α :=
  ExceptT.mk do return (← act).mapError .radio

/-- The first of some finds, of which there has to be one. -/
def first (missing : LinkError) : List Nat → Establishing σ Nat
  | [] => throw missing
  | found :: _ => return found

/-- The first sighting of a device with a name. -/
def search (name : String) : List Sighting → Establishing σ (Option Handle)
  | [] => return none
  | s :: rest => do
      let found ← tried (Radio.name s.device)
      if found = name then return some s.device else search name rest

/-- Looks for the battery with a name.  A scan that goes on in silence takes too long. -/
def discover (name : String) : Establishing σ Handle := do
  let scan ← tried (Radio.scan [uartService])
  match ← search name scan.sightings with
  | some device => return device
  | none => throw (if scan.ended then .absent else .notFound name)

/-- Finds the battery with a name and connects to it. -/
def establish (name : String) : Establishing σ Link := do
  tried Radio.ready
  let device ← discover name
  tried (Radio.connect device)
  let service ← first (.noService name) (← tried (Radio.services device uartService))
  let writeTo ← first (.noWriteCharacteristic name)
    (← tried (Radio.characteristics device service uartWrite))
  let notifyFrom ← first (.noNotifyCharacteristic name)
    (← tried (Radio.characteristics device service uartNotify))
  ExceptT.lift (say .info name "connected")
  return { device, name, writeTo, notifyFrom }

/-- Gives the connection up. -/
def stop (l : Link) : StateM σ (Except LinkError Unit) := do
  return (← Radio.disconnect l.device).mapError .radio

/-! ## Requests -/

/-- How often a connection that cannot be made again is tried once more. -/
def retries : Nat := 2

/-- Connects, with so many further attempts. -/
def connect (l : Link) : Nat → StateM σ (Except RadioFault Unit)
  | 0 => Radio.connect l.device
  | n + 1 => do
      match ← Radio.connect l.device with
      | .ok () => return .ok ()
      | .error fault =>
          say .warn l.name s!"failed to connect: {fault.text}"
          l.connect n

/-- Makes sure that there is a connection. -/
def reconnect (l : Link) : StateM σ (Except RadioFault Unit) := do
  if ← Radio.isConnected l.device then return .ok () else l.connect retries

/-- Writes a request. -/
def request (l : Link) (command : Wire.Command) : StateM σ (Except RadioFault Unit) := do
  match ← l.reconnect with
  | .ok () => Radio.write l.device l.writeTo command.toBytes
  | .error fault => return .error fault

/-! ## A link at work -/

/-- What a link reacts to. -/
inductive Stimulus
  /-- The clock of the link. -/
  | tick
  | notice (notice : Notice)
  deriving DecidableEq, Repr

/-- What has become of a link. -/
inductive Progress
  | running (link : Link)
  /-- Nothing more is written or handed over; without an error if the session had gone. -/
  | over (result : Except LinkError Unit)

/-- Subscribes and asks for the name. -/
def start (l : Link) : StateM σ Progress := do
  match ← Radio.subscribe l.device l.notifyFrom with
  | .error fault => return .over (.error (.radio fault))
  | .ok () =>
      match ← l.request .readDeviceName with
      | .error fault => return .over (.error (.radio fault))
      | .ok () => return .running l

/-- One reaction.  What has been notified goes to `deliver`, which says whether it was taken. -/
def react (deliver : Bytes → StateM σ Bool) (l : Link) : Stimulus → StateM σ Progress
  | .tick => do
      match ← l.request l.query.command with
      | .ok () => return .running { l with query := l.query.next }
      | .error fault => return .over (.error (.radio fault))
  | .notice (.data chunk) => do
      if ← deliver chunk then return .running l
      else
        say .info l.name "session closed"
        return .over (.ok ())
  | .notice (.failed fault) => do
      say .warn l.name s!"notification error: {fault.text}"
      return .over (.error (.radio fault))
  | .notice .ended => return .over (.error .endOfStream)

/-- Reacts to one thing after another until it is over. -/
def follow (deliver : Bytes → StateM σ Bool) : List Stimulus → Link → StateM σ Progress
  | [], l => return .running l
  | s :: rest, l => do
      match ← l.react deliver s with
      | .running l => follow deliver rest l
      | .over result => return .over result

/-- Goes on, at most so many reactions: what has come from the battery is dealt with first, and when
nothing has, it is time for a tick. -/
def work (deliver : Bytes → StateM σ Bool) : Nat → Link → StateM σ Progress
  | 0, l => return .running l
  | fuel + 1, l => do
      let stimulus := (← Radio.notice l.device).elim .tick .notice
      match ← l.react deliver stimulus with
      | .running l => work deliver fuel l
      | .over result => return .over result

/-- Starts a link and lets it work.  The first tick is due at once. -/
def run (deliver : Bytes → StateM σ Bool) (l : Link) (fuel : Nat) : StateM σ Progress := do
  match ← l.start with
  | .over result => return .over result
  | .running l =>
      match ← l.react deliver .tick with
      | .over result => return .over result
      | .running l => work deliver fuel l

end Link

end SensorGateway.Bluetooth
