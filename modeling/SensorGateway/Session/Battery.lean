import SensorGateway.Log.Entry
import SensorGateway.Session.Alarm
import SensorGateway.Session.Event
import SensorGateway.Wire.Reassembler

/-!
# A session with a battery

A session owns what belongs to one connected battery: the reassembler, the record and the alarm.  A
chunk goes through the reassembler, and each frame that comes out is decoded and merged.  A frame
with an error status, with a register that is not decoded or with an unusable payload leaves no
trace but, for some, a line in the log.
-/

namespace SensorGateway

/-- What a session has to tell after it has been given something. -/
structure Handled (σ : Type) where
  session : σ
  events : List Event
  logs : List Log.Entry

/-- The state of a session with a battery. -/
structure BatterySession where
  device : String
  reassembler : Wire.Reassembler
  record : Record
  alarm : Alarm

namespace BatterySession

/-- A session that has been given nothing. -/
def new (device : String) (threshold : Option UInt8) : BatterySession where
  device
  reassembler := {}
  record := .empty
  alarm := .new threshold

/-- A warning about a battery. -/
def warning (s : BatterySession) (text : String) : Log.Entry where
  level := .warn
  source := .session
  message := s!"BMS {s.device}: {text}"

/-- Something that has happened at the battery. -/
def event (s : BatterySession) (happening : Happening) : Event where
  device := s.device
  happening

/-- Nothing has changed, and nothing is told but the given lines. -/
def unchanged (s : BatterySession) (logs : List Log.Entry) : Handled BatterySession where
  session := s
  events := []
  logs

/-- Takes in the state of the pack. -/
def takeHardwareInfo (s : BatterySession) (info : HardwareInfo) (now : Instant) :
    Handled BatterySession :=
  let (raised, alarm) := s.alarm.update info.soc
  let told := s.event (.hardwareInfo info)
  let s := { s with record := s.record.mergeHardwareInfo info now, alarm }
  match raised with
  | none => { session := s, events := [told], logs := [] }
  | some threshold =>
      { session := s
        events := [told, s.event (.lowBattery info.soc threshold)]
        logs := [s.warning s!"state of charge {info.soc}% at or below {threshold}%"] }

/-- Takes in the cell voltages. -/
def takeCellInfo (s : BatterySession) (info : CellInfo Float) (now : Instant) :
    Handled BatterySession where
  session := { s with record := s.record.mergeCellInfo info now }
  events := [s.event (.cellInfo info)]
  logs := []

/-- Takes in the name. -/
def takeDeviceName (s : BatterySession) (name : String) (now : Instant) :
    Handled BatterySession where
  session := { s with record := s.record.mergeDeviceName name now }
  events := [s.event (.deviceName name)]
  logs := []

/-- Handles one frame. -/
def handleFrame (s : BatterySession) (frame : Wire.Frame) (now : Instant) :
    Handled BatterySession :=
  if frame.isOk then
    match frame.kind with
    | some .hardwareInfo =>
        match HardwareInfo.decode frame.payload with
        | .ok info => s.takeHardwareInfo info now
        | .error e => s.unchanged [s.warning s!"hardware info rejected: {e.message}"]
    | some .cellInfo =>
        match CellInfo.decode frame.payload with
        | .ok info => s.takeCellInfo info now
        | .error e => s.unchanged [s.warning s!"cell info rejected: {e.message}"]
    | some .deviceName => s.takeDeviceName (DeviceName.decode frame.payload) now
    | none => s.unchanged []
  else
    s.unchanged [s.warning
      s!"register {Hex.byte frame.register} answered with status {Hex.byte frame.status}"]

/-- Handles frames one after another. -/
def handleFrames (s : BatterySession) (now : Instant) : List Wire.Frame → Handled BatterySession
  | [] => s.unchanged []
  | frame :: frames =>
      let first := s.handleFrame frame now
      let later := first.session.handleFrames now frames
      { session := later.session
        events := first.events ++ later.events
        logs := first.logs ++ later.logs }

/-- Handles one chunk. -/
def handleChunk (s : BatterySession) (chunk : Bytes) (now : Instant) : Handled BatterySession :=
  let (frames, reassembler) := s.reassembler.feed chunk
  { s with reassembler }.handleFrames now frames

end BatterySession

end SensorGateway
