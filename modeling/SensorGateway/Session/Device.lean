import SensorGateway.Session.Tank

/-!
# A session of either kind
-/

namespace SensorGateway

/-- The state of a session with a device. -/
inductive DeviceSession
  | battery (s : BatterySession)
  | tank (s : TankSession)

namespace DeviceSession

/-- The identifier of the device. -/
def device : DeviceSession → String
  | battery s => s.device
  | tank s => s.device

/-- What is known of the device. -/
def record : DeviceSession → Record
  | battery s => s.record
  | tank s => s.record

/-- How many bytes of a message that is not complete have come. -/
def buffered : DeviceSession → Nat
  | battery s => s.reassembler.buffer.length
  | tank _ => 0

/-- Handles what the device has sent: a chunk of a battery's answers, a whole broadcast of a tank
sensor. -/
def handle (s : DeviceSession) (chunk : Bytes) (now : Instant) : Handled DeviceSession :=
  match s with
  | battery s =>
      let h := s.handleChunk chunk now
      { session := battery h.session, events := h.events, logs := h.logs }
  | tank s =>
      let h := s.handleAdvertisement chunk now
      { session := tank h.session, events := h.events, logs := h.logs }

end DeviceSession

end SensorGateway
