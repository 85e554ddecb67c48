import SensorGateway.Telemetry.Record

/-!
# What a session tells

An event is what one decoded message says, or that a battery has become low.
-/

namespace SensorGateway

/-- What has happened at a device. -/
inductive Happening
  | hardwareInfo (info : HardwareInfo)
  | cellInfo (info : CellInfo Float)
  | deviceName (name : String)
  | tank (reading : TankReading) (levelMm : Option Float) (volume : Option (VolumeReading Float))
  /-- The state of charge has fallen to the threshold or below it. -/
  | lowBattery (soc threshold : UInt8)
  deriving BEq

/-- Something that has happened at a device. -/
structure Event where
  device : String
  happening : Happening
  deriving BEq

end SensorGateway
