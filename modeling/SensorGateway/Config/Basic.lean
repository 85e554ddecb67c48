import SensorGateway.Session.Device

/-!
# The configuration of a gateway

Which batteries and tank sensors there are, where their payloads go, and how volumes are computed.
-/

namespace SensorGateway

/-- What is logged. -/
structure LoggingConfig where
  /-- The least weight of a line, or a filter by part of the program. -/
  level : String := "info"
  deriving DecidableEq, Repr

/-- Where payloads go. -/
inductive SinkConfig
  /-- To the log. -/
  | log
  /-- As lines to a network address. -/
  | tcp (address : String)
  deriving DecidableEq, Repr

/-- The publishing queue. -/
structure PublisherConfig where
  /-- The most payloads that wait. -/
  queueCapacity : Nat := 64
  sink : SinkConfig := .log
  /-- Whether a failing bus is warned of once only. -/
  suppressRepeats : Bool := true
  deriving DecidableEq, Repr

/-- A battery. -/
structure BatteryConfig where
  id : String
  /-- The name under which it is found. -/
  bleName : String
  /-- The state of charge, in percent, from which on it counts as low. -/
  lowSocThreshold : Option UInt8
  topics : List String
  /-- How often both its pack and its cells are asked for. -/
  pollIntervalMs : Nat
  deriving DecidableEq, Repr

/-- A tank sensor. -/
structure TankConfig where
  id : String
  /-- The last three bytes of its address, in any spelling. -/
  macSuffix : String
  /-- Without a medium there is no level. -/
  medium : Option Medium
  /-- How far above the bottom of the tank it is mounted. -/
  heightOffsetIn : Float
  topics : List String
  deriving BEq, Repr

/-- The calibration for a tank. -/
def TankConfig.calibration (t : TankConfig) : Option Calibration :=
  t.medium.map Medium.calibration

/-- A configuration. -/
structure Config where
  logging : LoggingConfig := {}
  publisher : PublisherConfig := {}
  batteries : List BatteryConfig := []
  tanks : List TankConfig := []
  /-- Calibration points for the volume. -/
  volume : Option (List (VolumePoint Float)) := none
  deriving BEq, Repr

/-- A device by its configuration. -/
inductive DeviceConfig
  | battery (b : BatteryConfig)
  | tank (t : TankConfig)
  deriving BEq, Repr

namespace DeviceConfig

/-- The topics of a device. -/
def topics : DeviceConfig → List String
  | battery b => b.topics
  | tank t => t.topics

end DeviceConfig

namespace Config

/-- The device with an identifier; batteries are looked at first. -/
def device? (c : Config) (id : String) : Option DeviceConfig :=
  match c.batteries.find? fun b => b.id == id with
  | some b => some (.battery b)
  | none => (c.tanks.find? fun t => t.id == id).map .tank

/-- The tank whose address is the one spelled by a text. -/
def tankBySuffix? (c : Config) (suffix : String) : Option TankConfig := do
  let wanted ← MacSuffix.parse? suffix
  c.tanks.find? fun t => MacSuffix.parse? t.macSuffix == some wanted

/-- The table for volumes, if it has a point. -/
def volumeTable? (c : Config) : Option (VolumeTable Float) := do
  let table := VolumeTable.ofPoints (← c.volume)
  if table.points.isEmpty then none else some table

end Config

end SensorGateway
