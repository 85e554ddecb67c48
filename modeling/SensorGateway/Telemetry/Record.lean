import SensorGateway.Battery.CellInfo
import SensorGateway.Battery.DeviceName
import SensorGateway.Instant
import SensorGateway.Tank.Calibration
import SensorGateway.Tank.Volume
import SensorGateway.Telemetry.Field
import SensorGateway.Telemetry.Series

/-!
# What is known of a device

A record holds the latest state that a device has reported.  Each decoded message is merged into it:
fields of the message replace those of the same name, the others stay.  Values of cells and probes
are in series of bounded size, so no message can make the record grow without limit.

A tank's level, and all that is computed from it, is only ever that of the last message: a message
without a usable level takes the old one away.
-/

namespace SensorGateway

/-- The reported state of a device. -/
structure Record where
  /-- Single values by name. -/
  fields : KeyMap Field
  /-- Cell voltages in V. -/
  cells : Series maxCells
  /-- Probe temperatures in °C. -/
  temperatures : Series HardwareInfo.maxProbes
  /-- 1 while the cell is balancing, else 0. -/
  balancing : Series maxCells
  /-- When the last message was merged. -/
  updatedAt : Option Instant
  deriving BEq

namespace Record

/-- The record of a device that has not reported. -/
def empty : Record where
  fields := []
  cells := .empty
  temperatures := .empty
  balancing := .empty
  updatedAt := none

/-- Sets a field. -/
def set (r : Record) (name : String) (value : Field) : Record :=
  { r with fields := r.fields.insert name value }

/-- The value of a field. -/
def get? (r : Record) (name : String) : Option Field := r.fields.find? name

/-- Takes a field away. -/
def remove (r : Record) (name : String) : Record :=
  { r with fields := r.fields.erase name }

/-- Sets several fields. -/
def setAll (r : Record) (entries : List (String × Field)) : Record :=
  entries.foldl (fun r entry => r.set entry.1 entry.2) r

/-- Takes several fields away. -/
def removeAll (r : Record) (names : List String) : Record :=
  names.foldl remove r

/-- Whether nothing has been reported.  Balancing alone does not count, since it comes with
fields. -/
def isEmpty (r : Record) : Bool :=
  r.fields.isEmpty && r.cells.isEmpty && r.temperatures.isEmpty

/-- Notes when the record was changed. -/
def touch (r : Record) (now : Instant) : Record := { r with updatedAt := some now }

/-! ## Messages of a battery -/

/-- The fields of the state of a pack. -/
def hardwareFields (info : HardwareInfo) : List (String × Field) :=
  [("total_voltage", .number info.totalVoltage),
    ("current", .number info.current),
    ("power", .number info.power),
    ("remaining_capacity", .number info.remainingCapacity),
    ("nominal_capacity", .number info.nominalCapacity),
    ("cycles", .word info.cycles),
    ("balance_status", .integer info.balanceStatus.toNat),
    ("error_bits", .word info.errors),
    ("errors", .text info.errorSummary),
    ("software_version", .number info.softwareVersion),
    ("soc", .byte info.soc),
    ("charging_enabled", .flag info.charging),
    ("discharging_enabled", .flag info.discharging),
    ("cell_string_count", .byte info.cellStringCount),
    ("temperature_sensor_count", .count info.temperatures.length)]

/-- 1 for each of a pack's cells that is balancing, 0 for the others. -/
def balancingOf (info : HardwareInfo) : List Float :=
  (List.range (min info.cellStringCount.toNat maxCells)).map fun i =>
    if info.isBalancing (i + 1) then 1 else 0

/-- Sets the day of manufacture, or takes it away. -/
def setManufactureDate (r : Record) : Option Date → Record
  | some date => r.set "manufacture_date" (.text date.text)
  | none => r.remove "manufacture_date"

/-- Merges the state of a pack. -/
def mergeHardwareInfo (r : Record) (info : HardwareInfo) (now : Instant) : Record :=
  let r := (r.setAll (hardwareFields info)).setManufactureDate info.manufactureDate
  { r with
    temperatures := r.temperatures.setAll info.temperatures
    balancing := r.balancing.setAll (balancingOf info)
    updatedAt := some now }

/-- The fields of the cell voltages. -/
def cellFields (info : CellInfo Float) : List (String × Field) :=
  [("total_cells", .count info.totalCells),
    ("cell_voltage_min", .number info.min),
    ("cell_voltage_min_index", .count info.minIndex),
    ("cell_voltage_max", .number info.max),
    ("cell_voltage_max_index", .count info.maxIndex),
    ("cell_voltage_delta", .number info.delta),
    ("cell_voltage_mean", .number info.mean)]

/-- Merges the cell voltages. -/
def mergeCellInfo (r : Record) (info : CellInfo Float) (now : Instant) : Record :=
  let r := r.setAll (cellFields info)
  { r with cells := r.cells.setAll info.voltages, updatedAt := some now }

/-- Merges the name that a battery has been given. -/
def mergeDeviceName (r : Record) (name : String) (now : Instant) : Record :=
  (r.set "device_name" (.text name)).touch now

/-! ## Readings of a tank sensor -/

/-- The fields that mean something for a reliable reading only. -/
def levelFields : List String :=
  ["level_mm", "level_in", "gallons", "level_compensated_in", "level_from_top_in", "offset_in"]

/-- The fields that every reading has. -/
def readingFields (reading : TankReading) : List (String × Field) :=
  [("model", .text reading.model.name),
    ("mac_suffix", .text reading.macSuffix.text),
    ("battery_voltage", .number reading.batteryVoltage),
    ("battery_percentage", .number reading.batteryPercentage),
    ("button_pressed", .flag reading.buttonPressed),
    ("temperature", .number reading.temperature),
    ("raw_level", .word reading.rawLevel),
    ("quality", .byte reading.quality),
    ("quality_raw", .byte reading.qualityRaw),
    ("accel_x", .byte reading.accelX),
    ("accel_y", .byte reading.accelY),
    ("level_valid", .flag reading.isReliable)]

/-- The fields of a level. -/
def levelEntries (levelMm : Float) : List (String × Field) :=
  [("level_mm", .number levelMm), ("level_in", .number (levelMm / Scalar.millimetresPerInch))]

/-- The fields of a volume. -/
def volumeEntries (volume : VolumeReading Float) : List (String × Field) :=
  [("gallons", .number volume.gallons),
    ("level_compensated_in", .number volume.levelIn),
    ("level_from_top_in", .number volume.levelFromTopIn),
    ("offset_in", .number volume.offsetIn)]

/-- Merges a reading with its level and volume, as far as they are known.  An unreliable reading
takes the level and all that comes from it away. -/
def mergeTank (r : Record) (reading : TankReading) (levelMm : Option Float)
    (volume : Option (VolumeReading Float)) (now : Instant) : Record :=
  let r := (r.setAll (readingFields reading)).removeAll levelFields
  let r :=
    if reading.isReliable then
      (r.setAll ((levelMm.map levelEntries).getD [])).setAll ((volume.map volumeEntries).getD [])
    else r
  r.touch now

/-! ## The payload -/

/-- The values of a series by number, in a payload. -/
def seriesJson {capacity : Nat} (s : Series capacity) : Json :=
  Json.ofMembers (s.numbered.map fun (i, x) => (toString i, Json.number x))

/-- A series as a member of a payload, left out when it is empty. -/
def seriesMember {capacity : Nat} (name : String) (s : Series capacity) : List (String × Json) :=
  if s.isEmpty then [] else [(name, seriesJson s)]

/-- What is published of a device: its identifier, when it last reported (the present time if it
never did), its fields and its series.  Where names collide the later of these counts. -/
def payload (r : Record) (device : String) (now : Instant) : Json :=
  Json.ofMembers <|
    [("device_id", Json.string device), ("timestamp", Json.string (r.updatedAt.getD now).text)]
      ++ r.fields.map (fun (name, value) => (name, value.toJson))
      ++ seriesMember "cell_voltages" r.cells
      ++ seriesMember "temperatures" r.temperatures
      ++ seriesMember "balancing" r.balancing

end Record

end SensorGateway
