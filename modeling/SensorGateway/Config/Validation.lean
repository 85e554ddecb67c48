import SensorGateway.Config.Basic
import SensorGateway.Error

/-!
# Which configurations are accepted

The checks go through the configuration in order: the queue, the identifiers of all devices, the
batteries, the addresses of the tanks.  The first fault is reported.
-/

namespace SensorGateway.Config

/-- Checks identifiers, given those that have been seen. -/
def checkIds (seen : List String) : List String → Except ConfigFault Unit
  | [] => .ok ()
  | id :: ids =>
      if (Text.trim id.toList).isEmpty then .error .blankId
      else if seen.contains id then .error (.repeatedId id)
      else checkIds (id :: seen) ids

/-- Checks a battery. -/
def checkBattery (b : BatteryConfig) : Except ConfigFault Unit :=
  match b.lowSocThreshold with
  | some threshold =>
      if 100 < threshold then .error (.noPercentage b.id threshold)
      else if b.pollIntervalMs = 0 then .error (.noInterval b.id)
      else .ok ()
  | none => if b.pollIntervalMs = 0 then .error (.noInterval b.id) else .ok ()

/-- Checks batteries. -/
def checkBatteries : List BatteryConfig → Except ConfigFault Unit
  | [] => .ok ()
  | b :: bs =>
      match checkBattery b with
      | .ok () => checkBatteries bs
      | .error e => .error e

/-- Checks the addresses of tanks, given those that have been seen. -/
def checkTanks (seen : List MacSuffix) : List TankConfig → Except ConfigFault Unit
  | [] => .ok ()
  | t :: ts =>
      match MacSuffix.parse? t.macSuffix with
      | none => .error (.badSuffix t.id t.macSuffix)
      | some suffix =>
          if seen.contains suffix then .error (.repeatedSuffix t.id t.macSuffix)
          else checkTanks (suffix :: seen) ts

/-- All identifiers, those of batteries first. -/
def ids (c : Config) : List String := c.batteries.map (·.id) ++ c.tanks.map (·.id)

/-- Checks a configuration. -/
def validate (c : Config) : Except ConfigFault Unit := do
  if c.publisher.queueCapacity = 0 then .error .noCapacity
  else
    checkIds [] c.ids
    checkBatteries c.batteries
    checkTanks [] c.tanks

end SensorGateway.Config
