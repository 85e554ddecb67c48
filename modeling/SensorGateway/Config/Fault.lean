import SensorGateway.Text.Quoted

/-!
# What makes a configuration unusable
-/

namespace SensorGateway

/-- Why a configuration that could be read is not accepted. -/
inductive ConfigFault
  /-- A publishing queue without room. -/
  | noCapacity
  /-- A device whose identifier is blank. -/
  | blankId
  /-- Two devices with one identifier. -/
  | repeatedId (id : String)
  /-- A low battery threshold above 100. -/
  | noPercentage (id : String) (threshold : UInt8)
  /-- A battery that is polled without pause. -/
  | noInterval (id : String)
  /-- A tank whose address is not three bytes. -/
  | badSuffix (id suffix : String)
  /-- Two tanks with one address. -/
  | repeatedSuffix (id suffix : String)
  deriving DecidableEq, Repr

/-- The wording of a configuration fault. -/
def ConfigFault.message : ConfigFault → String
  | noCapacity => "publisher.queue_capacity must be > 0"
  | blankId => "device id must not be empty"
  | repeatedId id => s!"duplicate device id {Text.quoted id}"
  | noPercentage id threshold => s!"{id}: low_soc_threshold {threshold} is not a percentage"
  | noInterval id => s!"{id}: poll_interval_ms must be > 0"
  | badSuffix id suffix => s!"{id}: bad mac_suffix {Text.quoted suffix}"
  | repeatedSuffix id suffix => s!"{id}: mac_suffix {suffix} is already configured"

end SensorGateway
