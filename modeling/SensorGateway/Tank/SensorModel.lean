import SensorGateway.Bytes

/-!
# Models of tank sensors
-/

namespace SensorGateway

/-- The sensors whose broadcasts are understood. -/
inductive SensorModel
  | proCheck
  | pro200
  | proH2O
  | bottleCheck
  | td40
  | td200
  | proUniversal
  deriving DecidableEq, Repr

namespace SensorModel

/-- The number of a model in a broadcast. -/
def code : SensorModel → UInt8
  | proCheck => 0x03
  | pro200 => 0x04
  | proH2O => 0x05
  | bottleCheck => 0x06
  | td40 => 0x08
  | td200 => 0x09
  | proUniversal => 0x0A

/-- All models. -/
def all : List SensorModel :=
  [proCheck, pro200, proH2O, bottleCheck, td40, td200, proUniversal]

/-- The model with the given number. -/
def ofByte? (b : UInt8) : Option SensorModel := all.find? fun m => m.code == b

/-- The length of a model's broadcast, the same for all. -/
def payloadLength (_ : SensorModel) : Nat := 10

/-- The name on the box. -/
def name : SensorModel → String
  | proCheck => "Pro Check"
  | pro200 => "Pro 200"
  | proH2O => "Pro H2O"
  | bottleCheck => "BottleCheck"
  | td40 => "TD40"
  | td200 => "TD200"
  | proUniversal => "Pro Universal"

/-- The name in one word, as messages have it. -/
def identifier : SensorModel → String
  | proCheck => "ProCheck"
  | pro200 => "Pro200"
  | proH2O => "ProH2O"
  | bottleCheck => "BottleCheck"
  | td40 => "Td40"
  | td200 => "Td200"
  | proUniversal => "ProUniversal"

end SensorModel

end SensorGateway
