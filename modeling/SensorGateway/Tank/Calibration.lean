import SensorGateway.Tank.Reading

/-!
# From time of flight to level

A sensor measures how long sound takes to the surface and back.  What distance that is depends on the
medium and its temperature: for each medium a polynomial of the second order in the temperature code
gives the millimetres per unit of the raw level.
-/

namespace SensorGateway

/-- The coefficients of a polynomial of the second order. -/
structure Calibration where
  c0 : Float
  c1 : Float
  c2 : Float
  deriving BEq, Repr

namespace Calibration

def propane : Calibration := ⟨0.573045, -0.002822, -0.00000535⟩
def air : Calibration := ⟨0.153096, 0.000327, -0.000000294⟩
def water : Calibration := ⟨0.600592, 0.003124, -0.00001368⟩
def fuel : Calibration := ⟨0.7373417462, -0.001978229885, 0.00000202162⟩

/-- The level in millimetres of a raw level at a temperature code. -/
def levelMm (c : Calibration) (rawLevel : UInt16) (temperatureCode : UInt8) : Float :=
  let t := Float.ofNat temperatureCode.toNat
  Float.ofNat rawLevel.toNat * (c.c0 + c.c1 * t + c.c2 * t * t)

end Calibration

/-- The level of a reading, which only a reliable one has. -/
def TankReading.levelMm? (r : TankReading) (c : Calibration) : Option Float :=
  if r.isReliable then some (c.levelMm r.rawLevel r.temperatureCode) else none

/-- What is in a tank. -/
inductive Medium
  | propane
  | air
  | freshWater
  | wasteWater
  | liveWell
  | blackWater
  | rawWater
  | gasoline
  | diesel
  | lng
  | oil
  | hydraulicOil
  deriving DecidableEq, Repr

namespace Medium

/-- All media. -/
def all : List Medium :=
  [propane, air, freshWater, wasteWater, liveWell, blackWater, rawWater, gasoline, diesel, lng,
    oil, hydraulicOil]

/-- The name of a medium in a configuration. -/
def name : Medium → String
  | propane => "propane"
  | air => "air"
  | freshWater => "fresh_water"
  | wasteWater => "waste_water"
  | liveWell => "live_well"
  | blackWater => "black_water"
  | rawWater => "raw_water"
  | gasoline => "gasoline"
  | diesel => "diesel"
  | lng => "lng"
  | oil => "oil"
  | hydraulicOil => "hydraulic_oil"

/-- The medium with a name. -/
def ofName? (s : String) : Option Medium := all.find? fun m => m.name == s

/-- The calibration of a medium. -/
def calibration : Medium → Calibration
  | propane => .propane
  | air => .air
  | freshWater | wasteWater | liveWell | blackWater | rawWater => .water
  | gasoline | diesel | lng | oil | hydraulicOil => .fuel

end Medium

end SensorGateway
