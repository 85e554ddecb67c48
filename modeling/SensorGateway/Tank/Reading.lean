import SensorGateway.Tank.MacSuffix
import SensorGateway.Tank.SensorModel

/-!
# Broadcasts of tank sensors

A tank sensor accepts no connection.  Each reading is one broadcast of ten bytes, without framing or
checksum:

    offset   bits    meaning
    0                model
    1                battery voltage in V / 32
    2        7       button pressed
    2        0-6     temperature code, °C + 40
    3, 4     0-13    raw level, low byte first
    4        6-7     quality of the reading, 0 to 3
    5, 6, 7          last three bytes of the sensor's address
    8, 9             tilt
-/

namespace SensorGateway

/-- The company number under which the sensors broadcast. -/
def sensorCompany : UInt16 := 0x0059

/-- Why a broadcast is no reading. -/
inductive AdvertisementError
  | empty
  /-- A model that is not known. -/
  | unsupportedModel (code : UInt8)
  /-- Another length than the model has. -/
  | lengthMismatch (model : SensorModel) (expected actual : Nat)
  /-- A byte outside the broadcast was asked for. -/
  | outOfRange (offset : Nat)
  deriving DecidableEq, Repr

instance : OutOfRange AdvertisementError := ⟨.outOfRange⟩

/-- The wording of an advertisement error. -/
def AdvertisementError.message : AdvertisementError → String
  | empty => "empty advertisement"
  | unsupportedModel code => s!"unsupported sensor model {Hex.byte code}"
  | lengthMismatch model expected actual =>
      s!"{model.identifier} advertises {expected} bytes, got {actual}"
  | outOfRange offset => s!"no byte at offset {offset}"

/-- One decoded broadcast. -/
structure TankReading where
  model : SensorModel
  /-- In V. -/
  batteryVoltage : Float
  /-- From 0 to 100. -/
  batteryPercentage : Float
  buttonPressed : Bool
  /-- The temperature as the calibration takes it. -/
  temperatureCode : UInt8
  /-- In °C. -/
  temperature : Float
  /-- The time of flight as the calibration takes it. -/
  rawLevel : UInt16
  /-- From 0 to 3. -/
  qualityRaw : UInt8
  /-- The quality in percent. -/
  quality : UInt8
  macSuffix : MacSuffix
  accelX : UInt8
  accelY : UInt8
  deriving BEq, Repr

namespace TankReading

/-- A battery's charge in percent, from its voltage: 2.2 V is empty and 0.65 V more is full. -/
def charge (voltage : Float) : Float :=
  let percent := (voltage - 2.2) / 0.65 * 100
  if percent < 0 then 0 else if 100 < percent then 100 else percent

/-- A quality from 0 to 3 in whole percent of 3. -/
def percentOfThree (quality : Nat) : Nat := (200 * quality + 3) / 6

/-- Decodes a broadcast. -/
def decode (payload : Bytes) : Except AdvertisementError TankReading :=
  match payload with
  | [] => .error .empty
  | code :: _ =>
      match SensorModel.ofByte? code with
      | none => .error (.unsupportedModel code)
      | some model =>
          if payload.length ≠ model.payloadLength then
            .error (.lengthMismatch model model.payloadLength payload.length)
          else do
            let battery ← payload.byteAt 1
            let temperature ← payload.byteAt 2
            let levelLow ← payload.byteAt 3
            let levelHigh ← payload.byteAt 4
            let first ← payload.byteAt 5
            let second ← payload.byteAt 6
            let third ← payload.byteAt 7
            let accelX ← payload.byteAt 8
            let accelY ← payload.byteAt 9
            let batteryVoltage := Float.ofNat battery.toNat / 32
            let code := temperature.toNat % 128
            let quality := levelHigh.toNat / 64
            return {
              model
              batteryVoltage
              batteryPercentage := charge batteryVoltage
              buttonPressed := temperature.toNat.testBit 7
              temperatureCode := UInt8.ofNat code
              temperature := Float.ofInt (code - 40)
              rawLevel := UInt16.ofNat (levelHigh.toNat % 64 * 256 + levelLow.toNat)
              qualityRaw := UInt8.ofNat quality
              quality := UInt8.ofNat (percentOfThree quality)
              macSuffix := { first, second, third }
              accelX
              accelY }

/-- A reading without quality carries no usable level. -/
def isReliable (r : TankReading) : Bool := 1 ≤ r.qualityRaw

/-- The address in a broadcast, which need not be decodable otherwise. -/
def peekMacSuffix? (payload : Bytes) : Option MacSuffix :=
  match payload.drop 5 with
  | first :: second :: third :: _ => some { first, second, third }
  | _ => none

end TankReading

end SensorGateway
