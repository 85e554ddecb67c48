import SensorGateway.Wire.Frame

/-!
# Requests to a battery

A request names an action and a register and carries, for a write, a 16-bit value.  Its bytes are
assembled directly; they are those of the frame with the action in the place of an answer's register
and the register in the place of its status.
-/

namespace SensorGateway.Wire

/-- What a battery can be asked. -/
inductive Command
  | readHardwareInfo
  | readCellInfo
  | readDeviceName
  /-- Write a value to a register. -/
  | write (register : UInt8) (value : UInt16)
  /-- Unlock the parameter registers, which most writes need. -/
  | enterFactoryMode
  | exitFactoryMode
  /-- Switch charging and discharging on or off. -/
  | setMosfet (charge discharge : Bool)
  deriving DecidableEq, Repr

namespace Command

/-- The action byte of a read. -/
def readAction : UInt8 := 0xA5

/-- The action byte of a write. -/
def writeAction : UInt8 := 0x5A

/-- The register that unlocks the parameters when it is written. -/
def factoryEnter : UInt8 := 0x00

/-- The register that locks the parameters when it is written. -/
def factoryExit : UInt8 := 0x01

/-- The value that unlocks. -/
def factoryUnlock : UInt16 := 0x5678

/-- The register of the two switches. -/
def mosfetControl : UInt8 := 0xE1

/-- The value for the switches, in which a set bit switches off: bit 0 charging, bit 1
discharging. -/
def mosfetValue (charge discharge : Bool) : UInt16 :=
  (if charge then 0 else 1) ||| (if discharge then 0 else 2)

/-- The bytes of a read request. -/
def readBytes (register : UInt8) : Bytes :=
  [startMarker, readAction, register, 0] ++ Checksum.toWire [register, 0] ++ [endMarker]

/-- The bytes of a write request. -/
def writeBytes (register : UInt8) (value : UInt16) : Bytes :=
  [startMarker, writeAction, register, 2] ++ Word.toBytes value
    ++ Checksum.toWire (register :: 2 :: Word.toBytes value) ++ [endMarker]

/-- The request as it is sent. -/
def toBytes : Command → Bytes
  | readHardwareInfo => readBytes Register.hardwareInfo.code
  | readCellInfo => readBytes Register.cellInfo.code
  | readDeviceName => readBytes Register.deviceName.code
  | write register value => writeBytes register value
  | enterFactoryMode => writeBytes factoryEnter factoryUnlock
  | exitFactoryMode => writeBytes factoryExit 0
  | setMosfet charge discharge => writeBytes mosfetControl (mosfetValue charge discharge)

end Command

end SensorGateway.Wire
