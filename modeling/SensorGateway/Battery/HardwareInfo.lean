import SensorGateway.Battery.DecodeError
import SensorGateway.Calendar

/-!
# The state of the pack

The answer to the hardware request has a fixed part of 23 bytes and behind it two bytes for each
temperature probe.  The fixed part says how many probes there are; a count that is larger than what
the pack can have, or than what the payload holds, is cut down to it.

    offset   meaning
    0        pack voltage in 10 mV
    2        current in 10 mA, two's complement, negative while discharging
    4, 6     remaining and nominal capacity in 10 mAh
    8        charge cycles
    10       manufacture date, bits yyyyyyym mmmddddd, years from 2000
    12, 14   balancing cells 1 to 16 and 17 to 32, lowest bit first
    16       protection faults, a bit each
    18       software version, a digit in each half
    19       state of charge in percent
    20       switches: bit 0 charging, bit 1 discharging
    21       cells in series
    22       number of probes
    23       probes in 0.1 K

All words have their high byte first.
-/

namespace SensorGateway

/-- The largest number of cells that a pack has. -/
def maxCells : Nat := 32

/-- The state of the pack. -/
structure HardwareInfo where
  /-- Pack voltage in V. -/
  totalVoltage : Float
  /-- Pack current in A, negative while discharging. -/
  current : Float
  /-- Voltage times current, in W. -/
  power : Float
  /-- Remaining capacity in Ah. -/
  remainingCapacity : Float
  /-- Nominal capacity in Ah. -/
  nominalCapacity : Float
  /-- Charge cycles so far. -/
  cycles : UInt16
  /-- The day of manufacture, if the packed date is one. -/
  manufactureDate : Option Date
  /-- Bit `n` is set while cell `n + 1` is balancing. -/
  balanceStatus : UInt32
  /-- The protection faults that are raised, a bit each. -/
  errors : UInt16
  /-- Version of the battery's software. -/
  softwareVersion : Float
  /-- State of charge in percent. -/
  soc : UInt8
  /-- Whether charging is switched on. -/
  charging : Bool
  /-- Whether discharging is switched on. -/
  discharging : Bool
  /-- The number of cells in series. -/
  cellStringCount : UInt8
  /-- Probe temperatures in °C. -/
  temperatures : List Float
  deriving BEq, Repr

namespace HardwareInfo

/-- The length of the payload before the probes. -/
def fixedLength : Nat := 23

/-- Probes beyond this are ignored. -/
def maxProbes : Nat := 6

/-- The protection faults, from the lowest bit on. -/
def faultNames : List String :=
  ["Cell overvoltage", "Cell undervoltage", "Pack overvoltage", "Pack undervoltage",
    "Charge overtemperature", "Charge undertemperature", "Discharge overtemperature",
    "Discharge undertemperature", "Charge overcurrent", "Discharge overcurrent", "Short circuit",
    "Front-end IC error", "MOSFET software lock", "Charge timeout", "Reserved 14", "Reserved 15"]

/-- A date packed into a word. -/
def unpackDate (w : UInt16) : Option Date :=
  Date.of? (2000 + w.toNat / 512) (w.toNat / 32 % 16) (w.toNat % 32)

/-- A number of hundredths. -/
def hundredths (n : Int) : Float := Float.ofInt n / 100

/-- A probe's reading in °C. -/
def probe (w : UInt16) : Float := Float.ofInt (w.toNat - 2731) / 10

/-- The number of probes that are read from a payload of the given length which declares so many. -/
def probeCount (declared length : Nat) : Nat :=
  min (min declared maxProbes) ((length - fixedLength) / 2)

/-- Decodes the payload of an answer to the hardware request. -/
def decode (payload : Bytes) : Except DecodeError HardwareInfo :=
  if payload.length < fixedLength then
    .error (.tooShort fixedLength payload.length)
  else do
    let voltage ← payload.wordAt 0
    let current ← payload.wordAt 2
    let remaining ← payload.wordAt 4
    let nominal ← payload.wordAt 6
    let cycles ← payload.wordAt 8
    let date ← payload.wordAt 10
    let firstCells ← payload.wordAt 12
    let lastCells ← payload.wordAt 14
    let errors ← payload.wordAt 16
    let version ← payload.byteAt 18
    let soc ← payload.byteAt 19
    let switches ← payload.byteAt 20
    let cellStringCount ← payload.byteAt 21
    let declared ← payload.byteAt 22
    let probes ← (List.range (probeCount declared.toNat payload.length)).mapM fun i =>
      payload.wordAt (fixedLength + 2 * i)
    let totalVoltage := hundredths voltage.toNat
    let amperes := hundredths (Word.signed current)
    return {
      totalVoltage
      current := amperes
      power := totalVoltage * amperes
      remainingCapacity := hundredths remaining.toNat
      nominalCapacity := hundredths nominal.toNat
      cycles
      manufactureDate := unpackDate date
      balanceStatus := UInt32.ofNat (firstCells.toNat + lastCells.toNat * 65536)
      errors
      softwareVersion :=
        Float.ofNat (version.toNat / 16) + Float.ofNat (version.toNat % 16) * 0.1
      soc
      charging := switches.toNat.testBit 0
      discharging := switches.toNat.testBit 1
      cellStringCount
      temperatures := probes.map probe }

/-- The names of the faults that are raised. -/
def errorNames (info : HardwareInfo) : List String :=
  (faultNames.zipIdx.filter fun (_, bit) => info.errors.toNat.testBit bit).map Prod.fst

/-- The raised faults in one line. -/
def errorSummary (info : HardwareInfo) : String :=
  if info.errors = 0 then "None" else ";".intercalate info.errorNames

/-- Whether a cell, counted from 1, is balancing. -/
def isBalancing (info : HardwareInfo) (cell : Nat) : Bool :=
  1 ≤ cell && cell ≤ maxCells && info.balanceStatus.toNat.testBit (cell - 1)

end HardwareInfo

end SensorGateway
