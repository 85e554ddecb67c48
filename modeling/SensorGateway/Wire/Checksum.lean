import SensorGateway.Bytes

/-!
# The complement checksum of battery frames

The sum starts at zero and every covered byte is subtracted from it, modulo `2 ^ 16`.  On the wire
the result stands high byte first, directly before the end marker.
-/

namespace SensorGateway.Wire.Checksum

/-- Zero less every byte, modulo `2 ^ 16`. -/
def compute (bytes : Bytes) : UInt16 :=
  bytes.foldl (fun sum b => sum - b.toUInt16) 0

/-- The checksum as it is sent. -/
def toWire (bytes : Bytes) : Bytes :=
  Word.toBytes (compute bytes)

/-- Whether two received checksum bytes are the ones of these bytes. -/
def verify (bytes : Bytes) (high low : UInt8) : Bool :=
  compute bytes == Word.ofBytes high low

end SensorGateway.Wire.Checksum
