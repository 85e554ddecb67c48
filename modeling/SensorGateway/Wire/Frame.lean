import SensorGateway.Text.Hex
import SensorGateway.Wire.Checksum

/-!
# Battery frames

The unit of the battery protocol, requests and answers alike:

    offset   meaning
    0        start marker 0xDD
    1        the register echoed by an answer; the action of a request
    2        the status of an answer, 0 being success; the register of a request
    3        the payload length n
    4        the payload, n bytes
    4 + n    checksum of the bytes at 2 to 3 + n, high byte first
    6 + n    end marker 0x77

A `Frame` is built in two ways, which accept the same frames: `Frame.wrap` puts one around a payload
and `Frame.parse` reads one that is complete, from start marker to end marker.
-/

namespace SensorGateway.Wire

/-- The first byte of every frame. -/
def startMarker : UInt8 := 0xDD

/-- The last byte of every frame. -/
def endMarker : UInt8 := 0x77

/-- Bytes around the payload: the two markers, two header bytes, the length and the checksum. -/
def overhead : Nat := 7

/-- The largest payload that the length byte can declare. -/
def maxPayload : Nat := 255

/-! ## Registers -/

/-- The registers whose answers are decoded. -/
inductive Register
  /-- Pack voltage, current, capacity, protection and temperatures. -/
  | hardwareInfo
  /-- The voltage of every cell. -/
  | cellInfo
  /-- The name that the battery has been given. -/
  | deviceName
  deriving DecidableEq, Repr

namespace Register

/-- The number of a register on the wire. -/
def code : Register → UInt8
  | hardwareInfo => 0x03
  | cellInfo => 0x04
  | deviceName => 0x05

/-- The register with the given number. -/
def ofByte? (b : UInt8) : Option Register :=
  if b = 0x03 then some hardwareInfo
  else if b = 0x04 then some cellInfo
  else if b = 0x05 then some deviceName
  else none

/-- The code of a register stands for it. -/
theorem ofByte?_code (r : Register) : ofByte? r.code = some r := by
  cases r <;> rfl

/-- A byte stands for one register at most, the one that has it for a code. -/
theorem ofByte?_eq_some_iff {b : UInt8} {r : Register} : ofByte? b = some r ↔ b = r.code := by
  constructor
  · intro h
    simp only [ofByte?] at h
    split at h
    · cases h; assumption
    · split at h
      · cases h; assumption
      · split at h
        · cases h; assumption
        · cases h
  · rintro rfl
    exact ofByte?_code r

end Register

/-! ## Frames and what can be wrong with one -/

/-- Why bytes are not a frame, or a payload does not fit one. -/
inductive FrameError
  /-- Fewer bytes than a frame without payload has. -/
  | tooShort (length : Nat)
  /-- The first byte is not the start marker or the last one not the end marker. -/
  | badMarkers
  /-- The length byte speaks of another length than the one found. -/
  | lengthMismatch (declared actual : Nat)
  /-- The stored checksum is not that of the covered bytes. -/
  | checksumMismatch (expected actual : UInt16)
  /-- A payload longer than the length byte can say. -/
  | payloadTooLong (length : Nat)
  /-- A byte outside the frame was asked for. -/
  | outOfRange (offset : Nat)
  deriving DecidableEq, Repr

instance : OutOfRange FrameError := ⟨.outOfRange⟩

/-- The wording of a frame error. -/
def FrameError.message : FrameError → String
  | tooShort n => s!"frame too short: {n} bytes"
  | badMarkers => "missing start or end marker"
  | lengthMismatch declared actual =>
      s!"declared payload length {declared} does not fit a {actual} byte frame"
  | checksumMismatch expected actual =>
      s!"checksum mismatch: expected {Hex.word expected}, got {Hex.word actual}"
  | payloadTooLong n => s!"payload of {n} bytes does not fit a frame"
  | outOfRange offset => s!"no byte at offset {offset}"

/-- A frame, taken apart. -/
structure Frame where
  /-- The byte at offset 1: the register of an answer, the action of a request. -/
  register : UInt8
  /-- The byte at offset 2: the status of an answer, the register of a request. -/
  status : UInt8
  /-- The bytes between the length and the checksum. -/
  payload : Bytes
  /-- The stored checksum. -/
  checksum : UInt16
  deriving DecidableEq, Repr

namespace Frame

/-- The bytes that the checksum covers: status, length and payload. -/
def covered (status : UInt8) (payload : Bytes) : Bytes :=
  status :: UInt8.ofNat payload.length :: payload

/-- The frame around a payload, which may have up to 255 bytes. -/
def wrap (register status : UInt8) (payload : Bytes) : Except FrameError Frame :=
  if payload.length ≤ maxPayload then
    .ok { register, status, payload, checksum := Checksum.compute (covered status payload) }
  else
    .error (.payloadTooLong payload.length)

/-- The frame as it is sent. -/
def toBytes (f : Frame) : Bytes :=
  [startMarker, f.register, f.status, UInt8.ofNat f.payload.length]
    ++ f.payload ++ Word.toBytes f.checksum ++ [endMarker]

/-- Reads one complete frame.  Of several faults the first in the order length, markers, declared
length, checksum is reported. -/
def parse (bytes : Bytes) : Except FrameError Frame :=
  if bytes.length < overhead then
    .error (.tooShort bytes.length)
  else do
    let first ← bytes.byteAt 0
    let last ← bytes.byteAt (bytes.length - 1)
    if first ≠ startMarker ∨ last ≠ endMarker then
      .error .badMarkers
    else
      let length ← bytes.byteAt 3
      let declared := length.toNat
      if bytes.length ≠ declared + overhead then
        .error (.lengthMismatch declared bytes.length)
      else
        let stored ← bytes.wordAt (declared + 4)
        let expected := Checksum.compute (← bytes.slice 2 (declared + 4))
        if stored ≠ expected then
          .error (.checksumMismatch expected stored)
        else
          let register ← bytes.byteAt 1
          let status ← bytes.byteAt 2
          let payload ← bytes.slice 4 (declared + 4)
          .ok { register, status, payload, checksum := stored }

/-- The decoder that an answer is meant for. -/
def kind (f : Frame) : Option Register := Register.ofByte? f.register

/-- Whether the battery reported success. -/
def isOk (f : Frame) : Bool := f.status == 0

end Frame

end SensorGateway.Wire
