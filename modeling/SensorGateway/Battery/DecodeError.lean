import SensorGateway.Bytes

/-!
# Why a battery's answer cannot be decoded
-/

namespace SensorGateway

/-- What is wrong with the payload of an answer. -/
inductive DecodeError
  /-- Fewer bytes than the fixed part needs. -/
  | tooShort (expected actual : Nat)
  /-- Half a cell at the end. -/
  | oddLength (length : Nat)
  /-- A byte outside the payload was asked for. -/
  | outOfRange (offset : Nat)
  deriving DecidableEq, Repr

instance : OutOfRange DecodeError := ⟨.outOfRange⟩

/-- The wording of a decode error. -/
def DecodeError.message : DecodeError → String
  | tooShort expected actual => s!"payload too short: need {expected} bytes, got {actual}"
  | oddLength n => s!"payload length {n} is not a whole number of cells"
  | outOfRange offset => s!"no byte at offset {offset}"

end SensorGateway
