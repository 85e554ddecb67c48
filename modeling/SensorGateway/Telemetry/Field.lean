import SensorGateway.Json.Value
import SensorGateway.Number.Decimal

/-!
# Values of a record's fields
-/

namespace SensorGateway

/-- The value of a field. -/
inductive Field
  | number (x : Float)
  /-- An integer of 64 bits. -/
  | integer (n : Int)
  | flag (b : Bool)
  | text (s : String)
  deriving BEq, Repr

namespace Field

/-- A count of up to 64 bits as a field, the highest bit taken as a sign. -/
def count (n : Nat) : Field := integer (Int.bmod n (twoTo 64))

/-- A byte as a field. -/
def byte (b : UInt8) : Field := integer b.toNat

/-- A word as a field. -/
def word (w : UInt16) : Field := integer w.toNat

/-- The text of a text field. -/
def text? : Field → Option String
  | text s => some s
  | _ => none

/-- A field in a payload, where a number that is not finite is null. -/
def toJson : Field → Json
  | number x => Json.number x
  | integer n => Json.integer n
  | flag b => Json.bool b
  | text s => Json.string s

end Field

end SensorGateway
