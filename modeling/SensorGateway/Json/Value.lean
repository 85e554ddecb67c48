import SensorGateway.KeyMap

/-!
# JSON values

Integers and doubles are kept apart, since they are written differently; members of an object are in
the order of their keys.
-/

namespace SensorGateway

/-- A JSON value. -/
inductive Json
  | null
  | bool (b : Bool)
  /-- A number without fraction and exponent. -/
  | integer (n : Int)
  /-- Any other number. -/
  | float (x : Float)
  | string (s : String)
  | array (items : List Json)
  /-- Members by key. -/
  | object (members : List (String × Json))
  deriving Inhabited, BEq

namespace Json

/-- The object with the given members; of two with one key the later counts. -/
def ofMembers (members : List (String × Json)) : Json :=
  object (KeyMap.ofList members)

/-- A number, or null for one that JSON has no form for. -/
def number (x : Float) : Json :=
  if x.isFinite then float x else null

/-- A member of an object. -/
def member? (key : String) : Json → Option Json
  | object members => KeyMap.find? members key
  | _ => none

end Json

end SensorGateway
