import SensorGateway.Text.Hex
import SensorGateway.Text.Parts

/-!
# The half of an address that names a tank sensor

A sensor broadcasts the last three bytes of its address, which also stand on its label.  A
configuration may write them in either case, with colons or hyphens and with blanks around them; the
written form is upper case with colons.  Each byte is read as a number of two characters, and a
number may have a plus sign in front, so `+a` is another spelling of `0a`.
-/

namespace SensorGateway

/-- The last three bytes of an address. -/
structure MacSuffix where
  first : UInt8
  second : UInt8
  third : UInt8
  deriving DecidableEq, Repr

namespace MacSuffix

/-- Two upper-case digits. -/
def octet (b : UInt8) : List Char := (Hex.fixed 2 b.toNat).map Char.toUpper

/-- The written form, as on the label. -/
def text (m : MacSuffix) : String :=
  .ofList (octet m.first ++ ':' :: octet m.second ++ ':' :: octet m.third)

/-- Whether a character may stand between two bytes. -/
def isSeparator (c : Char) : Bool := c == ':' || c == '-'

/-- A byte of two characters: two digits, or a plus sign and a digit. -/
def byte? : List Char → Option UInt8
  | [a, b] => do
      let high ← if a = '+' then some 0 else Hex.value? a
      let low ← Hex.value? b
      return UInt8.ofNat (high * 16 + low)
  | _ => none

/-- Reads any spelling. -/
def parse? (s : String) : Option MacSuffix :=
  match Text.pieces isSeparator (Text.trim s.toList) with
  | [a, b, c] => do
      let first ← byte? a
      let second ← byte? b
      let third ← byte? c
      return { first, second, third }
  | _ => none

/-- The written form of any spelling. -/
def normalize? (s : String) : Option String := (parse? s).map text

end MacSuffix

end SensorGateway
