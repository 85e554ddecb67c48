import SensorGateway.Bytes

/-!
# Hexadecimal text

Byte strings are shown as pairs of lower-case digits; register and checksum values in messages have
a fixed number of digits behind `0x`.  Reading accepts digits of either case.
-/

namespace SensorGateway.Hex

/-- The lower-case digit of a value below 16. -/
def digit (n : Nat) : Char :=
  Nat.digitChar (n % 16)

/-- The value of a hexadecimal digit of either case. -/
def value? (c : Char) : Option Nat :=
  if '0' ≤ c ∧ c ≤ '9' then some (c.toNat - '0'.toNat)
  else if 'a' ≤ c ∧ c ≤ 'f' then some (c.toNat - 'a'.toNat + 10)
  else if 'A' ≤ c ∧ c ≤ 'F' then some (c.toNat - 'A'.toNat + 10)
  else none

/-- The lowest `width` digits of a number, leading zeros included. -/
def fixed : Nat → Nat → List Char
  | 0, _ => []
  | width + 1, n => fixed width (n / 16) ++ [digit n]

/-- A byte as two digits. -/
def ofByte (b : UInt8) : String := .ofList (fixed 2 b.toNat)

/-- A byte as it appears in messages, `0x0a`. -/
def byte (b : UInt8) : String := "0x" ++ ofByte b

/-- A word as it appears in messages, `0x00ff`. -/
def word (w : UInt16) : String := "0x" ++ .ofList (fixed 4 w.toNat)

/-- A byte string as a row of digit pairs. -/
def encode (bytes : Bytes) : String :=
  .ofList (bytes.flatMap fun b => fixed 2 b.toNat)

/-- The byte string of a row of digit pairs; nothing for a lone digit or any other character. -/
def decodeChars? : List Char → Option Bytes
  | [] => some []
  | [_] => none
  | a :: b :: rest => do
      let high ← value? a
      let low ← value? b
      let bytes ← decodeChars? rest
      return UInt8.ofNat (high * 16 + low) :: bytes

/-- The byte string written in a text. -/
def decode? (text : String) : Option Bytes :=
  decodeChars? text.toList

/-- The number written in a text of one or more digits. -/
def number? (digits : List Char) : Option Nat :=
  if digits.isEmpty then none
  else digits.foldlM (fun n c => (value? c).map (n * 16 + ·)) 0

end SensorGateway.Hex
