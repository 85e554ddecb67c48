import SensorGateway.Number.Decimal

/-!
# How a double is written in JSON

The digits are those of the shortest decimal.  `Layout` holds the decisions of the format: between
which exponents the point is written in its place, and how an exponent looks beyond them.
-/

namespace SensorGateway

/-- The decisions of a number format. -/
structure Layout where
  /-- The least exponent of the first digit that is written without an exponent. -/
  least : Int
  /-- The greatest exponent of the first digit that is written without an exponent. -/
  greatest : Int
  /-- What stands before a positive exponent. -/
  positiveMark : String
  /-- What stands before the digits of a negative exponent. -/
  negativeMark : String

namespace Layout

/-- Numbers in JSON text: in place from `0.00001` to below `10 ^ 16`, with at least one digit behind
the point, else with a signed exponent. -/
def json : Layout where
  least := -5
  greatest := 15
  positiveMark := "e+"
  negativeMark := "e-"

/-- Digits as text. -/
def digitText (digits : List Nat) : String :=
  .ofList (digits.map Nat.digitChar)

/-- A positive decimal in a layout. -/
def decimal (layout : Layout) (d : Decimal) : String :=
  if layout.least ≤ d.exponent ∧ d.exponent ≤ layout.greatest then
    if d.exponent < 0 then
      "0." ++ digitText (List.replicate ((-d.exponent).toNat - 1) 0 ++ d.digits)
    else
      let whole := d.exponent.toNat + 1
      let padded := d.digits ++ List.replicate (whole - d.digits.length) 0
      let behind := padded.drop whole
      digitText (padded.take whole) ++ "." ++ (if behind.isEmpty then "0" else digitText behind)
  else
    let behind := d.digits.drop 1
    let mantissa := digitText (d.digits.take 1) ++ (if behind.isEmpty then "" else "." ++ digitText behind)
    let mark := if d.exponent < 0 then layout.negativeMark else layout.positiveMark
    mantissa ++ mark ++ toString d.exponent.natAbs

/-- A finite double in a layout, the sign of zero included; nothing for the others. -/
def float? (layout : Layout) (x : Float) : Option String :=
  if x.isFinite then
    let bits := x.toBits
    let sign := if bits.toNat < twoTo 63 then "" else "-"
    let magnitude := Binary.ofBits bits
    some <| sign ++
      if magnitude.factor = 0 then "0.0" else layout.decimal (Shortest.ofBinary magnitude)
  else none

end Layout

end SensorGateway
