import SensorGateway.Number.Decimal

/-!
# The numbers that measurements are computed in

Cell statistics and tank volumes are computed over any type with the operations below.  Two types
have them.  In double precision they are what the gateway publishes, the last bit included, so each
formula is written in the order in which it is to be evaluated.  Over the rationals the same
formulas are exact, and that is the instance in which statements about them (bounds, monotonicity)
are made.
-/

namespace SensorGateway

/-- Numbers with the operations of the measuring formulas. -/
class Scalar (α : Type) extends Add α, Sub α, Mul α, Div α, LT α, LE α where
  /-- An integer as a number. -/
  ofInt : Int → α
  /-- The nearest integer, a half going away from zero. -/
  roundAway : α → α
  /-- Whether the number is neither infinite nor undefined. -/
  isFinite : α → Bool
  /-- A total order that agrees with `≤` and puts the negative zero before the positive one. -/
  atMost : α → α → Bool
  decidableLT : DecidableLT α
  decidableLE : DecidableLE α

namespace Scalar

variable {α : Type} [Scalar α]

instance : DecidableLT α := Scalar.decidableLT

instance : DecidableLE α := Scalar.decidableLE

/-- A natural number as a number. -/
def ofNat (n : Nat) : α := ofInt n

/-- The number itself if it is above zero, else zero; zero also for an undefined number. -/
def positivePart (x : α) : α :=
  if ofInt 0 < x then x else ofInt 0

/-- A number rounded to a number of decimal places, a half going away from zero. -/
def roundTo (x : α) (places : Nat) : α :=
  let scale : α := ofNat (tenTo places)
  roundAway (x * scale) / scale

/-- The length of an inch in millimetres. -/
def millimetresPerInch : α := ofInt 254 / ofInt 10

end Scalar

/-- The place of a double in the total order of doubles: the bits of the magnitude, counted
downwards from `-1` for a set sign. -/
def Scalar.rank (x : Float) : Int :=
  let bits : Nat := x.toBits.toNat
  if bits < twoTo 63 then Int.ofNat bits else Int.ofNat (twoTo 63) - 1 - Int.ofNat bits

instance : Scalar Float where
  ofInt := Float.ofInt
  roundAway := Float.round
  isFinite := Float.isFinite
  atMost x y := Scalar.rank x ≤ Scalar.rank y
  decidableLT := inferInstance
  decidableLE := inferInstance

instance : Scalar Rat where
  ofInt n := n
  roundAway q := if q < 0 then -((-q + 1 / 2).floor : Rat) else ((q + 1 / 2).floor : Rat)
  isFinite _ := true
  atMost x y := x ≤ y
  decidableLT := inferInstance
  decidableLE := inferInstance

end SensorGateway
