/-!
# Doubles and decimals

A positive finite double is a natural number times a power of two, and a decimal one times a power of
ten.

A decimal is read into the nearest double; one beyond the largest double becomes infinite, one too
close to zero becomes zero.  Exponents that are out of all proportion are cut first, so that no power
of ten is computed that cannot matter.

The other way round, the reals that are nearer to a double than to its neighbours form an interval
around it; its ends belong to it when the factor is even.  `Shortest.ofBinary` finds the fewest
decimal digits that name a point of this interval, and of the points with that many digits the one
nearest to the double.
-/

namespace SensorGateway

/-- A power of two. -/
def twoTo (n : Nat) : Nat := Nat.pow 2 n

/-- A power of ten. -/
def tenTo (n : Nat) : Nat := Nat.pow 10 n

/-! ## The nearest double -/

/-- The double nearest to `significand * 10 ^ exponent`. -/
def nearestFloat (significand : Nat) (exponent : Int) : Float :=
  let width := (Nat.toDigits 10 significand).length
  if significand = 0 then 0
  else if exponent + width > 400 then 1 / 0
  else if exponent + width < -400 then 0
  else if exponent < 0 then Float.ofScientific significand true exponent.natAbs
  else Float.ofScientific significand false exponent.natAbs

/-! ## The shortest decimal -/

/-- The positive number `factor * 2 ^ exponent`. -/
structure Binary where
  /-- The factor. -/
  factor : Nat
  /-- The exponent of two. -/
  exponent : Int
  deriving DecidableEq, Repr

namespace Binary

/-- The magnitude of a finite double, from its bits: 52 bits of fraction below 11 bits of biased
exponent. -/
def ofBits (bits : UInt64) : Binary :=
  let fraction : Nat := bits.toNat % twoTo 52
  let biased : Nat := bits.toNat / twoTo 52 % twoTo 11
  if biased = 0 then { factor := fraction, exponent := -1074 }
  else { factor := fraction + twoTo 52, exponent := Int.ofNat biased - 1075 }

/-- Whether the next smaller double is only half as far away as the next larger one. -/
def isLowest (b : Binary) : Bool :=
  b.factor == twoTo 52 && b.exponent > -1074

/-- Numerator and denominator of a multiple of `2 ^ exponent`. -/
def fraction (factor : Nat) (exponent : Int) : Nat × Nat :=
  (factor * twoTo exponent.toNat, twoTo (-exponent).toNat)

end Binary

/-- A positive decimal: digits from the first that is not zero to the last that is not zero, and the
exponent of ten of the first. -/
structure Decimal where
  /-- The digits, each below ten. -/
  digits : List Nat
  /-- The power of ten that the first digit counts. -/
  exponent : Int
  deriving DecidableEq, Repr

namespace Shortest

/-- The number of decimal digits of a number, none for zero. -/
def width (n : Nat) : Nat :=
  if n = 0 then 0 else (Nat.toDigits 10 n).length

/-- The exponent of ten of the first digit of a positive fraction. -/
def leading (num den : Nat) : Int :=
  if den ≤ num then (width (num / den) : Int) - 1
  else -(width ((den + num - 1) / num - 1) : Int)

/-- The double and its interval, all in one unit: the four quarters of its last place. -/
structure Interval where
  /-- The double. -/
  value : Nat
  /-- The lower end. -/
  low : Nat
  /-- The upper end. -/
  high : Nat
  /-- The common denominator. -/
  den : Nat
  /-- Whether the ends belong to the interval. -/
  closed : Bool

/-- The reals nearest to a double. -/
def Interval.of (b : Binary) : Interval :=
  let point := fun factor => (Binary.fraction factor (b.exponent - 2)).1
  { value := point (4 * b.factor)
    low := point (4 * b.factor - (if b.isLowest then 1 else 2))
    high := point (4 * b.factor + 2)
    den := (Binary.fraction 1 (b.exponent - 2)).2
    closed := b.factor % 2 == 0 }

/-- Whether `n * 10 ^ unit` lies in the interval. -/
def Interval.contains (i : Interval) (n : Nat) (unit : Int) : Bool :=
  let scaled := n * tenTo unit.toNat * i.den
  let down := tenTo (-unit).toNat
  if i.closed then i.low * down ≤ scaled && scaled ≤ i.high * down
  else i.low * down < scaled && scaled < i.high * down

/-- The multiple of `10 ^ unit` that names the double, if one does: of the two next to it the nearer,
of two equally near ones the even one. -/
def pick (i : Interval) (unit : Int) : Option Nat :=
  let num := i.value * tenTo (-unit).toNat
  let den := i.den * tenTo unit.toNat
  let below := num / den
  let twice := 2 * (num % den)
  let first := if twice < den || (twice == den && below % 2 == 0) then below else below + 1
  let second := if first = below then below + 1 else below
  if 0 < first && i.contains first unit then some first
  else if 0 < second && i.contains second unit then some second
  else none

/-- The digits of a number without the zeros at its end. -/
def significant (n : Nat) : List Nat :=
  (((Nat.toDigits 10 n).reverse.dropWhile (· == '0')).reverse).map fun c => c.toNat - '0'.toNat

/-- Tries grids of more and more digits. -/
def search (i : Interval) (top : Int) : Nat → Nat → Decimal
  | 0, _ => { digits := [], exponent := 0 }
  | fuel + 1, count =>
      let unit := top - count + 1
      match pick i unit with
      | some n => { digits := significant n, exponent := unit + (width n : Int) - 1 }
      | none => search i top fuel (count + 1)

/-- The shortest decimal that is nearest to the given double; seventeen digits always suffice. -/
def ofBinary (b : Binary) : Decimal :=
  let i := Interval.of b
  search i (leading i.value i.den) 18 1

end Shortest

end SensorGateway
