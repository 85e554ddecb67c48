import SensorGateway.Number.Scalar

/-!
# From level to volume

A table of points says how many gallons are in a tank whose surface is so many inches below the top.
Its points are in the order of falling inches, so the first is the empty tank and gives the tank's
height.  Between two points the gallons change evenly.
-/

namespace SensorGateway

/-- A point of the table. -/
structure VolumePoint (α : Type) where
  /-- Inches from the top of the tank to the surface. -/
  inches : α
  /-- Gallons in the tank. -/
  gallons : α
  deriving BEq, Repr

/-- What a level amounts to. -/
structure VolumeReading (α : Type) where
  /-- To one place. -/
  gallons : α
  /-- Height of the surface above the bottom, with the mounting offset, to two places. -/
  levelIn : α
  /-- Depth of the surface below the top, to two places. -/
  levelFromTopIn : α
  /-- The mounting offset. -/
  offsetIn : α
  deriving BEq, Repr

/-- A table, its points by falling inches. -/
structure VolumeTable (α : Type) where
  points : List (VolumePoint α)
  deriving BEq, Repr

namespace VolumeTable

variable {α : Type} [Scalar α]

/-- The table of the points that have finite coordinates.  Points with equal inches stay in the order
given. -/
def ofPoints (points : List (VolumePoint α)) : VolumeTable α where
  points :=
    (points.filter fun p => Scalar.isFinite p.inches && Scalar.isFinite p.gallons).mergeSort
      fun p q => Scalar.atMost q.inches p.inches

/-- The height of the tank. -/
def maxHeight? (table : VolumeTable α) : Option α :=
  table.points.head?.map (·.inches)

/-- The gallons on the line between two points. -/
def between (top bottom : VolumePoint α) (fromTop : α) : α :=
  let ratio := (top.inches - fromTop) / (top.inches - bottom.inches)
  top.gallons + ratio * (bottom.gallons - top.gallons)

/-- Looks for two neighbouring points around a depth. -/
def search (fromTop : α) : List (VolumePoint α) → α
  | top :: bottom :: rest =>
      if bottom.inches ≤ fromTop ∧ fromTop ≤ top.inches then
        if bottom.inches < top.inches then between top bottom fromTop else top.gallons
      else search fromTop (bottom :: rest)
  | _ => Scalar.ofNat 0

/-- The gallons at a depth below the top: none from the first point on, those of the last point up to
it, and in between what the two points around it say. -/
def interpolate (table : VolumeTable α) (fromTop : α) : α :=
  match table.points.head?, table.points.getLast? with
  | some empty, some full =>
      if empty.inches ≤ fromTop then Scalar.ofNat 0
      else if fromTop ≤ full.inches then full.gallons
      else search fromTop table.points
  | _, _ => Scalar.ofNat 0

/-- The volume at a level, for a sensor mounted at an offset; a table without points has none. -/
def convert? (table : VolumeTable α) (levelMm offsetIn : α) : Option (VolumeReading α) :=
  table.maxHeight?.map fun maxHeight =>
    let levelIn := levelMm / Scalar.millimetresPerInch + offsetIn
    let fromTop := Scalar.positivePart (maxHeight - levelIn)
    { gallons := Scalar.roundTo (table.interpolate fromTop) 1
      levelIn := Scalar.roundTo levelIn 2
      levelFromTopIn := Scalar.roundTo fromTop 2
      offsetIn }

end VolumeTable

end SensorGateway
