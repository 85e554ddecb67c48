/-!
# Numbered values of bounded count

Cells and probes are numbered from 1 and there are only so many.  A series has a slot for each and
the number of slots in use; setting it fills the first slots and leaves the others as they were.
-/

namespace SensorGateway

/-- A series with room for `capacity` values. -/
structure Series (capacity : Nat) where
  /-- All slots, those not in use included. -/
  slots : Vector Float capacity
  /-- The number of slots in use. -/
  count : Nat
  deriving BEq, Repr

namespace Series

variable {capacity : Nat}

/-- The series with nothing in it. -/
def empty : Series capacity where
  slots := Vector.replicate capacity 0
  count := 0

/-- Replaces the contents; values beyond the capacity are dropped. -/
def setAll (s : Series capacity) (values : List Float) : Series capacity where
  slots := Vector.ofFn fun i => values.getD i s.slots[i]
  count := min values.length capacity

/-- The values in use, in order. -/
def toList (s : Series capacity) : List Float := s.slots.toList.take s.count

/-- The number of values. -/
def size (s : Series capacity) : Nat := s.count

/-- Whether there is no value. -/
def isEmpty (s : Series capacity) : Bool := s.count == 0

/-- The value with a number, counted from 1. -/
def get? (s : Series capacity) (index : Nat) : Option Float :=
  match index with
  | 0 => none
  | i + 1 => s.toList[i]?

/-- The values with their numbers. -/
def numbered (s : Series capacity) : List (Nat × Float) :=
  (s.toList.zipIdx 1).map fun (x, i) => (i, x)

end Series

end SensorGateway
