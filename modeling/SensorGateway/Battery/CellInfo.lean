import SensorGateway.Battery.HardwareInfo
import SensorGateway.Number.Scalar

/-!
# The voltage of every cell

The answer to the cell request is a row of words, one for each cell, in millivolts.  Cells are
numbered from 1.  Of several cells with the least, or the greatest, voltage the first is named.
-/

namespace SensorGateway

/-- Cell voltages and what they amount to. -/
structure CellInfo (α : Type) where
  /-- Voltages in V, by cell. -/
  voltages : List α
  /-- The least voltage. -/
  min : α
  /-- The first cell that has it. -/
  minIndex : Nat
  /-- The greatest voltage. -/
  max : α
  /-- The first cell that has it. -/
  maxIndex : Nat
  /-- Greatest less least voltage. -/
  delta : α
  /-- Mean voltage. -/
  mean : α
  deriving BEq, Repr

namespace CellInfo

variable {α : Type} [Scalar α]

/-- The first place, counted from 1, at which a non-empty list takes its best value, and that
value. -/
def best (better : α → α → Bool) (first : α) (rest : List α) : Nat × α :=
  (rest.zipIdx 2).foldl
    (fun so_far (v, place) => if better v so_far.2 then (place, v) else so_far) (1, first)

/-- A word in millivolts as a voltage. -/
def volts (w : UInt16) : α := Scalar.ofNat w.toNat / Scalar.ofNat 1000

/-- What a non-empty list of voltages amounts to. -/
def ofVoltages (first : α) (rest : List α) : CellInfo α :=
  let (minIndex, min) := best (fun a b => decide (a < b)) first rest
  let (maxIndex, max) := best (fun a b => decide (b < a)) first rest
  { voltages := first :: rest
    min
    minIndex
    max
    maxIndex
    delta := max - min
    mean := (first :: rest).foldl (· + ·) (Scalar.ofNat 0) / Scalar.ofNat (rest.length + 1) }

/-- Decodes the payload of an answer to the cell request.  Cells beyond the largest pack are
ignored. -/
def decode (payload : Bytes) : Except DecodeError (CellInfo α) :=
  if payload.length < 2 then
    .error (.tooShort 2 payload.length)
  else if payload.length % 2 ≠ 0 then
    .error (.oddLength payload.length)
  else do
    let first ← payload.wordAt 0
    let rest ← (List.range (Min.min (payload.length / 2) maxCells - 1)).mapM fun i =>
      payload.wordAt (2 * (i + 1))
    return ofVoltages (volts first) (rest.map volts)

/-- The number of cells. -/
def totalCells (info : CellInfo α) : Nat := info.voltages.length

/-- The voltage of a cell, counted from 1. -/
def voltage? (info : CellInfo α) (cell : Nat) : Option α :=
  match cell with
  | 0 => none
  | i + 1 => info.voltages[i]?

end CellInfo

end SensorGateway
