/-!
# The alarm for a low battery

It goes off when the state of charge is first seen at the threshold or below, and again only after it
has been seen above.
-/

namespace SensorGateway

/-- An alarm; without a threshold it never goes off. -/
structure Alarm where
  /-- In percent. -/
  threshold : Option UInt8
  /-- Whether the next low reading sets it off. -/
  armed : Bool
  deriving DecidableEq, Repr

namespace Alarm

/-- An alarm that waits for the first low reading. -/
def new (threshold : Option UInt8) : Alarm := { threshold, armed := true }

/-- Takes a reading: the threshold if the alarm goes off, and the alarm after it. -/
def update (a : Alarm) (soc : UInt8) : Option UInt8 × Alarm :=
  match a.threshold with
  | none => (none, a)
  | some threshold =>
      if threshold < soc then (none, { a with armed := true })
      else if a.armed then (some threshold, { a with armed := false })
      else (none, a)

end Alarm

end SensorGateway
