import SensorGateway.Session.Battery

/-!
# A session with a tank sensor

Each broadcast is a reading by itself.  A broadcast that is no reading leaves no trace.  Without a
calibration there are readings but no levels, which is said once.
-/

namespace SensorGateway

/-- The state of a session with a tank sensor. -/
structure TankSession where
  device : String
  calibration : Option Calibration
  volume : Option (VolumeTable Float)
  heightOffsetIn : Float
  record : Record
  /-- Whether it has been said that there is no calibration. -/
  warnedUncalibrated : Bool

namespace TankSession

/-- A session that has been given nothing. -/
def new (device : String) (calibration : Option Calibration) (volume : Option (VolumeTable Float))
    (heightOffsetIn : Float) : TankSession where
  device
  calibration
  volume
  heightOffsetIn
  record := .empty
  warnedUncalibrated := false

/-- The level of a reading, if the session can tell it. -/
def levelMm? (s : TankSession) (reading : TankReading) : Option Float :=
  s.calibration.bind reading.levelMm?

/-- The volume at a level, if the session can tell it. -/
def volume? (s : TankSession) (levelMm : Option Float) : Option (VolumeReading Float) := do
  (← s.volume).convert? (← levelMm) s.heightOffsetIn

/-- Handles one broadcast. -/
def handleAdvertisement (s : TankSession) (payload : Bytes) (now : Instant) :
    Handled TankSession :=
  match TankReading.decode payload with
  | .error _ => { session := s, events := [], logs := [] }
  | .ok reading =>
      let levelMm := s.levelMm? reading
      let volume := s.volume? levelMm
      let warns := s.calibration.isNone && !s.warnedUncalibrated
      { session :=
          { s with
            record := s.record.mergeTank reading levelMm volume now
            warnedUncalibrated := s.warnedUncalibrated || warns }
        events := [{ device := s.device, happening := .tank reading levelMm volume }]
        logs :=
          if warns then
            [{ level := .warn
               source := .session
               message := s!"Tank {s.device}: no medium configured, level will not be calculated" }]
          else [] }

end TankSession

end SensorGateway
