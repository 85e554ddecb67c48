import SensorGateway.Proofs.Guarded.Basic
import SensorGateway.Proofs.Tank.Broadcast

/-!
# Broadcasts and volumes do not trap

A broadcast is as long as its model says before any of its bytes beyond the first is read.  The
volume is looked up in pairs of neighbouring points, and a pair has two.
-/

namespace SensorGateway

/-- The error is that of a read outside the broadcast. -/
def AdvertisementError.isWild : AdvertisementError → Bool
  | outOfRange _ => true
  | empty | unsupportedModel _ | lengthMismatch _ _ _ => false

/-- No error of the decoder for broadcasts comes of a read outside the payload. -/
theorem TankReading.isWild_of_decode {payload : Bytes} {e : AdvertisementError}
    (h : decode payload = .error e) : e.isWild = false := by
  cases decoding payload with
  | empty _ hdecode | unsupported _ _ _ hdecode | mismatch _ _ _ hdecode =>
      rw [hdecode] at h
      cases h
      rfl
  | accepted _ _ _ _ hdecode _ =>
      rw [hdecode] at h
      cases h

namespace Guarded

/-! ## Volumes -/

section Volume

variable {α : Type} [Scalar α]

/-- Neighbouring points, in pairs. -/
def windows : List (VolumePoint α) → List (List (VolumePoint α))
  | top :: bottom :: rest => [top, bottom] :: windows (bottom :: rest)
  | _ => []

/-- Looks for a pair around a depth. -/
def search (fromTop : α) : List (List (VolumePoint α)) → Except Trap α
  | [] => return Scalar.ofNat 0
  | pair :: pairs => do
      let top ← get pair 0
      let bottom ← get pair 1
      if bottom.inches ≤ fromTop ∧ fromTop ≤ top.inches then
        return if bottom.inches < top.inches then
          VolumeTable.between top bottom fromTop
        else
          top.gallons
      else
        search fromTop pairs

/-- The gallons at a depth below the top. -/
def interpolate (table : VolumeTable α) (fromTop : α) : Except Trap α :=
  match table.points.head?, table.points.getLast? with
  | some empty, some full =>
      if empty.inches ≤ fromTop then return Scalar.ofNat 0
      else if fromTop ≤ full.inches then return full.gallons
      else search fromTop (windows table.points)
  | _, _ => return Scalar.ofNat 0

/-- The volume at a level. -/
def convert (table : VolumeTable α) (levelMm offsetIn : α) :
    Except Trap (Option (VolumeReading α)) :=
  match table.maxHeight? with
  | none => return none
  | some maxHeight => do
      let levelIn := levelMm / Scalar.millimetresPerInch + offsetIn
      let fromTop := Scalar.positivePart (maxHeight - levelIn)
      let gallons ← interpolate table fromTop
      return some {
        gallons := Scalar.roundTo gallons 1
        levelIn := Scalar.roundTo levelIn 2
        levelFromTopIn := Scalar.roundTo fromTop 2
        offsetIn }

/-- The search for a segment looks at pairs of points that are there. -/
theorem search_windows_eq_ok (fromTop : α) (points : List (VolumePoint α)) :
    search fromTop (windows points) = .ok (VolumeTable.search fromTop points) := by
  induction points using windows.induct with
  | case1 top bottom rest ih =>
      rw [windows, search, get_eq_ok rfl, get_eq_ok rfl, VolumeTable.search]
      simp only [bind, Except.bind]
      split
      · rfl
      · exact ih
  | case2 points hshort =>
      match points, hshort with
      | [], _ | [_], _ => rfl
      | top :: bottom :: rest, hshort => exact (hshort top bottom rest rfl).elim

/-- Interpolating in a table never traps, not even in an empty one. -/
theorem interpolate_eq_ok (table : VolumeTable α) (fromTop : α) :
    interpolate table fromTop = .ok (table.interpolate fromTop) := by
  unfold interpolate VolumeTable.interpolate
  cases table.points.head? with
  | none => rfl
  | some empty =>
      cases table.points.getLast? with
      | none => rfl
      | some full =>
          dsimp only
          by_cases hempty : empty.inches ≤ fromTop
          · rw [if_pos hempty, if_pos hempty]
            rfl
          rw [if_neg hempty, if_neg hempty]
          by_cases hfull : fromTop ≤ full.inches
          · rw [if_pos hfull, if_pos hfull]
            rfl
          rw [if_neg hfull, if_neg hfull]
          exact search_windows_eq_ok fromTop table.points

/-- Converting a level never traps. -/
theorem convert_eq_ok (table : VolumeTable α) (levelMm offsetIn : α) :
    convert table levelMm offsetIn = .ok (table.convert? levelMm offsetIn) := by
  unfold convert VolumeTable.convert?
  cases table.maxHeight? with
  | none => rfl
  | some maxHeight =>
      simp only [interpolate_eq_ok]
      rfl

end Volume

/-! ## Sessions -/

/-- The volume at a level, if the session can tell it. -/
def volume (s : TankSession) (levelMm : Option Float) :
    Except Trap (Option (VolumeReading Float)) :=
  match s.volume, levelMm with
  | some table, some levelMm => convert table levelMm s.heightOffsetIn
  | _, _ => return none

/-- Handles one broadcast. -/
def handleAdvertisement (s : TankSession) (payload : Bytes) (now : Instant) :
    Except Trap (Handled TankSession) := do
  match ← answer AdvertisementError.isWild (TankReading.decode payload) with
  | .error _ => return { session := s, events := [], logs := [] }
  | .ok reading =>
      let levelMm := s.levelMm? reading
      let volume ← volume s levelMm
      let warns := s.calibration.isNone && !s.warnedUncalibrated
      return {
        session :=
          { s with
            record := s.record.mergeTank reading levelMm volume now
            warnedUncalibrated := s.warnedUncalibrated || warns }
        events := [{ device := s.device, happening := .tank reading levelMm volume }]
        logs :=
          if warns then
            [{ level := .warn
               source := .session
               message := s!"Tank {s.device}: no medium configured, level will not be calculated" }]
          else [] }

/-- Telling the volume never traps. -/
theorem volume_eq_ok (s : TankSession) (levelMm : Option Float) :
    volume s levelMm = .ok (s.volume? levelMm) := by
  unfold volume TankSession.volume?
  cases s.volume with
  | none => rfl
  | some table =>
      cases levelMm with
      | none => rfl
      | some levelMm => exact convert_eq_ok table levelMm s.heightOffsetIn

/-- An advertisement is handled without a trap, whatever is in it. -/
theorem handleAdvertisement_eq_ok (s : TankSession) (payload : Bytes) (now : Instant) :
    handleAdvertisement s payload now = .ok (s.handleAdvertisement payload now) := by
  unfold handleAdvertisement TankSession.handleAdvertisement
  rw [answer_eq_ok fun _ => TankReading.isWild_of_decode]
  simp only [bind, Except.bind]
  cases TankReading.decode payload with
  | error e => rfl
  | ok reading =>
      simp only [volume_eq_ok]
      rfl

end Guarded

end SensorGateway
