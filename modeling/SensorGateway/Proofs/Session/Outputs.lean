import SensorGateway.Proofs.Session.Stream

/-!
# What a session puts out, chunk by chunk

For every chunk that a session is given it tells events and has a record afterwards.  Both are
determined by what the session was made from and by the chunks so far, and not by when these were
handled, except that the record says when it was last changed.  So what is left when the times are
taken out, the `Output`s, is a function of the chunks (`DeviceSession.Alike.outputsAt`), and what
comes of some of them is not changed by those that follow (`DeviceSession.take_outputs`).
-/

namespace SensorGateway

/-! ## Readings of a tank sensor -/

namespace Record

variable {r r' : Record}

/-- Setting fields does not look at the time, -/
theorem timeless_setAll (r : Record) (entries : List (String × Field)) :
    (r.setAll entries).timeless = r.timeless.setAll entries := by
  simp only [setAll_eq, timeless]

/-- and neither does removing them. -/
theorem timeless_removeAll (r : Record) (names : List String) :
    (r.removeAll names).timeless = r.timeless.removeAll names := by
  unfold removeAll
  induction names generalizing r with
  | nil => rfl
  | cons name names ih => exact ih (r.remove name)

/-- A broadcast leaves records alike that were alike but for the time. -/
theorem timeless_mergeTank (h : r.timeless = r'.timeless) (reading : TankReading)
    (levelMm : Option Float) (volume : Option (VolumeReading Float)) (now now' : Instant) :
    (r.mergeTank reading levelMm volume now).timeless
      = (r'.mergeTank reading levelMm volume now').timeless := by
  have htouch (r : Record) (now : Instant) : (r.touch now).timeless = r.timeless := rfl
  unfold mergeTank
  dsimp only
  rw [htouch, htouch]
  split
  · simp only [timeless_setAll, timeless_removeAll, h]
  · simp only [timeless_setAll, timeless_removeAll, h]

end Record

namespace TankSession

/-- The sessions are the same but for the time of the last change. -/
structure Alike (s s' : TankSession) : Prop where
  device : s.device = s'.device
  calibration : s.calibration = s'.calibration
  volume : s.volume = s'.volume
  heightOffsetIn : s.heightOffsetIn = s'.heightOffsetIn
  record : s.record.timeless = s'.record.timeless
  warnedUncalibrated : s.warnedUncalibrated = s'.warnedUncalibrated

variable {s s' : TankSession}

/-- Sessions of a tank that are alike handle an advertisement alike. -/
theorem Alike.handleAdvertisement (h : s.Alike s') (payload : Bytes) (now now' : Instant) :
    (s.handleAdvertisement payload now).events = (s'.handleAdvertisement payload now').events ∧
      (s.handleAdvertisement payload now).session.Alike
        (s'.handleAdvertisement payload now').session := by
  have hlevel (reading : TankReading) : s.levelMm? reading = s'.levelMm? reading := by
    simp only [levelMm?, h.calibration]
  have hvolume (levelMm : Option Float) : s.volume? levelMm = s'.volume? levelMm := by
    simp only [volume?, h.volume, h.heightOffsetIn]
  unfold TankSession.handleAdvertisement
  split
  · exact ⟨rfl, h⟩
  next reading _ =>
    simp only [hlevel, hvolume, h.device, true_and]
    refine ⟨rfl, h.calibration, h.volume, h.heightOffsetIn, ?_, ?_⟩
    · exact Record.timeless_mergeTank h.record reading _ _ now now'
    · simp only [h.calibration, h.warnedUncalibrated]

end TankSession

/-! ## Sessions of either kind -/

/-- Sessions of a battery that are alike, and hold the same bytes, handle a chunk alike. -/
theorem BatterySession.Alike.handleChunk {s s' : BatterySession} (h : s.Alike s')
    (hreassembler : s.reassembler = s'.reassembler) (chunk : Bytes) (now now' : Instant) :
    (s.handleChunk chunk now).events = (s'.handleChunk chunk now').events ∧
      (s.handleChunk chunk now).session.Alike (s'.handleChunk chunk now').session ∧
      (s.handleChunk chunk now).session.reassembler
        = (s'.handleChunk chunk now').session.reassembler := by
  have hfed : (s.feed chunk).Alike (s'.feed chunk) := ⟨h.device, h.alarm, h.record⟩
  obtain ⟨hevents, halike⟩ := hfed.handleFrames now now' (s.reassembler.feed chunk).1
  have hsame : s'.handleChunk chunk now'
      = (s'.feed chunk).handleFrames now' (s.reassembler.feed chunk).1 := by
    rw [hreassembler]
    rfl
  rw [hsame]
  refine ⟨hevents, halike, ?_⟩
  rw [reassembler_handleFrames, BatterySession.feed, ← hreassembler]
  exact reassembler_handleFrames _ now _

namespace DeviceSession

/-- The sessions are the same but for the time of the last change. -/
inductive Alike : DeviceSession → DeviceSession → Prop
  | battery {s s' : BatterySession} : s.Alike s' → s.reassembler = s'.reassembler →
      Alike (.battery s) (.battery s')
  | tank {s s' : TankSession} : s.Alike s' → Alike (.tank s) (.tank s')

variable {s s' : DeviceSession}

/-- A session is alike to itself. -/
theorem Alike.refl (s : DeviceSession) : s.Alike s := by
  cases s with
  | battery s => exact .battery ⟨rfl, rfl, rfl⟩ rfl
  | tank s => exact .tank ⟨rfl, rfl, rfl, rfl, rfl, rfl⟩

/-- Sessions that are alike have the same record but for the time. -/
theorem Alike.record (h : s.Alike s') : s.record.timeless = s'.record.timeless := by
  cases h with
  | battery h _ => exact h.record
  | tank h => exact h.record

/-- Sessions that are alike handle a chunk alike. -/
theorem Alike.handle (h : s.Alike s') (chunk : Bytes) (now now' : Instant) :
    (s.handle chunk now).events = (s'.handle chunk now').events ∧
      (s.handle chunk now).session.Alike (s'.handle chunk now').session := by
  cases h with
  | battery h hreassembler =>
      obtain ⟨hevents, halike, hsame⟩ := h.handleChunk hreassembler chunk now now'
      exact ⟨hevents, .battery halike hsame⟩
  | tank h =>
      obtain ⟨hevents, halike⟩ := h.handleAdvertisement chunk now now'
      exact ⟨hevents, .tank halike⟩

end DeviceSession

/-! ## Outputs -/

/-- What a session has told of a chunk, and its record then, but not when. -/
structure Output where
  events : List Event
  record : Record

namespace DeviceSession

variable {s s' : DeviceSession}

/-- What comes of one chunk. -/
def output (s : DeviceSession) (chunk : Bytes) (now : Instant) : Output where
  events := (s.handle chunk now).events
  record := (s.handle chunk now).session.record.timeless

/-- What comes of chunks, each handled at its time. -/
def outputsAt (s : DeviceSession) : List (Bytes × Instant) → List Output
  | [] => []
  | (chunk, now) :: chunks =>
      s.output chunk now :: (s.handle chunk now).session.outputsAt chunks

/-- What comes of chunks. -/
def outputs (s : DeviceSession) (chunks : List Bytes) : List Output :=
  s.outputsAt (chunks.map (·, ⟨0, 0⟩))

/-- Sessions that are alike put out the same. -/
theorem Alike.output (h : s.Alike s') (chunk : Bytes) (now now' : Instant) :
    s.output chunk now = s'.output chunk now' := by
  obtain ⟨hevents, halike⟩ := h.handle chunk now now'
  simp only [DeviceSession.output, hevents, halike.record]

/-- When chunks are handled makes no difference. -/
theorem Alike.outputsAt (h : s.Alike s') (chunks : List (Bytes × Instant)) :
    s.outputsAt chunks = s'.outputs (chunks.map Prod.fst) := by
  induction chunks generalizing s s' with
  | nil => rfl
  | cons chunk chunks ih =>
      obtain ⟨chunk, now⟩ := chunk
      obtain ⟨-, halike⟩ := h.handle chunk now ⟨0, 0⟩
      rw [DeviceSession.outputsAt, h.output chunk now ⟨0, 0⟩, ih halike]
      rfl

/-- What comes of later chunks is what the session then makes of them. -/
theorem outputsAt_append (s : DeviceSession) (chunks later : List (Bytes × Instant)) :
    s.outputsAt (chunks ++ later)
      = s.outputsAt chunks ++ (s.handleAll chunks).session.outputsAt later := by
  induction chunks generalizing s with
  | nil => rfl
  | cons chunk chunks ih => exact congrArg _ (ih (s.handle chunk.1 chunk.2).session)

/-- There is one output for each chunk. -/
theorem length_outputsAt (s : DeviceSession) (chunks : List (Bytes × Instant)) :
    (s.outputsAt chunks).length = chunks.length := by
  induction chunks generalizing s with
  | nil => rfl
  | cons chunk chunks ih => exact congrArg (· + 1) (ih (s.handle chunk.1 chunk.2).session)

/-- What comes of some chunks does not depend on those that follow. -/
theorem take_outputs (s : DeviceSession) (chunks : List Bytes) (count : Nat) :
    (s.outputs chunks).take count = s.outputs (chunks.take count) := by
  unfold outputs
  rw [List.map_take]
  generalize chunks.map (·, (⟨0, 0⟩ : Instant)) = inputs
  induction inputs generalizing s count with
  | nil => simp [outputsAt]
  | cons input inputs ih =>
      cases count with
      | zero => rfl
      | succ count =>
          rw [outputsAt, List.take_succ_cons, List.take_succ_cons, outputsAt, ih]

end DeviceSession

end SensorGateway
