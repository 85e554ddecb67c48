import SensorGateway.Proofs.KeyMap
import SensorGateway.Proofs.Session.Device
import SensorGateway.Proofs.Wire.ChunkBoundaries

/-!
# What a session makes of a stream

A session has something to tell exactly when its record changes: a frame either leaves no trace in
the record, or it is merged and told (`BatterySession.told_handleFrame`).

Beside the frames, two things go into a record and its payload: how the stream was cut into chunks,
and when each chunk was handled.  The first makes no difference, since the reassembler cannot tell.
The second is seen in the timestamp only.  So sessions that are *alike* (`BatterySession.Alike`), all
but for the reassembler and the time of the last change, tell the same of the same frames and stay
alike (`BatterySession.handleChunks_congr`).
-/

namespace SensorGateway

/-! ## Records without their time -/

namespace Record

/-- The record, but not when it was changed. -/
def timeless (r : Record) : Record := { r with updatedAt := none }

variable {r r' : Record}

/-- Records are the same but for the time if all that they hold is the same. -/
theorem timeless_eq_iff :
    r.timeless = r'.timeless ↔ r.fields = r'.fields ∧ r.cells = r'.cells ∧
      r.temperatures = r'.temperatures ∧ r.balancing = r'.balancing := by
  simp [timeless]

/-- To set several fields is to put them into the map of fields. -/
theorem setAll_eq (r : Record) (entries : List (String × Field)) :
    r.setAll entries = { r with fields := r.fields.insertAll entries } := by
  unfold setAll KeyMap.insertAll
  induction entries generalizing r with
  | nil => rfl
  | cons entry entries ih => exact ih (r.set entry.1 entry.2)

variable (h : r.timeless = r'.timeless)
include h

/-- The time of a report about the hardware leaves a trace in the time of the record only. -/
theorem timeless_mergeHardwareInfo (info : HardwareInfo) (now now' : Instant) :
    (r.mergeHardwareInfo info now).timeless = (r'.mergeHardwareInfo info now').timeless := by
  obtain ⟨hfields, hcells, htemperatures, hbalancing⟩ := timeless_eq_iff.mp h
  unfold mergeHardwareInfo
  cases info.manufactureDate with
  | none => simp [timeless, setAll_eq, setManufactureDate, remove, *]
  | some date => simp [timeless, setAll_eq, setManufactureDate, set, *]

/-- So does that of a report about the cells, -/
theorem timeless_mergeCellInfo (info : CellInfo Float) (now now' : Instant) :
    (r.mergeCellInfo info now).timeless = (r'.mergeCellInfo info now').timeless := by
  obtain ⟨hfields, hcells, htemperatures, hbalancing⟩ := timeless_eq_iff.mp h
  simp [mergeCellInfo, timeless, setAll_eq, *]

/-- and that of a name. -/
theorem timeless_mergeDeviceName (name : String) (now now' : Instant) :
    (r.mergeDeviceName name now).timeless = (r'.mergeDeviceName name now').timeless := by
  obtain ⟨hfields, hcells, htemperatures, hbalancing⟩ := timeless_eq_iff.mp h
  simp [mergeDeviceName, timeless, touch, set, *]

end Record

/-! ## Payloads without their time -/

/-- A value in which the member with this name, if there is one, is blank. -/
def Json.blank (key : String) : Json → Json
  | .object members =>
      .object (members.map fun entry => (entry.1, if entry.1 = key then .null else entry.2))
  | value => value

/-- To blank a member of an object is to write null in its place. -/
theorem Json.blank_ofMembers (key : String) (members : List (String × Json)) :
    (Json.ofMembers members).blank key
      = Json.ofMembers
          (members.map fun entry => (entry.1, if entry.1 = key then .null else entry.2)) :=
  congrArg Json.object (KeyMap.insertAll_map [] (fun k v => if k = key then .null else v) members)

namespace Record

variable {r r' : Record}

/-- Of records that are alike up to the time, so are the payloads. -/
theorem blank_payload (h : r.timeless = r'.timeless) (device : String) (now now' : Instant) :
    (r.payload device now).blank "timestamp" = (r'.payload device now').blank "timestamp" := by
  obtain ⟨hfields, hcells, htemperatures, hbalancing⟩ := timeless_eq_iff.mp h
  unfold payload
  rw [Json.blank_ofMembers, Json.blank_ofMembers, hfields, hcells, htemperatures, hbalancing]
  simp

/-- When a record was changed is known once it was. -/
theorem payload_of_updatedAt {changed : Instant} (h : r.updatedAt = some changed) (device : String)
    (now now' : Instant) : r.payload device now = r.payload device now' := by
  unfold payload
  rw [h]
  rfl

end Record

/-! ## Events and changes -/

/-- Nothing is told and the record is as it was, or something is told and the record was changed. -/
def Record.Told (before : Record) (events : List Event) (after : Record) : Prop :=
  (events = [] ∧ after = before) ∨ (events ≠ [] ∧ after.updatedAt.isSome = true)

/-- What a record is told in two stretches it is told in both. -/
theorem Record.Told.trans {r₁ r₂ r₃ : Record} {events later : List Event} (h : r₁.Told events r₂)
    (hlater : r₂.Told later r₃) : r₁.Told (events ++ later) r₃ := by
  rcases hlater with ⟨rfl, rfl⟩ | ⟨hsome, htime⟩
  · rw [List.append_nil]
    exact h
  · exact Or.inr ⟨fun hnil => hsome (List.append_eq_nil_iff.mp hnil).2, htime⟩

/-! ## One frame -/

namespace BatterySession

variable {s s' : BatterySession}

/-- A frame tells its events to the record. -/
theorem told_handleFrame (s : BatterySession) (frame : Wire.Frame) (now : Instant) :
    s.record.Told (s.handleFrame frame now).events (s.handleFrame frame now).session.record := by
  cases handling frame with
  | undecoded _ hkept =>
      obtain ⟨logs, hkept⟩ := hkept s now
      rw [hkept]
      exact Or.inl ⟨rfl, rfl⟩
  | hardwareInfo _ _ info _ htaken =>
      rw [htaken, events_takeHardwareInfo, session_takeHardwareInfo]
      exact Or.inr ⟨List.cons_ne_nil _ _, rfl⟩
  | cellInfo _ _ info htaken =>
      rw [htaken]
      exact Or.inr ⟨List.cons_ne_nil _ _, rfl⟩
  | deviceName _ _ name htaken =>
      rw [htaken]
      exact Or.inr ⟨List.cons_ne_nil _ _, rfl⟩

/-- Of the sessions, device, alarm and record are the same, but for the time of the last change. -/
structure Alike (s s' : BatterySession) : Prop where
  device : s.device = s'.device
  alarm : s.alarm = s'.alarm
  record : s.record.timeless = s'.record.timeless

/-- A session is alike to itself. -/
theorem Alike.refl (s : BatterySession) : s.Alike s := ⟨rfl, rfl, rfl⟩

/-- If one session is alike to another, so is the other to it. -/
theorem Alike.symm (h : s.Alike s') : s'.Alike s :=
  ⟨h.device.symm, h.alarm.symm, h.record.symm⟩

/-- Sessions alike to the same one are alike. -/
theorem Alike.trans {s'' : BatterySession} (h : s.Alike s') (h' : s'.Alike s'') : s.Alike s'' :=
  ⟨h.device.trans h'.device, h.alarm.trans h'.alarm, h.record.trans h'.record⟩

/-- Sessions that are alike take a report about the hardware alike. -/
theorem Alike.takeHardwareInfo (h : s.Alike s') (info : HardwareInfo) (now now' : Instant) :
    (s.takeHardwareInfo info now).events = (s'.takeHardwareInfo info now').events ∧
      (s.takeHardwareInfo info now).session.Alike (s'.takeHardwareInfo info now').session := by
  have hrecord := Record.timeless_mergeHardwareInfo h.record info now now'
  rw [events_takeHardwareInfo, events_takeHardwareInfo, session_takeHardwareInfo,
    session_takeHardwareInfo, h.alarm]
  exact ⟨by simp only [event, h.device], h.device, rfl, hrecord⟩

/-- Sessions that are alike handle a frame alike. -/
theorem Alike.handleFrame (h : s.Alike s') (frame : Wire.Frame) (now now' : Instant) :
    (s.handleFrame frame now).events = (s'.handleFrame frame now').events ∧
      (s.handleFrame frame now).session.Alike (s'.handleFrame frame now').session := by
  have htold (happening : Happening) : [s.event happening] = [s'.event happening] := by
    simp only [event, h.device]
  cases handling frame with
  | undecoded _ hkept =>
      obtain ⟨logs, hsame⟩ := hkept s now
      obtain ⟨logs', hsame'⟩ := hkept s' now'
      rw [hsame, hsame']
      exact ⟨rfl, h⟩
  | hardwareInfo _ _ info _ htaken =>
      rw [htaken, htaken]
      exact h.takeHardwareInfo info now now'
  | cellInfo _ _ info htaken =>
      rw [htaken, htaken]
      exact ⟨htold _, h.device, h.alarm, Record.timeless_mergeCellInfo h.record info now now'⟩
  | deviceName _ _ name htaken =>
      rw [htaken, htaken]
      exact ⟨htold _, h.device, h.alarm, Record.timeless_mergeDeviceName h.record name now now'⟩

/-- A frame is handled without a look at the reassembler. -/
theorem handleFrame_reassembler (s : BatterySession) (r : Wire.Reassembler) (f : Wire.Frame)
    (now : Instant) :
    ({ s with reassembler := r }.handleFrame f now).events = (s.handleFrame f now).events ∧
      ({ s with reassembler := r }.handleFrame f now).session
        = { (s.handleFrame f now).session with reassembler := r } := by
  cases handling f with
  | undecoded _ hkept =>
      obtain ⟨logs, hsame⟩ := hkept s now
      obtain ⟨logs', hsame'⟩ := hkept { s with reassembler := r } now
      rw [hsame, hsame']
      exact ⟨rfl, rfl⟩
  | hardwareInfo _ _ info _ htaken =>
      rw [htaken, htaken, events_takeHardwareInfo, events_takeHardwareInfo,
        session_takeHardwareInfo, session_takeHardwareInfo]
      exact ⟨rfl, rfl⟩
  | cellInfo _ _ info htaken =>
      rw [htaken, htaken]
      exact ⟨rfl, rfl⟩
  | deviceName _ _ name htaken =>
      rw [htaken, htaken]
      exact ⟨rfl, rfl⟩

/-! ## Several frames -/

/-- Frames tell their events to the record, one after another. -/
theorem told_handleFrames (s : BatterySession) (now : Instant) (frames : List Wire.Frame) :
    s.record.Told (s.handleFrames now frames).events (s.handleFrames now frames).session.record := by
  induction frames generalizing s with
  | nil => exact Or.inl ⟨rfl, rfl⟩
  | cons frame frames ih => exact (s.told_handleFrame frame now).trans (ih _)

/-- What comes of frames does not depend on what the reassembler holds. -/
theorem handleFrames_reassembler (s : BatterySession) (r : Wire.Reassembler) (now : Instant)
    (frames : List Wire.Frame) :
    ({ s with reassembler := r }.handleFrames now frames).events
        = (s.handleFrames now frames).events ∧
      ({ s with reassembler := r }.handleFrames now frames).session
        = { (s.handleFrames now frames).session with reassembler := r } := by
  induction frames generalizing s with
  | nil => exact ⟨rfl, rfl⟩
  | cons f frames ih =>
      obtain ⟨hfirst, hsession⟩ := s.handleFrame_reassembler r f now
      obtain ⟨hrest, hlast⟩ := ih (s.handleFrame f now).session
      simp only [handleFrames, hfirst, hsession, hrest, hlast]
      exact ⟨trivial, trivial⟩

/-- Handling frames leaves the reassembler alone. -/
theorem reassembler_handleFrames (s : BatterySession) (now : Instant) (frames : List Wire.Frame) :
    (s.handleFrames now frames).session.reassembler = s.reassembler := by
  have hsession := (s.handleFrames_reassembler s.reassembler now frames).2
  exact (congrArg reassembler hsession).trans rfl

/-- Sessions that are alike handle frames alike. -/
theorem Alike.handleFrames (h : s.Alike s') (now now' : Instant) (frames : List Wire.Frame) :
    (s.handleFrames now frames).events = (s'.handleFrames now' frames).events ∧
      (s.handleFrames now frames).session.Alike (s'.handleFrames now' frames).session := by
  induction frames generalizing s s' with
  | nil => exact ⟨rfl, h⟩
  | cons frame frames ih =>
      obtain ⟨hevents, halike⟩ := h.handleFrame frame now now'
      obtain ⟨hlater, halike⟩ := ih halike
      refine ⟨?_, halike⟩
      simp only [BatterySession.handleFrames, hevents, hlater]

/-- Frames can be handled in two stretches. -/
theorem handleFrames_append (s : BatterySession) (now : Instant) (frames later : List Wire.Frame) :
    let first := s.handleFrames now frames
    let second := first.session.handleFrames now later
    (s.handleFrames now (frames ++ later)).events = first.events ++ second.events ∧
      (s.handleFrames now (frames ++ later)).session = second.session := by
  induction frames generalizing s with
  | nil => exact ⟨rfl, rfl⟩
  | cons frame frames ih =>
      obtain ⟨hevents, hsession⟩ := ih (s.handleFrame frame now).session
      refine ⟨?_, hsession⟩
      simp only [List.cons_append, BatterySession.handleFrames, hevents, List.append_assoc]

/-! ## Chunks at their times -/

/-- Handles chunks one after another, each at its time. -/
def handleChunks (s : BatterySession) : List (Bytes × Instant) → Handled BatterySession
  | [] => s.unchanged []
  | (chunk, now) :: chunks =>
      let first := s.handleChunk chunk now
      let later := first.session.handleChunks chunks
      { session := later.session
        events := first.events ++ later.events
        logs := first.logs ++ later.logs }

/-- A session that has taken in the bytes of a chunk, and not yet looked at the frames. -/
def feed (s : BatterySession) (chunk : Bytes) : BatterySession :=
  { s with reassembler := (s.reassembler.feed chunk).2 }

/-- A chunk tells its events to the record. -/
theorem told_handleChunk (s : BatterySession) (chunk : Bytes) (now : Instant) :
    s.record.Told (s.handleChunk chunk now).events (s.handleChunk chunk now).session.record :=
  (s.feed chunk).told_handleFrames now (s.reassembler.feed chunk).1

/-- How a stream is cut, and when each piece is handled, makes no difference. -/
theorem Alike.handleChunks (h : s.Alike s') (chunks : List (Bytes × Instant)) (now : Instant) :
    let frames := (s.reassembler.feedAll (chunks.map Prod.fst)).1
    (s.handleChunks chunks).events = (s'.handleFrames now frames).events ∧
      (s.handleChunks chunks).session.Alike (s'.handleFrames now frames).session := by
  induction chunks generalizing s s' with
  | nil => exact ⟨rfl, h⟩
  | cons chunk chunks ih =>
      obtain ⟨chunk, time⟩ := chunk
      have hfed : (s.feed chunk).Alike s' := ⟨h.device, h.alarm, h.record⟩
      obtain ⟨hevents, halike⟩ := hfed.handleFrames time now (s.reassembler.feed chunk).1
      obtain ⟨hlater, halike⟩ := ih halike
      rw [reassembler_handleFrames] at hlater halike
      intro frames
      have hframes : frames = (s.reassembler.feed chunk).1
          ++ ((s.feed chunk).reassembler.feedAll (chunks.map Prod.fst)).1 := rfl
      obtain ⟨happend, hsession⟩ := handleFrames_append s' now (s.reassembler.feed chunk).1
        ((s.feed chunk).reassembler.feedAll (chunks.map Prod.fst)).1
      rw [hframes, happend, hsession]
      refine ⟨?_, halike⟩
      rw [← hevents, ← hlater]
      rfl

/-- New sessions that are given the same bytes tell the same, and end with the same payload but for
the timestamp. -/
theorem handleChunks_congr (device : String) (threshold : Option UInt8)
    {chunks chunks' : List (Bytes × Instant)}
    (hbytes : (chunks.map Prod.fst).flatten = (chunks'.map Prod.fst).flatten) :
    ((new device threshold).handleChunks chunks).events
        = ((new device threshold).handleChunks chunks').events ∧
      ((new device threshold).handleChunks chunks).session.record.timeless
        = ((new device threshold).handleChunks chunks').session.record.timeless := by
  have hparked : Wire.Reassembler.Parked (new device threshold).reassembler.buffer := Or.inl rfl
  have hsame : (new device threshold).Alike (new device threshold) := ⟨rfl, rfl, rfl⟩
  obtain ⟨hevents, halike⟩ := hsame.handleChunks chunks ⟨0, 0⟩
  obtain ⟨hevents', halike'⟩ := hsame.handleChunks chunks' ⟨0, 0⟩
  rw [Wire.Reassembler.feedAll_of_parked hparked] at hevents halike hevents' halike'
  rw [← hbytes] at hevents' halike'
  exact ⟨hevents.trans hevents'.symm, halike.record.trans halike'.record.symm⟩

end BatterySession

/-! ## Sessions of either kind -/

/-- So does an advertisement of a tank. -/
theorem TankSession.told_handleAdvertisement (s : TankSession) (payload : Bytes) (now : Instant) :
    s.record.Told (s.handleAdvertisement payload now).events
      (s.handleAdvertisement payload now).session.record := by
  unfold handleAdvertisement
  split
  · exact Or.inl ⟨rfl, rfl⟩
  · exact Or.inr ⟨List.cons_ne_nil _ _, rfl⟩

namespace DeviceSession

/-- Whatever the device is, what a chunk tells is told to its record. -/
theorem told_handle (s : DeviceSession) (chunk : Bytes) (now : Instant) :
    s.record.Told (s.handle chunk now).events (s.handle chunk now).session.record := by
  cases s with
  | battery s => exact s.told_handleChunk chunk now
  | tank s => exact s.told_handleAdvertisement chunk now

/-- Handles what the device has sent, each piece at its time. -/
def handleAll (s : DeviceSession) : List (Bytes × Instant) → Handled DeviceSession
  | [] => { session := s, events := [], logs := [] }
  | (chunk, now) :: chunks =>
      let first := s.handle chunk now
      let later := first.session.handleAll chunks
      { session := later.session
        events := first.events ++ later.events
        logs := first.logs ++ later.logs }

/-- After two stretches of chunks a session is what the second makes of it after the first. -/
theorem session_handleAll_append (s : DeviceSession) (chunks later : List (Bytes × Instant)) :
    (s.handleAll (chunks ++ later)).session
      = ((s.handleAll chunks).session.handleAll later).session := by
  induction chunks generalizing s with
  | nil => rfl
  | cons chunk chunks ih => exact ih _

/-- The events of two stretches of chunks come one after the other. -/
theorem events_handleAll_append (s : DeviceSession) (chunks later : List (Bytes × Instant)) :
    (s.handleAll (chunks ++ later)).events
      = (s.handleAll chunks).events ++ ((s.handleAll chunks).session.handleAll later).events := by
  induction chunks generalizing s with
  | nil => rfl
  | cons chunk chunks ih =>
      have hlater := ih (s.handle chunk.1 chunk.2).session
      simp only [List.cons_append, handleAll, hlater, List.append_assoc]

/-- A session stays with its device. -/
theorem device_handleAll (s : DeviceSession) (chunks : List (Bytes × Instant)) :
    (s.handleAll chunks).session.device = s.device := by
  induction chunks generalizing s with
  | nil => rfl
  | cons chunk chunks ih => exact (ih _).trans (s.device_handle chunk.1 chunk.2)

/-- Chunks tell their events to the record, one after another. -/
theorem told_handleAll (s : DeviceSession) (chunks : List (Bytes × Instant)) :
    s.record.Told (s.handleAll chunks).events (s.handleAll chunks).session.record := by
  induction chunks generalizing s with
  | nil => exact Or.inl ⟨rfl, rfl⟩
  | cons chunk chunks ih => exact (s.told_handle chunk.1 chunk.2).trans (ih _)

/-- A session for a battery is the battery's, however it is called. -/
theorem session_handleAll_battery (s : BatterySession) (chunks : List (Bytes × Instant)) :
    ((battery s).handleAll chunks).session = battery (s.handleChunks chunks).session := by
  induction chunks generalizing s with
  | nil => rfl
  | cons chunk chunks ih => exact ih _

/-- Its events are the battery's, too. -/
theorem events_handleAll_battery (s : BatterySession) (chunks : List (Bytes × Instant)) :
    ((battery s).handleAll chunks).events = (s.handleChunks chunks).events := by
  induction chunks generalizing s with
  | nil => rfl
  | cons chunk chunks ih => exact congrArg (_ ++ ·) (ih _)

end DeviceSession

end SensorGateway
