import SensorGateway.Proofs.Session.Handling

/-!
# A session belongs to one device

Whatever a session is given, it goes on under the identifier that it was made with: no frame and no
broadcast can make it speak for another device.  Nor does it tell of any other.
-/

namespace SensorGateway

namespace BatterySession

/-- A battery's session stays with its device when it handles a frame, -/
theorem device_handleFrame (s : BatterySession) (frame : Wire.Frame) (now : Instant) :
    (s.handleFrame frame now).session.device = s.device := by
  cases handling frame with
  | undecoded _ hkept =>
      obtain ⟨logs, hkept⟩ := hkept s now
      rw [hkept]
      rfl
  | hardwareInfo _ _ info _ htaken => rw [htaken, session_takeHardwareInfo]
  | cellInfo _ _ info htaken =>
      rw [htaken]
      rfl
  | deviceName _ _ name htaken =>
      rw [htaken]
      rfl

/-- when it handles several, -/
theorem device_handleFrames (s : BatterySession) (now : Instant) (frames : List Wire.Frame) :
    (s.handleFrames now frames).session.device = s.device := by
  induction frames generalizing s with
  | nil => rfl
  | cons frame frames ih =>
      rw [← s.device_handleFrame frame now]
      exact ih (s.handleFrame frame now).session

/-- and when it handles a chunk. -/
theorem device_handleChunk (s : BatterySession) (chunk : Bytes) (now : Instant) :
    (s.handleChunk chunk now).session.device = s.device :=
  device_handleFrames _ now _

/-! ## Whose the events are -/

/-- What a report about the hardware leads to is told in the name of the device. -/
theorem device_events_takeHardwareInfo (s : BatterySession) (info : HardwareInfo) (now : Instant) :
    ∀ event ∈ (s.takeHardwareInfo info now).events, event.device = s.device := by
  rw [events_takeHardwareInfo]
  cases (s.alarm.update info.soc).1 <;> simp [BatterySession.event]

/-- All events of a frame are told in the name of the device, -/
theorem device_events_handleFrame (s : BatterySession) (frame : Wire.Frame) (now : Instant) :
    ∀ event ∈ (s.handleFrame frame now).events, event.device = s.device := by
  cases handling frame with
  | undecoded _ hkept =>
      obtain ⟨logs, hkept⟩ := hkept s now
      rw [hkept]
      exact List.forall_mem_nil _
  | hardwareInfo _ _ info _ htaken =>
      rw [htaken]
      exact s.device_events_takeHardwareInfo info now
  | cellInfo _ _ info htaken =>
      rw [htaken]
      exact List.forall_mem_singleton.mpr rfl
  | deviceName _ _ name htaken =>
      rw [htaken]
      exact List.forall_mem_singleton.mpr rfl

/-- and so are those of several frames. -/
theorem device_events_handleFrames (s : BatterySession) (now : Instant)
    (frames : List Wire.Frame) :
    ∀ event ∈ (s.handleFrames now frames).events, event.device = s.device := by
  induction frames generalizing s with
  | nil => exact List.forall_mem_nil _
  | cons frame frames ih =>
      refine List.forall_mem_append.mpr ⟨s.device_events_handleFrame frame now, ?_⟩
      rw [← s.device_handleFrame frame now]
      exact ih (s.handleFrame frame now).session

end BatterySession

/-- A tank's session stays with its device. -/
theorem TankSession.device_handleAdvertisement (s : TankSession) (payload : Bytes) (now : Instant) :
    (s.handleAdvertisement payload now).session.device = s.device := by
  unfold handleAdvertisement
  split <;> rfl

/-- Its events are told in the name of the device. -/
theorem TankSession.device_events_handleAdvertisement (s : TankSession) (payload : Bytes)
    (now : Instant) :
    ∀ event ∈ (s.handleAdvertisement payload now).events, event.device = s.device := by
  unfold handleAdvertisement
  split
  · exact List.forall_mem_nil _
  · exact List.forall_mem_singleton.mpr rfl

/-- Whatever the device is, its session stays with it, -/
theorem DeviceSession.device_handle (s : DeviceSession) (chunk : Bytes) (now : Instant) :
    (s.handle chunk now).session.device = s.device := by
  cases s with
  | battery s => exact s.device_handleChunk chunk now
  | tank s => exact s.device_handleAdvertisement chunk now

/-- and tells its events in its name. -/
theorem DeviceSession.device_events_handle (s : DeviceSession) (chunk : Bytes) (now : Instant) :
    ∀ event ∈ (s.handle chunk now).events, event.device = s.device := by
  cases s with
  | battery s => exact BatterySession.device_events_handleFrames _ now _
  | tank s => exact s.device_events_handleAdvertisement chunk now

end SensorGateway
