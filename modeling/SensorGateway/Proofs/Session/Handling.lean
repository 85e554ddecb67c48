import SensorGateway.Proofs.Battery.Decoding
import SensorGateway.Session.Device

/-!
# What a session makes of a frame

Whichever session is given a frame, and whenever, one of four things comes of it
(`BatterySession.handling`): the state of the pack, the cell voltages or the name are taken in, or
the frame is one that no session can take in (`Wire.Frame.Undecoded`), and nothing is.  Which of them
it is depends on the frame alone.  What holds of every frame is proved by going through the four.
-/

namespace SensorGateway

/-! ## Which frames are decoded -/

/-- A session cannot take in what the frame says: it reports an error, its register is not known, or
its payload is not as long as an answer of that register is. -/
def Wire.Frame.Undecoded (f : Wire.Frame) : Prop :=
  f.status ≠ 0 ∨ f.register ∉ [0x03, 0x04, 0x05] ∨
    (f.register = 0x03 ∧ f.payload.length < 23) ∨
    (f.register = 0x04 ∧ (f.payload = [] ∨ f.payload.length % 2 = 1))

instance (f : Wire.Frame) : Decidable f.Undecoded :=
  inferInstanceAs (Decidable (_ ∨ _ ∨ _ ∨ _))

namespace BatterySession

/-! ## What is taken in -/

/-- With the state of the pack it may be told that the battery is low. -/
theorem events_takeHardwareInfo (s : BatterySession) (info : HardwareInfo) (now : Instant) :
    (s.takeHardwareInfo info now).events
      = s.event (.hardwareInfo info) ::
          ((s.alarm.update info.soc).1.map fun threshold =>
            s.event (.lowBattery info.soc threshold)).toList := by
  unfold takeHardwareInfo
  rcases s.alarm.update info.soc with ⟨raised, alarm⟩
  cases raised <;> rfl

/-- A report about the hardware changes the record and the alarm. -/
theorem session_takeHardwareInfo (s : BatterySession) (info : HardwareInfo) (now : Instant) :
    (s.takeHardwareInfo info now).session
      = { s with
          record := s.record.mergeHardwareInfo info now
          alarm := (s.alarm.update info.soc).2 } := by
  unfold takeHardwareInfo
  rcases s.alarm.update info.soc with ⟨raised, alarm⟩
  cases raised <;> rfl

/-! ## The four things that come of a frame -/

variable {f : Wire.Frame}

/-- A frame that cannot be decoded leaves the session as it is. -/
theorem handleFrame_of_undecoded (s : BatterySession) (h : f.Undecoded) (now : Instant) :
    ∃ logs, s.handleFrame f now = s.unchanged logs := by
  unfold handleFrame
  by_cases hok : f.isOk = true
  · rw [if_pos hok]
    have hstatus : f.status = 0 := beq_iff_eq.mp hok
    cases hkind : f.kind with
    | none => exact ⟨_, rfl⟩
    | some k =>
        have hregister : f.register = k.code := Wire.Register.ofByte?_eq_some_iff.mp hkind
        rw [Wire.Frame.Undecoded, hstatus, hregister] at h
        cases k with
        | hardwareInfo =>
            have hshort : f.payload.length < 23 := by simpa [Wire.Register.code] using h
            simp only [HardwareInfo.decode_of_short hshort]
            exact ⟨_, rfl⟩
        | cellInfo =>
            have hodd : f.payload = [] ∨ f.payload.length % 2 = 1 := by
              simpa [Wire.Register.code] using h
            obtain ⟨e, he⟩ := CellInfo.exists_error_of_odd (α := Float) hodd
            simp only [he]
            exact ⟨_, rfl⟩
        | deviceName => exact absurd h (by simp [Wire.Register.code])
  · rw [if_neg hok]
    exact ⟨_, rfl⟩

/-- What comes of a frame, whichever session is given it, and whenever. -/
inductive Handling (f : Wire.Frame) : Prop
  | undecoded (h : f.Undecoded)
      (hkept : ∀ (s : BatterySession) now, ∃ logs, s.handleFrame f now = s.unchanged logs)
  | hardwareInfo (h : ¬ f.Undecoded) (hregister : f.register = 0x03) (info : HardwareInfo)
      (hsoc : f.payload[19]? = some info.soc)
      (htaken : ∀ (s : BatterySession) now, s.handleFrame f now = s.takeHardwareInfo info now)
  | cellInfo (h : ¬ f.Undecoded) (hregister : f.register = 0x04) (info : CellInfo Float)
      (htaken : ∀ (s : BatterySession) now, s.handleFrame f now = s.takeCellInfo info now)
  | deviceName (h : ¬ f.Undecoded) (hregister : f.register = 0x05) (name : String)
      (htaken : ∀ (s : BatterySession) now, s.handleFrame f now = s.takeDeviceName name now)

/-- Every frame is one that reports something, or that cannot be decoded. -/
theorem handling (f : Wire.Frame) : Handling f := by
  by_cases h : f.Undecoded
  · exact .undecoded h fun s now => s.handleFrame_of_undecoded h now
  · have hfits := h
    simp only [Wire.Frame.Undecoded, not_or, Decidable.not_not, not_and] at hfits
    obtain ⟨hstatus, hknown, hhardware, hcells⟩ := hfits
    have hok : f.isOk = true := beq_iff_eq.mpr hstatus
    have hregister : f.register = 0x03 ∨ f.register = 0x04 ∨ f.register = 0x05 := by
      simpa using hknown
    rcases hregister with hregister | hregister | hregister
    · have hkind : f.kind = some .hardwareInfo := Wire.Register.ofByte?_eq_some_iff.mpr hregister
      have hlong : 23 ≤ f.payload.length := Nat.not_lt.mp (hhardware hregister)
      obtain ⟨info, hinfo, hread⟩ := HardwareInfo.exists_decode hlong
      have hsoc : f.payload[19]? = some info.soc := by
        rw [hread.soc]
        exact Bytes.getElem?_eq_some_byte (by omega)
      refine .hardwareInfo h hregister info hsoc ?_
      intro s now
      rw [handleFrame, if_pos hok]
      simp only [hkind, hinfo]
    · have hkind : f.kind = some .cellInfo := Wire.Register.ofByte?_eq_some_iff.mpr hregister
      obtain ⟨hne, hodd⟩ := hcells hregister
      have heven : f.payload.length % 2 = 0 := Nat.mod_two_ne_one.mp hodd
      have hlong : 2 ≤ f.payload.length := by
        have := List.length_pos_iff.mpr hne
        omega
      obtain ⟨first, rest, -, hinfo⟩ := CellInfo.decode_of_even (α := Float) hlong heven
      refine .cellInfo h hregister
        (CellInfo.ofVoltages (CellInfo.volts first) (rest.map CellInfo.volts)) ?_
      intro s now
      rw [handleFrame, if_pos hok]
      simp only [hkind, hinfo]
    · have hkind : f.kind = some .deviceName := Wire.Register.ofByte?_eq_some_iff.mpr hregister
      refine .deviceName h hregister (DeviceName.decode f.payload) ?_
      intro s now
      rw [handleFrame, if_pos hok]
      simp only [hkind]

end BatterySession

end SensorGateway
