import SensorGateway.Proofs.Session.Handling

/-!
# The address in a broadcast

The address stands in three bytes of a broadcast, and two functions read them: one looks at them
alone, to find the tank, and the other decodes the whole broadcast for the tank's session.  They read
the same bytes (`TankReading.peekMacSuffix?_of_decode`), so what a session tells of a broadcast is
told under the address by which the broadcast came to it.
-/

namespace SensorGateway

namespace SensorModel

/-- The code of a model stands for it. -/
theorem ofByte?_code (model : SensorModel) : ofByte? model.code = some model := by
  cases model <;> rfl

/-- A byte stands for one model at most, the one that has it for a code. -/
theorem ofByte?_eq_some_iff {b : UInt8} {model : SensorModel} :
    ofByte? b = some model ↔ b = model.code := by
  constructor
  · intro h
    have hcode := List.find?_some h
    exact (beq_iff_eq.mp hcode).symm
  · rintro rfl
    exact ofByte?_code model

end SensorModel

namespace TankReading

variable {payload : Bytes}

/-- The address is read as soon as its three bytes are there. -/
theorem peekMacSuffix?_eq_some {m : MacSuffix} :
    peekMacSuffix? payload = some m ↔
      (payload.drop 5).take 3 = [m.first, m.second, m.third] := by
  unfold peekMacSuffix?
  match payload.drop 5 with
  | [] | [_] | [_, _] => simp
  | first :: second :: third :: rest =>
      obtain ⟨first', second', third'⟩ := m
      simp

/-- A payload with an address is long enough to have one. -/
theorem length_of_peekMacSuffix? {m : MacSuffix} (h : peekMacSuffix? payload = some m) :
    8 ≤ payload.length := by
  have hlength := congrArg List.length (peekMacSuffix?_eq_some.mp h)
  simp only [List.length_take, List.length_drop, List.length_cons, List.length_nil] at hlength
  omega

/-- Ten bytes of a known model are a reading, and its address is in the bytes 5 to 7. -/
theorem decode_of_length {model : SensorModel} {rest : Bytes} (hlength : rest.length = 9) :
    ∃ reading, decode (model.code :: rest) = .ok reading ∧
      peekMacSuffix? (model.code :: rest) = some reading.macSuffix := by
  match rest, hlength with
  | [b1, b2, b3, b4, b5, b6, b7, b8, b9], _ =>
      unfold decode
      simp only [SensorModel.ofByte?_code, SensorModel.payloadLength, List.length_cons,
        List.length_nil]
      exact ⟨_, rfl, rfl⟩

/-- What can come of a broadcast. -/
inductive Decoding (payload : Bytes) : Prop
  | empty (h : payload = []) (hdecode : decode payload = .error .empty)
  | unsupported (code : UInt8) (hhead : payload.head? = some code)
      (hmodel : ∀ model : SensorModel, code ≠ model.code)
      (hdecode : decode payload = .error (.unsupportedModel code))
  | mismatch (model : SensorModel) (hhead : payload.head? = some model.code)
      (hlength : payload.length ≠ 10)
      (hdecode : decode payload = .error (.lengthMismatch model 10 payload.length))
  | accepted (model : SensorModel) (hhead : payload.head? = some model.code)
      (hlength : payload.length = 10) (reading : TankReading)
      (hdecode : decode payload = .ok reading)
      (hpeek : peekMacSuffix? payload = some reading.macSuffix)

/-- Every payload is decoded, or refused for one of the reasons that there are. -/
theorem decoding (payload : Bytes) : Decoding payload := by
  cases payload with
  | nil => exact .empty rfl rfl
  | cons code rest =>
      cases hmodel : SensorModel.ofByte? code with
      | none =>
          refine .unsupported code rfl ?_ ?_
          · rintro model rfl
            rw [SensorModel.ofByte?_code] at hmodel
            cases hmodel
          · simp only [decode, hmodel]
      | some model =>
          obtain rfl := SensorModel.ofByte?_eq_some_iff.mp hmodel
          by_cases hlength : (model.code :: rest).length = 10
          · obtain ⟨reading, hdecode, hpeek⟩ := decode_of_length (Nat.succ.inj hlength)
            exact .accepted model rfl hlength reading hdecode hpeek
          · refine .mismatch model rfl hlength ?_
            have hother : (model.code :: rest).length ≠ model.payloadLength := hlength
            simp only [decode, hmodel, if_pos hother]
            rfl

/-- The reading of a broadcast has the address that is found without decoding. -/
theorem peekMacSuffix?_of_decode {reading : TankReading} (h : decode payload = .ok reading) :
    peekMacSuffix? payload = some reading.macSuffix := by
  cases decoding payload with
  | empty _ hdecode | unsupported _ _ _ hdecode | mismatch _ _ _ hdecode =>
      rw [hdecode] at h
      cases h
  | accepted _ _ _ reading' hdecode hpeek =>
      rw [hdecode] at h
      cases h
      exact hpeek

end TankReading

/-! ## What is told of a broadcast -/

/-- The reading of which an event tells. -/
def Happening.tankReading? : Happening → Option TankReading
  | tank reading _ _ => some reading
  | hardwareInfo _ | cellInfo _ | deviceName _ | lowBattery _ _ => none

namespace BatterySession

/-- A report about the hardware of a battery tells no reading of a tank, -/
theorem tankReading?_takeHardwareInfo (s : BatterySession) (info : HardwareInfo) (now : Instant) :
    ∀ e ∈ (s.takeHardwareInfo info now).events, e.happening.tankReading? = none := by
  rw [events_takeHardwareInfo]
  cases (s.alarm.update info.soc).1 <;> simp [event, Happening.tankReading?]

/-- and neither does any other frame of a battery. -/
theorem tankReading?_handleFrame (s : BatterySession) (frame : Wire.Frame) (now : Instant) :
    ∀ e ∈ (s.handleFrame frame now).events, e.happening.tankReading? = none := by
  cases handling frame with
  | undecoded _ hkept =>
      obtain ⟨logs, hkept⟩ := hkept s now
      rw [hkept]
      exact List.forall_mem_nil _
  | hardwareInfo _ _ info _ htaken =>
      rw [htaken]
      exact s.tankReading?_takeHardwareInfo info now
  | cellInfo _ _ info htaken =>
      rw [htaken]
      exact List.forall_mem_singleton.mpr rfl
  | deviceName _ _ name htaken =>
      rw [htaken]
      exact List.forall_mem_singleton.mpr rfl

/-- A battery tells nothing of tanks. -/
theorem tankReading?_handleFrames (s : BatterySession) (now : Instant) (frames : List Wire.Frame) :
    ∀ e ∈ (s.handleFrames now frames).events, e.happening.tankReading? = none := by
  induction frames generalizing s with
  | nil => simp [handleFrames, unchanged]
  | cons frame frames ih =>
      exact List.forall_mem_append.mpr ⟨s.tankReading?_handleFrame frame now, ih _⟩

end BatterySession

/-- Whatever session handles a broadcast: a reading of which it tells has the address that is found
without decoding. -/
theorem DeviceSession.peekMacSuffix?_of_told (s : DeviceSession) {payload : Bytes} {now : Instant}
    {e : Event} (he : e ∈ (s.handle payload now).events) {reading : TankReading}
    (hreading : e.happening.tankReading? = some reading) :
    TankReading.peekMacSuffix? payload = some reading.macSuffix := by
  cases s with
  | battery s =>
      have hnone : e.happening.tankReading? = none :=
        BatterySession.tankReading?_handleFrames _ now _ e he
      rw [hnone] at hreading
      cases hreading
  | tank s =>
      simp only [handle, TankSession.handleAdvertisement] at he
      split at he
      · cases he
      next reading' hdecode =>
        rw [List.mem_singleton.mp he] at hreading
        cases hreading
        exact TankReading.peekMacSuffix?_of_decode hdecode

end SensorGateway
