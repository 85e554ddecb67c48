import SensorGateway.Proofs.Tank.Broadcast

/-!
# A broadcast can be made again from its reading

Nine parts of a reading are what the sensor has sent, and the others are computed from them.  The parts
share bytes: the button has the highest bit of the byte in which the temperature stands, and the
quality the two highest bits of the level's second byte.  No two of them share a bit and together they
fill all ten bytes, so from the parts the bytes can be written again (`TankReading.toBytes_parts`), and
two broadcasts with the same parts are the same.
-/

namespace SensorGateway

namespace TankReading

/-! ## The parts of a broadcast -/

/-- What a sensor sends. -/
structure Parts where
  model : SensorModel
  /-- Thirty-two times the battery voltage. -/
  battery : Float
  buttonPressed : Bool
  temperatureCode : UInt8
  rawLevel : UInt16
  qualityRaw : UInt8
  macSuffix : MacSuffix
  accelX : UInt8
  accelY : UInt8

/-- What of a reading the sensor has sent. -/
def parts (r : TankReading) : Parts where
  model := r.model
  battery := 32 * r.batteryVoltage
  buttonPressed := r.buttonPressed
  temperatureCode := r.temperatureCode
  rawLevel := r.rawLevel
  qualityRaw := r.qualityRaw
  macSuffix := r.macSuffix
  accelX := r.accelX
  accelY := r.accelY

/-- The bytes in which the parts are sent. -/
def Parts.toBytes (p : Parts) : Bytes :=
  [p.model.code,
    p.battery.toUInt8,
    UInt8.ofNat (p.temperatureCode.toNat + 128 * p.buttonPressed.toNat),
    UInt8.ofNat (p.rawLevel.toNat % 256),
    UInt8.ofNat (p.rawLevel.toNat / 256 + 64 * p.qualityRaw.toNat),
    p.macSuffix.first, p.macSuffix.second, p.macSuffix.third,
    p.accelX,
    p.accelY]

/-! ## Each byte again -/

/-- Dividing by 32 and multiplying by it again loses nothing. -/
theorem toUInt8_battery (b : UInt8) : (32 * (Float.ofNat b.toNat / 32)).toUInt8 = b := by
  have hall : ∀ n < 256, (32 * (Float.ofNat n / 32)).toUInt8 = UInt8.ofNat n := by decide +kernel
  rw [hall b.toNat b.toNat_lt, UInt8.ofNat_toNat]

/-- The button has the highest bit of a byte, and the temperature the others. -/
theorem ofNat_temperature (b : UInt8) :
    UInt8.ofNat ((UInt8.ofNat (b.toNat % 128)).toNat + 128 * (b.toNat.testBit 7).toNat) = b := by
  have hlt := b.toNat_lt
  apply UInt8.toNat_inj.mp
  rw [Nat.toNat_testBit, UInt8.toNat_ofNat', UInt8.toNat_ofNat']
  omega

section Level

variable (low high : UInt8)

/-- The raw level has fourteen bits. -/
theorem toNat_rawLevel :
    (UInt16.ofNat (high.toNat % 64 * 256 + low.toNat)).toNat
      = high.toNat % 64 * 256 + low.toNat := by
  have := low.toNat_lt
  rw [UInt16.toNat_ofNat']
  omega

/-- The quality has two bits. -/
theorem toNat_qualityRaw : (UInt8.ofNat (high.toNat / 64)).toNat = high.toNat / 64 := by
  have := high.toNat_lt
  rw [UInt8.toNat_ofNat']
  omega

/-- The low byte of the level is found in it again. -/
theorem ofNat_levelLow :
    UInt8.ofNat ((UInt16.ofNat (high.toNat % 64 * 256 + low.toNat)).toNat % 256) = low := by
  have := low.toNat_lt
  apply UInt8.toNat_inj.mp
  rw [toNat_rawLevel, UInt8.toNat_ofNat']
  omega

/-- The quality has the two highest bits of a byte, and the level the others. -/
theorem ofNat_levelHigh :
    UInt8.ofNat ((UInt16.ofNat (high.toNat % 64 * 256 + low.toNat)).toNat / 256
      + 64 * (UInt8.ofNat (high.toNat / 64)).toNat) = high := by
  have := low.toNat_lt
  have := high.toNat_lt
  apply UInt8.toNat_inj.mp
  rw [toNat_rawLevel, toNat_qualityRaw, UInt8.toNat_ofNat']
  omega

end Level

/-! ## Broadcasts that are decoded -/

variable {payload : Bytes} {reading : TankReading}

/-- A broadcast is decoded exactly if it has the number and the length of a known model. -/
theorem exists_decode_iff :
    (∃ reading, decode payload = .ok reading) ↔
      (∃ model : SensorModel, payload.head? = some model.code) ∧ payload.length = 10 := by
  constructor
  · rintro ⟨reading, h⟩
    cases decoding payload with
    | empty _ hdecode | unsupported _ _ _ hdecode | mismatch _ _ _ hdecode =>
        rw [hdecode] at h
        cases h
    | accepted model hhead hlength => exact ⟨⟨model, hhead⟩, hlength⟩
  · rintro ⟨⟨model, hmodel⟩, hlength⟩
    cases decoding payload with
    | empty h => simp [h] at hlength
    | unsupported code hhead hother =>
        rw [hmodel] at hhead
        exact absurd (Option.some.inj hhead).symm (hother model)
    | mismatch _ _ hother => exact absurd hlength hother
    | accepted _ _ _ reading hdecode => exact ⟨reading, hdecode⟩

/-- The parts of a reading are sent in the bytes that it was decoded from; the level has 14 bits and
the quality two, and the temperature is that of its code. -/
theorem toBytes_parts (h : decode payload = .ok reading) :
    reading.parts.toBytes = payload ∧ reading.rawLevel.toNat < 16384 ∧
      reading.qualityRaw.toNat < 4 ∧
      reading.temperature = Float.ofInt ((reading.temperatureCode.toNat : Int) - 40) := by
  obtain ⟨⟨model, hhead⟩, hlength⟩ := exists_decode_iff.mp ⟨reading, h⟩
  match payload, hlength with
  | [code, battery, temperature, low, high, first, second, third, accelX, accelY], _ =>
      obtain rfl : code = model.code := Option.some.inj hhead
      unfold decode at h
      simp only [SensorModel.ofByte?_code] at h
      cases h
      have := low.toNat_lt
      have := high.toNat_lt
      have hcode : (UInt8.ofNat (temperature.toNat % 128)).toNat = temperature.toNat % 128 := by
        rw [UInt8.toNat_ofNat']
        omega
      refine ⟨?_, ?_, ?_, ?_⟩
      · simp only [parts, Parts.toBytes, toUInt8_battery, ofNat_temperature, ofNat_levelLow,
          ofNat_levelHigh]
      · show (UInt16.ofNat _).toNat < _
        rw [toNat_rawLevel]
        omega
      · show (UInt8.ofNat _).toNat < _
        rw [toNat_qualityRaw]
        omega
      · show Float.ofInt _ = Float.ofInt (((UInt8.ofNat _).toNat : Int) - 40)
        rw [hcode]

/-- **A reading loses nothing of its broadcast.**  A broadcast is decoded exactly if its first byte is
the number of a known model and it has ten bytes.  From the parts of the reading, among which is 32
times the battery voltage, these bytes can be written again, so no other broadcast has a reading with
the same parts.  The level is below 2 to the 14th and the quality below 4, the temperature is its code
less 40, and the address that is read without decoding is written as that of the reading is. -/
theorem reading_keeps_broadcast (payload : Bytes) :
    ((∃ reading, decode payload = .ok reading) ↔
      (∃ model : SensorModel, payload.head? = some model.code) ∧ payload.length = 10) ∧
    ∀ reading, decode payload = .ok reading →
      reading.parts.toBytes = payload ∧
      (∀ other reading', decode other = .ok reading' → reading'.parts = reading.parts →
        other = payload) ∧
      reading.rawLevel.toNat < 16384 ∧ reading.qualityRaw.toNat < 4 ∧
      reading.temperature = Float.ofInt ((reading.temperatureCode.toNat : Int) - 40) ∧
      (peekMacSuffix? payload).map MacSuffix.text = some reading.macSuffix.text := by
  refine ⟨exists_decode_iff, fun reading h => ?_⟩
  obtain ⟨hbytes, hlevel, hquality, htemperature⟩ := toBytes_parts h
  refine ⟨hbytes, ?_, hlevel, hquality, htemperature, ?_⟩
  · intro other reading' hother hparts
    rw [← hbytes, ← (toBytes_parts hother).1, hparts]
  · rw [peekMacSuffix?_of_decode h, Option.map_some]

/-- The button is pressed, and of the level and the quality all bits are set. -/
theorem reading_keeps_broadcast_all_bits :
    let payload : Bytes := [0x03, 0xff, 0x9e, 0xff, 0xff, 0x0f, 0x37, 0xa5, 0x10, 0x20]
    ∃ reading, decode payload = .ok reading ∧ reading.parts.toBytes = payload ∧
      reading.rawLevel.toNat = 16383 ∧ reading.qualityRaw.toNat = 3 ∧
      reading.temperature = Float.ofInt (-10) ∧
      (peekMacSuffix? payload).map MacSuffix.text = some "0F:37:A5" := by
  intro payload
  obtain ⟨hdecodes, hkeeps⟩ := reading_keeps_broadcast payload
  obtain ⟨reading, h⟩ := hdecodes.mpr ⟨⟨.proCheck, by decide⟩, by decide⟩
  obtain ⟨hbytes, -, -, -, htemperature, hpeek⟩ := hkeeps reading h
  have hfields : (decode payload).toOption.map (fun reading =>
      (reading.rawLevel.toNat, reading.qualityRaw.toNat, reading.temperatureCode.toNat,
        reading.macSuffix)) = some (16383, 3, 30, ⟨0x0f, 0x37, 0xa5⟩) := by
    decide +kernel
  rw [h] at hfields
  obtain ⟨hlevel, hquality, hcode, hsuffix⟩ : reading.rawLevel.toNat = 16383 ∧
      reading.qualityRaw.toNat = 3 ∧ reading.temperatureCode.toNat = 30 ∧
        reading.macSuffix = ⟨0x0f, 0x37, 0xa5⟩ := by
    simpa [Except.toOption] using hfields
  rw [hcode] at htemperature
  rw [hsuffix] at hpeek
  exact ⟨reading, h, hbytes, hlevel, hquality, htemperature, hpeek.trans (by decide +kernel)⟩

end TankReading

end SensorGateway
