import SensorGateway.Proofs.Session.Alarm
import SensorGateway.Proofs.Session.Stream

/-!
# When a battery is told to be low

Of all that goes through a session only one byte counts for the alarm, the state of charge in the
answers to the hardware request that are taken in (`Wire.Frame.reading?`).  Through every branch of a
session the alarm knows the last of these readings as far as it matters to it (`Alarm.Awaits`), so
the events are told as the readings command (`Announced`): the battery is low right after a reading
that has set off the alarm, and nowhere else.
-/

namespace SensorGateway

/-! ## Readings -/

/-- The state of charge in a frame, if it is an answer to the hardware request that is taken in. -/
def Wire.Frame.reading? (f : Wire.Frame) : Option UInt8 :=
  if f.status = 0 ∧ f.register = 0x03 ∧ 23 ≤ f.payload.length then f.payload[19]? else none

/-- The states of charge in a stream. -/
def Wire.Reassembler.readings (stream : Bytes) : List UInt8 :=
  (({} : Wire.Reassembler).feed stream).1.filterMap Wire.Frame.reading?

/-- The state of charge that is told with the state of the pack. -/
def Event.reading? (event : Event) : Option UInt8 :=
  match event.happening with
  | .hardwareInfo info => some info.soc
  | _ => none

/-- Whether a battery is told to be low. -/
def Event.isLow (event : Event) : Bool :=
  match event.happening with
  | .lowBattery _ _ => true
  | _ => false

section

variable (device : String) (info : HardwareInfo) (soc limit : UInt8)

/-- A report about the hardware has a state of charge to read. -/
@[simp] theorem Event.reading?_hardwareInfo :
    reading? ⟨device, .hardwareInfo info⟩ = some info.soc := rfl

/-- The warning of a low battery is no reading, -/
@[simp] theorem Event.reading?_lowBattery : reading? ⟨device, .lowBattery soc limit⟩ = none := rfl

/-- and a report about the hardware is no such warning, -/
@[simp] theorem Event.isLow_hardwareInfo : isLow ⟨device, .hardwareInfo info⟩ = false := rfl

/-- but the warning itself is. -/
@[simp] theorem Event.isLow_lowBattery : isLow ⟨device, .lowBattery soc limit⟩ = true := rfl

end

/-! ## What is told -/

/-- Events that come after the reading `last`: of those that tell a reading, the ones that set off
the alarm are followed by the news that the battery is low, and this is told nowhere else. -/
inductive Announced (device : String) (threshold : Option UInt8) :
    Option UInt8 → List Event → Prop
  | nil {last : Option UInt8} : Announced device threshold last []
  | other {last : Option UInt8} {event : Event} {events : List Event}
      (hdevice : event.device = device) (hreading : event.reading? = none)
      (hlow : event.isLow = false) (hrest : Announced device threshold last events) :
      Announced device threshold last (event :: events)
  | quiet {last : Option UInt8} {info : HardwareInfo} {events : List Event}
      (hquiet : ∀ limit, ¬ Alarm.SetsOff threshold last info.soc limit)
      (hrest : Announced device threshold (some info.soc) events) :
      Announced device threshold last (⟨device, .hardwareInfo info⟩ :: events)
  | low {last : Option UInt8} {info : HardwareInfo} {limit : UInt8} {events : List Event}
      (hlow : Alarm.SetsOff threshold last info.soc limit)
      (hrest : Announced device threshold (some info.soc) events) :
      Announced device threshold last
        (⟨device, .hardwareInfo info⟩ :: ⟨device, .lowBattery info.soc limit⟩ :: events)

namespace Announced

variable {device : String} {threshold last : Option UInt8} {events later : List Event}

/-- Later events are announced as they should be after the last reading of the earlier ones. -/
theorem append (h : Announced device threshold last events)
    (hlater : Announced device threshold ((events.filterMap Event.reading?).getLast?.or last)
      later) : Announced device threshold last (events ++ later) := by
  induction h with
  | nil => exact hlater
  | other hdevice hreading hlow hrest ih =>
      rw [List.filterMap_cons_none hreading] at hlater
      exact .other hdevice hreading hlow (ih hlater)
  | quiet hquiet hrest ih =>
      refine .quiet hquiet (ih ?_)
      simpa [List.getLast?_cons] using hlater
  | low hlow hrest ih =>
      refine .low hlow (ih ?_)
      simpa [List.getLast?_cons] using hlater

/-- What is announced is the device's own. -/
theorem device_eq (h : Announced device threshold last events) :
    ∀ event ∈ events, event.device = device := by
  induction h with
  | nil => simp
  | other hdevice _ _ _ ih => exact List.forall_mem_cons.mpr ⟨hdevice, ih⟩
  | quiet _ _ ih => exact List.forall_mem_cons.mpr ⟨rfl, ih⟩
  | low _ _ ih => exact List.forall_mem_cons.mpr ⟨rfl, List.forall_mem_cons.mpr ⟨rfl, ih⟩⟩

/-- The battery is not told to be low before a reading. -/
theorem isLow_head? (h : Announced device threshold last events) :
    ∀ event ∈ events.head?, event.isLow = false := by
  intro event hevent
  cases h with
  | nil => cases hevent
  | other hdevice hreading hlow hrest =>
      cases hevent
      exact hlow
  | quiet | low =>
      cases hevent
      rfl

/-- The events from any one on are told in the same way, if this is not the news that the battery is
low, which cannot be cut off from its reading. -/
theorem drop (h : Announced device threshold last events) {before after : List Event}
    {event : Event} (hsplit : events = before ++ event :: after) (hlow : event.isLow = false) :
    Announced device threshold ((before.filterMap Event.reading?).getLast?.or last)
      (event :: after) := by
  induction h generalizing before with
  | nil => simp at hsplit
  | other hdevice hreading hother hrest ih =>
      cases before with
      | nil =>
          obtain ⟨rfl, rfl⟩ := List.cons.inj hsplit
          exact .other hdevice hreading hother hrest
      | cons first before =>
          obtain ⟨rfl, htail⟩ := List.cons.inj hsplit
          rw [List.filterMap_cons_none hreading]
          exact ih htail
  | quiet hquiet hrest ih =>
      cases before with
      | nil =>
          obtain ⟨rfl, rfl⟩ := List.cons.inj hsplit
          exact .quiet hquiet hrest
      | cons first before =>
          obtain ⟨rfl, htail⟩ := List.cons.inj hsplit
          simpa [List.getLast?_cons] using ih htail
  | low hsets hrest ih =>
      match before, hsplit with
      | [], hsplit =>
          obtain ⟨rfl, rfl⟩ := List.cons.inj hsplit
          exact .low hsets hrest
      | [first], hsplit =>
          obtain ⟨rfl, htail⟩ := List.cons.inj hsplit
          obtain ⟨rfl, -⟩ := List.cons.inj htail
          cases hlow
      | first :: second :: before, hsplit =>
          obtain ⟨rfl, htail⟩ := List.cons.inj hsplit
          obtain ⟨rfl, htail'⟩ := List.cons.inj htail
          simpa [List.getLast?_cons] using ih htail'

/-- What comes directly after a reading: the news that the battery is low, if the reading has set
off the alarm. -/
theorem head?_eq_lowBattery_iff {info : HardwareInfo}
    (h : Announced device threshold last (⟨device, .hardwareInfo info⟩ :: events))
    (soc limit : UInt8) :
    events.head? = some ⟨device, .lowBattery soc limit⟩ ↔
      soc = info.soc ∧ Alarm.SetsOff threshold last soc limit := by
  cases h with
  | other _ hreading => cases hreading
  | quiet hquiet hrest =>
      constructor
      · intro hhead
        exact absurd (hrest.isLow_head? _ hhead) (by simp)
      · rintro ⟨rfl, hsets⟩
        exact absurd hsets (hquiet limit)
  | low hsets hrest =>
      constructor
      · intro hhead
        cases hhead
        exact ⟨rfl, hsets⟩
      · rintro ⟨rfl, hsets'⟩
        obtain rfl : _ = limit := Option.some.inj (hsets.1.symm.trans hsets'.1)
        rfl

/-- The battery is told to be low directly after a reading only. -/
theorem exists_reading_before (h : Announced device threshold last events)
    {before after : List Event} {event : Event} (hsplit : events = before ++ event :: after)
    (hlow : event.isLow = true) :
    ∃ earlier info, before = earlier ++ [⟨device, .hardwareInfo info⟩] := by
  induction h generalizing before with
  | nil => simp at hsplit
  | other _ _ hother hrest ih =>
      cases before with
      | nil =>
          obtain ⟨rfl, rfl⟩ := List.cons.inj hsplit
          exact absurd hlow (by simp [hother])
      | cons first before =>
          obtain ⟨rfl, htail⟩ := List.cons.inj hsplit
          obtain ⟨earlier, info, rfl⟩ := ih htail
          exact ⟨_ :: earlier, info, rfl⟩
  | quiet _ hrest ih =>
      cases before with
      | nil =>
          obtain ⟨rfl, rfl⟩ := List.cons.inj hsplit
          cases hlow
      | cons first before =>
          obtain ⟨rfl, htail⟩ := List.cons.inj hsplit
          obtain ⟨earlier, info, rfl⟩ := ih htail
          exact ⟨_ :: earlier, info, rfl⟩
  | low _ hrest ih =>
      match before, hsplit with
      | [], hsplit =>
          obtain ⟨rfl, rfl⟩ := List.cons.inj hsplit
          cases hlow
      | [first], hsplit =>
          obtain ⟨rfl, -⟩ := List.cons.inj hsplit
          exact ⟨[], _, rfl⟩
      | first :: second :: before, hsplit =>
          obtain ⟨rfl, htail⟩ := List.cons.inj hsplit
          obtain ⟨rfl, htail'⟩ := List.cons.inj htail
          obtain ⟨earlier, info, rfl⟩ := ih htail'
          exact ⟨_ :: _ :: earlier, info, rfl⟩

/-- Where the news stands depends on the readings alone, and so does how often it is told. -/
theorem filter_isLow (h : Announced device threshold last events) :
    events.filter Event.isLow
      = threshold.elim [] fun limit =>
          (Alarm.crossings limit last (events.filterMap Event.reading?)).map fun soc =>
            ⟨device, .lowBattery soc limit⟩ := by
  induction h with
  | nil => cases threshold <;> rfl
  | other hdevice hreading hlow hrest ih =>
      rw [List.filter_cons_of_neg (by simp [hlow]), List.filterMap_cons_none hreading]
      exact ih
  | @quiet last info events hquiet hrest ih =>
      rw [List.filter_cons_of_neg (by simp), List.filterMap_cons_some (by rfl), ih]
      cases threshold with
      | none => rfl
      | some limit =>
          have hnot := mt Alarm.setsOff_some_iff.mpr (hquiet limit)
          simp only [Option.elim_some, Alarm.crossings, if_neg hnot]
  | @low last info limit events hsets hrest ih =>
      obtain rfl : threshold = some limit := hsets.1
      rw [List.filter_cons_of_neg (by simp), List.filter_cons_of_pos (by simp),
        List.filterMap_cons_some (by rfl), List.filterMap_cons_none (by rfl), ih]
      simp only [Option.elim_some, Alarm.crossings, if_pos (Alarm.setsOff_some_iff.mp hsets),
        List.map_cons]

end Announced

/-! ## Sessions -/

namespace Wire.Frame

variable {f : Wire.Frame}

/-- A frame that cannot be decoded gives no reading. -/
theorem reading?_of_undecoded (h : f.Undecoded) : f.reading? = none := by
  rw [reading?, if_neg]
  rintro ⟨hstatus, hregister, hlong⟩
  have hshort : f.payload.length < 23 := by simpa [Undecoded, hstatus, hregister] using h
  omega

/-- A frame has a reading where a session takes in the state of the pack. -/
theorem reading?_of_hardwareInfo (h : ¬ f.Undecoded) (hregister : f.register = 0x03) :
    f.reading? = f.payload[19]? := by
  have hfits : f.status = 0 ∧ 23 ≤ f.payload.length := by simpa [Undecoded, hregister] using h
  rw [reading?, if_pos ⟨hfits.1, hregister, hfits.2⟩]

/-- A frame of another register gives no reading. -/
theorem reading?_of_ne (hregister : f.register ≠ 0x03) : f.reading? = none := by
  rw [reading?, if_neg]
  rintro ⟨-, heq, -⟩
  exact hregister heq

end Wire.Frame

namespace BatterySession

variable {threshold last : Option UInt8} {s : BatterySession}

/-- A report about the hardware is announced, with a warning if the alarm goes off. -/
theorem announced_takeHardwareInfo (h : s.alarm.Awaits threshold last) (info : HardwareInfo)
    (now : Instant) :
    Announced s.device threshold last (s.takeHardwareInfo info now).events ∧
      (s.takeHardwareInfo info now).events.filterMap Event.reading? = [info.soc] ∧
      (s.takeHardwareInfo info now).session.alarm.Awaits threshold (some info.soc) := by
  obtain ⟨hraised, hawaits⟩ := h.update info.soc
  unfold takeHardwareInfo
  rcases hupdate : s.alarm.update info.soc with ⟨raised, alarm⟩
  rw [hupdate] at hraised hawaits
  cases raised with
  | none =>
      refine ⟨.quiet (fun limit hsets => ?_) .nil, rfl, hawaits⟩
      cases (hraised limit).mpr hsets
  | some limit => exact ⟨.low ((hraised limit).mp rfl) .nil, rfl, hawaits⟩

/-- The events of a frame are announced as they should be, whatever the frame is. -/
theorem announced_handleFrame (h : s.alarm.Awaits threshold last) (frame : Wire.Frame)
    (now : Instant) :
    Announced s.device threshold last (s.handleFrame frame now).events ∧
      (s.handleFrame frame now).events.filterMap Event.reading? = frame.reading?.toList ∧
      (s.handleFrame frame now).session.alarm.Awaits threshold (frame.reading?.or last) := by
  cases handling frame with
  | undecoded hundecoded hkept =>
      obtain ⟨logs, hkept⟩ := hkept s now
      rw [hkept, Wire.Frame.reading?_of_undecoded hundecoded]
      exact ⟨.nil, rfl, h⟩
  | hardwareInfo hdecoded hregister info hsoc htaken =>
      rw [htaken, Wire.Frame.reading?_of_hardwareInfo hdecoded hregister, hsoc]
      exact announced_takeHardwareInfo h info now
  | cellInfo _ hregister info htaken =>
      rw [htaken, Wire.Frame.reading?_of_ne (by rw [hregister]; decide)]
      exact ⟨.other rfl rfl rfl .nil, rfl, h⟩
  | deviceName _ hregister name htaken =>
      rw [htaken, Wire.Frame.reading?_of_ne (by rw [hregister]; decide)]
      exact ⟨.other rfl rfl rfl .nil, rfl, h⟩

/-- So are the events of several frames. -/
theorem announced_handleFrames (h : s.alarm.Awaits threshold last) (now : Instant)
    (frames : List Wire.Frame) :
    Announced s.device threshold last (s.handleFrames now frames).events ∧
      (s.handleFrames now frames).events.filterMap Event.reading?
        = frames.filterMap Wire.Frame.reading? := by
  induction frames generalizing s last with
  | nil => exact ⟨.nil, rfl⟩
  | cons frame frames ih =>
      obtain ⟨hfirst, hreadings, hawaits⟩ := announced_handleFrame h frame now
      obtain ⟨hrest, hlater⟩ := ih hawaits
      rw [device_handleFrame] at hrest
      have hlast : frame.reading?.toList.getLast?.or last = frame.reading?.or last := by
        cases frame.reading? <;> rfl
      rw [← hlast, ← hreadings] at hrest
      refine ⟨hfirst.append hrest, ?_⟩
      rw [handleFrames, List.filterMap_append, hreadings, hlater]
      cases hframe : frame.reading? with
      | none => rw [List.filterMap_cons_none hframe, Option.toList_none, List.nil_append]
      | some soc => rw [List.filterMap_cons_some hframe, Option.toList_some, List.singleton_append]

/-- So are those of a new session, over all its chunks. -/
theorem announced_handleChunks (device : String) (threshold : Option UInt8)
    (chunks : List (Bytes × Instant)) :
    Announced device threshold none ((new device threshold).handleChunks chunks).events ∧
      ((new device threshold).handleChunks chunks).events.filterMap Event.reading?
        = Wire.Reassembler.readings (chunks.map Prod.fst).flatten := by
  have hparked : Wire.Reassembler.Parked (new device threshold).reassembler.buffer := Or.inl rfl
  have hsame : (new device threshold).Alike (new device threshold) := ⟨rfl, rfl, rfl⟩
  have hawaits : (new device threshold).alarm.Awaits threshold none := Alarm.awaits_new threshold
  obtain ⟨hevents, -⟩ := hsame.handleChunks chunks ⟨0, 0⟩
  rw [Wire.Reassembler.feedAll_of_parked hparked] at hevents
  rw [hevents]
  exact announced_handleFrames hawaits ⟨0, 0⟩ _

/-- The last of some readings, by its place. -/
theorem forall_mem_getLast?_iff (limit : UInt8) (readings later : List UInt8) :
    (∀ p ∈ readings.getLast?, limit < p) ↔ readings.length = 0 ∨
      ∃ p, (readings ++ later)[readings.length - 1]? = some p ∧ limit < p := by
  rcases readings.eq_nil_or_concat with rfl | ⟨earlier, p, rfl⟩
  · simp
  · simp

/-- Of all that is sent to a session in any chunks, the readings are told in order.  Directly after
one of them, and nowhere else, the battery is told to be low: if the reading is at the threshold or
below and the one before it was not, or there was none.  So this is told once for every run of low
readings, and what else is sent, and in which chunks, makes no difference. -/
theorem low_told_once_a_run (device : String) (threshold : Option UInt8)
    (chunks : List (Bytes × Instant)) :
    let events := ((new device threshold).handleChunks chunks).events
    let readings := Wire.Reassembler.readings (chunks.map Prod.fst).flatten
    events.filterMap Event.reading? = readings ∧
      (∀ event ∈ events, event.device = device) ∧
      (∀ before info after, events = before ++ ⟨device, .hardwareInfo info⟩ :: after →
        let i := (before.filterMap Event.reading?).length
        readings[i]? = some info.soc ∧ ∀ soc limit,
          after.head? = some ⟨device, .lowBattery soc limit⟩ ↔
            threshold = some limit ∧ soc = info.soc ∧ soc ≤ limit ∧
              (i = 0 ∨ ∃ p, readings[i - 1]? = some p ∧ limit < p)) ∧
      (∀ before event after, events = before ++ event :: after → event.isLow = true →
        ∃ earlier info, before = earlier ++ [⟨device, .hardwareInfo info⟩]) ∧
      (∀ limit, threshold = some limit →
        events.countP Event.isLow = (Alarm.lowRuns limit readings).length) ∧
      (threshold = none → events.countP Event.isLow = 0) ∧
      ∀ chunks', Wire.Reassembler.readings (chunks'.map Prod.fst).flatten = readings →
        ((new device threshold).handleChunks chunks').events.filter Event.isLow
          = events.filter Event.isLow := by
  intro events readings
  obtain ⟨htold, hreadings⟩ : Announced device threshold none events ∧
      events.filterMap Event.reading? = readings := announced_handleChunks device threshold chunks
  have hlows := htold.filter_isLow
  rw [hreadings] at hlows
  refine ⟨hreadings, htold.device_eq, fun before info after hsplit => ?_,
    fun before event after hsplit hlow => htold.exists_reading_before hsplit hlow,
    fun limit hlimit => ?_, fun hnone => ?_, fun chunks' hsame => ?_⟩
  · intro i
    have hwhole : readings
        = before.filterMap Event.reading? ++ info.soc :: after.filterMap Event.reading? := by
      rw [← hreadings, hsplit, List.filterMap_append, List.filterMap_cons_some (by rfl)]
    refine ⟨?_, fun soc limit => ?_⟩
    · simp [hwhole, i]
    · rw [(htold.drop hsplit rfl).head?_eq_lowBattery_iff, Alarm.SetsOff, Option.or_none,
        forall_mem_getLast?_iff limit _ (info.soc :: after.filterMap Event.reading?), ← hwhole]
      exact and_left_comm
  · rw [List.countP_eq_length_filter, hlows, hlimit, Option.elim_some, List.length_map,
      Alarm.length_crossings]
  · rw [List.countP_eq_length_filter, hlows, hnone]
    rfl
  · obtain ⟨htold', hreadings'⟩ := announced_handleChunks device threshold chunks'
    rw [htold'.filter_isLow, hreadings', hsame, hlows]

/-- Of the readings 50, 20, 10, 30 and 15 the second and the last are told to be low. -/
theorem low_told_once_a_run_of_two :
    let payload (soc : UInt8) : Bytes := List.replicate 19 0 ++ [soc, 0, 0, 0]
    let frame (soc : UInt8) : Bytes :=
      Wire.Frame.toBytes
        { register := 0x03
          status := 0
          payload := payload soc
          checksum := Wire.Checksum.compute (Wire.Frame.covered 0 (payload soc)) }
    let chunks : List (Bytes × Instant) :=
      [(frame 50 ++ (frame 20).take 9, ⟨1, 0⟩), ((frame 20).drop 9 ++ frame 10, ⟨2, 0⟩),
        (frame 30 ++ frame 15, ⟨3, 0⟩)]
    let events := ((new "battery" (some 20)).handleChunks chunks).events
    let readings := Wire.Reassembler.readings (chunks.map Prod.fst).flatten
    readings = [50, 20, 10, 30, 15] ∧ Alarm.lowRuns 20 readings = [[20, 10], [15]] ∧
      events.countP Event.isLow = 2 := by
  intro payload frame chunks events readings
  have hreadings : readings = [50, 20, 10, 30, 15] := by decide +kernel
  have hruns : Alarm.lowRuns 20 [50, 20, 10, 30, 15] = [[20, 10], [15]] := by decide +kernel
  obtain ⟨-, -, -, -, hcount, -, -⟩ := low_told_once_a_run "battery" (some 20) chunks
  refine ⟨hreadings, hreadings ▸ hruns, ?_⟩
  rw [hcount 20 rfl, show Wire.Reassembler.readings _ = _ from hreadings, hruns]
  rfl

end BatterySession

end SensorGateway
