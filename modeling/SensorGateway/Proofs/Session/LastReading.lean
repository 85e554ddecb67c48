import Mathlib.Data.List.Induction
import SensorGateway.Proofs.Session.Outputs
import SensorGateway.Proofs.Session.Reports

/-!
# A tank's record is that of its last reading

A reading that is merged writes every field that all readings have, and takes away every field that
only a reliable one has before it writes those that it can.  So nothing of an older reading is left
(`Record.timeless_mergeTank_of_tank`), and a session that has heard many broadcasts is like one that
has heard the last reading among them and nothing else (`TankSession.Since.alike_last_accepted`).

Whether a reading is reliable is looked at twice, where its level is computed and where it is merged.
The two agree, so a field of the level is in the record exactly if the event has the level
(`TankSession.nothing_stale_shown`).
-/

namespace SensorGateway

/-! ## The fields of a reading -/

namespace Record

variable {r r' : Record} {name : String}

/-- The fields of a level. -/
def levelNames : List String := ["level_mm", "level_in"]

/-- The fields of a volume. -/
def volumeNames : List String :=
  ["gallons", "level_compensated_in", "level_from_top_in", "offset_in"]

/-- The fields that every reading has. -/
def readingNames : List String :=
  ["model", "mac_suffix", "battery_voltage", "battery_percentage", "button_pressed", "temperature",
    "raw_level", "quality", "quality_raw", "accel_x", "accel_y", "level_valid"]

/-- The fields of a level and a volume, as far as they are known. -/
def levelPart (levelMm : Option Float) (volume : Option (VolumeReading Float)) :
    List (String × Field) :=
  (levelMm.map levelEntries).getD [] ++ (volume.map volumeEntries).getD []

/-- The fields about the level are those of the level itself and those of the volume. -/
theorem levelFields_eq : levelFields = levelNames ++ volumeNames := rfl

/-- A reading sets the fields that are named after it. -/
theorem map_fst_readingFields (reading : TankReading) :
    (readingFields reading).map Prod.fst = readingNames := rfl

/-- What is told of a level goes into the fields about the level. -/
theorem mem_levelFields_of_mem_levelPart {levelMm : Option Float}
    {volume : Option (VolumeReading Float)}
    (h : name ∈ (levelPart levelMm volume).map Prod.fst) : name ∈ levelFields := by
  rw [levelPart, List.map_append, List.mem_append] at h
  rw [levelFields_eq, List.mem_append]
  refine h.imp (fun hlevel => ?_) fun hvolume => ?_
  · cases levelMm with
    | none => cases hlevel
    | some levelMm => exact hlevel
  · cases volume with
    | none => cases hvolume
    | some volume => exact hvolume

/-- Fields that are removed are gone, and the others stay. -/
theorem get?_removeAll (r : Record) (names : List String) (name : String) :
    (r.removeAll names).get? name = if name ∈ names then none else r.get? name := by
  unfold removeAll
  induction names generalizing r with
  | nil => rfl
  | cons first names ih =>
      have hremove : (r.remove first).get? name = if name = first then none else r.get? name :=
        KeyMap.find?_erase r.fields first name
      rw [List.foldl_cons, ih, hremove]
      by_cases hfirst : name = first
      · simp [hfirst]
      · simp [hfirst]

/-- To merge a broadcast is to set its reading, to remove the level, and to set it again if it can
be relied on. -/
theorem mergeTank_eq (r : Record) (reading : TankReading) (levelMm : Option Float)
    (volume : Option (VolumeReading Float)) (now : Instant) :
    r.mergeTank reading levelMm volume now
      = (((r.setAll (readingFields reading)).removeAll levelFields).setAll
          (if reading.isReliable then levelPart levelMm volume else [])).touch now := by
  unfold mergeTank
  dsimp only
  split
  · simp only [setAll, levelPart, List.foldl_append]
  · simp only [setAll, List.foldl_nil]

/-- What a record says of a field once a reading has been merged. -/
theorem get?_mergeTank (r : Record) (reading : TankReading) (levelMm : Option Float)
    (volume : Option (VolumeReading Float)) (now : Instant) (name : String) :
    (r.mergeTank reading levelMm volume now).get? name
      = if name ∈ levelFields then
          if reading.isReliable then (levelPart levelMm volume).reverse.lookup name else none
        else (r.setAll (readingFields reading)).get? name := by
  have htouch (r : Record) : (r.touch now).get? name = r.get? name := rfl
  rw [mergeTank_eq, htouch]
  by_cases hname : name ∈ levelFields
  · rw [if_pos hname, get?_setAll, get?_removeAll, if_pos hname, Option.or_none]
    split
    · rfl
    · rfl
  · rw [if_neg hname, get?_setAll_of_not_mem, get?_removeAll, if_neg hname]
    split
    · exact fun hmem => hname (mem_levelFields_of_mem_levelPart hmem)
    · exact List.not_mem_nil

/-! ## Records of tanks -/

/-- Nothing has been merged into the record but readings. -/
structure OfTank (r : Record) : Prop where
  sorted : KeyMap.Sorted r.fields
  others : ∀ name, name ∉ readingNames → name ∉ levelFields → r.get? name = none
  cells : r.cells = .empty
  temperatures : r.temperatures = .empty
  balancing : r.balancing = .empty

/-- A record in which nothing is set may be a tank's. -/
theorem ofTank_empty : Record.empty.OfTank := ⟨KeyMap.sorted_nil, fun _ _ _ => rfl, rfl, rfl, rfl⟩

/-- Removing fields leaves the others in their order. -/
theorem sorted_removeAll (h : KeyMap.Sorted r.fields) (names : List String) :
    KeyMap.Sorted (r.removeAll names).fields := by
  unfold removeAll
  induction names generalizing r with
  | nil => exact h
  | cons name names ih => exact ih (h.erase name)

/-- Removing fields leaves the series alone. -/
theorem series_removeAll (r : Record) (names : List String) :
    (r.removeAll names).cells = r.cells ∧ (r.removeAll names).temperatures = r.temperatures ∧
      (r.removeAll names).balancing = r.balancing := by
  unfold removeAll
  induction names generalizing r with
  | nil => exact ⟨rfl, rfl, rfl⟩
  | cons name names ih => exact ih (r.remove name)

/-- Merging a broadcast leaves the fields in their order. -/
theorem sorted_mergeTank (h : KeyMap.Sorted r.fields) (reading : TankReading)
    (levelMm : Option Float) (volume : Option (VolumeReading Float)) (now : Instant) :
    KeyMap.Sorted (r.mergeTank reading levelMm volume now).fields := by
  rw [mergeTank_eq]
  exact sorted_setAll (sorted_removeAll (sorted_setAll h _) _) _

/-- A reading leaves the series alone. -/
theorem series_mergeTank (r : Record) (reading : TankReading) (levelMm : Option Float)
    (volume : Option (VolumeReading Float)) (now : Instant) :
    (r.mergeTank reading levelMm volume now).cells = r.cells ∧
      (r.mergeTank reading levelMm volume now).temperatures = r.temperatures ∧
      (r.mergeTank reading levelMm volume now).balancing = r.balancing := by
  have hremoved := series_removeAll (r.setAll (readingFields reading)) levelFields
  simp only [setAll_eq r] at hremoved
  simpa only [mergeTank_eq, touch, setAll_eq] using hremoved

/-- A tank's record stays one when a broadcast is merged. -/
theorem OfTank.mergeTank (h : r.OfTank) (reading : TankReading) (levelMm : Option Float)
    (volume : Option (VolumeReading Float)) (now : Instant) :
    (r.mergeTank reading levelMm volume now).OfTank := by
  obtain ⟨hcells, htemperatures, hbalancing⟩ := series_mergeTank r reading levelMm volume now
  refine ⟨sorted_mergeTank h.sorted reading levelMm volume now, fun name hreading hlevel => ?_,
    hcells.trans h.cells, htemperatures.trans h.temperatures, hbalancing.trans h.balancing⟩
  rw [get?_mergeTank, if_neg hlevel, get?_setAll_of_not_mem]
  · exact h.others name hreading hlevel
  · rw [map_fst_readingFields]
    exact hreading

/-- A reading leaves nothing of those before it. -/
theorem timeless_mergeTank_of_tank (h : r.OfTank) (h' : r'.OfTank) (reading : TankReading)
    (levelMm : Option Float) (volume : Option (VolumeReading Float)) (now now' : Instant) :
    (r.mergeTank reading levelMm volume now).timeless
      = (r'.mergeTank reading levelMm volume now').timeless := by
  have hmerged := h.mergeTank reading levelMm volume now
  have hmerged' := h'.mergeTank reading levelMm volume now'
  refine timeless_eq_iff.mpr ⟨?_, ?_, ?_, ?_⟩
  · refine hmerged.sorted.ext hmerged'.sorted fun name => ?_
    change get? _ name = get? _ name
    by_cases hlevel : name ∈ levelFields
    · simp only [get?_mergeTank, if_pos hlevel]
    · by_cases hreading : name ∈ readingNames
      · simp only [get?_mergeTank, if_neg hlevel]
        rw [← map_fst_readingFields reading] at hreading
        exact get?_setAll_of_mem hreading r r'
      · rw [hmerged.others name hreading hlevel, hmerged'.others name hreading hlevel]
  · rw [hmerged.cells, hmerged'.cells]
  · rw [hmerged.temperatures, hmerged'.temperatures]
  · rw [hmerged.balancing, hmerged'.balancing]

/-- Where only a reliable reading has a level or a volume, what is there is in the record, and nothing
else. -/
theorem isSome_get?_mergeTank (r : Record) {reading : TankReading} {levelMm : Option Float}
    {volume : Option (VolumeReading Float)} (hlevel : levelMm.isSome → reading.isReliable = true)
    (hvolume : volume.isSome → reading.isReliable = true) (now : Instant) :
    (∀ name ∈ levelNames,
        ((r.mergeTank reading levelMm volume now).get? name).isSome = levelMm.isSome) ∧
      ∀ name ∈ volumeNames,
        ((r.mergeTank reading levelMm volume now).get? name).isSome = volume.isSome := by
  have hget (name : String) (hname : name ∈ levelFields) :
      (r.mergeTank reading levelMm volume now).get? name
        = (levelPart levelMm volume).reverse.lookup name := by
    rw [get?_mergeTank, if_pos hname]
    split
    · rfl
    next hunreliable =>
      have hnone : levelMm = none := Option.not_isSome_iff_eq_none.mp (mt hlevel hunreliable)
      have hnone' : volume = none := Option.not_isSome_iff_eq_none.mp (mt hvolume hunreliable)
      rw [hnone, hnone']
      rfl
  refine ⟨fun name hname => ?_, fun name hname => ?_⟩
  · rw [hget name (List.mem_append_left _ hname)]
    simp only [levelNames, List.mem_cons, List.not_mem_nil, or_false] at hname
    rcases hname with rfl | rfl <;> cases levelMm <;> cases volume <;> rfl
  · rw [hget name (List.mem_append_right levelNames hname)]
    simp only [volumeNames, List.mem_cons, List.not_mem_nil, or_false] at hname
    rcases hname with rfl | rfl | rfl | rfl <;> cases levelMm <;> cases volume <;> rfl

/-- Whether the level is valid is told by the quality of the echo. -/
theorem get?_level_valid_mergeTank (r : Record) (reading : TankReading) (levelMm : Option Float)
    (volume : Option (VolumeReading Float)) (now : Instant) :
    (r.mergeTank reading levelMm volume now).get? "level_valid"
      = some (.flag (decide (1 ≤ reading.qualityRaw))) := by
  rw [get?_mergeTank, if_neg (by decide), get?_setAll]
  rfl

end Record

/-! ## One broadcast -/

/-- The reading in a broadcast, if it has one. -/
def TankReading.ofPayload? (payload : Bytes) : Option TankReading :=
  (TankReading.decode payload).toOption

namespace TankSession

variable {s s' : TankSession} {payload : Bytes} {reading : TankReading}

/-- What is said when there is no calibration. -/
def uncalibrated (device : String) : Log.Entry where
  level := .warn
  source := .session
  message := s!"Tank {device}: no medium configured, level will not be calculated"

/-- A payload that is rejected leaves a session as it is. -/
theorem handleAdvertisement_of_rejected (s : TankSession)
    (h : TankReading.ofPayload? payload = none) (now : Instant) :
    s.handleAdvertisement payload now = { session := s, events := [], logs := [] } := by
  unfold TankReading.ofPayload? at h
  unfold handleAdvertisement
  cases hdecode : TankReading.decode payload with
  | error e => rfl
  | ok reading =>
      rw [hdecode] at h
      cases h

/-- A payload that is accepted is merged, and told as one event. -/
theorem handleAdvertisement_of_accepted (s : TankSession)
    (h : TankReading.ofPayload? payload = some reading) (now : Instant) :
    s.handleAdvertisement payload now =
      { session :=
          { s with
            record := s.record.mergeTank reading (s.levelMm? reading)
              (s.volume? (s.levelMm? reading)) now
            warnedUncalibrated := s.warnedUncalibrated || s.calibration.isNone }
        events :=
          [{ device := s.device
             happening := .tank reading (s.levelMm? reading) (s.volume? (s.levelMm? reading)) }]
        logs :=
          if s.calibration.isNone && !s.warnedUncalibrated then [uncalibrated s.device] else [] } := by
  unfold TankReading.ofPayload? at h
  unfold handleAdvertisement
  cases hdecode : TankReading.decode payload with
  | error e =>
      rw [hdecode] at h
      cases h
  | ok found =>
      rw [hdecode] at h
      cases h
      cases s.calibration.isNone <;> cases hwarned : s.warnedUncalibrated <;> simp [uncalibrated]

/-! ## What there is to tell of a reading -/

/-- The level of a reading can be told: it is reliable, and there is a calibration. -/
def TellsLevel (calibration : Option Calibration) (reading : TankReading) : Prop :=
  1 ≤ reading.qualityRaw ∧ calibration.isSome = true

/-- The volume can be told too: the table has a point. -/
def TellsVolume (calibration : Option Calibration) (volume : Option (VolumeTable Float))
    (reading : TankReading) : Prop :=
  TellsLevel calibration reading ∧ ∃ table ∈ volume, table.points ≠ []

/-- A level is told only of a reading that can be relied on. -/
theorem isReliable_of_tellsLevel {calibration : Option Calibration}
    (h : TellsLevel calibration reading) : reading.isReliable = true :=
  decide_eq_true h.1

/-- The record says whether the reading is reliable, and has the fields of a level and of a volume
exactly if they can be told. -/
structure Shows (calibration : Option Calibration) (volume : Option (VolumeTable Float))
    (reading : TankReading) (r : Record) : Prop where
  valid : r.get? "level_valid" = some (.flag (decide (1 ≤ reading.qualityRaw)))
  level : ∀ name ∈ Record.levelNames,
    (r.get? name).isSome = true ↔ TellsLevel calibration reading
  volume : ∀ name ∈ Record.volumeNames,
    (r.get? name).isSome = true ↔ TellsVolume calibration volume reading

/-- There is a level exactly if it can be told. -/
theorem isSome_levelMm? (s : TankSession) (reading : TankReading) :
    (s.levelMm? reading).isSome = true ↔ TellsLevel s.calibration reading := by
  unfold TellsLevel levelMm? TankReading.levelMm? TankReading.isReliable
  cases s.calibration with
  | none => simp
  | some calibration => simp

/-- There is a volume exactly if it can be told. -/
theorem isSome_volume? (s : TankSession) (reading : TankReading) :
    (s.volume? (s.levelMm? reading)).isSome = true
      ↔ TellsVolume s.calibration s.volume reading := by
  rw [TellsVolume, ← isSome_levelMm?]
  unfold volume? VolumeTable.convert? VolumeTable.maxHeight?
  cases s.volume with
  | none => simp
  | some table =>
      cases s.levelMm? reading with
      | none => simp
      | some levelMm => cases hpoints : table.points <;> simp [hpoints]

/-- After an accepted payload the record shows its reading. -/
theorem shows_handleAdvertisement (s : TankSession)
    (h : TankReading.ofPayload? payload = some reading) (now : Instant) :
    Shows s.calibration s.volume reading (s.handleAdvertisement payload now).session.record := by
  have hlevel := s.isSome_levelMm? reading
  have hvolume := s.isSome_volume? reading
  obtain ⟨hlevelFields, hvolumeFields⟩ := s.record.isSome_get?_mergeTank
    (fun hsome => isReliable_of_tellsLevel (hlevel.mp hsome))
    (fun hsome => isReliable_of_tellsLevel (hvolume.mp hsome).1) now
  rw [s.handleAdvertisement_of_accepted h]
  refine ⟨Record.get?_level_valid_mergeTank _ _ _ _ _, fun name hname => ?_, fun name hname => ?_⟩
  · rw [hlevelFields name hname, hlevel]
  · rw [hvolumeFields name hname, hvolume]

/-! ## One session and another -/

/-- The session is what `origin` may have become: it has been given nothing but broadcasts. -/
structure Since (origin s : TankSession) : Prop where
  device : s.device = origin.device
  calibration : s.calibration = origin.calibration
  volume : s.volume = origin.volume
  heightOffsetIn : s.heightOffsetIn = origin.heightOffsetIn
  record : s.record.OfTank
  warned : s.warnedUncalibrated = true → s.calibration.isNone = true

variable {origin : TankSession}

/-- A new session has been given nothing yet. -/
theorem since_new (device : String) (calibration : Option Calibration)
    (volume : Option (VolumeTable Float)) (heightOffsetIn : Float) :
    Since (new device calibration volume heightOffsetIn)
      (new device calibration volume heightOffsetIn) :=
  ⟨rfl, rfl, rfl, rfl, Record.ofTank_empty, fun h => nomatch h⟩

/-- An advertisement leaves a session as one that has been given nothing but broadcasts. -/
theorem Since.handleAdvertisement (h : Since origin s) (payload : Bytes) (now : Instant) :
    Since origin (s.handleAdvertisement payload now).session := by
  cases hreading : TankReading.ofPayload? payload with
  | none =>
      rw [s.handleAdvertisement_of_rejected hreading]
      exact h
  | some reading =>
      rw [s.handleAdvertisement_of_accepted hreading]
      refine ⟨h.device, h.calibration, h.volume, h.heightOffsetIn, h.record.mergeTank _ _ _ _, ?_⟩
      intro hwarned
      exact (Bool.or_eq_true _ _ ▸ hwarned).elim h.warned id

/-- Of two sessions that were made from the same, what they have heard before makes no difference once
they hear a reading. -/
theorem Since.alike (h : Since origin s) (h' : Since origin s')
    (hreading : TankReading.ofPayload? payload = some reading) (now now' : Instant) :
    (s.handleAdvertisement payload now).session.Alike
      (s'.handleAdvertisement payload now').session := by
  have hcalibration := h.calibration.trans h'.calibration.symm
  have hlevel : s.levelMm? reading = s'.levelMm? reading := by
    simp only [levelMm?, hcalibration]
  have hvolume (levelMm : Option Float) : s.volume? levelMm = s'.volume? levelMm := by
    simp only [volume?, h.volume, h'.volume, h.heightOffsetIn, h'.heightOffsetIn]
  have hwarned (s : TankSession) (h : Since origin s) :
      (s.warnedUncalibrated || s.calibration.isNone) = s.calibration.isNone :=
    Bool.or_eq_right_iff_imp.mpr h.warned
  rw [s.handleAdvertisement_of_accepted hreading, s'.handleAdvertisement_of_accepted hreading]
  refine ⟨h.device.trans h'.device.symm, hcalibration, h.volume.trans h'.volume.symm,
    h.heightOffsetIn.trans h'.heightOffsetIn.symm, ?_, ?_⟩
  · rw [← hlevel, ← hvolume]
    exact Record.timeless_mergeTank_of_tank h.record h'.record _ _ _ now now'
  · change (s.warnedUncalibrated || s.calibration.isNone)
      = (s'.warnedUncalibrated || s'.calibration.isNone)
    rw [hwarned s h, hwarned s' h', hcalibration]

/-! ## All that has been heard -/

/-- Handles broadcasts one after another, each at its time. -/
def handleAll (s : TankSession) : List (Bytes × Instant) → Handled TankSession
  | [] => { session := s, events := [], logs := [] }
  | (payload, now) :: heard =>
      let first := s.handleAdvertisement payload now
      let later := first.session.handleAll heard
      { session := later.session
        events := first.events ++ later.events
        logs := first.logs ++ later.logs }

/-- The readings in what has been heard. -/
def readings (heard : List (Bytes × Instant)) : List TankReading :=
  heard.filterMap fun broadcast => TankReading.ofPayload? broadcast.1

/-- The last broadcast with a reading, if there is one. -/
def lastAccepted (heard : List (Bytes × Instant)) : Option (Bytes × Instant) :=
  (heard.filter fun broadcast => (TankReading.ofPayload? broadcast.1).isSome).getLast?

/-- A further payload adds its reading, if it is accepted. -/
theorem readings_concat (heard : List (Bytes × Instant)) (payload : Bytes) (now : Instant) :
    readings (heard ++ [(payload, now)])
      = readings heard ++ (TankReading.ofPayload? payload).toList := by
  rw [readings, readings, List.filterMap_append]
  cases h : TankReading.ofPayload? payload <;> simp [h]

/-- The last payload that was accepted is the further one if it is, else the one before. -/
theorem lastAccepted_concat (heard : List (Bytes × Instant)) (payload : Bytes) (now : Instant) :
    lastAccepted (heard ++ [(payload, now)])
      = if (TankReading.ofPayload? payload).isSome then some (payload, now)
        else lastAccepted heard := by
  rw [lastAccepted, lastAccepted, List.filter_append]
  cases h : TankReading.ofPayload? payload <;> simp [h]

/-- A further advertisement is handled by the session that the earlier ones have left. -/
theorem session_handleAll_concat (s : TankSession) (heard : List (Bytes × Instant))
    (payload : Bytes) (now : Instant) :
    (s.handleAll (heard ++ [(payload, now)])).session
      = ((s.handleAll heard).session.handleAdvertisement payload now).session := by
  induction heard generalizing s with
  | nil => rfl
  | cons broadcast heard ih => exact ih _

/-- So do several advertisements. -/
theorem Since.handleAll (h : Since origin s) (heard : List (Bytes × Instant)) :
    Since origin (s.handleAll heard).session := by
  induction heard generalizing s with
  | nil => exact h
  | cons broadcast heard ih => exact ih (h.handleAdvertisement broadcast.1 broadcast.2)

/-- A session is like one that has heard the last reading and nothing else. -/
theorem Since.alike_last_accepted (h : Since origin origin) (heard : List (Bytes × Instant)) :
    (origin.handleAll heard).session.Alike
      (origin.handleAll (lastAccepted heard).toList).session := by
  induction heard using List.reverseRecOn with
  | nil => exact ⟨rfl, rfl, rfl, rfl, rfl, rfl⟩
  | append_singleton heard broadcast ih =>
      obtain ⟨payload, now⟩ := broadcast
      rw [session_handleAll_concat, lastAccepted_concat]
      cases hreading : TankReading.ofPayload? payload with
      | none =>
          rw [handleAdvertisement_of_rejected _ hreading]
          exact ih
      | some reading => exact (h.handleAll heard).alike h hreading now now

/-- A session warns of missing calibration once it has accepted a payload, if there is none. -/
theorem warnedUncalibrated_handleAll (device : String) (calibration : Option Calibration)
    (volume : Option (VolumeTable Float)) (heightOffsetIn : Float)
    (heard : List (Bytes × Instant)) :
    ((new device calibration volume heightOffsetIn).handleAll heard).session.warnedUncalibrated
      = (calibration.isNone && !(readings heard).isEmpty) := by
  have horigin := since_new device calibration volume heightOffsetIn
  induction heard using List.reverseRecOn with
  | nil => exact (Bool.and_false _).symm
  | append_singleton heard broadcast ih =>
      obtain ⟨payload, now⟩ := broadcast
      rw [session_handleAll_concat, readings_concat]
      cases hreading : TankReading.ofPayload? payload with
      | none =>
          rw [handleAdvertisement_of_rejected _ hreading, Option.toList_none, List.append_nil]
          exact ih
      | some reading =>
          have hsince := horigin.handleAll heard
          rw [handleAdvertisement_of_accepted _ hreading]
          change (_ || _) = _
          rw [Bool.or_eq_right_iff_imp.mpr hsince.warned, hsince.calibration]
          simp [new]

/-- After the last reading the record shows what can be told of it. -/
theorem Since.shows_last (h : Since origin s) {last : TankReading} (heard : List (Bytes × Instant))
    (hlast : (readings heard).getLast? = some last) :
    Shows origin.calibration origin.volume last (s.handleAll heard).session.record := by
  induction heard using List.reverseRecOn with
  | nil => cases hlast
  | append_singleton heard broadcast ih =>
      obtain ⟨payload, now⟩ := broadcast
      rw [readings_concat] at hlast
      rw [session_handleAll_concat]
      cases hreading : TankReading.ofPayload? payload with
      | none =>
          rw [hreading, Option.toList_none, List.append_nil] at hlast
          rw [handleAdvertisement_of_rejected _ hreading]
          exact ih hlast
      | some reading =>
          rw [hreading, Option.toList_some, List.getLast?_concat] at hlast
          cases hlast
          have hsince := h.handleAll heard
          rw [← hsince.calibration, ← hsince.volume]
          exact shows_handleAdvertisement _ hreading now

/-- Whatever a tank sensor has broadcast, its session is like a new one that has heard the last reading
only, and its record shows of that reading what can be told.  A broadcast without a reading changes
nothing and tells nothing; one with a reading is told with the level and the volume that can be told of
it.  If there is no calibration, the first reading is the one with which that is said. -/
theorem nothing_stale_shown (device : String) (calibration : Option Calibration)
    (volume : Option (VolumeTable Float)) (heightOffsetIn : Float)
    (heard : List (Bytes × Instant)) :
    let fresh := new device calibration volume heightOffsetIn
    let s := (fresh.handleAll heard).session
    s.Alike (fresh.handleAll (lastAccepted heard).toList).session ∧
      (∀ last, (readings heard).getLast? = some last → Shows calibration volume last s.record) ∧
      (∀ payload now, TankReading.ofPayload? payload = none →
        s.handleAdvertisement payload now = { session := s, events := [], logs := [] }) ∧
      ∀ payload now reading, TankReading.ofPayload? payload = some reading →
        (∃ levelMm volumeReading,
          (s.handleAdvertisement payload now).events
              = [{ device, happening := .tank reading levelMm volumeReading }] ∧
            (levelMm.isSome = true ↔ TellsLevel calibration reading) ∧
            (volumeReading.isSome = true ↔ TellsVolume calibration volume reading)) ∧
          (s.handleAdvertisement payload now).logs
            = if calibration.isNone && (readings heard).isEmpty then [uncalibrated device]
              else [] := by
  intro fresh s
  have horigin : Since fresh fresh := since_new device calibration volume heightOffsetIn
  have hsince : Since fresh s := horigin.handleAll heard
  have hwarned : s.warnedUncalibrated = (calibration.isNone && !(readings heard).isEmpty) :=
    warnedUncalibrated_handleAll device calibration volume heightOffsetIn heard
  refine ⟨horigin.alike_last_accepted heard, fun last hlast => horigin.shows_last heard hlast,
    fun payload now hreading => s.handleAdvertisement_of_rejected hreading now,
    fun payload now reading hreading => ⟨?_, ?_⟩⟩
  · refine ⟨s.levelMm? reading, s.volume? (s.levelMm? reading), ?_, ?_, ?_⟩
    · rw [s.handleAdvertisement_of_accepted hreading, hsince.device]
      rfl
    · rw [isSome_levelMm?, hsince.calibration]
      rfl
    · rw [isSome_volume?, hsince.calibration, hsince.volume]
      rfl
  · rw [s.handleAdvertisement_of_accepted hreading, hsince.device]
    have hcalibration : s.calibration = calibration := hsince.calibration
    rw [hcalibration, hwarned]
    change (if _ then [uncalibrated device] else []) = _
    cases calibration.isNone <;> cases (readings heard).isEmpty <;> rfl

/-- A full tank, then a reading without quality and something that is no reading: the level of the
first is gone, and with the next good reading it is told again. -/
theorem nothing_stale_shown_after_unreliable :
    let full : Bytes := [0x03, 0x40, 0x28, 0xE8, 0xC3, 0x0F, 0x37, 0xA5, 0x10, 0x20]
    let faint : Bytes := [0x03, 0x40, 0x28, 0xE8, 0x03, 0x0F, 0x37, 0xA5, 0x10, 0x20]
    let table : VolumeTable Float := { points := [⟨50, 0⟩, ⟨0, 1000⟩] }
    let heard : List (Bytes × Instant) := [(full, ⟨1, 0⟩), (faint, ⟨2, 0⟩), ([0x07], ⟨3, 0⟩)]
    let fresh := new "tank" (some .propane) (some table) 0
    let s := (fresh.handleAll heard).session
    TankReading.ofPayload? [0x07] = none ∧
      (s.handleAdvertisement [0x07] ⟨4, 0⟩).events = [] ∧
      ((readings heard).getLast?.map (·.qualityRaw)) = some 0 ∧
      (∀ name ∈ Record.levelNames, (s.record.get? name).isSome = false) ∧
      ((TankReading.ofPayload? full).map (·.qualityRaw)) = some 3 ∧
      ∃ reading levelMm volume,
        (s.handleAdvertisement full ⟨4, 0⟩).events
            = [{ device := "tank", happening := .tank reading levelMm volume }] ∧
          volume.isSome = true := by
  intro full faint table heard fresh s
  obtain ⟨-, hshows, hrejected, haccepted⟩ :=
    nothing_stale_shown "tank" (some .propane) (some table) 0 heard
  have hnone : TankReading.ofPayload? [0x07] = none := by decide +kernel
  have hfaint : ((readings heard).getLast?.map (·.qualityRaw)) = some 0 := by decide +kernel
  have hfull : ((TankReading.ofPayload? full).map (·.qualityRaw)) = some 3 := by decide +kernel
  refine ⟨hnone, by rw [hrejected _ ⟨4, 0⟩ hnone], hfaint, fun name hname => ?_, hfull, ?_⟩
  · obtain ⟨last, hlast, hquality⟩ := Option.map_eq_some_iff.mp hfaint
    have hlevel := (hshows last hlast).level name hname
    rw [TellsLevel, hquality] at hlevel
    exact Bool.eq_false_iff.mpr fun hsome => absurd (hlevel.mp hsome).1 (by decide)
  · obtain ⟨reading, hreading, hquality⟩ := Option.map_eq_some_iff.mp hfull
    obtain ⟨⟨levelMm, volume, hevents, -, hvolume⟩, -⟩ := haccepted full ⟨4, 0⟩ reading hreading
    refine ⟨reading, levelMm, volume, hevents, hvolume.mpr ⟨⟨?_, rfl⟩, table, rfl, by decide⟩⟩
    rw [hquality]
    decide

end TankSession

end SensorGateway
