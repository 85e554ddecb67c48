import Mathlib
import SensorGateway.Proofs.Session.LastReading
import SensorGateway.Proofs.Session.Reports

/-!
# A payload says what is in the record

All parts of a payload are put into one object, where of two members with one key the later counts.  So
a field with the name of a series, or of the device's identifier, would take its place.  No message has
such a field: whatever is merged, the names of the fields of a record are among those that the messages
have (`Record.Merged.kept`), and none of these is a name that the payload uses for something else.  So
no key is written twice (`Record.Kept.nodup_written`), and every member that is written is there.
-/

namespace SensorGateway

/-! ## Fields -/

/-- A field in a payload: the value itself, or null for a number that is not finite. -/
inductive Field.Shown : Field → Json → Prop
  | finite {x : Float} (h : x.isFinite = true) : Shown (.number x) (.float x)
  | notFinite {x : Float} (h : x.isFinite = false) : Shown (.number x) .null
  | integer (n : Int) : Shown (.integer n) (.integer n)
  | flag (b : Bool) : Shown (.flag b) (.bool b)
  | text (s : String) : Shown (.text s) (.string s)

/-- A field is shown as what it is. -/
theorem Field.shown_toJson (f : Field) : f.Shown f.toJson := by
  cases f with
  | number x =>
      show Shown (.number x) (if x.isFinite then .float x else .null)
      split
      next hfinite => exact .finite hfinite
      next hinfinite => exact .notFinite (Bool.eq_false_iff.mpr hinfinite)
  | integer n => exact .integer n
  | flag b => exact .flag b
  | text s => exact .text s

/-! ## Series -/

namespace Series

variable {capacity : Nat} {s : Series capacity}

/-- No more slots are in use than there are. -/
def Fits (s : Series capacity) : Prop := s.size ≤ capacity

/-- A series without values fits. -/
theorem fits_empty : (empty : Series capacity).Fits := Nat.zero_le capacity

/-- A series that is replaced fits, for what there is no room for is left out. -/
theorem fits_setAll (s : Series capacity) (values : List Float) : (s.setAll values).Fits :=
  Nat.min_le_right values.length capacity

/-- A series that fits has as many values as it says. -/
theorem Fits.length_toList (h : s.Fits) : s.toList.length = s.size := by
  unfold Fits size at h
  simp [toList, size, h]

/-- Every number up to the size has a value. -/
theorem Fits.exists_get? (h : s.Fits) {index : Nat} (hpos : 1 ≤ index) (hle : index ≤ s.size) :
    ∃ x, s.get? index = some x := by
  obtain ⟨i, rfl⟩ := Nat.exists_eq_add_of_le' hpos
  have hlt : i < s.toList.length := by
    rw [h.length_toList]
    exact hle
  exact ⟨s.toList[i], List.getElem?_eq_getElem hlt⟩

/-- A value under its number is among the numbered values. -/
theorem mem_numbered {index : Nat} {x : Float} (hx : s.get? index = some x) :
    (index, x) ∈ s.numbered := by
  cases index with
  | zero => cases hx
  | succ i =>
      have hmem : (x, i + 1) ∈ s.toList.zipIdx 1 := by
        rw [List.mk_mem_zipIdx_iff_le_and_getElem?_sub]
        exact ⟨Nat.le_add_left 1 i, hx⟩
      exact List.mem_map.mpr ⟨(x, i + 1), hmem, rfl⟩

/-- Values are numbered from one. -/
theorem Fits.map_fst_numbered (h : s.Fits) :
    s.numbered.map Prod.fst = List.range' 1 s.size := by
  unfold numbered
  rw [List.map_map, ← h.length_toList]
  exact List.zipIdx_map_snd 1 s.toList

/-- The object has a member for each number up to the size, which says the value, and no other. -/
structure Lists (s : Series capacity) (members : KeyMap Json) : Prop where
  keys : (KeyMap.keys members).Perm ((List.range' 1 s.size).map toString)
  nodup : (KeyMap.keys members).Nodup
  values : ∀ index, 1 ≤ index → index ≤ s.size → ∃ x j, s.get? index = some x ∧
    members.find? (toString index) = some j ∧ (Field.number x).Shown j

/-- The members of the object for a series, in the order in which they are written. -/
def written (s : Series capacity) : List (String × Json) :=
  s.numbered.map fun (index, x) => (toString index, Json.number x)

/-- Values are written under their numbers. -/
theorem Fits.keys_written (h : s.Fits) :
    KeyMap.keys s.written = (List.range' 1 s.size).map toString := by
  rw [← h.map_fst_numbered, KeyMap.keys, written, List.map_map, List.map_map]
  rfl

/-- No number is written twice. -/
theorem Fits.nodup_written (h : s.Fits) : (KeyMap.keys s.written).Nodup := by
  rw [h.keys_written]
  apply List.Pairwise.map toString _ List.nodup_range'
  intro i j hne heq
  exact hne (Nat.repr_injective heq)

/-- What is written of a series is what it holds. -/
theorem Fits.lists (h : s.Fits) : s.Lists (KeyMap.ofList s.written) where
  keys := by
    rw [← h.keys_written]
    exact (KeyMap.ofList_perm h.nodup_written).map Prod.fst
  nodup := ((KeyMap.ofList_perm h.nodup_written).map Prod.fst).nodup_iff.mpr h.nodup_written
  values index hpos hle := by
    obtain ⟨x, hx⟩ := h.exists_get? hpos hle
    refine ⟨x, Json.number x, hx, ?_, Field.shown_toJson (.number x)⟩
    exact KeyMap.find?_ofList h.nodup_written
      (List.mem_map.mpr ⟨(index, x), mem_numbered hx, rfl⟩)

end Series

/-! ## Records that messages make -/

namespace Record

/-- Nothing has happened to the record but messages being merged. -/
inductive Merged : Record → Prop
  | empty : Merged .empty
  | report {r : Record} (h : Merged r) (m : Report) (now : Instant) : Merged (r.merge m now)
  | reading {r : Record} (h : Merged r) (reading : TankReading) (levelMm : Option Float)
      (volume : Option (VolumeReading Float)) (now : Instant) :
      Merged (r.mergeTank reading levelMm volume now)

/-- The names of fields that messages have. -/
def messageNames : List String :=
  Wire.Register.hardwareInfo.fieldNames ++ Wire.Register.cellInfo.fieldNames
    ++ Wire.Register.deviceName.fieldNames ++ readingNames ++ levelFields

/-- The names that a payload uses for something else. -/
def reserved : List String :=
  ["device_id", "timestamp", "cell_voltages", "temperatures", "balancing"]

/-- The fields of a report are among those that messages name. -/
theorem mem_messageNames_of_register {k : Wire.Register} {name : String}
    (h : name ∈ k.fieldNames) : name ∈ messageNames := by
  simp only [messageNames, List.mem_append]
  cases k with
  | hardwareInfo => exact Or.inl (Or.inl (Or.inl (Or.inl h)))
  | cellInfo => exact Or.inl (Or.inl (Or.inl (Or.inr h)))
  | deviceName => exact Or.inl (Or.inl (Or.inr h))

/-- No field of a message has a name that is used for something else. -/
theorem not_mem_messageNames : ∀ name ∈ reserved, name ∉ messageNames := by
  decide

/-- No series uses more slots than there are. -/
structure Fits (r : Record) : Prop where
  cells : r.cells.Fits
  temperatures : r.temperatures.Fits
  balancing : r.balancing.Fits

/-- The fields are in order and have names that messages have, and the series fit. -/
structure Kept (r : Record) : Prop where
  sorted : KeyMap.Sorted r.fields
  named : ∀ name, name ∉ messageNames → r.get? name = none
  fits : r.Fits

variable {r : Record}

/-- The series of an empty record fit. -/
theorem fits_empty : Record.empty.Fits :=
  ⟨Series.fits_empty, Series.fits_empty, Series.fits_empty⟩

/-- An empty record has no fields that could have wrong names. -/
theorem kept_empty : Record.empty.Kept :=
  ⟨KeyMap.sorted_nil, fun _ _ => rfl, fits_empty⟩

/-- Series fit after a report has been merged, -/
theorem Fits.merge (h : r.Fits) (m : Report) (now : Instant) : (r.merge m now).Fits := by
  cases m with
  | hardwareInfo info =>
      rw [Record.merge, mergeHardwareInfo_eq]
      exact ⟨h.cells, Series.fits_setAll _ _, Series.fits_setAll _ _⟩
  | cellInfo info =>
      rw [Record.merge, mergeCellInfo_eq]
      exact ⟨Series.fits_setAll _ _, h.temperatures, h.balancing⟩
  | deviceName text => exact ⟨h.cells, h.temperatures, h.balancing⟩

/-- and after a broadcast has. -/
theorem Fits.mergeTank (h : r.Fits) (reading : TankReading) (levelMm : Option Float)
    (volume : Option (VolumeReading Float)) (now : Instant) :
    (r.mergeTank reading levelMm volume now).Fits := by
  obtain ⟨hcells, htemperatures, hbalancing⟩ := series_mergeTank r reading levelMm volume now
  constructor
  · rw [hcells]
    exact h.cells
  · rw [htemperatures]
    exact h.temperatures
  · rw [hbalancing]
    exact h.balancing

/-- A record that has merged a report has fields with names of messages, -/
theorem Kept.merge (h : r.Kept) (m : Report) (now : Instant) : (r.merge m now).Kept where
  sorted := sorted_merge h.sorted m now
  named name hname := by
    rw [get?_merge_of_not_mem (fun hmem => hname (mem_messageNames_of_register hmem))]
    exact h.named name hname
  fits := h.fits.merge m now

/-- and so has one that has merged a broadcast. -/
theorem Kept.mergeTank (h : r.Kept) (reading : TankReading) (levelMm : Option Float)
    (volume : Option (VolumeReading Float)) (now : Instant) :
    (r.mergeTank reading levelMm volume now).Kept where
  sorted := sorted_mergeTank h.sorted reading levelMm volume now
  named name hname := by
    have hlevel : name ∉ levelFields := fun hmem => hname (List.mem_append_right _ hmem)
    have hreading : name ∉ readingNames := fun hmem =>
      hname (List.mem_append_left _ (List.mem_append_right _ hmem))
    rw [get?_mergeTank, if_neg hlevel, get?_setAll_of_not_mem]
    · exact h.named name hname
    · rw [map_fst_readingFields]
      exact hreading
  fits := h.fits.mergeTank reading levelMm volume now

/-- Whatever has been merged, the names are those of messages, and the series fit. -/
theorem Merged.kept (h : r.Merged) : r.Kept := by
  induction h with
  | empty => exact kept_empty
  | report _ m now ih => exact ih.merge m now
  | reading _ reading levelMm volume now ih => exact ih.mergeTank reading levelMm volume now

/-! ## What is written into a payload -/

/-- The members of a payload, in the order in which they are written. -/
def written (r : Record) (device : String) (now : Instant) : List (String × Json) :=
  [("device_id", Json.string device), ("timestamp", Json.string (r.updatedAt.getD now).text)]
    ++ r.fields.map (fun (name, value) => (name, value.toJson))
    ++ seriesMember "cell_voltages" r.cells
    ++ seriesMember "temperatures" r.temperatures
    ++ seriesMember "balancing" r.balancing

/-- A payload is what is written of a record, made into an object. -/
theorem payload_eq (r : Record) (device : String) (now : Instant) :
    r.payload device now = Json.ofMembers (r.written device now) :=
  rfl

/-- The names of the series that are not empty. -/
def seriesNames (r : Record) : List String :=
  (if r.cells.size = 0 then [] else ["cell_voltages"])
    ++ (if r.temperatures.size = 0 then [] else ["temperatures"])
    ++ (if r.balancing.size = 0 then [] else ["balancing"])

/-- A series is written if it has values. -/
theorem seriesMember_eq {capacity : Nat} (name : String) (s : Series capacity) :
    seriesMember name s
      = if s.size = 0 then [] else [(name, .object (KeyMap.ofList s.written))] := by
  have hempty : s.isEmpty = decide (s.size = 0) := rfl
  simp only [seriesMember, hempty, decide_eq_true_eq]
  rfl

/-- A series is written under its name. -/
theorem keys_seriesMember {capacity : Nat} (name : String) (s : Series capacity) :
    KeyMap.keys (seriesMember name s) = if s.size = 0 then [] else [name] := by
  rw [seriesMember_eq]
  split <;> rfl

/-- A payload is written under the names of device, time, fields and series. -/
theorem keys_written (r : Record) (device : String) (now : Instant) :
    KeyMap.keys (r.written device now)
      = ["device_id", "timestamp"] ++ r.fields.keys ++ r.seriesNames := by
  have hfields : KeyMap.keys (r.fields.map fun (name, value) => (name, value.toJson))
      = r.fields.keys := by
    rw [KeyMap.keys, List.map_map]
    rfl
  have happend (m m' : KeyMap Json) : KeyMap.keys (m ++ m') = m.keys ++ m'.keys :=
    List.map_append
  unfold written seriesNames
  simp only [happend, hfields, keys_seriesMember, List.append_assoc]
  rfl

/-- Device, time and series have names that no field has, each of them another. -/
theorem seriesNames_sublist (r : Record) :
    (["device_id", "timestamp"] ++ r.seriesNames).Sublist reserved := by
  have hone {capacity : Nat} (name : String) (s : Series capacity) :
      (if s.size = 0 then [] else [name]).Sublist [name] := by
    split
    · exact List.nil_sublist _
    · exact List.Sublist.refl _
  apply List.Sublist.append_left
  exact ((hone _ r.cells).append (hone _ r.temperatures)).append (hone _ r.balancing)

/-- No key is written twice. -/
theorem Kept.nodup_written (h : r.Kept) (device : String) (now : Instant) :
    (KeyMap.keys (r.written device now)).Nodup := by
  have hfields : r.fields.keys.Nodup := by
    refine List.Pairwise.imp (fun {a b} hlt heq => ?_) h.sorted
    rw [heq] at hlt
    exact String.lt_irrefl b hlt
  have hreserved : (["device_id", "timestamp"] ++ r.seriesNames).Nodup :=
    r.seriesNames_sublist.nodup (by decide)
  have hmove : (["device_id", "timestamp"] ++ r.fields.keys ++ r.seriesNames).Perm
      (["device_id", "timestamp"] ++ r.seriesNames ++ r.fields.keys) := by
    rw [List.append_assoc, List.append_assoc]
    exact List.perm_append_comm.append_left _
  rw [keys_written, hmove.nodup_iff]
  apply hreserved.append hfields
  -- a field's name is that of a field of a message
  intro name hname hfield
  obtain ⟨⟨found, value⟩, hmem, rfl⟩ := List.mem_map.mp hfield
  have hsome : r.get? found = some value := KeyMap.find?_of_mem h.sorted hmem
  have hnone : r.get? found = none :=
    h.named found (not_mem_messageNames found (r.seriesNames_sublist.subset hname))
  rw [hnone] at hsome
  cases hsome

/-- The members say what the record of a device has, and nothing else. -/
structure SaidBy (r : Record) (device : String) (now : Instant) (members : KeyMap Json) :
    Prop where
  keys : (KeyMap.keys members).Perm
    (["device_id", "timestamp"] ++ r.fields.keys ++ r.seriesNames)
  nodup : (KeyMap.keys members).Nodup
  device : members.find? "device_id" = some (.string device)
  time : members.find? "timestamp" = some (.string (r.updatedAt.getD now).text)
  fields : ∀ name value, r.get? name = some value →
    ∃ j, members.find? name = some j ∧ value.Shown j
  cells : r.cells.size ≠ 0 →
    ∃ nested, members.find? "cell_voltages" = some (.object nested) ∧ r.cells.Lists nested
  temperatures : r.temperatures.size ≠ 0 →
    ∃ nested, members.find? "temperatures" = some (.object nested) ∧ r.temperatures.Lists nested
  balancing : r.balancing.size ≠ 0 →
    ∃ nested, members.find? "balancing" = some (.object nested) ∧ r.balancing.Lists nested

/-- A series that has values is a member of the payload. -/
theorem mem_seriesMember {capacity : Nat} (name : String) {s : Series capacity}
    (hsize : s.size ≠ 0) :
    (name, Json.object (KeyMap.ofList s.written)) ∈ seriesMember name s := by
  rw [seriesMember_eq, if_neg hsize]
  exact List.mem_cons_self

/-- Of a record that is kept so, the payload says everything, and nothing else. -/
theorem Kept.saidBy (h : r.Kept) (device : String) (now : Instant) :
    r.SaidBy device now (KeyMap.ofList (r.written device now)) := by
  have hnodup := h.nodup_written device now
  have hperm := (KeyMap.ofList_perm hnodup).map Prod.fst
  have hfound {key : String} {value : Json} (hmem : (key, value) ∈ r.written device now) :=
    KeyMap.find?_ofList hnodup hmem
  refine ⟨?_, hperm.nodup_iff.mpr hnodup, hfound ?_, hfound ?_, ?_, ?_, ?_, ?_⟩
  · rw [← keys_written r device now]
    exact hperm
  · simp [written]
  · simp [written]
  · intro name value hvalue
    refine ⟨value.toJson, hfound ?_, value.shown_toJson⟩
    have hmem : (name, value.toJson) ∈ r.fields.map fun (name, value) => (name, value.toJson) :=
      List.mem_map.mpr ⟨(name, value), KeyMap.mem_of_find? hvalue, rfl⟩
    simp only [written, List.mem_append]
    exact Or.inl (Or.inl (Or.inl (Or.inr hmem)))
  · intro hsize
    refine ⟨_, hfound ?_, h.fits.cells.lists⟩
    simp only [written, List.mem_append]
    exact Or.inl (Or.inl (Or.inr (mem_seriesMember _ hsize)))
  · intro hsize
    refine ⟨_, hfound ?_, h.fits.temperatures.lists⟩
    simp only [written, List.mem_append]
    exact Or.inl (Or.inr (mem_seriesMember _ hsize))
  · intro hsize
    refine ⟨_, hfound ?_, h.fits.balancing.lists⟩
    simp only [written, List.mem_append]
    exact Or.inr (mem_seriesMember _ hsize)

/-- **A payload says what is in the record.**  Whatever messages have been merged into a record, and in
whatever order, the payload for a device is the object of members that are written one after another,
no key twice.  Its keys are those of the identifier and of the time, the names of the record's fields,
and the names of the series that are not empty.  It says the identifier given, the time of the record
(or the present time if it has none), of each field its own value, null for a number that is not finite,
and of each series that is not empty an object with the keys from `1` to its size and under each the
value with this number. -/
theorem payload_says_record (h : r.Merged) (device : String) (now : Instant) :
    r.payload device now = Json.ofMembers (r.written device now) ∧
      (KeyMap.keys (r.written device now)).Nodup ∧
      ∃ members, r.payload device now = .object members ∧ r.SaidBy device now members :=
  ⟨payload_eq r device now, h.kept.nodup_written device now, _, payload_eq r device now,
    h.kept.saidBy device now⟩

/-- A record of a battery with a tank's reading among its reports; its second cell has no voltage. -/
theorem payload_says_record_of_two_kinds :
    let cells : CellInfo Float :=
      { voltages := [4, 0 / 0], min := 4, minIndex := 1, max := 4, maxIndex := 1, delta := 0,
        mean := 4 }
    let reading : TankReading :=
      { model := .proCheck, batteryVoltage := 3, batteryPercentage := 50, buttonPressed := false,
        temperatureCode := 60, temperature := 20, rawLevel := 100, qualityRaw := 2, quality := 66,
        macSuffix := { first := 1, second := 2, third := 3 }, accelX := 0, accelY := 0 }
    let named := Record.empty.merge (.deviceName "Pack") default
    let r := (named.mergeTank reading (some 7) none default).merge (.cellInfo cells) default
    r.Merged ∧ ∃ members nested : KeyMap Json, r.payload "b" default = .object members ∧
      members.find? "device_id" = some (.string "b") ∧
      members.find? "device_name" = some (.string "Pack") ∧
      members.find? "cell_voltages" = some (.object nested) ∧
      (KeyMap.keys nested).Perm ["1", "2"] ∧ nested.find? "1" = some (.float 4) ∧
      nested.find? "2" = some .null := by
  intro cells reading named r
  have hmerged : r.Merged :=
    ((Merged.empty.report (.deviceName "Pack") default).reading reading (some 7) none
      default).report (.cellInfo cells) default
  obtain ⟨-, -, members, hpayload, hsaid⟩ := payload_says_record hmerged "b" default
  have hname : r.get? "device_name" = some (.text "Pack") := by
    rw [get?_merge_of_not_mem (by decide), get?_mergeTank, if_neg (by decide),
      get?_setAll_of_not_mem]
    · rfl
    · rw [map_fst_readingFields]
      decide
  have hcells : r.cells.toList = [4, 0 / 0] := by
    simp only [r, Record.merge, mergeCellInfo_eq, Series.toList_setAll]
    rfl
  have hsize : r.cells.size = 2 := by
    simp only [r, Record.merge, mergeCellInfo_eq]
    rfl
  have hget (i : Nat) : r.cells.get? (i + 1) = [(4 : Float), 0 / 0][i]? := by
    rw [← hcells]
    rfl
  obtain ⟨nested, hnested, hlists⟩ := hsaid.cells (by rw [hsize]; decide)
  obtain ⟨j, hj, hpack⟩ := hsaid.fields _ _ hname
  obtain ⟨x, first, hx, hfirst, hshown⟩ := hlists.values 1 (by decide) (by rw [hsize]; decide)
  obtain ⟨y, second, hy, hsecond, hshown'⟩ := hlists.values 2 (by decide) hsize.ge
  rw [hget] at hx hy
  cases hx
  cases hy
  cases hpack
  refine ⟨hmerged, members, nested, hpayload, hsaid.device, hj, hnested, ?_, ?_, ?_⟩
  · have hkeys := hlists.keys
    rw [hsize] at hkeys
    exact hkeys
  · cases hshown with
    | finite => exact hfirst
    | notFinite h => exact absurd h (by decide +kernel)
  · cases hshown' with
    | finite h => exact absurd h (by decide +kernel)
    | notFinite => exact hsecond

end Record

end SensorGateway
