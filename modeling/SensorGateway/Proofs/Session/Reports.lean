import SensorGateway.Proofs.Session.Stream

/-!
# What a report changes in a record

A battery reports three kinds of things: the state of the pack, the voltage of every cell, its name.
Each kind has fields and series of its own.  A report that is merged writes or takes away every
field of its kind, and fills the series of its kind anew, so nothing of an older report of that kind
stays (`Record.sameIn_merge_own`); and it leaves alone what belongs to the others
(`Record.sameIn_merge_other`).
-/

namespace SensorGateway

/-! ## What a series shows -/

namespace Series

variable {capacity : Nat}

/-- The series have the same number of values, and the same value under each number. -/
structure Same (s s' : Series capacity) : Prop where
  size : s.size = s'.size
  get? : ∀ index, s.get? index = s'.get? index

/-- A series shows the same as itself. -/
theorem Same.refl (s : Series capacity) : s.Same s := ⟨rfl, fun _ => rfl⟩

/-- If one series shows the same as another, so does the other. -/
theorem Same.symm {s s' : Series capacity} (h : s.Same s') : s'.Same s :=
  ⟨h.size.symm, fun index => (h.get? index).symm⟩

/-- Series that show the same as a third show the same. -/
theorem Same.trans {s s' s'' : Series capacity} (h : s.Same s') (h' : s'.Same s'') : s.Same s'' :=
  ⟨h.size.trans h'.size, fun index => (h.get? index).trans (h'.get? index)⟩

/-- Slots that are not in use hold what was there before, but nobody sees them. -/
theorem toList_setAll (s : Series capacity) (values : List Float) :
    (s.setAll values).toList = values.take capacity := by
  unfold toList setAll
  refine List.ext_getElem ?_ fun i hi hi' => ?_
  · simp
    omega
  · have hlength : i < values.length := by
      simp at hi'
      omega
    simp [hlength]

/-- What a series shows once it has been filled does not depend on what was in it. -/
theorem same_setAll (s s' : Series capacity) (values : List Float) :
    (s.setAll values).Same (s'.setAll values) := by
  refine ⟨rfl, fun index => ?_⟩
  unfold Series.get?
  rw [toList_setAll, toList_setAll]

end Series

/-! ## Reports -/

/-- What a battery can report of itself. -/
inductive Report
  | hardwareInfo (info : HardwareInfo)
  | cellInfo (info : CellInfo Float)
  | deviceName (name : String)

/-- The report that has been told, if this is one. -/
def Happening.report? : Happening → Option Report
  | .hardwareInfo info => some (.hardwareInfo info)
  | .cellInfo info => some (.cellInfo info)
  | .deviceName name => some (.deviceName name)
  | .tank _ _ _ | .lowBattery _ _ => none

/-- The fields that belong to the answers of a register. -/
def Wire.Register.fieldNames : Wire.Register → List String
  | hardwareInfo =>
      ["manufacture_date", "total_voltage", "current", "power", "remaining_capacity",
        "nominal_capacity", "cycles", "balance_status", "error_bits", "errors", "software_version",
        "soc", "charging_enabled", "discharging_enabled", "cell_string_count",
        "temperature_sensor_count"]
  | cellInfo =>
      ["total_cells", "cell_voltage_min", "cell_voltage_min_index", "cell_voltage_max",
        "cell_voltage_max_index", "cell_voltage_delta", "cell_voltage_mean"]
  | deviceName => ["device_name"]

/-- No field belongs to two registers. -/
theorem Wire.Register.disjoint_fieldNames {k k' : Wire.Register} (hne : k ≠ k') :
    ∀ name ∈ k.fieldNames, name ∉ k'.fieldNames := by
  cases k <;> cases k' <;> first | exact absurd rfl hne | decide

namespace Report

/-- The register that the report is an answer of. -/
def register : Report → Wire.Register
  | hardwareInfo _ => .hardwareInfo
  | cellInfo _ => .cellInfo
  | deviceName _ => .deviceName

end Report

/-! ## Merging a report -/

namespace Record

/-- Merges a report. -/
def merge (r : Record) (m : Report) (now : Instant) : Record :=
  match m with
  | .hardwareInfo info => r.mergeHardwareInfo info now
  | .cellInfo info => r.mergeCellInfo info now
  | .deviceName name => r.mergeDeviceName name now

variable {r r' : Record} {name : String}

/-- After fields have been set the last one of a name is found. -/
theorem get?_setAll (r : Record) (entries : List (String × Field)) (name : String) :
    (r.setAll entries).get? name = (entries.reverse.lookup name).or (r.get? name) := by
  rw [setAll_eq]
  exact KeyMap.find?_insertAll r.fields entries name

/-- What is found under a name that was set does not depend on the record. -/
theorem get?_setAll_of_mem {entries : List (String × Field)} (h : name ∈ entries.map Prod.fst)
    (r r' : Record) : (r.setAll entries).get? name = (r'.setAll entries).get? name := by
  obtain ⟨entry, hmem, rfl⟩ := List.mem_map.mp h
  have hfound : (entries.reverse.lookup entry.1).isSome = true :=
    List.lookup_isSome_iff.mpr ⟨entry, List.mem_reverse.mpr hmem, beq_self_eq_true _⟩
  rw [get?_setAll, get?_setAll, Option.or_of_isSome hfound, Option.or_of_isSome hfound]

/-- What is found under other names is what was there. -/
theorem get?_setAll_of_not_mem {entries : List (String × Field)} (h : name ∉ entries.map Prod.fst)
    (r : Record) : (r.setAll entries).get? name = r.get? name := by
  have hnone : entries.reverse.lookup name = none := by
    refine List.lookup_eq_none_iff.mpr fun entry hmem => bne_iff_ne.mpr ?_
    rintro rfl
    exact h (List.mem_map_of_mem (List.mem_reverse.mp hmem))
  rw [get?_setAll, hnone, Option.none_or]

/-- The manufacture date is set if there is one, and else removed. -/
theorem get?_setManufactureDate (r : Record) (date : Option Date) (name : String) :
    (r.setManufactureDate date).get? name
      = if name = "manufacture_date" then date.map fun d => .text d.text else r.get? name := by
  cases date with
  | none => exact KeyMap.find?_erase r.fields "manufacture_date" name
  | some date => exact KeyMap.find?_insert r.fields "manufacture_date" (.text date.text) name

/-- A report about the hardware sets the fields of its register. -/
theorem map_fst_hardwareFields (info : HardwareInfo) :
    "manufacture_date" :: (hardwareFields info).map Prod.fst
      = Wire.Register.hardwareInfo.fieldNames := rfl

/-- A report about the cells sets the fields of its register. -/
theorem map_fst_cellFields (info : CellInfo Float) :
    (cellFields info).map Prod.fst = Wire.Register.cellInfo.fieldNames := rfl

/-- To merge a report about the hardware is to set its fields and two series. -/
theorem mergeHardwareInfo_eq (r : Record) (info : HardwareInfo) (now : Instant) :
    r.mergeHardwareInfo info now
      = { fields := ((r.setAll (hardwareFields info)).setManufactureDate info.manufactureDate).fields
          cells := r.cells
          temperatures := r.temperatures.setAll info.temperatures
          balancing := r.balancing.setAll (balancingOf info)
          updatedAt := some now } := by
  unfold mergeHardwareInfo
  cases info.manufactureDate with
  | none => simp only [setManufactureDate, remove, setAll_eq]
  | some date => simp only [setManufactureDate, set, setAll_eq]

/-- To merge a report about the cells is to set its fields and one series. -/
theorem mergeCellInfo_eq (r : Record) (info : CellInfo Float) (now : Instant) :
    r.mergeCellInfo info now
      = { r with
          fields := (r.setAll (cellFields info)).fields
          cells := r.cells.setAll info.voltages
          updatedAt := some now } := by
  simp only [mergeCellInfo, setAll_eq]

/-- To merge a name is to set one field. -/
theorem mergeDeviceName_eq (r : Record) (text : String) (now : Instant) :
    r.mergeDeviceName text now
      = { r with
          fields := r.fields.insert "device_name" (.text text)
          updatedAt := some now } := rfl

/-- After a report about the hardware the date is the one in it, or there is none. -/
theorem get?_mergeHardwareInfo (r : Record) (info : HardwareInfo) (now : Instant) (name : String) :
    (r.mergeHardwareInfo info now).get? name
      = if name = "manufacture_date" then info.manufactureDate.map fun d => .text d.text
        else (r.setAll (hardwareFields info)).get? name := by
  rw [← get?_setManufactureDate, mergeHardwareInfo_eq, get?, get?]

/-- After a report about the cells its fields are found. -/
theorem get?_mergeCellInfo (r : Record) (info : CellInfo Float) (now : Instant) (name : String) :
    (r.mergeCellInfo info now).get? name = (r.setAll (cellFields info)).get? name := by
  rw [mergeCellInfo_eq, get?, get?]

/-- After a name has been merged it is found. -/
theorem get?_mergeDeviceName (r : Record) (text : String) (now : Instant) (name : String) :
    (r.mergeDeviceName text now).get? name
      = if name = "device_name" then some (.text text) else r.get? name := by
  rw [mergeDeviceName_eq]
  exact KeyMap.find?_insert r.fields "device_name" (.text text) name

/-- What a report says of the fields of its kind, it says whatever the record was. -/
theorem get?_merge_of_mem {m : Report} (h : name ∈ m.register.fieldNames) (r r' : Record)
    (now now' : Instant) : (r.merge m now).get? name = (r'.merge m now').get? name := by
  cases m with
  | hardwareInfo info =>
      rw [Report.register, ← map_fst_hardwareFields info] at h
      simp only [merge, get?_mergeHardwareInfo]
      split
      · rfl
      next hdate => exact get?_setAll_of_mem (List.mem_of_ne_of_mem hdate h) r r'
  | cellInfo info =>
      rw [Report.register, ← map_fst_cellFields info] at h
      simp only [merge, get?_mergeCellInfo]
      exact get?_setAll_of_mem h r r'
  | deviceName text =>
      have hname : name = "device_name" := List.mem_singleton.mp h
      simp only [merge, get?_mergeDeviceName, if_pos hname]

/-- What a report says nothing of, it leaves alone. -/
theorem get?_merge_of_not_mem {m : Report} (h : name ∉ m.register.fieldNames) (r : Record)
    (now : Instant) : (r.merge m now).get? name = r.get? name := by
  cases m with
  | hardwareInfo info =>
      rw [Report.register, ← map_fst_hardwareFields info, List.mem_cons, not_or] at h
      obtain ⟨hdate, hothers⟩ := h
      simp only [merge, get?_mergeHardwareInfo, if_neg hdate]
      exact get?_setAll_of_not_mem hothers r
  | cellInfo info =>
      rw [Report.register, ← map_fst_cellFields info] at h
      simp only [merge, get?_mergeCellInfo]
      exact get?_setAll_of_not_mem h r
  | deviceName text =>
      have hname : name ≠ "device_name" := fun heq => h (List.mem_singleton.mpr heq)
      simp only [merge, get?_mergeDeviceName, if_neg hname]

/-- Setting fields leaves them sorted, -/
theorem sorted_setAll (h : KeyMap.Sorted r.fields) (entries : List (String × Field)) :
    KeyMap.Sorted (r.setAll entries).fields := by
  rw [setAll_eq]
  exact h.insertAll entries

/-- and so does setting the date, -/
theorem sorted_setManufactureDate (h : KeyMap.Sorted r.fields) (date : Option Date) :
    KeyMap.Sorted (r.setManufactureDate date).fields := by
  cases date with
  | none => exact h.erase "manufacture_date"
  | some date => exact h.insert "manufacture_date" (.text date.text)

/-- and so does merging a report. -/
theorem sorted_merge (h : KeyMap.Sorted r.fields) (m : Report) (now : Instant) :
    KeyMap.Sorted (r.merge m now).fields := by
  cases m with
  | hardwareInfo info =>
      rw [merge, mergeHardwareInfo_eq]
      exact sorted_setManufactureDate (sorted_setAll h (hardwareFields info)) info.manufactureDate
  | cellInfo info =>
      rw [merge, mergeCellInfo_eq]
      exact sorted_setAll h (cellFields info)
  | deviceName text =>
      rw [merge, mergeDeviceName_eq]
      exact h.insert "device_name" (.text text)

/-! ## What belongs to a kind -/

/-- The records show the same of what belongs to a register: its fields, and its series. -/
structure SameIn (k : Wire.Register) (r r' : Record) : Prop where
  fields : ∀ name ∈ k.fieldNames, r.get? name = r'.get? name
  cells : k = .cellInfo → r.cells.Same r'.cells
  temperatures : k = .hardwareInfo → r.temperatures.Same r'.temperatures
  balancing : k = .hardwareInfo → r.balancing.Same r'.balancing

variable {k : Wire.Register}

/-- In what a register tells, a record is the same as itself. -/
theorem SameIn.refl (k : Wire.Register) (r : Record) : SameIn k r r :=
  ⟨fun _ _ => rfl, fun _ => .refl _, fun _ => .refl _, fun _ => .refl _⟩

/-- If one record is the same in it as another, so is the other. -/
theorem SameIn.symm (h : SameIn k r r') : SameIn k r' r where
  fields name hname := (h.fields name hname).symm
  cells hk := (h.cells hk).symm
  temperatures hk := (h.temperatures hk).symm
  balancing hk := (h.balancing hk).symm

/-- Records that are the same in it as a third are the same in it. -/
theorem SameIn.trans {r'' : Record} (h : SameIn k r r') (h' : SameIn k r' r'') :
    SameIn k r r'' where
  fields name hname := (h.fields name hname).trans (h'.fields name hname)
  cells hk := (h.cells hk).trans (h'.cells hk)
  temperatures hk := (h.temperatures hk).trans (h'.temperatures hk)
  balancing hk := (h.balancing hk).trans (h'.balancing hk)

/-- A report says everything about its kind, so nothing is left there of what the record was. -/
theorem sameIn_merge_own (m : Report) (r r' : Record) (now now' : Instant) :
    SameIn m.register (r.merge m now) (r'.merge m now') where
  fields _ hname := get?_merge_of_mem hname r r' now now'
  cells hk := by
    cases m with
    | cellInfo info =>
        simp only [merge, mergeCellInfo_eq]
        exact Series.same_setAll _ _ _
    | hardwareInfo | deviceName => cases hk
  temperatures hk := by
    cases m with
    | hardwareInfo info =>
        simp only [merge, mergeHardwareInfo_eq]
        exact Series.same_setAll _ _ _
    | cellInfo | deviceName => cases hk
  balancing hk := by
    cases m with
    | hardwareInfo info =>
        simp only [merge, mergeHardwareInfo_eq]
        exact Series.same_setAll _ _ _
    | cellInfo | deviceName => cases hk

/-- A report says nothing about the other kinds. -/
theorem sameIn_merge_other {m : Report} (hne : k ≠ m.register) (r : Record) (now : Instant) :
    SameIn k (r.merge m now) r where
  fields name hname :=
    get?_merge_of_not_mem (Wire.Register.disjoint_fieldNames hne name hname) r now
  cells hk := by
    cases m with
    | cellInfo info => exact absurd hk hne
    | hardwareInfo info =>
        rw [merge, mergeHardwareInfo_eq]
        exact .refl _
    | deviceName text => exact .refl _
  temperatures hk := by
    cases m with
    | hardwareInfo info => exact absurd hk hne
    | cellInfo info =>
        rw [merge, mergeCellInfo_eq]
        exact .refl _
    | deviceName text => exact .refl _
  balancing hk := by
    cases m with
    | hardwareInfo info => exact absurd hk hne
    | cellInfo info =>
        rw [merge, mergeCellInfo_eq]
        exact .refl _
    | deviceName text => exact .refl _

end Record

end SensorGateway
