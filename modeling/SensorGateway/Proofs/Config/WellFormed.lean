import SensorGateway.Proofs.Config.Validation

/-!
# What is checked of a configuration, and what it is good for

`WellFormed` says what a configuration has to be like without saying in which order anything is
looked at: there is room in the queue, every device has a name of its own, every tank an address of
its own, and the numbers for batteries are in range.  The checks accept exactly these
(`validate_eq_ok_iff_wellFormed`).

Looking for a device takes the first entry that fits, in a fixed order.  Where names and addresses
are told apart there is no second one, so what is found does not depend on the order
(`device?_eq_some_iff`, `tankBySuffix?_eq_some_iff`): the entries may be written down in any order,
and the configuration is as good as before and finds the same.
-/

namespace SensorGateway

/-- The identifier of a device. -/
def DeviceConfig.id : DeviceConfig → String
  | battery b => b.id
  | tank t => t.id

namespace Config

variable {c : Config} {b : BatteryConfig} {t : TankConfig} {d : DeviceConfig} {id suffix : String}

/-- The address of a tank in its written form, if it is one. -/
def address? (t : TankConfig) : Option String := MacSuffix.normalize? t.macSuffix

/-- All devices, batteries first. -/
def devices (c : Config) : List DeviceConfig :=
  c.batteries.map .battery ++ c.tanks.map .tank

/-- A configuration as it should be. -/
structure WellFormed (c : Config) : Prop where
  /-- There is room for a payload. -/
  roomy : 0 < c.publisher.queueCapacity
  /-- No identifier is blank. -/
  named : ∀ id ∈ c.ids, Text.trim id.toList ≠ []
  /-- No two devices have the same identifier, be they batteries or tanks. -/
  distinct : c.ids.Nodup
  /-- A threshold is a percentage. -/
  percentages : ∀ b ∈ c.batteries, ∀ threshold, b.lowSocThreshold = some threshold → threshold ≤ 100
  /-- There is a pause between two requests. -/
  paced : ∀ b ∈ c.batteries, 0 < b.pollIntervalMs
  /-- Every tank has an address. -/
  addressed : ∀ t ∈ c.tanks, (address? t).isSome = true
  /-- No two tanks have the same, however they are spelled. -/
  apart : (c.tanks.map address?).Nodup

/-! ## The checks accept what is well-formed -/

/-- A battery passes its checks if its threshold is a percentage and it is polled at intervals. -/
theorem checkBattery_eq_ok :
    checkBattery b = .ok () ↔
      (∀ threshold, b.lowSocThreshold = some threshold → threshold ≤ 100) ∧
        0 < b.pollIntervalMs := by
  unfold checkBattery
  cases b.lowSocThreshold with
  | none => simp [Nat.pos_iff_ne_zero]
  | some threshold =>
      by_cases hhigh : 100 < threshold
      · have hnot : ¬ threshold ≤ 100 := UInt8.not_le.mpr hhigh
        simp [hhigh, hnot]
      · simp [hhigh, UInt8.not_lt.mp hhigh, Nat.pos_iff_ne_zero]

/-- Batteries pass their checks if each of them does. -/
theorem checkBatteries_eq_ok {batteries : List BatteryConfig} :
    checkBatteries batteries = .ok () ↔ ∀ b ∈ batteries, checkBattery b = .ok () := by
  induction batteries with
  | nil => simp [checkBatteries]
  | cons b batteries ih =>
      rw [checkBatteries, List.forall_mem_cons, ← ih]
      cases checkBattery b with
      | ok => simp
      | error fault => simp

/-- Addresses are the same as bytes if, and only if, they are the same in writing. -/
theorem address?_eq_iff {t t' : TankConfig} :
    address? t = address? t' ↔ MacSuffix.parse? t.macSuffix = MacSuffix.parse? t'.macSuffix := by
  have hinjective : Function.Injective (Option.map MacSuffix.text) :=
    Option.map_injective fun _ _ => MacSuffix.text_injective
  exact hinjective.eq_iff

/-- Tanks have different addresses if these are read from different texts. -/
theorem nodup_map_address?_iff {tanks : List TankConfig} :
    (tanks.map address?).Nodup ↔ (tanks.map fun t => MacSuffix.parse? t.macSuffix).Nodup := by
  simp only [List.Nodup, List.pairwise_map, ne_eq, address?_eq_iff]

/-- A tank has an address if its suffix can be read. -/
theorem isSome_address?_iff {t : TankConfig} :
    (address? t).isSome = true ↔ ∃ m, MacSuffix.parse? t.macSuffix = some m := by
  rw [address?, MacSuffix.normalize?, Option.isSome_map, Option.isSome_iff_exists]

/-- A configuration is accepted if it is well-formed, and only then. -/
theorem validate_eq_ok_iff_wellFormed : c.validate = .ok () ↔ c.WellFormed := by
  rw [validate_eq_ok, checkIds_eq_ok, checkBatteries_eq_ok, checkTanks_eq_ok]
  simp only [checkBattery_eq_ok, List.isEmpty_eq_false_iff, List.not_mem_nil, not_false_eq_true,
    and_true, implies_true, ← isSome_address?_iff, ← nodup_map_address?_iff, ← Nat.pos_iff_ne_zero]
  constructor
  · rintro ⟨hroomy, ⟨hnamed, hdistinct⟩, hbatteries, haddressed, hapart⟩
    exact ⟨hroomy, hnamed, hdistinct, fun b hb => (hbatteries b hb).1,
      fun b hb => (hbatteries b hb).2, haddressed, hapart⟩
  · intro h
    exact ⟨h.roomy, ⟨h.named, h.distinct⟩, fun b hb => ⟨h.percentages b hb, h.paced b hb⟩,
      h.addressed, h.apart⟩

/-! ## What is found -/

/-- The identifiers of the devices are those of batteries and tanks. -/
theorem map_id_devices (c : Config) : c.devices.map DeviceConfig.id = c.ids := by
  simp only [devices, ids, List.map_append, List.map_map]
  rfl

/-- A device is looked for among all of them at once. -/
theorem device?_eq_find? (c : Config) (id : String) :
    c.device? id = c.devices.find? fun d => d.id == id := by
  rw [devices, List.find?_append, List.find?_map, List.find?_map, device?]
  show _ = ((c.batteries.find? fun b => b.id == id).map DeviceConfig.battery).or
    ((c.tanks.find? fun t => t.id == id).map DeviceConfig.tank)
  cases c.batteries.find? fun b => b.id == id <;> rfl

/-- The device with an identifier is found by it, and no other. -/
theorem WellFormed.device?_eq_some_iff (h : c.WellFormed) :
    c.device? id = some d ↔ d ∈ c.devices ∧ d.id = id := by
  have hdistinct : (c.devices.map DeviceConfig.id).Nodup := by
    rw [map_id_devices]
    exact h.distinct
  rw [device?_eq_find?]
  exact find?_key_eq_some hdistinct

/-- What is not the name of a device is not found, whatever the configuration is like. -/
theorem device?_eq_none_iff : c.device? id = none ↔ id ∉ c.ids := by
  rw [device?_eq_find?, List.find?_eq_none, ← map_id_devices, List.mem_map]
  constructor
  · rintro hnone ⟨d, hd, hid⟩
    exact hnone d hd (beq_iff_eq.mpr hid)
  · intro hnot d hd hid
    exact hnot ⟨d, hd, beq_iff_eq.mp hid⟩

/-- The tank with an address is found by it, however it is written, and no other. -/
theorem WellFormed.tankBySuffix?_eq_some_iff (h : c.WellFormed) :
    c.tankBySuffix? suffix = some t ↔ t ∈ c.tanks ∧ address? t = MacSuffix.normalize? suffix := by
  have hparsed : (c.tanks.map fun t => MacSuffix.parse? t.macSuffix).Nodup :=
    nodup_map_address?_iff.mp h.apart
  cases hsuffix : MacSuffix.parse? suffix with
  | none =>
      -- such a text has no written form, and every tank has
      have hnowhere : c.tankBySuffix? suffix = none := by
        rw [tankBySuffix?, hsuffix]
        rfl
      rw [hnowhere, MacSuffix.normalize?, hsuffix]
      constructor
      · intro hnone
        cases hnone
      · rintro ⟨ht, hnone⟩
        have hsome := h.addressed t ht
        rw [hnone] at hsome
        cases hsome
  | some m =>
      have hfind : c.tankBySuffix? suffix
          = c.tanks.find? fun t => MacSuffix.parse? t.macSuffix == some m := by
        rw [tankBySuffix?, hsuffix]
        rfl
      have hwritten : MacSuffix.normalize? suffix = some m.text :=
        MacSuffix.normalize?_eq_some_text.mpr hsuffix
      rw [hfind, find?_key_eq_some hparsed, hwritten, address?, MacSuffix.normalize?_eq_some_text]

/-! ## The order of the entries -/

section order

variable {batteries : List BatteryConfig} {tanks : List TankConfig}
  (hbatteries : batteries.Perm c.batteries) (htanks : tanks.Perm c.tanks)

include hbatteries htanks

/-- Rearranging the entries rearranges the identifiers, -/
theorem ids_perm : ({ c with batteries, tanks } : Config).ids.Perm c.ids :=
  (hbatteries.map _).append (htanks.map _)

/-- and the devices. -/
theorem devices_perm : ({ c with batteries, tanks } : Config).devices.Perm c.devices :=
  (hbatteries.map _).append (htanks.map _)

/-- A configuration is well-formed in whatever order its entries stand, -/
theorem wellFormed_perm_iff : ({ c with batteries, tanks } : Config).WellFormed ↔ c.WellFormed := by
  have hids := ids_perm hbatteries htanks
  have haddresses := htanks.map address?
  constructor
  · intro h
    exact
      { roomy := h.roomy
        named := fun id hid => h.named id (hids.mem_iff.mpr hid)
        distinct := hids.nodup_iff.mp h.distinct
        percentages := fun b hb => h.percentages b (hbatteries.mem_iff.mpr hb)
        paced := fun b hb => h.paced b (hbatteries.mem_iff.mpr hb)
        addressed := fun t ht => h.addressed t (htanks.mem_iff.mpr ht)
        apart := haddresses.nodup_iff.mp h.apart }
  · intro h
    exact
      { roomy := h.roomy
        named := fun id hid => h.named id (hids.mem_iff.mp hid)
        distinct := hids.nodup_iff.mpr h.distinct
        percentages := fun b hb => h.percentages b (hbatteries.mem_iff.mp hb)
        paced := fun b hb => h.paced b (hbatteries.mem_iff.mp hb)
        addressed := fun t ht => h.addressed t (htanks.mem_iff.mp ht)
        apart := haddresses.nodup_iff.mpr h.apart }

/-- the same device is found by an identifier, -/
theorem WellFormed.device?_perm (h : c.WellFormed) (id : String) :
    ({ c with batteries, tanks } : Config).device? id = c.device? id := by
  have h' := (wellFormed_perm_iff hbatteries htanks).mpr h
  ext d
  rw [h'.device?_eq_some_iff, h.device?_eq_some_iff, (devices_perm hbatteries htanks).mem_iff]

/-- and the same tank by an address. -/
theorem WellFormed.tankBySuffix?_perm (h : c.WellFormed) (suffix : String) :
    ({ c with batteries, tanks } : Config).tankBySuffix? suffix = c.tankBySuffix? suffix := by
  have h' := (wellFormed_perm_iff hbatteries htanks).mpr h
  ext t
  rw [h'.tankBySuffix?_eq_some_iff, h.tankBySuffix?_eq_some_iff, htanks.mem_iff]

end order

/-- **Accepted configurations are the well-formed ones, and name their devices.**  In one that is
accepted an identifier finds the device that has it, and every other text finds none; a text finds
the tank whose address it spells.  Written down in another order, the entries are accepted or not as
before, and the same is found. -/
theorem accepted_names_devices (c : Config) :
    (c.validate = .ok () ↔ c.WellFormed) ∧
    (c.validate = .ok () →
      (∀ id d, c.device? id = some d ↔ d ∈ c.devices ∧ d.id = id) ∧
      (∀ id, c.device? id = none ↔ id ∉ c.ids) ∧
      ∀ suffix t, c.tankBySuffix? suffix = some t ↔
        t ∈ c.tanks ∧ MacSuffix.normalize? t.macSuffix = MacSuffix.normalize? suffix) ∧
    ∀ (batteries : List BatteryConfig) (tanks : List TankConfig),
      batteries.Perm c.batteries → tanks.Perm c.tanks →
        let c' : Config := { c with batteries, tanks }
        (c'.validate = .ok () ↔ c.validate = .ok ()) ∧
        (c.validate = .ok () →
          (∀ id, c'.device? id = c.device? id) ∧
          ∀ suffix, c'.tankBySuffix? suffix = c.tankBySuffix? suffix) := by
  refine ⟨validate_eq_ok_iff_wellFormed, ?_, ?_⟩
  · intro valid
    have h := validate_eq_ok_iff_wellFormed.mp valid
    exact ⟨fun id d => h.device?_eq_some_iff, fun id => device?_eq_none_iff,
      fun suffix t => h.tankBySuffix?_eq_some_iff⟩
  · intro batteries tanks hbatteries htanks c'
    constructor
    · rw [validate_eq_ok_iff_wellFormed, validate_eq_ok_iff_wellFormed]
      exact wellFormed_perm_iff hbatteries htanks
    · intro valid
      have h := validate_eq_ok_iff_wellFormed.mp valid
      exact ⟨h.device?_perm hbatteries htanks, h.tankBySuffix?_perm hbatteries htanks⟩

/-- Two batteries and two tanks, whose addresses are written in different ways, are accepted, and in
reverse as well; a third spelling finds the tank, and a name in another case finds nothing. -/
theorem accepted_names_devices_reversed :
    let battery (id : String) (threshold : Option UInt8) : BatteryConfig :=
      { id, bleName := "SP04S034", lowSocThreshold := threshold, topics := []
        pollIntervalMs := 2000 }
    let tank (id macSuffix : String) : TankConfig :=
      { id, macSuffix, medium := none, heightOffsetIn := 0, topics := [] }
    let water := tank "water" "\t+a-bb-cc "
    let c : Config :=
      { batteries := [battery "house" (some 100), battery "bow" none]
        tanks := [tank "propane" "0F:37:A5", water] }
    let c' : Config := { c with batteries := c.batteries.reverse, tanks := c.tanks.reverse }
    c.validate = .ok () ∧ c.WellFormed ∧ c'.validate = .ok () ∧
      c'.device? "water" = some (.tank water) ∧ c'.device? "Water" = none ∧
      c'.tankBySuffix? "0A:bb:CC" = some water := by
  intro battery tank water c c'
  have valid : c.validate = .ok () := by decide +kernel
  obtain ⟨hformed, hfound, hperm⟩ := accepted_names_devices c
  obtain ⟨hdevice, hnone, htank⟩ := hfound valid
  obtain ⟨hverdict, hsame⟩ := hperm c.batteries.reverse c.tanks.reverse
    (List.reverse_perm _) (List.reverse_perm _)
  obtain ⟨hsameDevice, hsameTank⟩ := hsame valid
  have hwater : water ∈ c.tanks := List.mem_cons_of_mem _ List.mem_cons_self
  refine ⟨valid, hformed.mp valid, hverdict.mpr valid, ?_, ?_, ?_⟩
  · rw [hsameDevice, hdevice]
    exact ⟨List.mem_append_right _ (List.mem_map_of_mem hwater), rfl⟩
  · rw [hsameDevice, hnone]
    decide
  · rw [hsameTank, htank]
    exact ⟨hwater, by decide +kernel⟩

end Config

end SensorGateway
