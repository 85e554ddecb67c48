import Mathlib.Data.List.Nodup
import SensorGateway.Config.Validation
import SensorGateway.Proofs.Tank.MacSuffix

/-!
# What an accepted configuration is like

The checks of identifiers and of addresses go through a list and remember what they have seen.  They
accept it if each entry is in order by itself and no entry comes twice (`checkIds_eq_ok`,
`checkTanks_eq_ok`).  So in an accepted configuration an identifier or an address belongs to one
entry, and looking for the first entry that has it finds that one, wherever it stands.
-/

namespace SensorGateway.Config

/-! ## The checks -/

/-- Identifiers are accepted if they are not blank, differ, and have not been seen before. -/
theorem checkIds_eq_ok {seen ids : List String} :
    checkIds seen ids = .ok () ↔
      (∀ id ∈ ids, (Text.trim id.toList).isEmpty = false) ∧ ids.Nodup ∧ ∀ id ∈ ids, id ∉ seen := by
  induction ids generalizing seen with
  | nil => simp [checkIds]
  | cons id ids ih =>
      unfold checkIds
      split
      next hblank =>
        refine iff_of_false nofun fun h => ?_
        rw [h.1 id List.mem_cons_self] at hblank
        cases hblank
      next hblank =>
        split
        next hseen => simp [List.contains_iff_mem.mp hseen]
        next hseen =>
          have hseen : id ∉ seen := fun hmem => hseen (List.contains_iff_mem.mpr hmem)
          rw [ih]
          simp only [List.forall_mem_cons]
          simp only [List.nodup_cons, List.mem_cons, not_or]
          constructor
          · rintro ⟨hblanks, hnodup, hrest⟩
            refine ⟨⟨Bool.eq_false_iff.mpr hblank, hblanks⟩, ⟨?_, hnodup⟩, hseen, ?_⟩
            · exact fun hmem => (hrest id hmem).1 rfl
            · exact fun other hmem => (hrest other hmem).2
          · rintro ⟨⟨-, hblanks⟩, ⟨hid, hnodup⟩, -, hrest⟩
            refine ⟨hblanks, hnodup, fun other hmem => ⟨?_, hrest other hmem⟩⟩
            rintro rfl
            exact hid hmem

/-- Tanks are accepted if their addresses can be read, differ, and have not been seen before. -/
theorem checkTanks_eq_ok {seen : List MacSuffix} {tanks : List TankConfig} :
    checkTanks seen tanks = .ok () ↔
      (∀ t ∈ tanks, ∃ m, MacSuffix.parse? t.macSuffix = some m ∧ m ∉ seen) ∧
        (tanks.map fun t => MacSuffix.parse? t.macSuffix).Nodup := by
  induction tanks generalizing seen with
  | nil => simp [checkTanks]
  | cons t tanks ih =>
      unfold checkTanks
      split
      next hnone => simp [hnone]
      next m hm =>
        split
        next hseen => simp [hm, List.contains_iff_mem.mp hseen]
        next hseen =>
          have hseen : m ∉ seen := fun hmem => hseen (List.contains_iff_mem.mpr hmem)
          rw [ih]
          simp only [List.map_cons, List.nodup_cons, List.forall_mem_cons, List.mem_map, hm]
          simp only [List.mem_cons, not_or]
          constructor
          · rintro ⟨hrest, hnodup⟩
            refine ⟨⟨⟨m, rfl, hseen⟩, fun t' ht' => ?_⟩, ?_, hnodup⟩
            · obtain ⟨m', hm', -, hseen'⟩ := hrest t' ht'
              exact ⟨m', hm', hseen'⟩
            · rintro ⟨t', ht', heq⟩
              obtain ⟨m', hm', hne, -⟩ := hrest t' ht'
              exact hne (Option.some.inj (hm'.symm.trans heq))
          · rintro ⟨⟨-, hrest⟩, hm', hnodup⟩
            refine ⟨fun t' ht' => ?_, hnodup⟩
            obtain ⟨m', hparse, hseen'⟩ := hrest t' ht'
            refine ⟨m', hparse, ?_, hseen'⟩
            rintro rfl
            exact hm' ⟨t', ht', hparse⟩

/-- A configuration is accepted if it passes each of the checks. -/
theorem validate_eq_ok {c : Config} :
    c.validate = .ok () ↔ c.publisher.queueCapacity ≠ 0 ∧ checkIds [] c.ids = .ok () ∧
      checkBatteries c.batteries = .ok () ∧ checkTanks [] c.tanks = .ok () := by
  unfold validate
  split
  next hzero => simp [hzero]
  next hpositive =>
    cases checkIds [] c.ids with
    | error fault => simp [Bind.bind, Except.bind]
    | ok =>
        cases checkBatteries c.batteries with
        | error fault => simp [Bind.bind, Except.bind]
        | ok => simp [Bind.bind, Except.bind, hpositive]

/-! ## Looking for an entry -/

/-- Where keys are told apart, the first entry with a key is the only one. -/
theorem find?_key_eq_some {α κ : Type} [BEq κ] [LawfulBEq κ] {key : α → κ} {entries : List α}
    (h : (entries.map key).Nodup) {k : κ} {a : α} :
    (entries.find? fun b => key b == k) = some a ↔ a ∈ entries ∧ key a = k := by
  constructor
  · intro hfind
    exact ⟨List.mem_of_find?_eq_some hfind, by simpa using List.find?_some hfind⟩
  · rintro ⟨hmem, rfl⟩
    induction entries with
    | nil => cases hmem
    | cons b entries ih =>
        obtain ⟨hb, hrest⟩ := List.nodup_cons.mp h
        rcases List.mem_cons.mp hmem with rfl | hmem
        · simp
        · have hne : (key b == key a) = false :=
            beq_eq_false_iff_ne.mpr fun heq => hb (heq ▸ List.mem_map_of_mem hmem)
          rw [List.find?_cons, hne]
          exact ih hrest hmem

variable {c : Config} {t : TankConfig}

/-- In an accepted configuration no two devices have the same identifier. -/
theorem ids_nodup (valid : c.validate = .ok ()) : c.ids.Nodup :=
  (checkIds_eq_ok.mp (validate_eq_ok.mp valid).2.1).2.1

/-- In an accepted configuration no two tanks have the same address. -/
theorem suffixes_nodup (valid : c.validate = .ok ()) :
    (c.tanks.map fun t => MacSuffix.parse? t.macSuffix).Nodup :=
  (checkTanks_eq_ok.mp (validate_eq_ok.mp valid).2.2.2).2

/-- A tank is found by its identifier. -/
theorem device?_tank (valid : c.validate = .ok ()) (ht : t ∈ c.tanks) :
    c.device? t.id = some (.tank t) := by
  obtain ⟨-, htanks, hdisjoint⟩ := List.nodup_append.mp (ids_nodup valid)
  have hbattery : (c.batteries.find? fun b => b.id == t.id) = none := by
    refine List.find?_eq_none.mpr fun b hb => ?_
    rw [beq_iff_eq]
    exact hdisjoint b.id (List.mem_map_of_mem hb) t.id (List.mem_map_of_mem ht)
  rw [device?, hbattery]
  simp only [(find?_key_eq_some htanks).mpr ⟨ht, rfl⟩, Option.map_some]

/-- The tank with an address is found, however the configuration spells it. -/
theorem tankBySuffix?_text_eq_some (valid : c.validate = .ok ()) {m : MacSuffix} :
    c.tankBySuffix? m.text = some t ↔
      t ∈ c.tanks ∧ MacSuffix.parse? t.macSuffix = some m := by
  rw [tankBySuffix?, MacSuffix.parse?_text]
  exact find?_key_eq_some (suffixes_nodup valid)

/-- No two entries have the same address. -/
theorem suffix_unique (valid : c.validate = .ok ()) {i j : Nat} {t' : TankConfig}
    (hi : c.tanks[i]? = some t) (hj : c.tanks[j]? = some t')
    (hsame : MacSuffix.parse? t.macSuffix = MacSuffix.parse? t'.macSuffix) : i = j := by
  let suffixes := c.tanks.map fun t => MacSuffix.parse? t.macSuffix
  have hi' : suffixes[i]? = some (MacSuffix.parse? t.macSuffix) := by
    simp only [suffixes, List.getElem?_map, hi, Option.map_some]
  have hj' : suffixes[j]? = some (MacSuffix.parse? t.macSuffix) := by
    simp only [suffixes, List.getElem?_map, hj, Option.map_some, hsame]
  obtain ⟨hlt, -⟩ := List.getElem?_eq_some_iff.mp hi'
  exact (List.getElem?_inj hlt (suffixes_nodup valid)).mp (hi'.trans hj'.symm)

end SensorGateway.Config
