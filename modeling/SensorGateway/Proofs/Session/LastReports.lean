import Mathlib.Data.List.Nodup
import SensorGateway.Proofs.Session.Reports

/-!
# A battery's record is made of its last reports

Of all that a battery has reported its record *reflects* the last report of each kind
(`Record.Reflects`), and two records that reflect the same reports cannot be told apart but for the
time of the last change (`Record.Reflects.sameView`).  A session tells every report that it merges
(`BatterySession.record_handleFrame`), and the record can be made again from what it has told
(`BatterySession.record_remade_from_events`).
-/

namespace SensorGateway

/-! ## The last report of each kind -/

namespace Report

/-- The reports among events, in order. -/
def ofEvents (events : List Event) : List Report :=
  events.filterMap fun event => event.happening.report?

/-- The last report of a kind. -/
def latest (reports : List Report) (k : Wire.Register) : Option Report :=
  (reports.filter fun m => m.register = k).getLast?

/-- The last report of each kind, as far as there is one. -/
def lastOfEach (reports : List Report) : List Report :=
  [Wire.Register.hardwareInfo, .cellInfo, .deviceName].filterMap (latest reports)

/-- The reports of later events come behind those of the earlier ones. -/
theorem ofEvents_append (events later : List Event) :
    ofEvents (events ++ later) = ofEvents events ++ ofEvents later :=
  List.filterMap_append

variable {reports : List Report} {m : Report} {k : Wire.Register}

/-- The latest report of a register is the one that came last, if it is of this register. -/
theorem latest_append_singleton (reports : List Report) (m : Report) (k : Wire.Register) :
    latest (reports ++ [m]) k = if k = m.register then some m else latest reports k := by
  unfold latest
  rw [List.filter_append]
  by_cases hk : k = m.register
  · simp [hk]
  · simp [hk, Ne.symm hk]

/-- A latest report is one of the reports. -/
theorem mem_of_latest (h : latest reports k = some m) : m ∈ reports :=
  (List.mem_filter.mp (List.mem_of_getLast? h)).1

/-- The latest report of a register is of this register. -/
theorem register_of_latest (h : latest reports k = some m) : m.register = k := by
  simpa using (List.mem_filter.mp (List.mem_of_getLast? h)).2

/-- Where every kind occurs once at most, it is the last of its kind. -/
theorem latest_eq_some_iff (hnodup : (reports.map register).Nodup) :
    latest reports k = some m ↔ m ∈ reports ∧ m.register = k := by
  constructor
  · intro h
    exact ⟨mem_of_latest h, register_of_latest h⟩
  · rintro ⟨hmem, rfl⟩
    have hne : reports.filter (fun m' => m'.register = m.register) ≠ [] :=
      List.ne_nil_of_mem (List.mem_filter.mpr ⟨hmem, by simp⟩)
    obtain ⟨m', hm'⟩ : ∃ m', latest reports m.register = some m' :=
      Option.isSome_iff_exists.mp (List.getLast?_isSome.mpr hne)
    have hsame : m' = m :=
      List.inj_on_of_nodup_map hnodup (mem_of_latest hm') hmem (register_of_latest hm')
    rw [hm', hsame]

/-- There is one latest report of a register at most. -/
theorem sublist_register_latest (reports : List Report) (kinds : List Wire.Register) :
    ((kinds.filterMap (latest reports)).map register).Sublist kinds := by
  induction kinds with
  | nil => exact List.Sublist.slnil
  | cons k kinds ih =>
      cases hk : latest reports k with
      | none =>
          rw [List.filterMap_cons_none hk]
          exact ih.cons k
      | some m =>
          rw [List.filterMap_cons_some hk, List.map_cons, register_of_latest hk]
          exact ih.cons_cons k

/-- In whatever order they stand, the last reports of each kind are the last of their kinds. -/
theorem latest_of_perm {last : List Report} (hperm : last.Perm (lastOfEach reports))
    (k : Wire.Register) : latest last k = latest reports k := by
  have hnodup : (last.map register).Nodup := by
    rw [(hperm.map register).nodup_iff]
    exact (sublist_register_latest reports _).nodup (by decide)
  ext m
  rw [latest_eq_some_iff hnodup, hperm.mem_iff, lastOfEach, List.mem_filterMap]
  constructor
  · rintro ⟨⟨k', -, hk'⟩, rfl⟩
    rw [register_of_latest hk']
    exact hk'
  · intro h
    exact ⟨⟨k, by cases k <;> decide, h⟩, register_of_latest h⟩

end Report

/-! ## What a record shows -/

namespace Record

variable {r r' : Record} {k : Wire.Register}

/-- Merges reports one after another. -/
def mergeAll (r : Record) (reports : List Report) (now : Instant) : Record :=
  reports.foldl (fun r m => r.merge m now) r

/-- The records have the same fields and series, whenever they were changed. -/
structure SameView (r r' : Record) : Prop where
  fields : r.fields = r'.fields
  cells : r.cells.Same r'.cells
  temperatures : r.temperatures.Same r'.temperatures
  balancing : r.balancing.Same r'.balancing

/-- What belongs to no register is a matter of its own. -/
theorem sameView_of_sameIn (h : KeyMap.Sorted r.fields) (h' : KeyMap.Sorted r'.fields)
    (hsame : ∀ k, SameIn k r r')
    (hothers : ∀ name, (∀ k : Wire.Register, name ∉ k.fieldNames) → r.get? name = r'.get? name) :
    r.SameView r' where
  fields := by
    refine h.ext h' fun name => ?_
    by_cases howned : ∃ k : Wire.Register, name ∈ k.fieldNames
    · obtain ⟨k, hk⟩ := howned
      exact (hsame k).fields name hk
    · exact hothers name fun k hk => howned ⟨k, hk⟩
  cells := (hsame .cellInfo).cells rfl
  temperatures := (hsame .hardwareInfo).temperatures rfl
  balancing := (hsame .hardwareInfo).balancing rfl

/-- What a record shows does not depend on when it was changed. -/
theorem sameView_of_timeless {r'' : Record} (h : r.timeless = r'.timeless) (h' : r'.SameView r'') :
    r.SameView r'' := by
  obtain ⟨hfields, hcells, htemperatures, hbalancing⟩ := timeless_eq_iff.mp h
  refine ⟨hfields.trans h'.fields, ?_, ?_, ?_⟩
  · rw [hcells]
    exact h'.cells
  · rw [htemperatures]
    exact h'.temperatures
  · rw [hbalancing]
    exact h'.balancing

/-- The record of a battery that has made one report, or none. -/
def ofReport? (m : Option Report) : Record :=
  m.elim .empty (Record.empty.merge · ⟨0, 0⟩)

/-- Of each kind the record shows what the last report of that kind said, and nothing else. -/
structure Reflects (r : Record) (last : Wire.Register → Option Report) : Prop where
  sorted : KeyMap.Sorted r.fields
  own : ∀ k, SameIn k r (ofReport? (last k))
  others : ∀ name, (∀ k : Wire.Register, name ∉ k.fieldNames) → r.get? name = none

variable {last : Wire.Register → Option Report}

/-- An empty record reflects that nothing has been reported. -/
theorem reflects_empty : Record.empty.Reflects (Report.latest []) where
  sorted := KeyMap.sorted_nil
  own k := .refl k .empty
  others _ _ := rfl

/-- Records that reflect the same reports show the same. -/
theorem Reflects.sameView (h : r.Reflects last) (h' : r'.Reflects last) : r.SameView r' :=
  sameView_of_sameIn h.sorted h'.sorted (fun k => (h.own k).trans (h'.own k).symm)
    fun name hname => (h.others name hname).trans (h'.others name hname).symm

/-- A record that has merged a further report reflects it as well, -/
theorem Reflects.merge {reports : List Report} (h : r.Reflects (Report.latest reports))
    (m : Report) (now : Instant) : (r.merge m now).Reflects (Report.latest (reports ++ [m])) where
  sorted := sorted_merge h.sorted m now
  own k := by
    rw [Report.latest_append_singleton]
    by_cases hk : k = m.register
    · rw [if_pos hk, hk]
      exact sameIn_merge_own m r .empty now ⟨0, 0⟩
    · rw [if_neg hk]
      exact (sameIn_merge_other hk r now).trans (h.own k)
  others name hname := by
    rw [get?_merge_of_not_mem (hname m.register)]
    exact h.others name hname

/-- and so does one that has merged several. -/
theorem Reflects.mergeAll {reports : List Report} (h : r.Reflects (Report.latest reports))
    (more : List Report) (now : Instant) :
    (r.mergeAll more now).Reflects (Report.latest (reports ++ more)) := by
  induction more generalizing r reports with
  | nil =>
      rw [List.append_nil]
      exact h
  | cons m more ih =>
      have hrest := ih (h.merge m now)
      rw [List.append_assoc] at hrest
      exact hrest

/-- Reports of different kinds can be merged in either order. -/
theorem sameView_merge_comm {m m' : Report} (hne : m.register ≠ m'.register)
    (hsorted : KeyMap.Sorted r.fields) (now now' : Instant) :
    ((r.merge m now).merge m' now').SameView ((r.merge m' now').merge m now) := by
  refine sameView_of_sameIn (sorted_merge (sorted_merge hsorted m now) m' now')
    (sorted_merge (sorted_merge hsorted m' now') m now) (fun k => ?_) fun name hname => ?_
  · by_cases hk : k = m.register
    · subst hk
      exact (sameIn_merge_other hne _ now').trans (sameIn_merge_own m r _ now now)
    · refine SameIn.trans ?_ (sameIn_merge_other hk _ now).symm
      by_cases hk' : k = m'.register
      · subst hk'
        exact sameIn_merge_own m' _ r now' now'
      · exact (sameIn_merge_other hk' _ now').trans
          ((sameIn_merge_other hk r now).trans (sameIn_merge_other hk' r now').symm)
  · simp only [get?_merge_of_not_mem (hname _)]

end Record

/-! ## Sessions -/

namespace BatterySession

variable {s : BatterySession} {reports : List Report}

/-- What a session tells is what it merges. -/
theorem record_handleFrame (s : BatterySession) (frame : Wire.Frame) (now : Instant) :
    (s.handleFrame frame now).session.record
      = s.record.mergeAll (Report.ofEvents (s.handleFrame frame now).events) now := by
  cases handling frame with
  | undecoded _ hkept =>
      obtain ⟨logs, hkept⟩ := hkept s now
      rw [hkept]
      rfl
  | hardwareInfo _ _ info _ htaken =>
      rw [htaken, events_takeHardwareInfo, session_takeHardwareInfo]
      -- that the battery is low is not a report
      cases (s.alarm.update info.soc).1 <;> rfl
  | cellInfo _ _ info htaken =>
      rw [htaken]
      rfl
  | deviceName _ _ name htaken =>
      rw [htaken]
      rfl

/-- Handles frames one after another, each at its time. -/
def handleFramesAt (s : BatterySession) : List (Wire.Frame × Instant) → Handled BatterySession
  | [] => s.unchanged []
  | (frame, now) :: frames =>
      let first := s.handleFrame frame now
      let later := first.session.handleFramesAt frames
      { session := later.session
        events := first.events ++ later.events
        logs := first.logs ++ later.logs }

/-- To handle frames of one time is to handle each of them at that time. -/
theorem handleFrames_eq (s : BatterySession) (now : Instant) (frames : List Wire.Frame) :
    s.handleFrames now frames = s.handleFramesAt (frames.map (·, now)) := by
  induction frames generalizing s with
  | nil => rfl
  | cons frame frames ih =>
      rw [handleFrames, ih]
      rfl

/-- After frames a record reflects what their events report. -/
theorem reflects_handleFramesAt (h : s.record.Reflects (Report.latest reports))
    (frames : List (Wire.Frame × Instant)) :
    (s.handleFramesAt frames).session.record.Reflects
      (Report.latest (reports ++ Report.ofEvents (s.handleFramesAt frames).events)) := by
  induction frames generalizing s reports with
  | nil =>
      simp only [handleFramesAt, unchanged, Report.ofEvents, List.filterMap_nil, List.append_nil]
      exact h
  | cons frame frames ih =>
      obtain ⟨frame, now⟩ := frame
      have hfirst := h.mergeAll (Report.ofEvents (s.handleFrame frame now).events) now
      rw [← record_handleFrame] at hfirst
      have hlater := ih hfirst
      rw [List.append_assoc, ← Report.ofEvents_append] at hlater
      exact hlater

/-- The record of the session can be made from what it has told: of each kind the last report is
merged into a record with nothing in it, in any order. -/
def RemadeFromEvents (h : Handled BatterySession) : Prop :=
  ∀ (last : List Report) (now : Instant), last.Perm (Report.lastOfEach (Report.ofEvents h.events)) →
    h.session.record.SameView (Record.empty.mergeAll last now)

/-- A record that reflects what its events report can be made again from them. -/
theorem remadeFromEvents_of_reflects {h : Handled BatterySession}
    (hreflects : h.session.record.Reflects (Report.latest (Report.ofEvents h.events))) :
    RemadeFromEvents h := by
  intro last now hperm
  have hlast := Record.reflects_empty.mergeAll last now
  rw [List.nil_append, funext (Report.latest_of_perm hperm)] at hlast
  exact hreflects.sameView hlast

/-- After any frames, the record of a battery is that of the last report of each kind that its
session has told, whatever order these are merged in; and so it is however the frames came in
chunks.  Reports of different kinds have no field and no series in common, so they can be merged in
any order; and a report leaves nothing of what an older report of its kind has said. -/
theorem record_remade_from_events (device : String) (threshold : Option UInt8) :
    (∀ frames, RemadeFromEvents ((new device threshold).handleFramesAt frames)) ∧
      (∀ chunks, RemadeFromEvents ((new device threshold).handleChunks chunks)) ∧
      (∀ (m : Report) (r r' : Record) (now now' : Instant),
        Record.SameIn m.register (r.merge m now) (r'.merge m now') ∧
          ∀ k ≠ m.register, Record.SameIn k (r.merge m now) r) ∧
      (∀ k k' : Wire.Register, k ≠ k' → k.fieldNames.Disjoint k'.fieldNames) ∧
      ∀ (m m' : Report) (r : Record) (now now' : Instant), m.register ≠ m'.register →
        KeyMap.Sorted r.fields →
          ((r.merge m now).merge m' now').SameView ((r.merge m' now').merge m now) := by
  have hframes (frames : List (Wire.Frame × Instant)) :
      ((new device threshold).handleFramesAt frames).session.record.Reflects
        (Report.latest
          (Report.ofEvents ((new device threshold).handleFramesAt frames).events)) := by
    have hnew : (new device threshold).record.Reflects (Report.latest []) := Record.reflects_empty
    exact reflects_handleFramesAt hnew frames
  refine ⟨fun frames => remadeFromEvents_of_reflects (hframes frames), fun chunks => ?_,
    fun m r r' now now' => ⟨Record.sameIn_merge_own m r r' now now', fun k hk =>
      Record.sameIn_merge_other hk r now⟩,
    fun k k' hne name hname hname' => Wire.Register.disjoint_fieldNames hne name hname hname',
    fun m m' r now now' hne hsorted => Record.sameView_merge_comm hne hsorted now now'⟩
  have hsame : (new device threshold).Alike (new device threshold) := ⟨rfl, rfl, rfl⟩
  obtain ⟨hevents, halike⟩ := hsame.handleChunks chunks ⟨0, 0⟩
  rw [handleFrames_eq] at hevents halike
  intro last now hperm
  rw [hevents] at hperm
  exact Record.sameView_of_timeless halike.record
    (remadeFromEvents_of_reflects (hframes _) last now hperm)

/-- The date of the first report is gone with the second, and the name can be merged before it. -/
theorem record_remade_name_first :
    let report (date : Bytes) : Wire.Frame :=
      { register := 0x03
        status := 0
        payload := List.replicate 10 0 ++ date ++ List.replicate 11 0
        checksum := 0 }
    let name : Wire.Frame := { register := 0x05, status := 0, payload := [0x41], checksum := 0 }
    let h := (new "battery" none).handleFramesAt
      [(report [0x2A, 0xB1], ⟨1, 0⟩), (name, ⟨2, 0⟩), (report [0, 0], ⟨3, 0⟩)]
    let last := Report.lastOfEach (Report.ofEvents h.events)
    let cells : Report := .cellInfo (.ofVoltages 3.3 [3.4])
    (Report.ofEvents h.events).map Report.register = [.hardwareInfo, .deviceName, .hardwareInfo] ∧
      last.reverse.map Report.register = [.deviceName, .hardwareInfo] ∧
      h.session.record.SameView (Record.empty.mergeAll last.reverse ⟨0, 0⟩) ∧
      (h.session.record.get? "manufacture_date").isNone = true ∧
      ((Record.empty.merge (.deviceName "A") ⟨4, 0⟩).merge cells ⟨5, 0⟩).SameView
        ((Record.empty.merge cells ⟨5, 0⟩).merge (.deviceName "A") ⟨4, 0⟩) := by
  intro report name h last cells
  obtain ⟨hframes, -, -, -, hcomm⟩ := record_remade_from_events "battery" none
  refine ⟨by decide +kernel, by decide +kernel, ?_, by decide +kernel, ?_⟩
  · exact hframes _ last.reverse ⟨0, 0⟩ (List.reverse_perm last)
  · exact hcomm (.deviceName "A") cells .empty ⟨4, 0⟩ ⟨5, 0⟩ (by decide) KeyMap.sorted_nil

end BatterySession

end SensorGateway
