import Mathlib.Algebra.BigOperators.Group.List.Basic
import Mathlib.Order.Bounds.Basic
import SensorGateway.Proofs.Battery.Decoding
import SensorGateway.Proofs.Number.Rounding

/-!
# The cells of a payload and what is told of them

The cells are the words of a payload, as many as the largest pack has at most (`CellInfo.codes`).  The
least and the greatest voltage are looked for in one pass that keeps the best cell so far and gives
it up only for a better one; so what it keeps is the first of the best among all cells that it has
seen (`FirstBest`), and with every further cell it stays so (`FirstBest.append_singleton`).
-/

namespace SensorGateway

/-! ## The first of the best -/

section FirstBest

variable {α : Type} {better : α → α → Bool} {values : List α} {found : Nat × α}

/-- Of two values that are not equally good one is better, and whatever a third one is, it is worse
than the one or better than the other. -/
structure Ranks (better : α → α → Bool) : Prop where
  asymm : ∀ {a b}, better a b = true → better b a = false
  split : ∀ {a b}, better a b = true → ∀ c, better a c = true ∨ better c b = true

/-- No value is better than itself. -/
theorem Ranks.irrefl (h : Ranks better) (a : α) : better a a = false := by
  cases hself : better a a with
  | false => rfl
  | true => exact hself.symm.trans (h.asymm hself)

/-- A place, counted from 1, is the first at which a list has its best value, and this is the
value. -/
structure FirstBest (better : α → α → Bool) (values : List α) (found : Nat × α) : Prop where
  pos : 1 ≤ found.1
  held : values[found.1 - 1]? = some found.2
  unbeaten : ∀ v ∈ values, better v found.2 = false
  first : ∀ i v, i + 1 < found.1 → values[i]? = some v → better found.2 v = true

/-- A further value takes the place of the best so far if it is better, and not if it is as good. -/
theorem FirstBest.append_singleton (hranks : Ranks better) (h : FirstBest better values found)
    (v : α) :
    FirstBest better (values ++ [v])
      (if better v found.2 then (values.length + 1, v) else found) := by
  split
  next hbeats =>
    -- what does not beat the old one is beaten by the new one
    have hbeaten (w : α) (hw : w ∈ values) : better v w = true := by
      refine (hranks.split hbeats w).resolve_right ?_
      rw [h.unbeaten w hw]
      exact Bool.false_ne_true
    refine ⟨Nat.succ_pos _, by simp, ?_, ?_⟩
    · intro w hw
      rcases List.mem_append.mp hw with hw | hw
      · exact hranks.asymm (hbeaten w hw)
      · rw [List.mem_singleton.mp hw]
        exact hranks.irrefl v
    · intro i w hi hw
      have hi : i < values.length := Nat.lt_of_succ_lt_succ hi
      rw [List.getElem?_append_left hi] at hw
      exact hbeaten w (List.mem_of_getElem? hw)
  next hkept =>
    have hlt : found.1 - 1 < values.length := (List.getElem?_eq_some_iff.mp h.held).1
    refine ⟨h.pos, ?_, ?_, ?_⟩
    · rw [List.getElem?_append_left hlt]
      exact h.held
    · intro w hw
      rcases List.mem_append.mp hw with hw | hw
      · exact h.unbeaten w hw
      · rw [List.mem_singleton.mp hw]
        exact Bool.eq_false_iff.mpr hkept
    · intro i w hi hw
      have hi' : i < values.length := by omega
      rw [List.getElem?_append_left hi'] at hw
      exact h.first i w hi hw

/-- The first of the best stays that while the rest of the values is looked at. -/
theorem FirstBest.foldl (hranks : Ranks better) (h : FirstBest better values found)
    (rest : List α) :
    FirstBest better (values ++ rest)
      ((rest.zipIdx (values.length + 1)).foldl
        (fun so_far (v, place) => if better v so_far.2 then (place, v) else so_far) found) := by
  induction rest generalizing values found with
  | nil => simpa using h
  | cons v rest ih =>
      have hnext := ih (h.append_singleton hranks v)
      rw [List.length_append, List.length_singleton, List.append_assoc, List.singleton_append]
        at hnext
      rw [List.zipIdx_cons, List.foldl_cons]
      exact hnext

end FirstBest

namespace CellInfo

section Best

variable {α : Type} {better : α → α → Bool}

/-- A search through all values ends with the first of the best. -/
theorem firstBest_best (hranks : Ranks better) (first : α) (rest : List α) :
    FirstBest better (first :: rest) (best better first rest) := by
  have hfirst : FirstBest better [first] (1, first) := by
    refine ⟨Nat.le_refl 1, rfl, ?_, ?_⟩
    · intro v hv
      rw [List.mem_singleton.mp hv]
      exact hranks.irrefl first
    · intro i v hi
      omega
  exact hfirst.foldl hranks rest

variable {info : CellInfo α} {found : Nat × α}

/-- Cells are counted from one, and voltages are kept from the first cell on. -/
theorem voltage?_eq_getElem? {cell : Nat} (h : 1 ≤ cell) :
    info.voltage? cell = info.voltages[cell - 1]? := by
  obtain ⟨i, rfl⟩ := Nat.exists_eq_add_of_le' h
  rfl

/-- The first of the best is the least number that a cell with the best voltage has. -/
theorem isLeast_of_firstBest (hranks : Ranks better) (h : FirstBest better info.voltages found) :
    IsLeast {cell | info.voltage? cell = some found.2} found.1 := by
  constructor
  · show info.voltage? found.1 = some found.2
    rw [voltage?_eq_getElem? h.pos, h.held]
  · intro cell hcell
    cases cell with
    | zero => cases hcell
    | succ i =>
        refine Nat.le_of_not_lt fun hlt => ?_
        have hbeaten := h.first i found.2 hlt hcell
        rw [hranks.irrefl] at hbeaten
        cases hbeaten

/-- A cell has a voltage if it is one of those that were told. -/
theorem isSome_voltage? (info : CellInfo α) (cell : Nat) :
    (info.voltage? cell).isSome = true ↔ 1 ≤ cell ∧ cell ≤ info.voltages.length := by
  cases cell with
  | zero => simp [voltage?]
  | succ i =>
      simp only [voltage?, isSome_getElem?]
      omega

end Best

/-! ## Which words are cells -/

section Codes

variable {payload p q : Bytes}

/-- There are as many cells as words, but no more than the largest pack has. -/
theorem length_codes (payload : Bytes) :
    (codes payload).length = Min.min (payload.length / 2) 32 := by
  rw [codes, List.length_map, List.length_range]
  rfl

/-- The code of a cell is the word at its place. -/
theorem getElem?_codes {i : Nat} (hi : i < Min.min (payload.length / 2) maxCells) :
    (codes payload)[i]? = some (payload.word (2 * i)) := by
  rw [codes, List.getElem?_map, List.getElem?_range hi, Option.map_some]

/-- Of the bytes those of 32 cells matter. -/
theorem codes_congr (h : p.take 64 = q.take 64) : codes p = codes q := by
  have hlength := congrArg List.length h
  rw [List.length_take, List.length_take] at hlength
  have hcount : Min.min (p.length / 2) maxCells = Min.min (q.length / 2) maxCells := by
    simp only [maxCells]
    omega
  rw [codes, codes, hcount]
  refine List.map_congr_left fun i hi => Bytes.word_congr h ?_
  have hi := List.mem_range.mp hi
  simp only [maxCells] at hi
  omega

variable {α : Type} [Scalar α]

/-- A payload is decoded if it has whole words, and at least one. -/
theorem exists_decode_iff :
    (∃ info, (decode payload : Except DecodeError (CellInfo α)) = .ok info) ↔
      payload.length % 2 = 0 ∧ 2 ≤ payload.length := by
  constructor
  · rintro ⟨info, hinfo⟩
    have hwhole : ¬ (payload = [] ∨ payload.length % 2 = 1) := by
      intro hodd
      obtain ⟨e, he⟩ := exists_error_of_odd (α := α) hodd
      rw [hinfo] at he
      cases he
    obtain ⟨hne, hodd⟩ := not_or.mp hwhole
    have := List.length_pos_iff.mpr hne
    omega
  · rintro ⟨heven, hlong⟩
    obtain ⟨first, rest, -, hdecode⟩ := decode_of_even (α := α) hlong heven
    exact ⟨_, hdecode⟩

/-- What is decoded is told of the cells and of nothing else. -/
theorem decode_eq_ok {info : CellInfo α} (h : decode payload = .ok info) :
    ∃ first rest, codes payload = first :: rest ∧
      info = ofVoltages (volts first) (rest.map volts) := by
  obtain ⟨heven, hlong⟩ := exists_decode_iff.mp ⟨info, h⟩
  obtain ⟨first, rest, hcodes, hdecode⟩ := decode_of_even (α := α) hlong heven
  rw [hdecode] at h
  cases h
  exact ⟨first, rest, hcodes, rfl⟩

/-- The voltages are those of the codes. -/
theorem voltages_of_decode {info : CellInfo α} (h : decode payload = .ok info) :
    info.voltages = (codes payload).map volts := by
  obtain ⟨first, rest, hcodes, rfl⟩ := decode_eq_ok h
  rw [hcodes]
  rfl

/-- What is decoded depends on the words of the cells, and on whether the length is even. -/
theorem decode_eq_ok_of_same_cells {info : CellInfo α} (h : p.take 64 = q.take 64)
    (hparity : p.length % 2 = q.length % 2) (hp : decode p = .ok info) : decode q = .ok info := by
  obtain ⟨heven, hlong⟩ := exists_decode_iff.mp ⟨info, hp⟩
  have hlength := congrArg List.length h
  rw [List.length_take, List.length_take] at hlength
  obtain ⟨first, rest, hcodes, rfl⟩ := decode_eq_ok hp
  have hlong' : 2 ≤ q.length := by omega
  obtain ⟨first', rest', hcodes', hdecode⟩ := decode_of_even (α := α) hlong' (hparity ▸ heven)
  rw [← codes_congr h, hcodes] at hcodes'
  cases hcodes'
  exact hdecode

/-- Bytes behind those of 32 cells do not matter. -/
theorem decode_congr (h : p.take 64 = q.take 64) (hlength : p.length = q.length) :
    (decode p : Except DecodeError (CellInfo α)) = decode q := by
  by_cases hshort : p.length < 2
  · rw [decode, decode, if_pos hshort, if_pos (hlength ▸ hshort), hlength]
  by_cases hodd : p.length % 2 ≠ 0
  · rw [decode, decode, if_neg hshort, if_pos hodd, if_neg (hlength ▸ hshort),
      if_pos (hlength ▸ hodd), hlength]
  · obtain ⟨info, hinfo⟩ :=
      exists_decode_iff (α := α) |>.mpr ⟨not_not.mp hodd, Nat.not_lt.mp hshort⟩
    rw [hinfo, decode_eq_ok_of_same_cells h (by rw [hlength]) hinfo]

end Codes

/-! ## Statistics over the rationals -/

section Exact

/-- Being less ranks rationals. -/
theorem ranks_lt : Ranks fun a b : Rat => decide (a < b) where
  asymm {a b} h := by
    have hlt : a < b := of_decide_eq_true h
    exact decide_eq_false hlt.asymm
  split {a b} h c := by
    have hlt : a < b := of_decide_eq_true h
    exact (hlt.gt_or_lt c).imp decide_eq_true decide_eq_true

/-- Being greater ranks them, too. -/
theorem ranks_gt : Ranks fun a b : Rat => decide (b < a) where
  asymm h := ranks_lt.asymm h
  split h c := (ranks_lt.split h c).symm

/-- A code counts millivolts. -/
theorem volts_rat (w : UInt16) : (volts w : Rat) = w.toNat / 1000 := by
  simp [volts]

variable (first : Rat) (rest : List Rat)

/-- The least voltage that is told is the first of the least ones, with its place. -/
theorem firstBest_min :
    FirstBest (fun a b : Rat => decide (a < b)) (first :: rest)
      ((ofVoltages first rest).minIndex, (ofVoltages first rest).min) :=
  firstBest_best ranks_lt first rest

/-- The greatest voltage that is told is the first of the greatest ones, with its place. -/
theorem firstBest_max :
    FirstBest (fun a b : Rat => decide (b < a)) (first :: rest)
      ((ofVoltages first rest).maxIndex, (ofVoltages first rest).max) :=
  firstBest_best ranks_gt first rest

/-- The mean, taken once for each cell, makes up the sum of the voltages. -/
theorem mean_mul_length :
    (ofVoltages first rest).mean * (first :: rest).length = (first :: rest).sum := by
  have hmean : (ofVoltages first rest).mean
      = (first :: rest).sum / ((rest.length + 1 : Nat) : Rat) := by
    rw [List.sum_eq_foldl]
    rfl
  rw [hmean, List.length_cons]
  exact div_mul_cancel₀ _ (Nat.cast_ne_zero.mpr (Nat.succ_ne_zero _))

end Exact

/-- **What is told of the cells is so.**  A payload is decoded exactly if it has an even number of
bytes and at least two.  Its cells are then its words in order, at most 32 of them, whatever numbers
the voltages are computed in, and a cell has a voltage exactly if its number is from 1 to the number
of cells.  The bytes behind those of 32 cells decide nothing but, by their number, whether the payload
is refused for half a cell at the end, which names its length.  In exact arithmetic a word is so many
thousandths of a volt; no cell has a voltage below the least or above the greatest, each of which is
the voltage of the cell that is named for it and of none before that; and the difference and the
mean are those of the voltages. -/
theorem statistics_of_cells (α : Type) [Scalar α] (payload : Bytes) :
    ((∃ info : CellInfo α, decode payload = .ok info) ↔
      payload.length % 2 = 0 ∧ 2 ≤ payload.length) ∧
    (∀ info : CellInfo α, decode payload = .ok info →
      info.voltages.length = Min.min (payload.length / 2) 32 ∧
      (∀ i < Min.min (payload.length / 2) 32,
        info.voltages[i]? = some (volts (payload.word (2 * i)))) ∧
      ∀ cell, (info.voltage? cell).isSome = true ↔
        1 ≤ cell ∧ cell ≤ Min.min (payload.length / 2) 32) ∧
    (∀ other : Bytes, other.take 64 = payload.take 64 →
      (other.length % 2 = payload.length % 2 → ∀ info : CellInfo α,
        decode other = .ok info ↔ decode payload = .ok info) ∧
      (other.length = payload.length →
        (decode other : Except DecodeError (CellInfo α)) = decode payload)) ∧
    ∀ info : CellInfo Rat, decode payload = .ok info →
      (∀ i < Min.min (payload.length / 2) 32,
        info.voltages[i]? = some ((payload.word (2 * i)).toNat / 1000 : Rat)) ∧
      (∀ v ∈ info.voltages, info.min ≤ v ∧ v ≤ info.max) ∧
      IsLeast {cell | info.voltage? cell = some info.min} info.minIndex ∧
      IsLeast {cell | info.voltage? cell = some info.max} info.maxIndex ∧
      info.delta = info.max - info.min ∧
      info.mean * (Min.min (payload.length / 2) 32 : Nat) = info.voltages.sum := by
  have voltages {β : Type} [Scalar β] {info : CellInfo β} (hinfo : decode payload = .ok info) :
      info.voltages.length = Min.min (payload.length / 2) 32 ∧
        ∀ i < Min.min (payload.length / 2) 32,
          info.voltages[i]? = some (volts (payload.word (2 * i))) := by
    rw [voltages_of_decode hinfo, List.length_map, length_codes]
    refine ⟨rfl, fun i hi => ?_⟩
    rw [List.getElem?_map, getElem?_codes hi, Option.map_some]
  refine ⟨exists_decode_iff, ?_, ?_, ?_⟩
  · intro info hinfo
    obtain ⟨hlength, hcells⟩ := voltages hinfo
    refine ⟨hlength, hcells, fun cell => ?_⟩
    rw [isSome_voltage?, hlength]
  · intro other hfront
    refine ⟨fun hparity info => ⟨?_, ?_⟩, fun hlength => decode_congr hfront hlength⟩
    · exact decode_eq_ok_of_same_cells hfront hparity
    · exact decode_eq_ok_of_same_cells hfront.symm hparity.symm
  · intro info hinfo
    obtain ⟨hlength, hcells⟩ := voltages hinfo
    obtain ⟨first, rest, -, rfl⟩ := decode_eq_ok hinfo
    have hmin := firstBest_min (volts first) (rest.map volts)
    have hmax := firstBest_max (volts first) (rest.map volts)
    refine ⟨fun i hi => ?_, fun v hv => ⟨?_, ?_⟩, isLeast_of_firstBest ranks_lt hmin,
      isLeast_of_firstBest ranks_gt hmax, rfl, ?_⟩
    · rw [hcells i hi, volts_rat]
    · exact not_lt.mp (of_decide_eq_false (hmin.unbeaten v hv))
    · exact not_lt.mp (of_decide_eq_false (hmax.unbeaten v hv))
    · rw [← hlength]
      exact mean_mul_length (volts first) (rest.map volts)

/-- Of 34 words the first 32 are cells.  The fifth has the least voltage, and so have all behind it;
a word at the end that is lower still is not looked at. -/
theorem statistics_of_cells_of_tied :
    let payload : Bytes :=
      [0x0c, 0xe5, 0x0c, 0xe2, 0x0c, 0xe9, 0x0c, 0xe2] ++ List.replicate 60 0x0c
    ∃ info : CellInfo Rat, decode payload = .ok info ∧ info.voltages.length = 32 ∧
      info.minIndex = 5 ∧ info.voltage? 5 = some info.min ∧ info.maxIndex = 3 ∧
      info.max = 3305 / 1000 ∧ (∀ v ∈ info.voltages, info.min ≤ v ∧ v ≤ info.max) ∧
      info.mean * 32 = info.voltages.sum ∧ (info.voltage? 33).isSome = false ∧
      decode (payload ++ [0x00, 0x01]) = .ok info := by
  intro payload
  obtain ⟨hdecodes, hcells, hbehind, hexact⟩ := statistics_of_cells Rat payload
  obtain ⟨info, hinfo⟩ := hdecodes.mpr (by decide)
  obtain ⟨hlength, -, hsome⟩ := hcells info hinfo
  obtain ⟨-, hbounds, hmin, -, -, hmean⟩ := hexact info hinfo
  have hfields : (decode payload : Except DecodeError (CellInfo Rat)).toOption.map
      (fun info => (info.minIndex, info.maxIndex, info.max)) = some (5, 3, 3305 / 1000) := by
    decide +kernel
  rw [hinfo] at hfields
  obtain ⟨hminIndex, hmaxIndex, hmax⟩ : info.minIndex = 5 ∧ info.maxIndex = 3 ∧
      info.max = 3305 / 1000 := by
    simpa [Except.toOption] using hfields
  have hleast : info.voltage? info.minIndex = some info.min := hmin.1
  have hcount : Min.min (payload.length / 2) 32 = 32 := by decide
  rw [hcount] at hmean
  refine ⟨info, hinfo, hlength.trans (by decide), hminIndex, ?_, hmaxIndex, hmax, hbounds, hmean,
    ?_, ((hbehind _ (by decide)).1 (by decide) info).mpr hinfo⟩
  · rw [← hminIndex]
    exact hleast
  · rw [← Bool.not_eq_true, hsome]
    decide

end CellInfo

end SensorGateway
