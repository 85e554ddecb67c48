import Mathlib.Data.Nat.Bitwise
import SensorGateway.Proofs.Battery.Decoding
import SensorGateway.Proofs.Guarded.Basic
import SensorGateway.Proofs.Session.LowBattery

/-!
# Decoding and merging a battery's answers does not trap

Of the counts in an answer none is believed.  The number of probes is cut down to what a pack can
have and to what the payload holds, the number of cells to the largest pack, and both before anything
is read with them.  So a word is shifted by less than its width, a series is filled with no more
values than it has room for, and the cells are as many as were counted, of which there is at least
one.
-/

namespace SensorGateway

/-- The error is that of a read outside the payload. -/
def DecodeError.isWild : DecodeError → Bool
  | outOfRange _ => true
  | tooShort _ _ | oddLength _ => false

/-- No error of the decoder for hardware comes of a read outside the payload. -/
theorem HardwareInfo.isWild_of_decode {payload : Bytes} {e : DecodeError}
    (h : HardwareInfo.decode payload = .error e) : e.isWild = false := by
  by_cases hshort : payload.length < fixedLength
  · rw [decode, if_pos hshort] at h
    cases h
    rfl
  · obtain ⟨info, hinfo, -⟩ := exists_decode (Nat.not_lt.mp hshort)
    rw [hinfo] at h
    cases h

namespace Guarded

/-! ## Cells that are balancing, and faults -/

/-- Whether a cell, counted from 1, is balancing. -/
def isBalancing (info : HardwareInfo) (cell : Nat) : Except Trap Bool :=
  if 1 ≤ cell ∧ cell ≤ maxCells then do
    let mask ← bit 32 (← minus cell 1)
    return info.balanceStatus.toNat &&& mask != 0
  else return false

/-- The names of the faults that are raised. -/
def errorNames (info : HardwareInfo) : Except Trap (List String) := do
  let marked ← HardwareInfo.faultNames.zipIdx.mapM fun (name, place) => do
    let mask ← bit 16 place
    return (name, info.errors.toNat &&& mask != 0)
  return (marked.filter Prod.snd).map Prod.fst

/-- 1 for each of a pack's cells that is balancing, 0 for the others. -/
def balancingOf (info : HardwareInfo) : Except Trap (List Float) :=
  (List.range (min info.cellStringCount.toNat maxCells)).mapM fun i => do
    let balancing ← isBalancing info (i + 1)
    return if balancing then 1 else 0

/-- To test a bit with a mask is to ask for it. -/
theorem and_shift_ne_zero (n place : Nat) : (n &&& 1 <<< place != 0) = n.testBit place := by
  rw [Nat.one_shiftLeft, Nat.and_two_pow]
  cases n.testBit place <;> simp

/-- Asking whether a cell is balancing never shifts too far. -/
theorem isBalancing_eq_ok (info : HardwareInfo) (cell : Nat) :
    isBalancing info cell = .ok (info.isBalancing cell) := by
  unfold isBalancing
  split
  next h =>
    have hplace : cell - 1 < 32 := by
      simp only [maxCells] at h
      omega
    rw [minus_eq_ok h.1]
    simp only [bind, Except.bind, bit_eq_ok hplace, and_shift_ne_zero]
    simp [HardwareInfo.isBalancing, h.1, h.2, pure, Except.pure]
  next h =>
    have hfalse : info.isBalancing cell = false := by
      simp only [HardwareInfo.isBalancing]
      rcases Decidable.not_and_iff_not_or_not.mp h with h | h <;> simp [h]
    rw [hfalse]
    rfl

/-- Naming the errors never shifts too far. -/
theorem errorNames_eq_ok (info : HardwareInfo) : errorNames info = .ok info.errorNames := by
  have hmarked := mapM_eq_ok
    (f := fun (entry : String × Nat) => do
      let mask ← bit 16 entry.2
      return (entry.1, info.errors.toNat &&& mask != 0))
    (g := fun entry => (entry.1, info.errors.toNat.testBit entry.2))
    HardwareInfo.faultNames.zipIdx fun entry hentry => by
      have hplace : entry.2 < 16 := List.snd_lt_of_mem_zipIdx hentry
      rw [bit_eq_ok hplace]
      simp only [bind, Except.bind, and_shift_ne_zero]
      rfl
  unfold errorNames
  rw [hmarked]
  simp only [bind, Except.bind, List.filter_map, List.map_map]
  rfl

/-- Listing the balancing cells never shifts too far. -/
theorem balancingOf_eq_ok (info : HardwareInfo) :
    balancingOf info = .ok (Record.balancingOf info) := by
  refine mapM_eq_ok _ fun i _ => ?_
  rw [isBalancing_eq_ok]
  rfl

/-! ## The state of the pack -/

/-- Decodes the payload of an answer to the hardware request.  What is behind the fixed part may hold
probes. -/
def decodeHardware (payload : Bytes) : Except Trap (Except DecodeError HardwareInfo) :=
  if payload.length < HardwareInfo.fixedLength then
    return .error (.tooShort HardwareInfo.fixedLength payload.length)
  else do
    let _ ← minus payload.length HardwareInfo.fixedLength
    answer DecodeError.isWild (HardwareInfo.decode payload)

/-- Decoding hardware never traps. -/
theorem decodeHardware_eq_ok (payload : Bytes) :
    decodeHardware payload = .ok (HardwareInfo.decode payload) := by
  unfold decodeHardware
  split
  next hshort =>
    rw [HardwareInfo.decode, if_pos hshort]
    rfl
  next hlong =>
    rw [minus_eq_ok (Nat.not_lt.mp hlong)]
    exact answer_eq_ok fun e => HardwareInfo.isWild_of_decode

/-! ## Cell voltages -/

/-- The voltage in two bytes of a payload. -/
def voltageAt (payload : Bytes) (offset : Nat) : Except Trap Float := do
  let high ← get payload offset
  let low ← get payload (offset + 1)
  return CellInfo.volts (Word.ofBytes high low)

/-- The better of the best place so far and a place further on. -/
def pick (voltages : List Float) (better : Float → Float → Bool) (best : Nat) (v : Float)
    (i : Nat) : Except Trap Nat := do
  let held ← get voltages best
  return if better v held then i else best

/-- Looks at one voltage. -/
def compare (voltages : List Float) (places : Nat × Nat) (entry : Float × Nat) :
    Except Trap (Nat × Nat) := do
  let least ← pick voltages (fun a b => decide (a < b)) places.1 entry.1 entry.2
  let greatest ← pick voltages (fun a b => decide (b < a)) places.2 entry.1 entry.2
  return (least, greatest)

/-- The places, counted from 0, of the least and the greatest voltage. -/
def extremes (voltages : List Float) : Except Trap (Nat × Nat) :=
  voltages.zipIdx.foldlM (compare voltages) (0, 0)

/-- Decodes the payload of an answer to the cell request. -/
def decodeCells (payload : Bytes) : Except Trap (Except DecodeError (CellInfo Float)) :=
  if payload.length < 2 then
    return .error (.tooShort 2 payload.length)
  else if payload.length % 2 ≠ 0 then
    return .error (.oddLength payload.length)
  else do
    let count := min (payload.length / 2) maxCells
    let voltages ← (List.range count).mapM fun i => voltageAt payload (2 * i)
    let (least, greatest) ← extremes voltages
    let min ← get voltages least
    let max ← get voltages greatest
    let mean ← share (voltages.foldl (· + ·) (Scalar.ofNat 0)) count
    return .ok {
      voltages
      min
      minIndex := least + 1
      max
      maxIndex := greatest + 1
      delta := max - min
      mean }

/-- The best voltage so far, with its place counted from 1, is the one at a place counted from 0. -/
structure At (voltages : List Float) (best : Nat) (so_far : Nat × Float) : Prop where
  place : so_far.1 = best + 1
  held : voltages[best]? = some so_far.2

/-- The search for a cell stays within the voltages, and keeps the place of the best one. -/
theorem exists_pick {voltages : List Float} (better : Float → Float → Bool) {best i : Nat}
    {so_far : Nat × Float} {v : Float} (h : At voltages best so_far) (hv : voltages[i]? = some v) :
    ∃ best', pick voltages better best v i = .ok best' ∧
      At voltages best' (if better v so_far.2 then (i + 1, v) else so_far) := by
  unfold pick
  rw [get_eq_ok h.held]
  refine ⟨_, rfl, ?_⟩
  split
  · exact ⟨rfl, hv⟩
  · exact h

/-- From some place on the voltages are looked at as `CellInfo.best` looks at them. -/
theorem exists_foldlM_compare (voltages rest : List Float) (k : Nat) {least greatest : Nat}
    {lo hi : Nat × Float} (hrest : ∀ j, voltages[k + j]? = rest[j]?)
    (hlo : At voltages least lo) (hhi : At voltages greatest hi) :
    ∃ least' greatest',
      (rest.zipIdx k).foldlM (compare voltages) (least, greatest) = .ok (least', greatest') ∧
        At voltages least' ((rest.zipIdx (k + 1)).foldl
          (fun so_far (v, place) => if v < so_far.2 then (place, v) else so_far) lo) ∧
        At voltages greatest' ((rest.zipIdx (k + 1)).foldl
          (fun so_far (v, place) => if so_far.2 < v then (place, v) else so_far) hi) := by
  induction rest generalizing k least greatest lo hi with
  | nil => exact ⟨least, greatest, rfl, hlo, hhi⟩
  | cons v rest ih =>
      have hv : voltages[k]? = some v := hrest 0
      obtain ⟨least', hleast, hlo'⟩ := exists_pick (fun a b => decide (a < b)) hlo hv
      obtain ⟨greatest', hgreatest, hhi'⟩ := exists_pick (fun a b => decide (b < a)) hhi hv
      have hnext (j : Nat) : voltages[k + 1 + j]? = rest[j]? := by
        rw [Nat.add_right_comm]
        exact hrest (j + 1)
      obtain ⟨l, g, hfold, hl, hg⟩ := ih (k + 1) hnext hlo' hhi'
      refine ⟨l, g, ?_, ?_, ?_⟩
      · rw [List.zipIdx_cons, List.foldlM_cons, compare, hleast]
        simp only [bind, Except.bind, hgreatest]
        exact hfold
      · simpa using hl
      · simpa using hg

/-- With at least one cell there are a least and a greatest voltage to be told. -/
theorem exists_extremes (first : Float) (rest : List Float) :
    ∃ least greatest, extremes (first :: rest) = .ok (least, greatest) ∧
      At (first :: rest) least (CellInfo.best (fun a b => decide (a < b)) first rest) ∧
      At (first :: rest) greatest (CellInfo.best (fun a b => decide (b < a)) first rest) := by
  have hfirst : At (first :: rest) 0 (1, first) := ⟨rfl, rfl⟩
  -- looked at first, the first voltage is compared with itself, and stays where it is
  have hself (better : Float → Float → Bool) :
      pick (first :: rest) better 0 first 0 = .ok 0 := by
    simp [pick, get, bind, Except.bind, pure, Except.pure]
  have hcompare : compare (first :: rest) (0, 0) (first, 0) = .ok (0, 0) := by
    rw [compare, hself, hself]
    rfl
  obtain ⟨least, greatest, hfold, hlo, hhi⟩ := exists_foldlM_compare (first :: rest)
    rest 1 (fun j => by rw [Nat.add_comm, List.getElem?_cons_succ]) hfirst hfirst
  refine ⟨least, greatest, ?_, ?_, ?_⟩
  · rw [extremes, List.zipIdx_cons, List.foldlM_cons, hcompare]
    exact hfold
  · simpa [CellInfo.best] using hlo
  · simpa [CellInfo.best] using hhi

/-- The voltage of a cell that is there can be read. -/
theorem voltageAt_eq_ok {payload : Bytes} {offset : Nat} (h : offset + 1 < payload.length) :
    voltageAt payload offset = .ok (CellInfo.volts (payload.word offset)) := by
  rw [voltageAt, get_eq_ok (Bytes.getElem?_eq_some_byte (Nat.lt_of_succ_lt h)),
    get_eq_ok (Bytes.getElem?_eq_some_byte h)]
  rfl

/-- The cells of a payload are as many as were counted. -/
theorem voltages_eq_ok (payload : Bytes) :
    (List.range (min (payload.length / 2) maxCells)).mapM (fun i => voltageAt payload (2 * i))
      = .ok ((CellInfo.codes payload).map CellInfo.volts) := by
  rw [CellInfo.codes, List.map_map]
  refine mapM_eq_ok _ fun i hi => voltageAt_eq_ok ?_
  have hcounted := List.mem_range.mp hi
  omega

/-- Decoding cells never traps. -/
theorem decodeCells_eq_ok (payload : Bytes) :
    decodeCells payload = .ok (CellInfo.decode payload) := by
  unfold decodeCells
  by_cases hshort : payload.length < 2
  · rw [CellInfo.decode, if_pos hshort, if_pos hshort]
    rfl
  by_cases hodd : payload.length % 2 ≠ 0
  · rw [CellInfo.decode, if_neg hshort, if_neg hshort, if_pos hodd, if_pos hodd]
    rfl
  -- there is a first cell, so the voltages are looked at in turn and shared out among some
  obtain ⟨first, rest, hcodes, hdecode⟩ :=
    CellInfo.decode_of_even (α := Float) (Nat.not_lt.mp hshort) (not_not.mp hodd)
  have hcount : min (payload.length / 2) maxCells = rest.length + 1 := by
    have hlength := congrArg List.length hcodes
    rwa [CellInfo.codes, List.length_map, List.length_range, List.length_cons] at hlength
  have hvoltages := voltages_eq_ok payload
  rw [hcodes, hcount, List.map_cons] at hvoltages
  obtain ⟨least, greatest, hextremes, hlo, hhi⟩ :=
    exists_extremes (CellInfo.volts first) (rest.map CellInfo.volts)
  rw [if_neg hshort, if_neg hodd, hdecode, hcount]
  simp only [hvoltages, hextremes, bind, Except.bind, get_eq_ok hlo.held, get_eq_ok hhi.held,
    share_eq_ok (Nat.succ_ne_zero rest.length)]
  simp only [CellInfo.ofVoltages, hlo.place, hhi.place, List.length_map]
  rfl

/-! ## Series -/

variable {capacity : Nat}

/-- Copies values over the first slots, which have to be as many. -/
def overwrite (slots : Vector Float capacity) (count : Nat) (values : List Float) :
    Except Trap (Vector Float capacity) := do
  let room ← front slots.toList count
  if room.length = values.length then
    return Vector.ofFn fun i => values.getD i (slots.get i)
  else
    .error .outside

/-- Replaces the contents of a series. -/
def setAll (s : Series capacity) (values : List Float) : Except Trap (Series capacity) := do
  let count := min values.length capacity
  let values ← front values count
  let slots ← overwrite s.slots count values
  return { slots, count }

/-- Values that a series has room for are written into its slots. -/
theorem overwrite_eq_ok (slots : Vector Float capacity) {values : List Float}
    (h : values.length ≤ capacity) :
    overwrite slots values.length values
      = .ok (Vector.ofFn fun i => values.getD i (slots.get i)) := by
  have hroom : values.length ≤ slots.toList.length := by simpa using h
  rw [overwrite, front_eq_ok hroom]
  simp only [bind, Except.bind, List.length_take_of_le hroom, if_true]
  rfl

/-- A series is replaced without a write outside its slots, however many values there are. -/
theorem setAll_eq_ok (s : Series capacity) (values : List Float) :
    setAll s values = .ok (s.setAll values) := by
  have hfront : min values.length capacity ≤ values.length := Nat.min_le_left _ _
  have hlength : (values.take (min values.length capacity)).length = min values.length capacity :=
    List.length_take_of_le hfront
  have hroom : (values.take (min values.length capacity)).length ≤ capacity := by omega
  have hoverwrite := overwrite_eq_ok s.slots hroom
  rw [hlength] at hoverwrite
  rw [setAll, front_eq_ok hfront]
  simp only [bind, Except.bind, hoverwrite]
  have hslots (i : Fin capacity) :
      (values.take (min values.length capacity)).getD i (s.slots.get i)
        = values.getD i (s.slots.get i) := by
    simp only [List.getD_eq_getElem?_getD, List.getElem?_take]
    split
    · rfl
    next h =>
      have hbeyond : values.length ≤ i := by omega
      rw [List.getElem?_eq_none hbeyond]
  simp only [hslots]
  rfl

end Guarded

end SensorGateway
