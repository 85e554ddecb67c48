import SensorGateway.Proofs.Session.Reports

/-!
# How far the state of a pack is read, and which cells are balancing

Two counts in the payload say how much there is to read: one the probes, the other the cells.
Neither is believed further than the payload, or the largest pack, goes.  So a payload that is long
enough is read whatever its counts say, and only as far as the last probe
(`HardwareInfo.decode_congr`).  Which cells are balancing stands in two words, cell 1 in the lowest
bit of the first and cell 17 in the lowest bit of the second (`HardwareInfo.ReadFrom.isBalancing`).
-/

namespace SensorGateway

namespace HardwareInfo

variable {p q payload : Bytes} {info : HardwareInfo}

/-! ## How far a payload is read -/

/-- The offset behind the last probe that is read. -/
def readUpTo (payload : Bytes) : Nat :=
  fixedLength + 2 * probeCount (payload.byte 22).toNat payload.length

/-- What a payload tells depends on its length and on the bytes that are read. -/
theorem ReadFrom.congr (hlength : p.length = q.length)
    (h : p.take (readUpTo p) = q.take (readUpTo p)) (hread : info.ReadFrom p) :
    info.ReadFrom q := by
  have word (offset : Nat) (hoffset : offset + 1 < readUpTo p) : p.word offset = q.word offset :=
    Bytes.word_congr h hoffset
  have byte (offset : Nat) (hoffset : offset < readUpTo p) : p.byte offset = q.byte offset :=
    Bytes.byte_congr h hoffset
  have fixed {offset : Nat} (hoffset : offset < 23) : offset < readUpTo p :=
    Nat.lt_of_lt_of_le hoffset (Nat.le_add_right 23 _)
  have hprobes : probeWords p = probeWords q := by
    rw [probeWords, probeWords, ← byte 22 (fixed (by decide)), ← hlength]
    refine List.map_congr_left fun i hi => word _ ?_
    have hi := List.mem_range.mp hi
    simp only [readUpTo]
    omega
  exact {
    totalVoltage := by rw [hread.totalVoltage, word 0 (fixed (by decide))]
    current := by rw [hread.current, word 2 (fixed (by decide))]
    power := by rw [hread.power, word 0 (fixed (by decide)), word 2 (fixed (by decide))]
    remainingCapacity := by rw [hread.remainingCapacity, word 4 (fixed (by decide))]
    nominalCapacity := by rw [hread.nominalCapacity, word 6 (fixed (by decide))]
    cycles := by rw [hread.cycles, word 8 (fixed (by decide))]
    manufactureDate := by rw [hread.manufactureDate, word 10 (fixed (by decide))]
    balanceStatus := by
      rw [hread.balanceStatus, word 12 (fixed (by decide)), word 14 (fixed (by decide))]
    errors := by rw [hread.errors, word 16 (fixed (by decide))]
    softwareVersion := by rw [hread.softwareVersion, byte 18 (fixed (by decide))]
    soc := by rw [hread.soc, byte 19 (fixed (by decide))]
    charging := by rw [hread.charging, byte 20 (fixed (by decide))]
    discharging := by rw [hread.discharging, byte 20 (fixed (by decide))]
    cellStringCount := by rw [hread.cellStringCount, byte 21 (fixed (by decide))]
    temperatures := by rw [hread.temperatures, hprobes] }

/-- What stands behind the last probe that is read does not matter. -/
theorem decode_congr (hlength : p.length = q.length)
    (h : p.take (readUpTo p) = q.take (readUpTo p)) : decode p = decode q := by
  by_cases hshort : p.length < fixedLength
  · rw [decode_of_short hshort, decode_of_short (hlength ▸ hshort), hlength]
  · have hlong : fixedLength ≤ p.length := Nat.not_lt.mp hshort
    obtain ⟨info, hinfo, hread⟩ := exists_decode hlong
    rw [hinfo, decode_eq_ok_iff.mpr ⟨hlength ▸ hlong, hread.congr hlength h⟩]

/-- Each probe that is believed to be there has the word at its place. -/
theorem ReadFrom.getElem?_temperatures (hread : info.ReadFrom payload) {i : Nat}
    (hi : i < probeCount (payload.byte 22).toNat payload.length) :
    info.temperatures[i]? = some (probe (payload.word (fixedLength + 2 * i))) := by
  rw [hread.temperatures, probeWords, List.map_map, List.getElem?_map, List.getElem?_range hi]
  rfl

/-- There are as many temperatures as probes are believed to be there. -/
theorem ReadFrom.length_temperatures (hread : info.ReadFrom payload) :
    info.temperatures.length = probeCount (payload.byte 22).toNat payload.length := by
  rw [hread.temperatures, probeWords, List.length_map, List.length_map, List.length_range]

/-! ## Cells that are balancing -/

/-- The two words of the mask stand one after the other, the first in the lower bits. -/
theorem testBit_mask (first second : UInt16) (place : Nat) :
    (UInt32.ofNat (first.toNat + second.toNat * 65536)).toNat.testBit place
      = if place < 16 then first.toNat.testBit place else second.toNat.testBit (place - 16) := by
  have hfirst := first.toNat_lt
  have hsecond := second.toNat_lt
  have hmask : (UInt32.ofNat (first.toNat + second.toNat * 65536)).toNat
      = 2 ^ 16 * second.toNat + first.toNat := by
    rw [UInt32.toNat_ofNat']
    omega
  rw [hmask, Nat.testBit_two_pow_mul_add second.toNat hfirst place]

/-- There is no balancing bit for a cell that the largest pack does not have. -/
theorem isBalancing_of_outside {cell : Nat} (h : cell = 0 ∨ maxCells < cell) :
    info.isBalancing cell = false := by
  rcases h with rfl | h
  · rfl
  · simp [isBalancing, Nat.not_le.mpr h]

/-- Of 16 cells each the first word has the lower ones and the second the higher ones. -/
theorem ReadFrom.isBalancing (hread : info.ReadFrom payload) {cell : Nat} (hpos : 1 ≤ cell)
    (hle : cell ≤ maxCells) :
    info.isBalancing cell
      = (payload.word (if cell ≤ 16 then 12 else 14)).toNat.testBit ((cell - 1) % 16) := by
  simp only [maxCells] at hle
  simp only [HardwareInfo.isBalancing, maxCells, hpos, hle, hread.balanceStatus, testBit_mask,
    decide_true, Bool.true_and]
  by_cases hlow : cell ≤ 16
  · have hplace : cell - 1 < 16 := by omega
    rw [if_pos hplace, if_pos hlow, Nat.mod_eq_of_lt hplace]
  · have hplace : ¬ cell - 1 < 16 := by omega
    rw [if_neg hplace, if_neg hlow, Nat.mod_eq_sub_mod (by omega),
      Nat.mod_eq_of_lt (by omega : cell - 1 - 16 < 16)]

end HardwareInfo

/-! ## The series of balancing cells -/

namespace Record

/-- The balancing series has an entry for each cell of the pack. -/
theorem length_balancingOf (info : HardwareInfo) :
    (balancingOf info).length = min info.cellStringCount.toNat maxCells := by
  rw [balancingOf, List.length_map, List.length_range]

/-- After a report the balancing series is the one that it tells. -/
theorem toList_balancing_mergeHardwareInfo (r : Record) (info : HardwareInfo) (now : Instant) :
    (r.mergeHardwareInfo info now).balancing.toList = balancingOf info := by
  have hle : (balancingOf info).length ≤ maxCells := by
    rw [length_balancingOf]
    exact Nat.min_le_right _ _
  simp only [mergeHardwareInfo, Series.toList_setAll, List.take_of_length_le hle]

/-- After a report the balancing series is as long as the pack, up to the largest one. -/
theorem size_balancing_mergeHardwareInfo (r : Record) (info : HardwareInfo) (now : Instant) :
    (r.mergeHardwareInfo info now).balancing.size = min info.cellStringCount.toNat maxCells := by
  simp only [mergeHardwareInfo, Series.size, Series.setAll, length_balancingOf]
  omega

/-- After a report the entry of a cell says whether the report has it balancing. -/
theorem get?_balancing_mergeHardwareInfo (r : Record) (info : HardwareInfo) (now : Instant)
    {cell : Nat} (hpos : 1 ≤ cell) (hle : cell ≤ min info.cellStringCount.toNat maxCells) :
    (r.mergeHardwareInfo info now).balancing.get? cell
      = some (if info.isBalancing cell then 1 else 0) := by
  obtain ⟨i, rfl⟩ := Nat.exists_eq_add_of_le' hpos
  rw [Series.get?, toList_balancing_mergeHardwareInfo, balancingOf, List.getElem?_map,
    List.getElem?_range hle, Option.map_some]

end Record

namespace HardwareInfo

/-- **No count of a payload is believed too far.**  A payload is refused exactly if it is shorter
than the fixed part.  Otherwise as many probes are read as the payload says, but no more than six
and no more than there are whole words for, each of them 2731 less than its word, in tenths of a
degree; and whatever else the payload has behind the last of them, the same comes of it.  Merged into
a record, the state of the pack sets as many entries of the series of balancing cells as the pack has
cells, but no more than 32: the entry of a cell is 1 if the cell's bit is set, for cells 1 to 16 in the
word at offset 12 and for cells 17 to 32 in the word at offset 14, and else 0.  A cell with another
number is never balancing. -/
theorem counts_believed_within_bounds (payload : Bytes) :
    ((∃ e, decode payload = .error e) ↔ payload.length < 23) ∧
    ∀ info, decode payload = .ok info →
      let probes := min (min (payload.byte 22).toNat 6) ((payload.length - 23) / 2)
      info.temperatures.length = probes ∧
      (∀ i < probes, info.temperatures[i]?
        = some (Float.ofInt (((payload.word (23 + 2 * i)).toNat : Int) - 2731) / 10)) ∧
      (∀ other : Bytes, other.length = payload.length →
        other.take (23 + 2 * probes) = payload.take (23 + 2 * probes) →
          decode other = .ok info) ∧
      (∀ (r : Record) (now : Instant),
        (r.mergeHardwareInfo info now).balancing.size = min (payload.byte 21).toNat 32 ∧
        ∀ cell, 1 ≤ cell → cell ≤ min (payload.byte 21).toNat 32 →
          (r.mergeHardwareInfo info now).balancing.get? cell
            = some (if (payload.word (if cell ≤ 16 then 12 else 14)).toNat.testBit ((cell - 1) % 16)
                then 1 else 0)) ∧
      ∀ cell, cell = 0 ∨ 32 < cell → info.isBalancing cell = false := by
  refine ⟨⟨?_, fun hshort => ⟨_, decode_of_short hshort⟩⟩, ?_⟩
  · rintro ⟨e, he⟩
    refine Nat.not_le.mp fun hlong => ?_
    obtain ⟨info, hinfo, -⟩ := exists_decode hlong
    rw [hinfo] at he
    cases he
  intro info hinfo
  obtain ⟨hlong, hread⟩ := decode_eq_ok_iff.mp hinfo
  refine ⟨hread.length_temperatures, fun i hi => hread.getElem?_temperatures hi, ?_, ?_, ?_⟩
  · intro other hlength hfront
    rw [← hinfo]
    exact (decode_congr hlength.symm hfront.symm).symm
  · intro r now
    have hcount : min (payload.byte 21).toNat 32 = min info.cellStringCount.toNat maxCells := by
      rw [hread.cellStringCount]
      rfl
    rw [hcount]
    refine ⟨Record.size_balancing_mergeHardwareInfo r info now, fun cell hpos hle => ?_⟩
    have hcell : cell ≤ maxCells := Nat.le_trans hle (Nat.min_le_right _ _)
    rw [Record.get?_balancing_mergeHardwareInfo r info now hpos hle, hread.isBalancing hpos hcell]
  · exact fun cell houtside => isBalancing_of_outside houtside

/-- Nine probes are promised, and there are bytes for one and a half.  The pack has 20 cells, of which
the first, the 16th and the 20th are balancing. -/
theorem counts_believed_within_bounds_half_probe :
    let payload : Bytes :=
      [0x13, 0x88, 0xff, 0x9c, 0x1f, 0x40, 0x27, 0x10, 0x00, 0x0c, 0x2c, 0x4f, 0x80, 0x01, 0x00,
        0x08, 0x00, 0x00, 0x21, 0x50, 0x03, 20, 9, 0x0b, 0xa5, 0x0b]
    ∃ info, decode payload = .ok info ∧ info.temperatures.length = 1 ∧
      info.temperatures[0]? = some 25 ∧ decode (payload.set 25 0xff) = .ok info ∧
      let balancing := (Record.empty.mergeHardwareInfo info default).balancing
      balancing.size = 20 ∧ balancing.get? 1 = some 1 ∧ balancing.get? 2 = some 0 ∧
        balancing.get? 16 = some 1 ∧ balancing.get? 17 = some 0 ∧ balancing.get? 20 = some 1 ∧
        info.isBalancing 33 = false := by
  intro payload
  have hlong : fixedLength ≤ payload.length := by decide
  obtain ⟨info, hinfo, -⟩ := exists_decode hlong
  obtain ⟨hlength, hprobe, hbehind, hmerge, houtside⟩ :=
    (counts_believed_within_bounds payload).2 info hinfo
  obtain ⟨hsize, hcell⟩ := hmerge Record.empty default
  have hbalancing (cell : Nat) (hpos : 1 ≤ cell) (hle : cell ≤ 20)
      (hbit : (payload.word (if cell ≤ 16 then 12 else 14)).toNat.testBit ((cell - 1) % 16)) :=
    (hcell cell hpos hle).trans (congrArg some (if_pos hbit))
  have hresting (cell : Nat) (hpos : 1 ≤ cell) (hle : cell ≤ 20)
      (hbit : ¬ (payload.word (if cell ≤ 16 then 12 else 14)).toNat.testBit ((cell - 1) % 16)) :=
    (hcell cell hpos hle).trans (congrArg some (if_neg hbit))
  refine ⟨info, hinfo, hlength.trans (by decide), ?_, hbehind _ (by decide) (by decide), hsize, ?_⟩
  · exact (hprobe 0 (by decide)).trans (by decide +kernel)
  · exact ⟨hbalancing 1 (by decide) (by decide) (by decide),
      hresting 2 (by decide) (by decide) (by decide),
      hbalancing 16 (by decide) (by decide) (by decide),
      hresting 17 (by decide) (by decide) (by decide),
      hbalancing 20 (by decide) (by decide) (by decide), houtside 33 (by decide)⟩

end HardwareInfo

end SensorGateway
