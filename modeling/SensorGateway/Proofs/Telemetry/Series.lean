import Mathlib
import SensorGateway.Proofs.Session.Reports

/-!
# A series and what is left in its slots

Setting a series fills as many slots as there are values and notes their number.  All that can be asked
of it (size, values by number, the list of both) is about the slots in use, and so depends on the last
values alone (`Series.toList_filled`).

Comparing is different: two series are equal if all their slots are, and a slot that is not in use has
what was last put into it, when the series was longer (`Series.slot_filled`).  So series that show the
same are equal if, and only if, the same is left in the slots behind (`Series.beq_filled`), and so are
records with the same fields and series that show the same.
-/

namespace SensorGateway

namespace Series

variable {capacity : Nat} {calls calls' : List (List Float)} {values : List Float}

/-! ## A series that has been set many times -/

/-- The series after it has been set to each of these in turn. -/
def filled (calls : List (List Float)) : Series capacity := calls.foldl setAll empty

/-- What is left in a slot: the value that came last, and zero if none ever came so far. -/
def leftIn (calls : List (List Float)) (i : Nat) : Float :=
  (calls.reverse.findSome? fun values => values[i]?).getD 0

/-- A further call replaces what the earlier ones have left. -/
theorem filled_concat (calls : List (List Float)) (values : List Float) :
    (filled (calls ++ [values]) : Series capacity) = (filled calls).setAll values := by
  rw [filled, List.foldl_append]
  rfl

/-- A further call leaves its values in their slots, and the others as they were. -/
theorem leftIn_concat (calls : List (List Float)) (values : List Float) (i : Nat) :
    leftIn (calls ++ [values]) i = values.getD i (leftIn calls i) := by
  rw [leftIn, List.reverse_concat, List.findSome?_cons, List.getD_eq_getElem?_getD]
  cases values[i]? with
  | none => rfl
  | some x => rfl

/-- Every slot has what is left in it. -/
theorem slot_filled (calls : List (List Float)) {i : Nat} (hi : i < capacity) :
    (filled calls : Series capacity).slots[i] = leftIn calls i := by
  induction calls using List.reverseRecOn with
  | nil => simp [filled, empty, leftIn]
  | append_singleton calls values ih =>
      rw [leftIn_concat, ← ih, filled_concat]
      simp [setAll]

section Shown

variable (hlast : calls.getLast? = some values)

include hlast

/-- Whatever was before, the last call has replaced it. -/
theorem exists_filled_eq_setAll :
    ∃ s : Series capacity, (filled calls : Series capacity) = s.setAll values := by
  obtain ⟨earlier, rfl⟩ := List.getLast?_eq_some_iff.mp hlast
  exact ⟨filled earlier, filled_concat earlier values⟩

/-- A series holds the values of the last call for which there was room. -/
theorem toList_filled : (filled calls : Series capacity).toList = values.take capacity := by
  obtain ⟨s, hs⟩ : ∃ s : Series capacity, filled calls = s.setAll values :=
    exists_filled_eq_setAll hlast
  rw [hs, toList_setAll]

/-- It has as many values as these are. -/
theorem size_filled : (filled calls : Series capacity).size = min values.length capacity := by
  obtain ⟨s, hs⟩ : ∃ s : Series capacity, filled calls = s.setAll values :=
    exists_filled_eq_setAll hlast
  rw [hs]
  rfl

/-- A value is found under its number. -/
theorem get?_filled {index : Nat} {x : Float} :
    (filled calls : Series capacity).get? index = some x
      ↔ 1 ≤ index ∧ index ≤ min values.length capacity ∧ values[index - 1]? = some x := by
  cases index with
  | zero => simp [get?]
  | succ i =>
      rw [get?, toList_filled hlast, List.getElem?_take, Nat.add_sub_cancel]
      split
      next hi =>
        constructor
        · intro hx
          obtain ⟨hlength, -⟩ := List.getElem?_eq_some_iff.mp hx
          exact ⟨by omega, by omega, hx⟩
        · rintro ⟨-, -, hx⟩
          exact hx
      next hi =>
        constructor
        · intro hx
          cases hx
        · rintro ⟨-, hle, -⟩
          omega

end Shown

/-! ## Equality -/

/-- Series are found equal if all their slots are, those behind the values included. -/
theorem beq_iff {s s' : Series capacity} :
    (s == s') = true ↔
      (∀ i, ∀ hi : i < capacity, (s.slots[i] == s'.slots[i]) = true) ∧ s.count = s'.count := by
  show (s.slots == s'.slots && s.count == s'.count) = true ↔ _
  rw [Bool.and_eq_true_iff, Vector.beq_eq_decide, decide_eq_true_iff, beq_iff_eq]

/-- The calls have left the same in all slots from one on. -/
def LeftSame (capacity size : Nat) (calls calls' : List (List Float)) : Prop :=
  ∀ i, size ≤ i → i < capacity → (leftIn calls i == leftIn calls' i) = true

/-- In the slots of its values a call leaves just these. -/
theorem leftIn_of_lt (hlast : calls.getLast? = some values) {i : Nat} (hi : i < values.length) :
    leftIn calls i = values[i] := by
  obtain ⟨earlier, rfl⟩ := List.getLast?_eq_some_iff.mp hlast
  rw [leftIn_concat, List.getD_eq_getElem?_getD, List.getElem?_eq_getElem hi, Option.getD_some]

/-- Nothing is left in slots that no call has come to. -/
theorem leftIn_of_le {i : Nat} (h : ∀ values ∈ calls, values.length ≤ i) : leftIn calls i = 0 := by
  have hnone : (calls.reverse.findSome? fun values => values[i]?) = none := by
    rw [List.findSome?_eq_none_iff]
    intro values hvalues
    exact List.getElem?_eq_none (h values (List.mem_reverse.mp hvalues))
  rw [leftIn, hnone]
  rfl

/-- Series that were last set to the same values are equal if the same is left in the slots behind. -/
theorem beq_filled (hlast : calls.getLast? = some values) (hlast' : calls'.getLast? = some values)
    (hnumbers : ∀ x ∈ values, x.isNaN = false) :
    ((filled calls : Series capacity) == filled calls') = true
      ↔ LeftSame capacity values.length calls calls' := by
  have hcount : (filled calls : Series capacity).count = (filled calls' : Series capacity).count :=
    (size_filled hlast).trans (size_filled hlast').symm
  simp only [beq_iff, hcount, and_true, slot_filled]
  constructor
  · intro hslots i _ hi
    exact hslots i hi
  · intro hleft i hi
    by_cases hused : i < values.length
    · have hnumber := hnumbers _ (List.getElem_mem hused)
      rw [Float.isNaN_eq_decide_eq_nan, decide_eq_false_iff_not] at hnumber
      rw [leftIn_of_lt hlast hused, leftIn_of_lt hlast' hused]
      exact Float.beq_self_iff.mpr hnumber
    · exact hleft i (Nat.not_lt.mp hused) hi

end Series

/-- Of records with the same fields and the same time, the series decide. -/
theorem Record.beq_iff_series {r r' : Record} (hfields : (r.fields == r'.fields) = true)
    (htime : r.updatedAt = r'.updatedAt) :
    (r == r') = true ↔ (r.cells == r'.cells) = true ∧
      (r.temperatures == r'.temperatures) = true ∧ (r.balancing == r'.balancing) = true := by
  show (r.fields == r'.fields && (r.cells == r'.cells && (r.temperatures == r'.temperatures
    && (r.balancing == r'.balancing && r.updatedAt == r'.updatedAt)))) = true ↔ _
  rw [hfields, htime, beq_self_eq_true, Bool.and_true, Bool.true_and, Bool.and_eq_true_iff,
    Bool.and_eq_true_iff]

namespace Series

variable {capacity : Nat} {calls calls' : List (List Float)} {values : List Float}

/-- **Series that show the same are equal if the same is left behind.**  Of two series that were last
set to the same values, size, emptiness, numbered values and value by number are the same, whatever they
were set to before: the number `i` has a value exactly for `1 ≤ i ≤ min length capacity`, the `i`-th of
those given.  They are equal exactly if every slot behind has in both the value that was last put into
it, zero if there was none, and so they are if they were never longer than they are now.  Records with
the same fields and the same time are equal exactly if their series are. -/
theorem shown_alike_equal_iff_left_same (capacity : Nat) (calls calls' : List (List Float))
    (values : List Float) (hlast : calls.getLast? = some values)
    (hlast' : calls'.getLast? = some values) (hnumbers : ∀ x ∈ values, x.isNaN = false) :
    let s : Series capacity := filled calls
    let s' : Series capacity := filled calls'
    s.Same s' ∧ s.isEmpty = s'.isEmpty ∧ s.numbered = s'.numbered ∧
    s.size = min values.length capacity ∧
    (∀ index x, s.get? index = some x ↔
      1 ≤ index ∧ index ≤ min values.length capacity ∧ values[index - 1]? = some x) ∧
    ((s == s') = true ↔ LeftSame capacity values.length calls calls') ∧
    ((∀ earlier ∈ calls ++ calls', earlier.length ≤ values.length) → (s == s') = true) ∧
    ∀ r r' : Record, (r.fields == r'.fields) = true → r.updatedAt = r'.updatedAt →
      ((r == r') = true ↔ (r.cells == r'.cells) = true ∧
        (r.temperatures == r'.temperatures) = true ∧ (r.balancing == r'.balancing) = true) := by
  intro s s'
  have hlist : s.toList = s'.toList := (toList_filled hlast).trans (toList_filled hlast').symm
  have hsize : s.size = s'.size := (size_filled hlast).trans (size_filled hlast').symm
  have hequal : (s == s') = true ↔ LeftSame capacity values.length calls calls' :=
    beq_filled hlast hlast' hnumbers
  refine ⟨⟨hsize, ?_⟩, ?_, ?_, size_filled hlast, fun index x => get?_filled hlast, hequal, ?_,
    fun r r' => Record.beq_iff_series⟩
  · intro index
    unfold get?
    rw [hlist]
  · show (s.count == 0) = (s'.count == 0)
    rw [show s.count = s'.count from hsize]
  · rw [numbered, numbered, hlist]
  · intro hshorter
    apply hequal.mpr
    intro i hi _
    have hnone : ∀ earlier ∈ calls ++ calls', earlier.length ≤ i :=
      fun earlier hmem => Nat.le_trans (hshorter earlier hmem) hi
    rw [leftIn_of_le fun earlier hmem => hnone earlier (List.mem_append_left calls' hmem),
      leftIn_of_le fun earlier hmem => hnone earlier (List.mem_append_right calls hmem)]
    decide

/-- Two series with room for four, that have been longer before and in which the same is left behind. -/
theorem shown_alike_equal_iff_left_same_longer_before :
    let calls : List (List Float) := [[1, 2], [3, 4, 5], [7]]
    let calls' : List (List Float) := [[9, 4, 5], [7]]
    calls.getLast? = some [7] ∧ calls'.getLast? = some [7] ∧ (∀ x ∈ [(7 : Float)], x.isNaN = false) ∧
      (filled calls : Series 4).get? 1 = some 7 ∧ (filled calls : Series 4).get? 2 = none ∧
      ((filled calls : Series 4) == filled calls') = true := by
  intro calls calls'
  have hnumbers : ∀ x ∈ [(7 : Float)], x.isNaN = false :=
    List.forall_mem_singleton.mpr (by decide +kernel)
  obtain ⟨-, -, -, -, hget, hequal, -⟩ :=
    shown_alike_equal_iff_left_same 4 calls calls' [7] rfl rfl hnumbers
  refine ⟨rfl, rfl, hnumbers, (hget 1 7).mpr ⟨by decide, by decide, rfl⟩, ?_, hequal.mpr ?_⟩
  · rw [Option.eq_none_iff_forall_ne_some]
    intro x hx
    obtain ⟨-, hle, -⟩ := (hget 2 x).mp hx
    exact absurd hle (by decide)
  · intro i hi hlt
    have hcases : i = 1 ∨ i = 2 ∨ i = 3 := by
      simp only [List.length_singleton] at hi
      omega
    rcases hcases with rfl | rfl | rfl <;> decide +kernel

/-- A series that has been longer and one that has not show the same and are not equal; and so are
records into which the voltages of one cell were merged, into one of them after those of two. -/
theorem unequal_by_slot_behind :
    let cells : CellInfo Float :=
      { voltages := [4], min := 4, minIndex := 1, max := 4, maxIndex := 1, delta := 0, mean := 4 }
    let now : Instant := default
    let before := Record.empty.mergeCellInfo { cells with voltages := [4, 3] } now
    let r := before.mergeCellInfo cells now
    let r' := Record.empty.mergeCellInfo cells now
    (filled [[4, 3], [4]] : Series 4).Same (filled [[4]]) ∧
      ((filled [[4, 3], [4]] : Series 4) == filled [[4]]) = false ∧
      (r.fields == r'.fields) = true ∧ r.updatedAt = r'.updatedAt ∧ r.cells.Same r'.cells ∧
      r.temperatures.Same r'.temperatures ∧ r.balancing.Same r'.balancing ∧ (r == r') = false := by
  intro cells now before r r'
  have hcells : r.cells.Same r'.cells := by
    simp only [r, r', Record.mergeCellInfo_eq]
    exact same_setAll _ _ _
  have htemperatures : r.temperatures.Same r'.temperatures := by
    simp only [r, r', before, Record.mergeCellInfo_eq]
    exact .refl _
  have hbalancing : r.balancing.Same r'.balancing := by
    simp only [r, r', before, Record.mergeCellInfo_eq]
    exact .refl _
  have htime : r.updatedAt = r'.updatedAt := by
    simp only [r, r', Record.mergeCellInfo_eq]
  exact ⟨same_setAll _ _ _, by decide +kernel, by decide +kernel, htime, hcells, htemperatures,
    hbalancing, by decide +kernel⟩

end Series

end SensorGateway
