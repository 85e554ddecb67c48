import SensorGateway.Proofs.Number.Rounding
import SensorGateway.Proofs.Tank.Lookup

/-!
# More liquid never reads as fewer gallons

In exact arithmetic, and for a table in which the gallons do not fall as the inches do, a higher level
has no fewer gallons (`VolumeTable.gallons_rise_with_level`).  Two depths are either on one line between
two neighbours, and lines rise, or there is a point between them, and then the gallons of that point are
between theirs (`VolumeTable.Fills.interpolate_le_gallons`).  This also covers the places where the
gallons jump, at repeated inches and at the first point, where the tank is empty whatever that point
says.
-/

namespace SensorGateway.VolumeTable

/-- No point has fewer gallons than the points before it, and none has fewer than zero. -/
structure Fills (table : VolumeTable Rat) : Prop where
  nonneg : ∀ p ∈ table.points, 0 ≤ p.gallons
  rising : table.points.Pairwise fun p q => p.gallons ≤ q.gallons

variable {table : VolumeTable Rat} {first last top bottom p : VolumePoint Rat} {d d' : Rat}

/-! ## On one line -/

/-- From one point to the next there is not more in the tank, the further the level is from the top.
-/
theorem antitone_between (hinches : bottom.inches < top.inches)
    (hgallons : top.gallons ≤ bottom.gallons) : Antitone (between top bottom) := by
  intro d d' hle
  have hheight : 0 ≤ top.inches - bottom.inches := (sub_pos.mpr hinches).le
  have hrise : 0 ≤ bottom.gallons - top.gallons := sub_nonneg.mpr hgallons
  have hratio : (top.inches - d') / (top.inches - bottom.inches)
      ≤ (top.inches - d) / (top.inches - bottom.inches) := by
    apply div_le_div_of_nonneg_right _ hheight
    linarith
  rw [between_eq, between_eq]
  have hshare := mul_le_mul_of_nonneg_right hratio hrise
  linarith

/-- The line between two points begins at the upper one. -/
theorem between_top (top bottom : VolumePoint Rat) :
    between top bottom top.inches = top.gallons := by
  rw [between_eq, sub_self, zero_div, zero_mul, add_zero]

/-- Neighbours around a depth are those at which the search for it stops. -/
theorem bracket?_eq_some (hsorted : table.points.Pairwise fun p q => q.inches ≤ p.inches)
    (hneighbours : [top, bottom] <:+: table.points) (hbottom : bottom.inches ≤ d)
    (htop : d < top.inches) : bracket? d table.points = some (top, bottom) := by
  obtain ⟨points⟩ := table
  dsimp only at hsorted hneighbours ⊢
  induction points with
  | nil => simp at hneighbours
  | cons first points ih =>
      rcases List.infix_cons_iff.mp hneighbours with ⟨rest, hfront⟩ | hneighbours
      · -- the neighbours stand in front
        obtain ⟨rfl, rfl⟩ := List.cons.inj hfront
        exact if_pos ⟨hbottom, htop.le⟩
      · have hmem : top ∈ points := hneighbours.subset List.mem_cons_self
        obtain ⟨-, hsorted⟩ := List.pairwise_cons.mp hsorted
        cases points with
        | nil => cases hmem
        | cons second rest =>
            have hsecond : top.inches ≤ second.inches := by
              rcases List.mem_cons.mp hmem with rfl | hmem
              · exact le_refl _
              · exact List.rel_of_pairwise_cons hsorted hmem
            have hbelow : ¬ second.inches ≤ d := not_le.mpr (htop.trans_le hsecond)
            rw [bracket?, if_neg fun h => hbelow h.1]
            exact ih hsorted hneighbours

/-! ## At any depth -/

section Fills

variable (h : table.Fills) (hsorted : table.points.Pairwise fun p q => q.inches ≤ p.inches)
  (hfirst : table.points.head? = some first) (hlast : table.points.getLast? = some last)

include h hlast

/-- No point tells more gallons than the last one. -/
theorem Fills.gallons_le_last (hp : p ∈ table.points) : p.gallons ≤ last.gallons := by
  rcases eq_or_rel_last h.rising hlast hp with rfl | hle
  · exact le_refl _
  · exact hle

include hfirst

/-- A depth between the first and the last point has neighbours around it, and its gallons are on the
line that rises from the upper to the lower one. -/
theorem Fills.exists_line (habove : d < first.inches) (hbelow : last.inches < d) :
    ∃ top bottom, [top, bottom] <:+: table.points ∧ top ∈ table.points ∧ bottom ∈ table.points ∧
      bottom.inches ≤ d ∧ d < top.inches ∧ Antitone (between top bottom) ∧
      table.interpolate d = between top bottom d := by
  obtain ⟨top, bottom, -, hneighbours, hbottom, htop, hvalue⟩ :=
    interpolate_between hfirst hlast habove hbelow
  have htopMem : top ∈ table.points := hneighbours.subset List.mem_cons_self
  have hbottomMem : bottom ∈ table.points :=
    hneighbours.subset (List.mem_cons_of_mem top List.mem_cons_self)
  have hrise : top.gallons ≤ bottom.gallons := by
    have hpair := h.rising.sublist hneighbours.sublist
    exact List.rel_of_pairwise_cons hpair List.mem_cons_self
  exact ⟨top, bottom, hneighbours, htopMem, hbottomMem, hbottom, htop,
    antitone_between (hbottom.trans_lt htop) hrise, hvalue⟩

/-- What is looked up lies between nothing and what the last point tells. -/
theorem Fills.interpolate_mem (d : Rat) :
    0 ≤ table.interpolate d ∧ table.interpolate d ≤ last.gallons := by
  have hlastMem : last ∈ table.points := List.mem_of_getLast? hlast
  have hfull : 0 ≤ last.gallons := h.nonneg last hlastMem
  rcases le_or_gt first.inches d with hempty | habove
  · rw [interpolate_of_first_le hfirst hlast hempty]
    exact ⟨le_refl _, hfull⟩
  rcases le_or_gt d last.inches with hle | hbelow
  · rw [interpolate_of_le_last hfirst hlast habove hle]
    exact ⟨hfull, le_refl _⟩
  obtain ⟨top, bottom, -, htopMem, hbottomMem, hbottom, htop, hline, hvalue⟩ :=
    h.exists_line hfirst hlast habove hbelow
  have hfromTop : top.gallons ≤ between top bottom d := by
    rw [← between_top top bottom]
    exact hline htop.le
  have htoBottom : between top bottom d ≤ bottom.gallons := by
    rw [← between_bottom (hbottom.trans_lt htop)]
    exact hline hbottom
  rw [hvalue]
  exact ⟨(h.nonneg top htopMem).trans hfromTop,
    htoBottom.trans (h.gallons_le_last hlast hbottomMem)⟩

include hsorted in
/-- At a point's inches, and wherever the tank is emptier, there are no more gallons than the point
says; from the last point's inches on there may be, where points before it have the same inches. -/
theorem Fills.interpolate_le_gallons (hp : p ∈ table.points) (hle : p.inches ≤ d)
    (hbelow : last.inches < d) : table.interpolate d ≤ p.gallons := by
  rcases le_or_gt first.inches d with hempty | habove
  · rw [interpolate_of_first_le hfirst hlast hempty]
    exact h.nonneg p hp
  obtain ⟨top, bottom, hneighbours, -, -, hbottom, htop, hline, hvalue⟩ :=
    h.exists_line hfirst hlast habove hbelow
  have htoBottom : between top bottom d ≤ bottom.gallons := by
    rw [← between_bottom (hbottom.trans_lt htop)]
    exact hline hbottom
  rw [hvalue]
  rcases eq_or_rel_bottom hsorted h.rising hneighbours hp (hle.trans_lt htop) with rfl | hrise
  · exact htoBottom
  · exact htoBottom.trans hrise

include hsorted in
/-- The deeper the surface, the fewer the gallons. -/
theorem Fills.antitone_interpolate : Antitone table.interpolate := by
  intro d d' hle
  obtain ⟨hsome, -⟩ := h.interpolate_mem hfirst hlast d
  obtain ⟨-, hfull'⟩ := h.interpolate_mem hfirst hlast d'
  rcases le_or_gt first.inches d' with hempty | habove'
  · rw [interpolate_of_first_le hfirst hlast hempty]
    exact hsome
  have habove : d < first.inches := hle.trans_lt habove'
  rcases le_or_gt d last.inches with hfull | hbelow
  · rw [interpolate_of_le_last hfirst hlast habove hfull]
    exact hfull'
  obtain ⟨top, bottom, hneighbours, htopMem, -, hbottom, htop, hline, hvalue⟩ :=
    h.exists_line hfirst hlast habove hbelow
  rcases le_or_gt top.inches d' with hbetween | htop'
  · -- the upper neighbour of the one depth is not below the other
    calc table.interpolate d'
        ≤ top.gallons :=
          h.interpolate_le_gallons hsorted hfirst hlast htopMem hbetween (hbelow.trans_le hle)
      _ = between top bottom top.inches := (between_top top bottom).symm
      _ ≤ between top bottom d := hline htop.le
      _ = table.interpolate d := hvalue.symm
  · -- both depths are between the same neighbours
    have hbracket := bracket?_eq_some hsorted hneighbours (hbottom.trans hle) htop'
    obtain ⟨top', bottom', hbracket', -, -, -, hvalue'⟩ :=
      interpolate_between hfirst hlast habove' (hbelow.trans_le hle)
    rw [hbracket] at hbracket'
    cases hbracket'
    rw [hvalue, hvalue']
    exact hline hle

end Fills

/-! ## From levels to gallons -/

/-- The depth of the surface below the top, for a tank of a height. -/
def depth (height offset level : Rat) : Rat :=
  max (height - (level / Scalar.millimetresPerInch + offset)) 0

/-- The higher the level, the less it is from the top. -/
theorem antitone_depth (height offset : Rat) : Antitone (depth height offset) := by
  intro level level' hle
  have hinch : (0 : Rat) ≤ Scalar.millimetresPerInch := by decide +kernel
  have hinches := div_le_div_of_nonneg_right hle hinch
  apply max_le_max_right
  linarith

/-- What a table with points makes of a level. -/
def reading (table : VolumeTable Rat) (height offset level : Rat) : VolumeReading Rat where
  gallons := Scalar.roundTo (table.interpolate (depth height offset level)) 1
  levelIn := Scalar.roundTo (level / Scalar.millimetresPerInch + offset) 2
  levelFromTopIn := Scalar.roundTo (depth height offset level) 2
  offsetIn := offset

/-- A level is converted by looking up its distance from the top. -/
theorem convert?_eq_reading (hfirst : table.points.head? = some first) (offset level : Rat) :
    table.convert? level offset = some (table.reading first.inches offset level) := by
  have hheight : table.maxHeight? = some first.inches := by
    rw [maxHeight?, hfirst]
    rfl
  rw [convert?, hheight, Option.map_some]
  simp only [Scalar.positivePart_rat]
  rfl

/-- **More liquid never reads as fewer gallons.**  In a table with points, the gallons of which, by
falling inches, are not below zero and do not fall, every level has a reading in exact arithmetic.  The
higher the level, the more gallons it reads, or as many, and never fewer than none or more than those
of the last point, rounded in the same way; and the smaller, or as great, is the depth of the surface,
which is never negative. -/
theorem gallons_rise_with_level (points : List (VolumePoint Rat)) (hpoints : points ≠ [])
    (hfills : (ofPoints points).Fills) (offset : Rat) :
    ∃ full, (ofPoints points).points.getLast? = some full ∧
      ∃ reading : Rat → VolumeReading Rat,
        (∀ level, (ofPoints points).convert? level offset = some (reading level)) ∧
        (Monotone fun level => (reading level).gallons) ∧
        (∀ level, 0 ≤ (reading level).gallons ∧
          (reading level).gallons ≤ Scalar.roundTo full.gallons 1) ∧
        (Antitone fun level => (reading level).levelFromTopIn) ∧
        ∀ level, 0 ≤ (reading level).levelFromTopIn := by
  have hsorted := pairwise_inches points
  have hne : (ofPoints points).points ≠ [] := fun hnil =>
    hpoints (hnil ▸ perm_exact points).nil_eq.symm
  obtain ⟨full, hlast⟩ : ∃ full, (ofPoints points).points.getLast? = some full :=
    Option.isSome_iff_exists.mp (List.getLast?_isSome.mpr hne)
  obtain ⟨first, rest, hcons⟩ := List.exists_cons_of_ne_nil hne
  have hfirst : (ofPoints points).points.head? = some first :=
    List.head?_eq_some_iff.mpr ⟨rest, hcons⟩
  have hdepth := antitone_depth first.inches offset
  refine ⟨full, hlast, (ofPoints points).reading first.inches offset,
    convert?_eq_reading hfirst offset, ?_, ?_, ?_, ?_⟩
  · intro level level' hle
    apply Scalar.monotone_roundTo 1
    exact hfills.antitone_interpolate hsorted hfirst hlast (hdepth hle)
  · intro level
    obtain ⟨hsome, hfull⟩ := hfills.interpolate_mem hfirst hlast (depth first.inches offset level)
    exact ⟨Scalar.roundTo_nonneg hsome 1, Scalar.monotone_roundTo 1 hfull⟩
  · intro level level' hle
    exact Scalar.monotone_roundTo 2 (hdepth hle)
  · intro level
    exact Scalar.roundTo_nonneg (le_max_right _ _) 2

/-- At 762 mm the surface is at the inches of two points, of which the upper counts, and at 763 mm it is
above both.  Far below the first point, and far above the last, the tank is empty and full. -/
theorem gallons_rise_with_level_repeated_inches :
    let points : List (VolumePoint Rat) :=
      [⟨50, 0⟩, ⟨35, 200⟩, ⟨20, 500⟩, ⟨20, 600⟩, ⟨5, 1000⟩]
    let gallons := fun level => ((ofPoints points).convert? level 0).map (·.gallons)
    points ≠ [] ∧ (ofPoints points).Fills ∧ gallons (-100) = some 0 ∧ gallons 762 = some 500 ∧
      gallons 763 = some 601 ∧ gallons 5000 = some 1000 ∧
      ∃ reading : Rat → VolumeReading Rat, (∀ level, gallons level = some (reading level).gallons) ∧
        (reading 762).gallons ≤ (reading 763).gallons ∧
        (reading 763).levelFromTopIn ≤ (reading 762).levelFromTopIn := by
  intro points gallons
  have hne : points ≠ [] := List.cons_ne_nil _ _
  have hpoints : (ofPoints points).points = points :=
    List.mergeSort_of_pairwise (by decide +kernel)
  have htable : ofPoints points = ⟨points⟩ := congrArg VolumeTable.mk hpoints
  have hfills : (ofPoints points).Fills := by
    rw [htable]
    exact ⟨by decide +kernel, by decide +kernel⟩
  obtain ⟨full, -, reading, hread, hrises, -, hfalls, -⟩ :=
    gallons_rise_with_level points hne hfills 0
  have hgallons (level : Rat) :
      gallons level = ((VolumeTable.mk points).convert? level 0).map (·.gallons) := by
    rw [← htable]
  have hle : (762 : Rat) ≤ 763 := by decide +kernel
  refine ⟨hne, hfills, (hgallons (-100)).trans (by decide +kernel),
    (hgallons 762).trans (by decide +kernel), (hgallons 763).trans (by decide +kernel),
    (hgallons 5000).trans (by decide +kernel), reading, fun level => ?_, hrises hle, hfalls hle⟩
  simp only [gallons, hread, Option.map_some]

end SensorGateway.VolumeTable
