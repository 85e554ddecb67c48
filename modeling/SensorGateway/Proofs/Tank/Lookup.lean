import Mathlib.Data.List.Nodup
import Mathlib.Tactic.FieldSimp
import Mathlib.Tactic.Ring
import SensorGateway.Proofs.Number.Order
import SensorGateway.Tank.Volume

/-!
# Looking a volume up in a table

A table has its points by falling inches, and points with the same inches in the order given.  Of
points with different inches this leaves one order only (`VolumeTable.ofPoints_congr`).  The search for
a depth goes from point to point as long as the depth lies below; since it does not lie below the last
one, there are two neighbours with the depth below the upper and not below the lower
(`VolumeTable.exists_bracket?`).  So the upper one has more inches than the lower one, even where
inches are repeated, and the search does not come to its end.
-/

namespace SensorGateway.VolumeTable

open Scalar (LawfulOrder)

/-! ## The points of a table -/

section Points

variable {α : Type} [Scalar α] {points other : List (VolumePoint α)}

/-- The points that a table keeps. -/
def usable (points : List (VolumePoint α)) : List (VolumePoint α) :=
  points.filter fun p => Scalar.isFinite p.inches && Scalar.isFinite p.gallons

/-- The points of a table are the usable ones, in another order. -/
theorem perm_ofPoints (points : List (VolumePoint α)) :
    (ofPoints points).points.Perm (usable points) :=
  List.mergeSort_perm _ _

/-- All points of a table are at finite heights. -/
theorem isFinite_inches {p : VolumePoint α} (hp : p ∈ (ofPoints points).points) :
    Scalar.isFinite p.inches = true :=
  (Bool.and_eq_true_iff.mp (List.mem_filter.mp ((perm_ofPoints points).mem_iff.mp hp)).2).1

/-- A point may stand before another one. -/
def mayPrecede (p q : VolumePoint α) : Bool := Scalar.atMost q.inches p.inches

variable [LawfulOrder α]

/-- A point that may precede another may precede what this one may. -/
theorem mayPrecede_trans (p q r : VolumePoint α) (hpq : mayPrecede p q = true)
    (hqr : mayPrecede q r = true) : mayPrecede p r = true :=
  LawfulOrder.atMost_trans _ _ _ hqr hpq

/-- Of two points one may precede the other. -/
theorem mayPrecede_total (p q : VolumePoint α) : (mayPrecede p q || mayPrecede q p) = true :=
  LawfulOrder.atMost_total _ _

/-- Points at the same height may precede each other. -/
theorem mayPrecede_of_inches_eq {p q : VolumePoint α} (h : p.inches = q.inches) :
    mayPrecede p q = true := by
  have hself := mayPrecede_total q q
  rw [Bool.or_self] at hself
  rw [mayPrecede, h]
  exact hself

/-- The points of a table are in their order. -/
theorem pairwise_mayPrecede (points : List (VolumePoint α)) :
    (ofPoints points).points.Pairwise fun p q => mayPrecede p q = true :=
  List.pairwise_mergeSort mayPrecede_trans mayPrecede_total _

/-- The inches fall. -/
theorem pairwise_inches (points : List (VolumePoint α)) :
    (ofPoints points).points.Pairwise fun p q => q.inches ≤ p.inches :=
  (pairwise_mayPrecede points).imp_of_mem fun hp hq h =>
    LawfulOrder.le_of_atMost _ _ (isFinite_inches hq) (isFinite_inches hp) h

/-- Points with the same inches are in the order given. -/
theorem filter_inches [DecidableEq α] (points : List (VolumePoint α)) (d : α) :
    (ofPoints points).points.filter (fun p => p.inches = d)
      = (usable points).filter (fun p => p.inches = d) := by
  have hsame : ((usable points).filter fun p => p.inches = d).Pairwise
      fun p q => mayPrecede p q = true := by
    refine List.pairwise_of_forall_mem_list fun p hp q hq => mayPrecede_of_inches_eq ?_
    rw [of_decide_eq_true (List.mem_filter.mp hp).2, of_decide_eq_true (List.mem_filter.mp hq).2]
  have hsorted := List.sublist_mergeSort mayPrecede_trans mayPrecede_total hsame
    (List.filter_sublist (l := usable points))
  have hsublist := hsorted.filter fun p => decide (p.inches = d)
  simp only [List.filter_filter, Bool.and_self] at hsublist
  exact (hsublist.eq_of_length ((perm_ofPoints points).symm.filter _).length_eq).symm

/-- Points with different inches give one table, in whatever order they are. -/
theorem ofPoints_congr (h : other.Perm points)
    (hnodup : ((usable points).map (·.inches)).Nodup) : ofPoints other = ofPoints points := by
  have hperm : (ofPoints other).points.Perm (ofPoints points).points :=
    (perm_ofPoints other).trans ((h.filter _).trans (perm_ofPoints points).symm)
  have hmem {p : VolumePoint α} (hp : p ∈ (ofPoints points).points) : p ∈ usable points :=
    (perm_ofPoints points).mem_iff.mp hp
  refine congrArg VolumeTable.mk (hperm.eq_of_pairwise ?_ (pairwise_mayPrecede other)
    (pairwise_mayPrecede points))
  intro p q hp hq hpq hqp
  exact List.inj_on_of_nodup_map hnodup (hmem (hperm.mem_iff.mp hp)) (hmem hq)
    (LawfulOrder.atMost_antisymm _ _ hqp hpq)

end Points

/-! ## The search -/

section Search

variable {α : Type} [Scalar α] {fromTop : α} {top bottom : VolumePoint α}

/-- The neighbours at which the search for a depth stops. -/
def bracket? (fromTop : α) : List (VolumePoint α) → Option (VolumePoint α × VolumePoint α)
  | top :: bottom :: rest =>
      if bottom.inches ≤ fromTop ∧ fromTop ≤ top.inches then some (top, bottom)
      else bracket? fromTop (bottom :: rest)
  | _ => none

/-- What the search finds depends on the neighbours at which it stops; only if it stops at none, it
falls through. -/
theorem search_eq (fromTop : α) (points : List (VolumePoint α)) :
    search fromTop points =
      match bracket? fromTop points with
      | some (top, bottom) =>
          if bottom.inches < top.inches then between top bottom fromTop else top.gallons
      | none => Scalar.ofNat 0 := by
  fun_induction bracket? fromTop points with
  | case1 top bottom rest haround => rw [search, if_pos haround]
  | case2 top bottom rest haround ih => rw [search, if_neg haround, ih]
  | case3 points hshort =>
      match points, hshort with
      | [], _ | [_], _ => rfl
      | top :: bottom :: rest, hshort => exact (hshort top bottom rest rfl).elim

/-- From a point above a depth to one that is not above it there are two neighbours around the depth,
and the search stops at the first such. -/
theorem exists_bracket? (first : VolumePoint α) (rest : List (VolumePoint α)) {last : VolumePoint α}
    (hlast : (first :: rest).getLast? = some last)
    (hcomparable : ∀ p ∈ first :: rest, p.inches ≤ fromTop ∨ fromTop ≤ p.inches)
    (habove : ¬ first.inches ≤ fromTop) (hbelow : ¬ fromTop ≤ last.inches) :
    ∃ top bottom, bracket? fromTop (first :: rest) = some (top, bottom) ∧
      [top, bottom] <:+: first :: rest ∧ bottom.inches ≤ fromTop ∧ ¬ top.inches ≤ fromTop := by
  have hfirst : fromTop ≤ first.inches :=
    (hcomparable first List.mem_cons_self).resolve_left habove
  induction rest generalizing first with
  | nil =>
      -- a single point is the last one
      rw [List.getLast?_singleton] at hlast
      cases hlast
      exact absurd hfirst hbelow
  | cons second rest ih =>
      by_cases hsecond : second.inches ≤ fromTop
      · refine ⟨first, second, ?_, (List.prefix_append [first, second] rest).isInfix, hsecond,
          habove⟩
        rw [bracket?, if_pos ⟨hsecond, hfirst⟩]
      · have hcomparable' : ∀ p ∈ second :: rest, p.inches ≤ fromTop ∨ fromTop ≤ p.inches :=
          fun p hp => hcomparable p (List.mem_cons_of_mem first hp)
        rw [List.getLast?_cons_cons] at hlast
        obtain ⟨top, bottom, hbracket, hneighbours, hbottom, htop⟩ := ih second hlast hcomparable'
          hsecond ((hcomparable' second List.mem_cons_self).resolve_left hsecond)
        refine ⟨top, bottom, ?_, hneighbours.trans (List.suffix_cons first _).isInfix, hbottom, htop⟩
        rw [bracket?, if_neg fun h => hsecond h.1]
        exact hbracket

end Search

/-! ## Exact lookups -/

section Exact

variable {points : List (VolumePoint Rat)} {first last top bottom : VolumePoint Rat}
  {fromTop : Rat}

/-- Over the rationals all points are usable. -/
theorem perm_exact (points : List (VolumePoint Rat)) : (ofPoints points).points.Perm points := by
  have hall : usable points = points := List.filter_eq_self.mpr fun _ _ => rfl
  have hperm := perm_ofPoints points
  rwa [hall] at hperm

/-- Between two points the gallons change in proportion. -/
theorem between_eq : between top bottom fromTop
    = top.gallons + (top.inches - fromTop) / (top.inches - bottom.inches)
        * (bottom.gallons - top.gallons) :=
  rfl

/-- The line between two points ends at the lower one. -/
theorem between_bottom (h : bottom.inches < top.inches) :
    between top bottom bottom.inches = bottom.gallons := by
  have hne : top.inches - bottom.inches ≠ 0 := sub_ne_zero.mpr h.ne'
  rw [between_eq, div_self hne]
  ring

variable {table : VolumeTable Rat}

/-- At or below the first point there is nothing in the tank. -/
theorem interpolate_of_first_le (hfirst : table.points.head? = some first)
    (hlast : table.points.getLast? = some last) (h : first.inches ≤ fromTop) :
    table.interpolate fromTop = 0 := by
  simp only [interpolate, hfirst, hlast]
  exact if_pos h

/-- At or above the last point there is all that the last point tells. -/
theorem interpolate_of_le_last (hfirst : table.points.head? = some first)
    (hlast : table.points.getLast? = some last) (h : fromTop < first.inches)
    (hle : fromTop ≤ last.inches) : table.interpolate fromTop = last.gallons := by
  simp only [interpolate, hfirst, hlast]
  rw [if_neg h.not_ge, if_pos hle]

/-- Between the first and the last point a depth has two neighbours around it, and its gallons are on
the line between them. -/
theorem interpolate_between (hfirst : table.points.head? = some first)
    (hlast : table.points.getLast? = some last) (h : fromTop < first.inches)
    (hlt : last.inches < fromTop) :
    ∃ top bottom, bracket? fromTop table.points = some (top, bottom) ∧
      [top, bottom] <:+: table.points ∧ bottom.inches ≤ fromTop ∧ fromTop < top.inches ∧
      table.interpolate fromTop = between top bottom fromTop := by
  obtain ⟨rest, hpoints⟩ : ∃ rest, table.points = first :: rest := List.head?_eq_some_iff.mp hfirst
  rw [hpoints] at hlast
  obtain ⟨top, bottom, hbracket, hneighbours, hbottom, htop⟩ := exists_bracket? first rest hlast
    (fun p _ => le_total p.inches fromTop) h.not_ge hlt.not_ge
  have htop : fromTop < top.inches := not_le.mp htop
  rw [← hpoints] at hbracket hneighbours hlast
  refine ⟨top, bottom, hbracket, hneighbours, hbottom, htop, ?_⟩
  simp only [interpolate, hfirst, hlast]
  rw [if_neg h.not_ge, if_neg hlt.not_ge, search_eq, hbracket]
  exact if_pos (hbottom.trans_lt htop)

/-- In a list in order every point comes before the last one, or is it. -/
theorem eq_or_rel_last {R : VolumePoint Rat → VolumePoint Rat → Prop} {p : VolumePoint Rat}
    (hR : table.points.Pairwise R) (hlast : table.points.getLast? = some last)
    (hp : p ∈ table.points) : p = last ∨ R p last := by
  obtain ⟨others, hpoints⟩ := List.getLast?_eq_some_iff.mp hlast
  rw [hpoints] at hR hp
  rcases List.mem_append.mp hp with hp | hp
  · exact Or.inr ((List.pairwise_append.mp hR).2.2 p hp last List.mem_cons_self)
  · exact Or.inl (List.mem_singleton.mp hp)

section Sorted

variable {p : VolumePoint Rat} {before after : List (VolumePoint Rat)}
  (hsorted : table.points.Pairwise fun p q => q.inches ≤ p.inches)

include hsorted in
/-- The last point is at the least distance from the top. -/
theorem last_inches_le (hlast : table.points.getLast? = some last) (hp : p ∈ table.points) :
    last.inches ≤ p.inches := by
  rcases eq_or_rel_last hsorted hlast hp with rfl | hle
  · exact le_refl _
  · exact hle

include hsorted in
/-- A point below the upper of two neighbours is the lower one or comes after it. -/
theorem eq_or_rel_bottom {R : VolumePoint Rat → VolumePoint Rat → Prop}
    (hR : table.points.Pairwise R) (hneighbours : [top, bottom] <:+: table.points)
    (hp : p ∈ table.points) (htop : p.inches < top.inches) : p = bottom ∨ R bottom p := by
  obtain ⟨upper, lower, hpoints⟩ := hneighbours
  rw [List.append_assoc] at hpoints
  rw [← hpoints] at hsorted hR hp
  obtain ⟨-, -, hupper⟩ := List.pairwise_append.mp hsorted
  rcases List.mem_append.mp hp with hp | hp
  · exact absurd (hupper p hp top List.mem_cons_self) htop.not_ge
  rcases List.mem_cons.mp hp with rfl | hp
  · exact absurd htop (lt_irrefl _)
  rcases List.mem_cons.mp hp with rfl | hp
  · exact Or.inl rfl
  · have hfrom := (List.pairwise_append.mp hR).2.1
    exact Or.inr (List.rel_of_pairwise_cons (List.Pairwise.of_cons hfrom) hp)

include hsorted in
/-- Between neighbours there is no other point. -/
theorem inches_le_bottom (hneighbours : [top, bottom] <:+: table.points) (hp : p ∈ table.points)
    (htop : p.inches < top.inches) : p.inches ≤ bottom.inches := by
  rcases eq_or_rel_bottom hsorted hsorted hneighbours hp htop with rfl | hle
  · exact le_refl _
  · exact hle

include hsorted in
/-- At a point after the first, with inches that no other point has, the gallons are the point's. -/
theorem interpolate_at_point (hpoints : table.points = before ++ p :: after)
    (hbefore : before ≠ []) (hdistinct : ∀ q ∈ before ++ after, q.inches ≠ p.inches) :
    table.interpolate p.inches = p.gallons := by
  have hp : p ∈ table.points := by
    rw [hpoints]
    exact List.mem_append_right before List.mem_cons_self
  have hunique {q : VolumePoint Rat} (hq : q ∈ table.points) (hinches : q.inches = p.inches) :
      q = p := by
    rw [hpoints, List.mem_append, List.mem_cons] at hq
    rcases hq with hq | hq | hq
    · exact absurd hinches (hdistinct q (List.mem_append_left after hq))
    · exact hq
    · exact absurd hinches (hdistinct q (List.mem_append_right before hq))
  obtain ⟨first, others, rfl⟩ := List.exists_cons_of_ne_nil hbefore
  have hfirst : table.points.head? = some first := by
    rw [hpoints]
    rfl
  have habove : p.inches < first.inches := by
    have hle : p.inches ≤ first.inches := by
      rw [hpoints] at hsorted
      exact (List.pairwise_append.mp hsorted).2.2 first List.mem_cons_self p List.mem_cons_self
    exact hle.lt_of_ne (hdistinct first (List.mem_append_left after List.mem_cons_self)).symm
  obtain ⟨last, hlast⟩ : ∃ last, table.points.getLast? = some last :=
    Option.isSome_iff_exists.mp (List.getLast?_isSome.mpr (List.ne_nil_of_mem hp))
  rcases (last_inches_le hsorted hlast hp).eq_or_lt with heq | hlt
  · rw [interpolate_of_le_last hfirst hlast habove heq.ge,
      hunique (List.mem_of_getLast? hlast) heq]
  · obtain ⟨top, bottom, -, hneighbours, hbottom, htop, hvalue⟩ :=
      interpolate_between hfirst hlast habove hlt
    have hbottomMem : bottom ∈ table.points :=
      hneighbours.subset (List.mem_cons_of_mem top List.mem_cons_self)
    obtain rfl : bottom = p :=
      hunique hbottomMem (hbottom.antisymm (inches_le_bottom hsorted hneighbours hp htop))
    rw [hvalue, between_bottom htop]

end Sorted

end Exact

/-- **A depth is looked up between its neighbours.**  A table keeps exactly the points with finite
coordinates, by falling inches, and those with the same inches in the order given; of doubles the
negative zero counts as another number than zero, below it.  Where no two points that are kept have
the same inches, their order does not matter.  In exact arithmetic a table that has points has no
gallons at the first point's inches and beyond, else the last point's at its inches and less, and else
those on the line between two neighbours, of which the upper has more inches than the depth and the
lower has not: the search stops at these and does not fall through, and the line is not upright.  So a
point after the first whose inches no other point has is met exactly.  With doubles the search for a
finite depth does not fall through either. -/
theorem looked_up_between_neighbours (points : List (VolumePoint Float))
    (exact : List (VolumePoint Rat)) (hexact : exact ≠ []) :
    let kept := points.filter fun p => p.inches.isFinite && p.gallons.isFinite
    let doubles := ofPoints points
    let table := ofPoints exact
    (doubles.points.Perm kept ∧
      doubles.points.Pairwise (fun p q => q.inches ≤ p.inches) ∧
      (∀ d : Float, doubles.points.filter (fun p => p.inches = d)
        = kept.filter (fun p => p.inches = d)) ∧
      (∀ other : List (VolumePoint Float), other.Perm points → (kept.map (·.inches)).Nodup →
        ofPoints other = doubles) ∧
      ∀ first last, doubles.points.head? = some first → doubles.points.getLast? = some last →
        ∀ fromTop : Float, fromTop.isFinite = true → ¬ first.inches ≤ fromTop →
          ¬ fromTop ≤ last.inches → (bracket? fromTop doubles.points).isSome = true) ∧
    table.points.Perm exact ∧
    (∃ first last, table.points.head? = some first ∧ table.points.getLast? = some last ∧
      ∀ fromTop : Rat,
        (first.inches ≤ fromTop → table.interpolate fromTop = 0) ∧
        (fromTop < first.inches → fromTop ≤ last.inches →
          table.interpolate fromTop = last.gallons) ∧
        (fromTop < first.inches → last.inches < fromTop →
          ∃ top bottom, bracket? fromTop table.points = some (top, bottom) ∧
            [top, bottom] <:+: table.points ∧
            bottom.inches ≤ fromTop ∧ fromTop < top.inches ∧
            table.interpolate fromTop = top.gallons +
              (top.inches - fromTop) / (top.inches - bottom.inches)
                * (bottom.gallons - top.gallons))) ∧
    ∀ before p after, table.points = before ++ p :: after → before ≠ [] →
      (∀ q ∈ before ++ after, q.inches ≠ p.inches) → table.interpolate p.inches = p.gallons := by
  intro kept doubles table
  refine ⟨⟨perm_ofPoints points, pairwise_inches points, filter_inches points,
    fun other hperm hnodup => ofPoints_congr hperm hnodup, ?_⟩, perm_exact exact, ?_, ?_⟩
  · intro first last hfirst hlast fromTop hfinite habove hbelow
    obtain ⟨rest, hpoints⟩ := List.head?_eq_some_iff.mp hfirst
    rw [hpoints] at hlast ⊢
    have hcomparable (p : VolumePoint Float) (hp : p ∈ first :: rest) :
        p.inches ≤ fromTop ∨ fromTop ≤ p.inches :=
      Scalar.le_total_of_isFinite (isFinite_inches (hpoints ▸ hp)) hfinite
    obtain ⟨top, bottom, hbracket, -⟩ :=
      exists_bracket? first rest hlast hcomparable habove hbelow
    rw [hbracket]
    rfl
  · have hne : table.points ≠ [] := fun hnil => hexact (hnil ▸ perm_exact exact).nil_eq.symm
    obtain ⟨first, rest, hpoints⟩ := List.exists_cons_of_ne_nil hne
    have hfirst : table.points.head? = some first := List.head?_eq_some_iff.mpr ⟨rest, hpoints⟩
    obtain ⟨last, hlast⟩ : ∃ last, table.points.getLast? = some last :=
      Option.isSome_iff_exists.mp (List.getLast?_isSome.mpr hne)
    exact ⟨first, last, hfirst, hlast, fun fromTop => ⟨interpolate_of_first_le hfirst hlast,
      interpolate_of_le_last hfirst hlast, interpolate_between hfirst hlast⟩⟩
  · exact fun before p after hpoints hbefore hdistinct =>
      interpolate_at_point (pairwise_inches exact) hpoints hbefore hdistinct

/-- Doubles out of order, one of them infinite; and an exact table in which inches are repeated, looked
up at and beyond its ends, at a point and between two points. -/
theorem looked_up_between_neighbours_repeated :
    let points : List (VolumePoint Float) :=
      [⟨20, 500⟩, ⟨50, 0⟩, ⟨1 / 0, 7⟩, ⟨5, 1000⟩, ⟨20, 600⟩]
    let exact : List (VolumePoint Rat) := [⟨50, 0⟩, ⟨35, 200⟩, ⟨20, 500⟩, ⟨20, 600⟩, ⟨5, 1000⟩]
    exact ≠ [] ∧ (ofPoints points).points.length = 4 ∧
      ((ofPoints points).points.filter fun p => p.inches = 20).map (·.gallons) = [500, 600] ∧
      (ofPoints exact).points = exact ∧ (ofPoints exact).interpolate 50 = 0 ∧
      (ofPoints exact).interpolate 3 = 1000 ∧ (ofPoints exact).interpolate 35 = 200 ∧
      (ofPoints exact).interpolate 25 = 400 := by
  intro points exact
  have hexact : exact ≠ [] := List.cons_ne_nil _ _
  have hpoints : (ofPoints exact).points = exact :=
    List.mergeSort_of_pairwise (by decide +kernel)
  obtain ⟨⟨hperm, -, hstable, -⟩, -, ⟨first, last, hfirst, hlast, hfound⟩, hmet⟩ :=
    looked_up_between_neighbours points exact hexact
  rw [hpoints] at hfirst hlast
  cases hfirst
  cases hlast
  refine ⟨hexact, hperm.length_eq.trans (by decide +kernel), ?_, hpoints,
    (hfound 50).1 (by decide +kernel), (hfound 3).2.1 (by decide +kernel) (by decide +kernel),
    hmet [⟨50, 0⟩] ⟨35, 200⟩ [⟨20, 500⟩, ⟨20, 600⟩, ⟨5, 1000⟩] hpoints (List.cons_ne_nil _ _)
      (by decide +kernel), ?_⟩
  · rw [hstable 20]
    decide +kernel
  · obtain ⟨top, bottom, hbracket, -, -, -, hvalue⟩ :=
      (hfound 25).2.2 (by decide +kernel) (by decide +kernel)
    have hneighbours : (bracket? 25 exact).map (fun p =>
        (p.1.inches, p.1.gallons, p.2.inches, p.2.gallons)) = some (35, 200, 20, 500) := by
      decide +kernel
    rw [hpoints] at hbracket
    rw [hbracket] at hneighbours
    obtain ⟨htop, htopGallons, hbottom, hbottomGallons⟩ : top.inches = 35 ∧ top.gallons = 200 ∧
        bottom.inches = 20 ∧ bottom.gallons = 500 := by
      simpa using hneighbours
    rw [hvalue, htop, htopGallons, hbottom, hbottomGallons]
    decide +kernel

end SensorGateway.VolumeTable
