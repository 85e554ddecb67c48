import SensorGateway.Gateway.Interleaving

/-!
# Runs

A run is followed move by move: what every one of its moves preserves holds at its end.
-/

namespace SensorGateway.Moment

variable {m m' : Moment} {moves : List Move}

/-- A call begins when no other is under way. -/
theorem step?_call {c : Call} (hstep : m.step? (.call c) = some m') :
    m.pending = [] ∧ m' = { m with pending := c.accesses m.gateway.config } := by
  unfold step? at hstep
  dsimp only at hstep
  split at hstep
  next hidle =>
    cases hstep
    exact ⟨List.isEmpty_iff.mp hidle, rfl⟩
  · cases hstep

/-- An access that is made does not have to wait. -/
theorem step?_access (hstep : m.step? .access = some m') :
    ∃ x rest, m.pending = x :: rest ∧ x.waits m.gateway = false ∧
      m' = { gateway := x.change m.gateway, pending := x.next m.gateway ++ rest } := by
  unfold step? at hstep
  cases hpending : m.pending with
  | nil => simp [hpending] at hstep
  | cons x rest =>
      simp only [hpending] at hstep
      split at hstep
      · cases hstep
      next hfree =>
        cases hstep
        exact ⟨x, rest, rfl, Bool.eq_false_iff.mpr hfree, rfl⟩

/-- Later moves are made from where the earlier ones have led. -/
theorem run?_append (m : Moment) (moves later : List Move) :
    m.run? (moves ++ later) = (m.run? moves).bind fun m' => m'.run? later := by
  induction moves generalizing m with
  | nil => rfl
  | cons move moves ih =>
      simp only [List.cons_append, run?, Option.bind_assoc]
      exact Option.bind_congr fun m' _ => ih m'

/-- What each move of a run preserves holds at its end. -/
theorem run?_preserves {P : Moment → Prop}
    (hpreserves :
      ∀ {m m' : Moment} {move : Move}, move ∈ moves → P m → m.step? move = some m' → P m')
    (h : P m) (hrun : m.run? moves = some m') : P m' := by
  induction moves generalizing m with
  | nil =>
      cases hrun
      exact h
  | cons move moves ih =>
      obtain ⟨m₁, hstep, hrun⟩ := Option.bind_eq_some_iff.mp hrun
      refine ih (fun hmem => hpreserves (List.mem_cons_of_mem _ hmem)) ?_ hrun
      exact hpreserves List.mem_cons_self h hstep

end SensorGateway.Moment
