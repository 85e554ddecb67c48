import SensorGateway.Gateway.Crowd
import SensorGateway.Proofs.Gateway.Tracking

/-!
# Calls that overlap

Every turn of a crowd is a move as one call sees it, or as somebody beside the calls does
(`Crowd.exists_seen`).  So what has been said of moves need not be said again: neither what they do
to the devices (`Crowd.step_cases`), nor what is noted of them in journals.
-/

namespace SensorGateway

namespace Access

variable {g : Gateway}

/-- What a call has still to do starts tasks only for devices of the configuration. -/
def Configured (config : Config) (pending : List Access) : Prop :=
  ∀ id device chunk, start id device chunk ∈ pending → config.device? id = some device

/-- What a call does to connect a device is about devices of the configuration. -/
theorem configured_connecting (config : Config) (id : String) (chunk : Option Bytes) :
    Configured config (connecting config id chunk) := by
  intro id' device' chunk' hmem
  unfold connecting at hmem
  cases hdevice : config.device? id with
  | none => simp [hdevice] at hmem
  | some device =>
      obtain ⟨rfl, rfl, -⟩ : id' = id ∧ device' = device ∧ chunk' = chunk := by
        simpa [hdevice] using hmem
      exact hdevice

/-- What comes after an access is about devices of the configuration. -/
theorem configured_next (g : Gateway) (x : Access) : Configured g.config (x.next g) := by
  cases x with
  | findTank id chunk =>
      simp only [next]
      cases g.deviceTask? id with
      | none => exact configured_connecting g.config id (some chunk)
      | some n => simp [Configured]
  | unlist id => cases hn : g.deviceTask? id <;> simp [Configured, next, stopping, hn]
  | unlistAll => simp [Configured, next, stopping]
  | start id device chunk => simp [Configured, next]
  | find id chunk => simp [Configured, next]
  | silence | abort | detach | bind | enlist | send | offer => simp [Configured, next]

/-- What a call begins with is about devices of the configuration. -/
theorem configured_accesses (config : Config) (c : Call) :
    Configured config (c.accesses config) := by
  cases c with
  | connect id => exact configured_connecting config id none
  | disconnect | sendChunk | routeAdvertisement | shutdown => simp [Configured, Call.accesses]

/-- Accesses about configured devices may follow each other. -/
theorem Configured.append {config : Config} {first rest : List Access}
    (hfirst : Configured config first) (hrest : Configured config rest) :
    Configured config (first ++ rest) := by
  intro id device chunk hmem
  rcases List.mem_append.mp hmem with hmem | hmem
  · exact hfirst id device chunk hmem
  · exact hrest id device chunk hmem

end Access

namespace Crowd

variable {c c' : Crowd} {turn : Turn} {turns : List Turn} {n : Nat}

/-! ## Turns -/

/-- What happens, and the gateway as those see it who do it; a call that begins does nothing yet. -/
def seen? (c : Crowd) : Turn → Option (Moment × Move)
  | .call _ => none
  | .access k => some (c.moment k, .access)
  | .beside move => some (c.beside, move)

/-- A call begins, or makes its next access, or something happens that leaves the devices where they
stand. -/
theorem step_cases (hstep : c.step? turn = some c') :
    (∃ call, turn = .call call ∧
        c' = { c with calls := c.calls ++ [call.accesses c.gateway.config] }) ∨
      (∃ k x rest, turn = .access k ∧ c.calls[k]? = some (x :: rest) ∧
        x.waits c.gateway = false ∧
        c' = { gateway := x.change c.gateway
               calls := c.calls.set k (x.next c.gateway ++ rest) }) ∨
      (∃ move, turn = .beside move ∧ c.gateway.Agrees c'.gateway ∧ c'.calls = c.calls) := by
  cases turn with
  | call call =>
      cases hstep
      exact Or.inl ⟨call, rfl, rfl⟩
  | access k =>
      obtain ⟨m, hm, rfl⟩ := Option.map_eq_some_iff.mp hstep
      obtain ⟨x, rest, hpending, hfree, rfl⟩ := Moment.step?_access hm
      refine Or.inr (Or.inl ⟨k, x, rest, rfl, ?_, hfree, rfl⟩)
      -- a call that has something left to do has begun
      have hcall : c.calls.getD k [] = x :: rest := hpending
      rw [List.getD_eq_getElem?_getD] at hcall
      cases hk : c.calls[k]? with
      | none => simp [hk] at hcall
      | some pending => simpa [hk] using hcall
  | beside move =>
      unfold step? at hstep
      dsimp only at hstep
      split at hstep
      · cases hstep
      next hcall =>
        obtain ⟨m, hm, rfl⟩ := Option.map_eq_some_iff.mp hstep
        rcases Moment.step_cases hm with ⟨call, rfl, -, -⟩ | ⟨x, rest, -, hpending, -⟩ | hother
        · exact absurd rfl hcall
        · cases hpending
        · exact Or.inr (Or.inr ⟨move, rfl, hother.2.2.1, rfl⟩)

/-- Unless a call begins, a turn is a move. -/
theorem exists_seen (hstep : c.step? turn = some c') :
    (c.seen? turn = none ∧ c'.gateway = c.gateway) ∨
      ∃ m move m', c.seen? turn = some (m, move) ∧ m.gateway = c.gateway ∧
        m.step? move = some m' ∧ m'.gateway = c'.gateway := by
  cases turn with
  | call call =>
      cases hstep
      exact Or.inl ⟨rfl, rfl⟩
  | access k =>
      obtain ⟨m, hm, rfl⟩ := Option.map_eq_some_iff.mp hstep
      exact Or.inr ⟨_, _, m, rfl, rfl, hm, rfl⟩
  | beside move =>
      unfold step? at hstep
      dsimp only at hstep
      split at hstep
      · cases hstep
      · obtain ⟨m, hm, rfl⟩ := Option.map_eq_some_iff.mp hstep
        exact Or.inr ⟨_, _, m, rfl, rfl, hm, rfl⟩

/-- Later turns are made from where the earlier ones have led. -/
theorem run?_append (c : Crowd) (turns later : List Turn) :
    c.run? (turns ++ later) = (c.run? turns).bind fun c' => c'.run? later := by
  induction turns generalizing c with
  | nil => rfl
  | cons turn turns ih =>
      simp only [List.cons_append, run?, Option.bind_assoc]
      exact Option.bind_congr fun c' _ => ih c'

/-- What each turn of a run preserves holds at its end. -/
theorem run?_preserves {P : Crowd → Prop}
    (hpreserves :
      ∀ {c c' : Crowd} {turn : Turn}, turn ∈ turns → P c → c.step? turn = some c' → P c')
    (h : P c) (hrun : c.run? turns = some c') : P c' := by
  induction turns generalizing c with
  | nil =>
      cases hrun
      exact h
  | cons turn turns ih =>
      obtain ⟨c₁, hstep, hrun⟩ := Option.bind_eq_some_iff.mp hrun
      refine ih (fun hmem => hpreserves (List.mem_cons_of_mem _ hmem)) ?_ hrun
      exact hpreserves List.mem_cons_self h hstep

/-- No turn touches the configuration. -/
theorem config_step (hstep : c.step? turn = some c') : c'.gateway.config = c.gateway.config := by
  rcases step_cases hstep with ⟨call, -, rfl⟩ | ⟨k, x, rest, -, -, -, rfl⟩ | ⟨move, -, hagrees, -⟩
  · rfl
  · exact x.config_change c.gateway
  · exact hagrees.config

/-! ## Tasks for configured devices -/

/-- No call starts a task for a device that is not in the configuration. -/
def Configured (c : Crowd) : Prop :=
  ∀ pending ∈ c.calls, Access.Configured c.gateway.config pending

/-- In every turn calls stay with configured devices. -/
theorem Configured.step (h : c.Configured) (hstep : c.step? turn = some c') : c'.Configured := by
  intro pending hmem
  rw [config_step hstep]
  rcases step_cases hstep with
    ⟨call, -, rfl⟩ | ⟨k, x, rest, -, hk, -, rfl⟩ | ⟨move, -, -, hcalls⟩
  · rcases List.mem_append.mp hmem with hmem | hmem
    · exact h pending hmem
    · rw [List.mem_singleton.mp hmem]
      exact Access.configured_accesses c.gateway.config call
  · rcases List.mem_or_eq_of_mem_set hmem with hmem | rfl
    · exact h pending hmem
    · refine (Access.configured_next c.gateway x).append fun id device chunk hrest => ?_
      exact h (x :: rest) (List.mem_of_getElem? hk) id device chunk (List.mem_cons_of_mem x hrest)
  · rw [hcalls] at hmem
    exact h pending hmem

/-! ## Journals -/

/-- What is noted of a turn. -/
def note? {α : Type} (note : Moment → Move → Option α) (c : Crowd) (turn : Turn) : Option α :=
  (c.seen? turn).bind fun seen => note seen.1 seen.2

/-- What is noted of the turns, one after another. -/
def journal {α : Type} (note : Moment → Move → Option α) (c : Crowd) : List Turn → List α
  | [] => []
  | turn :: turns =>
      (c.note? note turn).toList ++ (c.step? turn).elim [] fun c' => c'.journal note turns

/-- A journal begins with what is noted of the first turn. -/
theorem journal_cons {α : Type} {note : Moment → Move → Option α}
    (hstep : c.step? turn = some c') (turns : List Turn) :
    c.journal note (turn :: turns) = (c.note? note turn).toList ++ c'.journal note turns := by
  rw [journal, hstep]
  rfl

end Crowd

end SensorGateway
