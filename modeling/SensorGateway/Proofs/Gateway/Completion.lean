import SensorGateway.Proofs.Gateway.Agreement

/-!
# What a call comes to

A call under way can be followed to its end as if nothing came between its accesses: that is where
it *leads*.  Followed from its beginning it leads to what the operation of that name does at once
(`completes_perform`), so the accesses are those of the operation.

Other moves between two accesses change the gateway, but not where the devices will stand when the
call is over (`LeadsTo.step`).  This is what makes an operation out of several changes: seen by who
may report for which device, it cannot be told from one that happens at once
(`agrees_perform_of_run`).
-/

namespace SensorGateway

/-! ## Following a call to its end -/

/-- The accesses, made one after another with nothing in between, take one gateway to the other. -/
inductive Completes : Gateway → List Access → Gateway → Prop
  | done (g : Gateway) : Completes g [] g
  | access {g g' : Gateway} {x : Access} {rest : List Access} :
      Completes (x.change g) (x.next g ++ rest) g' → Completes g (x :: rest) g'

namespace Completes

variable {g g' g'' : Gateway} {xs ys : List Access}

/-- Accesses that are made after others are made where these have led. -/
theorem append (hx : Completes g xs g') (hy : Completes g' ys g'') :
    Completes g (xs ++ ys) g'' := by
  induction hx with
  | done g => exact hy
  | @access g g' x rest _ ih =>
      refine .access ?_
      have hrest := ih hy
      rwa [List.append_assoc] at hrest

/-- Where devices stand alike they will stand alike in the end. -/
theorem congr (hx : Completes g xs g') {h : Gateway} (a : g.Agrees h) :
    ∃ h', Completes h xs h' ∧ g'.Agrees h' := by
  induction hx generalizing h with
  | done g => exact ⟨h, .done h, a⟩
  | @access g g' x rest _ ih =>
      obtain ⟨h', hh, a'⟩ := ih (x.agrees_change a)
      refine ⟨h', .access ?_, a'⟩
      rw [Access.next_eq a]
      exact hh

end Completes

/-! ## The accesses of the operations -/

section Operations

variable (g : Gateway)

/-- To stop a task and to detach its device, one access after another, is to do both. -/
theorem completes_stopping (id : String) (n : Nat) :
    Completes g (Access.stopping id n) ((g.stop n).detach id) :=
  .access (.access (.access (.done _)))

/-- A call that disconnects a device and is left alone disconnects it. -/
theorem completes_disconnect (id : String) :
    Completes g [.unlist id] (g.disconnect id).gateway := by
  refine .access ?_
  unfold Gateway.disconnect
  cases hn : g.deviceTask? id with
  | none =>
      have hsame : g.unlist id = g := by
        rw [Gateway.unlist, KeyMap.erase_of_find?_eq_none hn]
      simp only [Access.next, hn, Access.change, hsame]
      exact .done g
  | some n =>
      simp only [Access.next, hn, Access.change, List.append_nil, Option.elim_some]
      exact completes_stopping (g.unlist id) id n

/-- A session is started for a device, and its task is offered a chunk. -/
theorem completes_connecting {id : String} {device : DeviceConfig}
    (hdevice : g.config.device? id = some device) (chunk : Option Bytes) :
    ∃ n, (g.connect id).value = .ok n ∧
      Completes g (Access.connecting g.config id chunk)
        (chunk.elim (g.connect id).gateway fun c => ((g.connect id).gateway.push n c).2) := by
  let stopped := (g.disconnect id).gateway.bind id device.topics
  refine ⟨stopped.tasks.length, by simp only [Gateway.connect, hdevice, stopped], ?_⟩
  have hconnect : (g.connect id).gateway
      = (stopped.start (stopped.newSession device)).enlist id stopped.tasks.length := by
    simp only [Gateway.connect, hdevice, stopped]
  have hlist : Access.connecting g.config id chunk
      = [.unlist id] ++ [.bind id device.topics, .start id device chunk] := by
    simp only [Access.connecting, hdevice, List.singleton_append]
  rw [hlist, hconnect]
  refine (completes_disconnect g id).append (.access (.access (.access ?_)))
  cases chunk with
  | none => exact .done _
  | some c => exact .access (.done _)

/-- A call that shuts the gateway down and is left alone does so. -/
theorem completes_shutdown : Completes g [.unlistAll] g.shutdown.gateway := by
  have hall : ∀ (entries : List (String × Nat)) (g : Gateway),
      Completes g (entries.flatMap fun entry => Access.stopping entry.1 entry.2)
        (entries.foldl (fun g entry => (g.stop entry.2).detach entry.1) g) := by
    intro entries
    induction entries with
    | nil => exact fun g => .done g
    | cons entry entries ih =>
        intro g
        exact (completes_stopping g entry.1 entry.2).append (ih _)
  refine .access ?_
  rw [List.append_nil]
  exact hall g.devices { g with devices := [] }

/-- The accesses of a call do what the operation does. -/
theorem completes_perform (c : Call) : Completes g (c.accesses g.config) (c.perform g) := by
  cases c with
  | connect id =>
      cases hdevice : g.config.device? id with
      | none =>
          simp only [Call.accesses, Access.connecting, Call.perform, Gateway.connect, hdevice]
          exact .done g
      | some device =>
          obtain ⟨n, -, hcompletes⟩ := completes_connecting g hdevice none
          exact hcompletes
  | disconnect id => exact completes_disconnect g id
  | sendChunk id chunk =>
      refine .access ?_
      cases hn : g.deviceTask? id with
      | none =>
          simp only [Access.next, Call.perform, hn]
          exact .done g
      | some n =>
          simp only [Access.next, Call.perform, hn]
          exact .access (.done _)
  | routeAdvertisement suffix payload =>
      simp only [Call.accesses, Call.perform, Gateway.routeAdvertisement]
      cases g.config.tankBySuffix? suffix with
      | none => exact .done g
      | some tank =>
          refine .access ?_
          simp only [Access.next, Gateway.tankTask]
          cases g.deviceTask? tank.id with
          | some n => exact .access (.done _)
          | none =>
              simp only [List.map_nil, List.append_nil]
              cases hdevice : g.config.device? tank.id with
              | none =>
                  simp only [Access.connecting, Gateway.connect, hdevice]
                  exact .done g
              | some device =>
                  obtain ⟨n, hvalue, hcompletes⟩ := completes_connecting g hdevice (some payload)
                  simp only [hvalue]
                  exact hcompletes
  | shutdown => exact completes_shutdown g

end Operations

/-! ## Moves in between -/

namespace Moment

/-- The call under way will leave the devices standing as they do in the gateway. -/
def LeadsTo (m : Moment) (g : Gateway) : Prop :=
  ∃ g', Completes m.gateway m.pending g' ∧ g.Agrees g'

/-- A call that begins will lead to where it leads when it is made at once. -/
theorem leadsTo_call (g : Gateway) (c : Call) :
    LeadsTo { gateway := g, pending := c.accesses g.config } (c.perform g) :=
  ⟨c.perform g, completes_perform g c, .refl _⟩

/-- A call that is over has led to where it was to lead. -/
theorem LeadsTo.agrees {m : Moment} {g : Gateway} (h : m.LeadsTo g) (idle : m.pending = []) :
    g.Agrees m.gateway := by
  obtain ⟨g', hcompletes, hagrees⟩ := h
  rw [idle] at hcompletes
  cases hcompletes
  exact hagrees

/-- What else happens leaves it open to the call to lead there, -/
theorem LeadsTo.step {m m' : Moment} {g : Gateway} (h : m.LeadsTo g) {move : Move}
    (hcall : move.isCall = false) (hstep : m.step? move = some m') : m'.LeadsTo g := by
  obtain ⟨g', hcompletes, hagrees⟩ := h
  rcases step_cases hstep with
    ⟨c, rfl, -⟩ | ⟨x, rest, -, hpending, -, rfl⟩ | ⟨-, -, hgateway, hpending⟩
  · cases hcall
  · rw [hpending] at hcompletes
    cases hcompletes with
    | access hrest => exact ⟨g', hrest, hagrees⟩
  · obtain ⟨g'', hcompletes', hagrees'⟩ := hcompletes.congr hgateway
    exact ⟨g'', hpending ▸ hcompletes', hagrees.trans hagrees'⟩

/-- also in a whole run without another call. -/
theorem LeadsTo.run {m m' : Moment} {g : Gateway} (h : m.LeadsTo g) {moves : List Move}
    (hcalls : ∀ move ∈ moves, move.isCall = false) (hrun : m.run? moves = some m') :
    m'.LeadsTo g :=
  run?_preserves (P := fun m => m.LeadsTo g) (fun hmem h => h.step (hcalls _ hmem)) h hrun

/-- When a call is over the devices stand as if it had happened at once, whatever came between its
accesses. -/
theorem agrees_perform_of_run {m m' : Moment} {c : Call} {during : List Move}
    (hrun : m.run? (.call c :: during) = some m') (hcalls : ∀ move ∈ during, move.isCall = false)
    (idle : m'.pending = []) : (c.perform m.gateway).Agrees m'.gateway := by
  obtain ⟨m₁, hstep, hrun⟩ := Option.bind_eq_some_iff.mp hrun
  obtain ⟨-, rfl⟩ := step?_call hstep
  exact ((leadsTo_call m.gateway c).run hcalls hrun).agrees idle

end Moment

end SensorGateway
