import SensorGateway.Proofs.Bus.Knowledge
import SensorGateway.Proofs.Gateway.Run
import SensorGateway.Proofs.Gateway.TaskStep
import SensorGateway.Proofs.Session.Device

/-!
# Where the devices stand

Of all that a gateway holds, little decides who may speak for a device: the list of connected
devices, the bindings, and of each task whether it is live and whose it is.  Two gateways that have
this in common *agree*.  Whatever tasks, dispatcher and listeners do leaves a gateway that agrees
with the one before (`agrees_step`); and what an access does to the part that counts depends on that
part alone (`Access.agrees_change`, `Access.next_eq`).
-/

namespace SensorGateway

/-- Of a task: whether it is live, and the device for which it reports. -/
def Task.badge (t : Task) : Bool × String := (t.live, t.session.device)

namespace Gateway

variable {g h : Gateway}

/-- The badge of the task with a number. -/
def badge? (g : Gateway) (n : Nat) : Option (Bool × String) := (g.task? n).map Task.badge

/-- The task with this number is live and reports for this device. -/
def LiveFor (g : Gateway) (n : Nat) (id : String) : Prop :=
  ∃ t, g.task? n = some t ∧ t.live = true ∧ t.session.device = id

/-- A task is live for a device if this is on its badge. -/
theorem liveFor_iff {n : Nat} {id : String} : g.LiveFor n id ↔ g.badge? n = some (true, id) := by
  simp [LiveFor, badge?, Task.badge]

/-- The devices stand alike in both gateways. -/
structure Agrees (g h : Gateway) : Prop where
  config : h.config = g.config
  devices : h.devices = g.devices
  count : h.tasks.length = g.tasks.length
  badge : ∀ n, h.badge? n = g.badge? n
  bindings : h.publisher.bindings = g.publisher.bindings
  nextGeneration : h.publisher.nextGeneration = g.publisher.nextGeneration

/-- A gateway agrees with itself. -/
theorem Agrees.refl (g : Gateway) : g.Agrees g := ⟨rfl, rfl, rfl, fun _ => rfl, rfl, rfl⟩

/-- If one gateway agrees with another, so does the other with it. -/
theorem Agrees.symm (a : g.Agrees h) : h.Agrees g :=
  ⟨a.config.symm, a.devices.symm, a.count.symm, fun n => (a.badge n).symm, a.bindings.symm,
    a.nextGeneration.symm⟩

/-- Gateways that agree with the same one agree. -/
theorem Agrees.trans {k : Gateway} (a : g.Agrees h) (b : h.Agrees k) : g.Agrees k :=
  ⟨b.config.trans a.config, b.devices.trans a.devices, b.count.trans a.count,
    fun n => (b.badge n).trans (a.badge n), b.bindings.trans a.bindings,
    b.nextGeneration.trans a.nextGeneration⟩

/-- Gateways that agree list the same tasks. -/
theorem Agrees.deviceTask? (a : g.Agrees h) (id : String) :
    h.deviceTask? id = g.deviceTask? id := by
  rw [Gateway.deviceTask?, a.devices, Gateway.deviceTask?]

/-- Gateways that agree have the same live tasks for each device. -/
theorem Agrees.liveFor_iff (a : g.Agrees h) {n : Nat} {id : String} :
    h.LiveFor n id ↔ g.LiveFor n id := by
  rw [Gateway.liveFor_iff, Gateway.liveFor_iff, a.badge]

/-! ## The smallest changes -/

/-- Changing a task changes no other. -/
theorem task?_modifyTask (g : Gateway) (n m : Nat) (f : Task → Task) :
    (g.modifyTask n f).task? m = if n = m then (g.task? m).map f else g.task? m := by
  simp only [task?, modifyTask, List.getElem?_modify]
  split <;> simp

/-- A task that has been silenced is not live, and is otherwise as it was. -/
theorem task?_silence (g : Gateway) (n m : Nat) :
    (g.silence n).task? m =
      if n = m then (g.task? m).map fun t => { t with live := false } else g.task? m :=
  task?_modifyTask g n m _

/-- A task that is started gets the next number. -/
theorem task?_start (g : Gateway) (s : DeviceSession) (m : Nat) :
    (g.start s).task? m = if m = g.tasks.length then some (.new s) else g.task? m := by
  simp only [start, task?, wake, List.getElem?_append]
  split
  next hlt => rw [if_neg (by omega)]
  next hge =>
    split
    next heq => simp [heq]
    next hne =>
      rw [List.getElem?_eq_none (by simp only [List.length_singleton]; omega),
        List.getElem?_eq_none (by omega)]

/-- Changing a task without touching its badge leaves a gateway that agrees. -/
theorem agrees_modifyTask {n : Nat} {f : Task → Task}
    (hf : ∀ t, g.task? n = some t → (f t).badge = t.badge) : g.Agrees (g.modifyTask n f) where
  config := rfl
  devices := rfl
  count := List.length_modify ..
  badge m := by
    rw [badge?, task?_modifyTask]
    split
    next heq =>
      subst heq
      cases ht : g.task? n with
      | none => simp [badge?, ht]
      | some t => simp [badge?, ht, hf t ht]
    · rfl
  bindings := rfl
  nextGeneration := rfl

/-- On its badge a task that has been silenced is not live. -/
theorem badge?_silence (g : Gateway) (n m : Nat) :
    (g.silence n).badge? m =
      if n = m then (g.badge? m).map fun b => (false, b.2) else g.badge? m := by
  rw [badge?, task?_silence]
  split
  · simp only [badge?, Option.map_map]
    rfl
  · rfl

/-- On its badge a task that is started is live and the device's. -/
theorem badge?_start (g : Gateway) (s : DeviceSession) (m : Nat) :
    (g.start s).badge? m = if m = g.tasks.length then some (true, s.device) else g.badge? m := by
  rw [badge?, task?_start]
  split <;> rfl

/-- New sessions depend on the configuration alone. -/
theorem newSession_congr (hconfig : h.config = g.config) (device : DeviceConfig) :
    h.newSession device = g.newSession device := by
  cases device <;> simp only [newSession, hconfig]

/-- Waking a task leaves a gateway that agrees. -/
theorem agrees_wake (g : Gateway) (n : Nat) : g.Agrees (g.wake n) :=
  ⟨rfl, rfl, rfl, fun _ => rfl, rfl, rfl⟩

/-- So does aborting one. -/
theorem agrees_abort (g : Gateway) (n : Nat) : g.Agrees (g.abort n) := by
  refine Agrees.trans ?_ (agrees_wake _ n)
  exact agrees_modifyTask fun _ _ => rfl

/-- A chunk that is pushed is queued, or nothing changes. -/
theorem push_cases (g : Gateway) (n : Nat) (chunk : Bytes) :
    ((g.push n chunk).1 ≠ .queued ∧ (g.push n chunk).2 = g) ∨
      g.push n chunk = (.queued, (g.modifyTask n (Task.enqueue · chunk)).wake n) := by
  unfold push
  split
  · exact Or.inl ⟨nofun, rfl⟩
  · split
    · exact Or.inl ⟨nofun, rfl⟩
    · split
      · exact Or.inl ⟨nofun, rfl⟩
      · exact Or.inr rfl

/-- A chunk is put into a queue, and its task is woken, or nothing is done. -/
theorem push_eq (g : Gateway) (n : Nat) (chunk : Bytes) :
    (g.push n chunk).2 = g ∨
      (g.push n chunk).2 = (g.modifyTask n (Task.enqueue · chunk)).wake n :=
  (g.push_cases n chunk).imp And.right (congrArg Prod.snd)

/-- A gateway agrees with what it was before a chunk has been put into a queue. -/
theorem agrees_push (g : Gateway) (n : Nat) (chunk : Bytes) : g.Agrees (g.push n chunk).2 := by
  rcases g.push_eq n chunk with h | h
  · rw [h]
    exact .refl g
  · rw [h]
    refine Agrees.trans ?_ (agrees_wake _ n)
    exact agrees_modifyTask fun _ _ => rfl

end Gateway

/-! ## Steps of a task -/

namespace Task

/-- The badge of a task stays the same when it takes a chunk, -/
theorem badge_takeChunk (t : Task) : t.takeChunk.badge = t.badge := by
  unfold takeChunk
  split <;> rfl

/-- when it looks for one, -/
theorem badge_take (t : Task) : t.take.badge = t.badge := by
  unfold take
  split
  · rfl
  · exact t.badge_takeChunk

/-- when it lingers, -/
theorem badge_linger (t : Task) : t.linger.badge = t.badge := by
  unfold linger
  split
  · exact t.badge_takeChunk
  all_goals rfl

/-- when it looks whether to report, -/
theorem badge_check (t : Task) (events : List Event) : (t.check events).badge = t.badge := by
  unfold check
  split <;> rfl

/-- A task that goes on waits, or has more to emit. -/
theorem goOn_cases (t : Task) (events : List Event) :
    t.goOn events = { t with phase := .waiting } ∨
      t.goOn events = { t with phase := .emitting events } := by
  unfold goOn
  split
  · exact Or.inl rfl
  · exact Or.inr rfl

/-- and when it decodes. -/
theorem badge_decode (t : Task) (chunk : Bytes) (now : Instant) :
    (t.decode chunk now).1.badge = t.badge := by
  simp only [decode, badge, DeviceSession.device_handle]

end Task

namespace Gateway

variable {g h : Gateway}

/-- Every step of a task leaves a gateway that agrees. -/
theorem agrees_advance {n : Nat} {now : Instant} {o : Outcome Unit}
    (ho : g.advance n now = some o) : g.Agrees o.gateway := by
  obtain ⟨t, ht, hstep⟩ := advance_eq_some_iff.mp ho
  cases hstep with
  | take => exact agrees_modifyTask fun t _ => t.badge_take
  | decode =>
      refine agrees_modifyTask fun t' ht' => ?_
      cases ht.symm.trans ht'
      exact t.badge_decode _ now
  | check => exact agrees_modifyTask fun t _ => t.badge_check _
  | publish =>
      refine Agrees.trans ?_ (agrees_modifyTask fun _ _ => rfl)
      exact ⟨rfl, rfl, rfl, fun _ => rfl, Publisher.bindings_publish ..,
        Publisher.nextGeneration_publish ..⟩
  | emit =>
      refine Agrees.trans ?_ (agrees_modifyTask fun _ _ => rfl)
      exact ⟨rfl, rfl, rfl, fun _ => rfl, rfl, rfl⟩

end Gateway

/-! ## Accesses and moves -/

namespace Access

variable {g h : Gateway}

/-- What comes after an access is the same in gateways that agree. -/
theorem next_eq (a : g.Agrees h) (x : Access) : x.next h = x.next g := by
  cases x <;> simp only [next, a.deviceTask?, a.devices, a.count, a.config]

/-- An access leaves gateways that agree if they did before. -/
theorem agrees_change (a : g.Agrees h) (x : Access) : (x.change g).Agrees (x.change h) := by
  cases x with
  | unlist id =>
      exact ⟨a.config, by simp only [change, Gateway.unlist, a.devices], a.count, a.badge,
        a.bindings, a.nextGeneration⟩
  | unlistAll => exact ⟨a.config, rfl, a.count, a.badge, a.bindings, a.nextGeneration⟩
  | silence n =>
      refine ⟨a.config, a.devices, ?_, fun m => ?_, a.bindings, a.nextGeneration⟩
      · simpa [change, Gateway.silence, Gateway.modifyTask] using a.count
      · simp only [change, Gateway.badge?_silence, a.badge]
  | abort n => exact (Gateway.agrees_abort g n).symm.trans (a.trans (Gateway.agrees_abort h n))
  | detach id =>
      exact ⟨a.config, a.devices, a.count, a.badge,
        by simp only [change, Gateway.detach, Publisher.detach, a.bindings], a.nextGeneration⟩
  | bind id topics =>
      simp only [change, Gateway.bind]
      split
      · exact a
      · exact ⟨a.config, a.devices, a.count, a.badge,
          by simp only [Publisher.bind, a.bindings, a.nextGeneration],
          by simp only [Publisher.bind, a.nextGeneration]⟩
  | start id device chunk =>
      have hsession := Gateway.newSession_congr a.config device
      refine ⟨a.config, a.devices, ?_, fun m => ?_, a.bindings, a.nextGeneration⟩
      · simpa [change, Gateway.start, Gateway.wake] using a.count
      · simp only [change, Gateway.badge?_start, hsession, a.badge, a.count]
  | enlist id n =>
      exact ⟨a.config, by simp only [change, Gateway.enlist, a.devices], a.count, a.badge,
        a.bindings, a.nextGeneration⟩
  | find id chunk => exact a
  | findTank id chunk => exact a
  | send n chunk =>
      exact (Gateway.agrees_push g n chunk).symm.trans (a.trans (Gateway.agrees_push h n chunk))
  | offer n chunk =>
      exact (Gateway.agrees_push g n chunk).symm.trans (a.trans (Gateway.agrees_push h n chunk))

end Access

/-- A move that is none of a call's leaves the devices where they stand, and the call what it has to
do. -/
theorem Moment.agrees_step {m m' : Moment} {move : Move} (hcall : move.isCall = false)
    (haccess : move ≠ .access) (hstep : m.step? move = some m') :
    m.gateway.Agrees m'.gateway ∧ m'.pending = m.pending := by
  cases move with
  | call c => cases hcall
  | access => exact absurd rfl haccess
  | task n now =>
      obtain ⟨o, ho, rfl⟩ := Option.map_eq_some_iff.mp hstep
      exact ⟨Gateway.agrees_advance ho, rfl⟩
  | linger n =>
      cases hstep
      exact ⟨Gateway.agrees_modifyTask fun t _ => t.badge_linger, rfl⟩
  | offer n chunk =>
      cases hstep
      exact ⟨Gateway.agrees_push m.gateway n chunk, rfl⟩
  | dispatch sink =>
      obtain ⟨d, hd, rfl⟩ := Option.map_eq_some_iff.mp hstep
      have hsame := Publisher.knowsSame_step hd
      exact ⟨⟨rfl, rfl, rfl, fun _ => rfl, hsame.bindings, hsame.nextGeneration⟩, rfl⟩
  | receive =>
      cases hstep
      exact ⟨⟨rfl, rfl, rfl, fun _ => rfl, rfl, rfl⟩, rfl⟩

/-- A call begins, or makes its next access, or the move is none of a call's. -/
theorem Moment.step_cases {m m' : Moment} {move : Move} (hstep : m.step? move = some m') :
    (∃ c, move = .call c ∧ m.pending = [] ∧
        m' = { m with pending := c.accesses m.gateway.config }) ∨
      (∃ x rest, move = .access ∧ m.pending = x :: rest ∧ x.waits m.gateway = false ∧
        m' = { gateway := x.change m.gateway, pending := x.next m.gateway ++ rest }) ∨
      (move.isCall = false ∧ move ≠ .access ∧ m.gateway.Agrees m'.gateway ∧
        m'.pending = m.pending) := by
  cases move with
  | call c =>
      obtain ⟨idle, rfl⟩ := step?_call hstep
      exact Or.inl ⟨c, rfl, idle, rfl⟩
  | access =>
      obtain ⟨x, rest, hpending, hfree, rfl⟩ := step?_access hstep
      exact Or.inr (Or.inl ⟨x, rest, rfl, hpending, hfree, rfl⟩)
  | task | linger | offer | dispatch | receive =>
      exact Or.inr (Or.inr ⟨rfl, by simp, agrees_step rfl (by simp) hstep⟩)

end SensorGateway
