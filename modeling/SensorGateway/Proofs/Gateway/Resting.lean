import SensorGateway.Gateway.Schedule
import SensorGateway.Proofs.Bus.Knowledge
import SensorGateway.Proofs.Gateway.Agreement

/-!
# Coming to rest leaves the records alone

While a gateway comes to rest, tasks handle their chunks and payloads are delivered.  None of this
connects or disconnects a device: the gateway at rest agrees with the one before.
-/

namespace SensorGateway.Gateway

/-- A task that runs leaves the devices standing as they did, -/
theorem agrees_runTask (g : Gateway) (n : Nat) (now : Instant) (fuel : Nat) :
    g.Agrees (g.runTask n now fuel).gateway := by
  induction fuel generalizing g with
  | zero => exact .refl g
  | succ fuel ih =>
      unfold runTask
      split
      · exact .refl g
      next first hadvance => exact (agrees_advance hadvance).trans (ih first.gateway)

variable {σ : Type} [TopicSink σ]

/-- and so does the dispatcher, -/
theorem agrees_dispatch (g : Gateway) (sink : σ) : g.Agrees (g.dispatch sink).gateway :=
  have hsame := g.publisher.knowsSame_stepMany sink (g.publisher.queue.length + 2)
  ⟨rfl, rfl, rfl, fun _ => rfl, hsame.bindings, hsame.nextGeneration⟩

/-- so do several tasks, one after another, -/
theorem agrees_runTasks (g : Gateway) (sink : σ) (now : Instant) (ready : List Nat) :
    g.Agrees (g.runTasks sink now ready).gateway := by
  induction ready generalizing g sink with
  | nil => exact g.agrees_dispatch sink
  | cons n ready ih =>
      exact ((g.agrees_runTask n now _).trans (agrees_dispatch _ sink)).trans (ih _ _)

/-- and so does everything until it is at rest. -/
theorem agrees_settle (g : Gateway) (sink : σ) (now : Instant) :
    g.Agrees (g.settle sink now).gateway :=
  have hready : g.Agrees { g with ready := [] } := ⟨rfl, rfl, rfl, fun _ => rfl, rfl, rfl⟩
  hready.trans (agrees_runTasks _ sink now g.ready)

/-- A chunk that is sent connects and disconnects nothing, also if its sender has to wait. -/
theorem agrees_send (g : Gateway) (sink : σ) (n : Nat) (chunk : Bytes) (now : Instant) :
    g.Agrees (g.send sink n chunk now).settled.gateway := by
  have hpush := g.agrees_push n chunk
  unfold send
  split
  next g' hqueued =>
    rw [hqueued] at hpush
    exact hpush
  next g' hclosed =>
    rw [hclosed] at hpush
    exact hpush
  next g' hfull =>
    rw [hfull] at hpush
    exact (hpush.trans (agrees_settle g' sink now)).trans (agrees_push _ n chunk)

end SensorGateway.Gateway
