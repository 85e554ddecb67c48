import SensorGateway.Gateway.Operations

/-!
# Letting the tasks run

The tasks run one at a time, each until it has to wait, in the order in which they were given
something to do.  What a task publishes gives the dispatcher of the publisher something to do, which
it does next, before the other tasks.  So a session handles all the chunks that wait for it before
anything is delivered, and what one session publishes is delivered before the next one runs.
-/

namespace SensorGateway.Gateway

/-- At most so many steps of a task. -/
def runTask (g : Gateway) (n : Nat) (now : Instant) : Nat → Outcome Unit
  | 0 => { value := (), gateway := g, logs := [] }
  | fuel + 1 =>
      match g.advance n now with
      | none => { value := (), gateway := g, logs := [] }
      | some first =>
          let later := first.gateway.runTask n now fuel
          { later with logs := first.logs ++ later.logs }

/-- The number of steps after which a task has to wait: one for each event, four for each chunk, and
five to end what it is doing.  A message has more bytes than it makes events. -/
def stepsOf (t : Task) : Nat := t.unsent.length + t.undecoded + 4 * t.chunks.length + 5

/-- A gateway at rest, with the sink of its publisher. -/
structure Settled (σ : Type) where
  gateway : Gateway
  sink : σ
  logs : List Log.Entry

/-- Lets the dispatcher run until there is nothing left for it to do. -/
def dispatch {σ : Type} [TopicSink σ] (g : Gateway) (sink : σ) : Settled σ :=
  let dispatched := g.publisher.settle sink
  { gateway := { g with publisher := dispatched.publisher }
    sink := dispatched.sink
    logs := dispatched.logs }

/-- Runs tasks one after another, and the dispatcher after each of them. -/
def runTasks {σ : Type} [TopicSink σ] (g : Gateway) (sink : σ) (now : Instant) :
    List Nat → Settled σ
  | [] => g.dispatch sink
  | n :: ns =>
      let ran := g.runTask n now ((g.task? n).elim 0 stepsOf)
      let delivered := ran.gateway.dispatch sink
      let later := delivered.gateway.runTasks delivered.sink now ns
      { later with logs := ran.logs ++ delivered.logs ++ later.logs }

/-- Lets the tasks and the dispatcher run until there is nothing left to do. -/
def settle {σ : Type} [TopicSink σ] (g : Gateway) (sink : σ) (now : Instant) : Settled σ :=
  { g with ready := [] }.runTasks sink now g.ready

/-- What becomes of a chunk whose sender waits for room. -/
structure Sent (σ : Type) where
  value : Except Error Unit
  settled : Settled σ

/-- Sends a chunk to a task.  While there is no room the sender waits, and everything else runs. -/
def send {σ : Type} [TopicSink σ] (g : Gateway) (sink : σ) (n : Nat) (chunk : Bytes)
    (now : Instant) : Sent σ :=
  match g.push n chunk with
  | (.queued, g) => { value := .ok (), settled := { gateway := g, sink, logs := [] } }
  | (.closed, g) => { value := .error .sessionClosed, settled := { gateway := g, sink, logs := [] } }
  | (.full, g) =>
      let rested := g.settle sink now
      let (reception, g) := rested.gateway.push n chunk
      { value := if reception = .queued then .ok () else .error .sessionClosed
        settled := { rested with gateway := g } }

/-- Sends a chunk to a connected device. -/
def sendChunk {σ : Type} [TopicSink σ] (g : Gateway) (sink : σ) (id : String) (chunk : Bytes)
    (now : Instant) : Sent σ :=
  match g.deviceTask? id with
  | none => { value := .error (.unknownDevice id), settled := { gateway := g, sink, logs := [] } }
  | some n => g.send sink n chunk now

end SensorGateway.Gateway
