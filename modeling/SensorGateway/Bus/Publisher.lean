import SensorGateway.Bus.Delivery
import SensorGateway.Telemetry.Record

/-!
# The publishing queue

A device is *bound* to topics.  Publishing its record makes one payload and queues an envelope of it
for each topic; a single dispatcher takes the envelopes in order and offers them to the sink.  So
decoding never waits for the bus: when the queue is full, the newest payload is lost and counted.

Each binding has a generation of its own.  An envelope remembers the generation under which it was
published, and the dispatcher discards it when that is no longer the device's: nothing is delivered
for a device that has been detached, also when it has been bound again in the meantime.

Troubles are warned of once while they last, unless repeats are wanted, and their end is told once.
-/

namespace SensorGateway

/-- Where the payloads of a device go. -/
structure Binding where
  topics : List String
  /-- The number of the binding, different for each. -/
  generation : Nat
  deriving DecidableEq, Repr

/-- A payload on its way to a topic. -/
structure Envelope where
  device : String
  /-- The binding under which it was published. -/
  generation : Nat
  topic : String
  payload : Json
  deriving BEq

/-- The envelope of a payload that a device with this binding publishes to a topic. -/
def Binding.envelope (b : Binding) (device : String) (payload : Json) (topic : String) :
    Envelope where
  device
  generation := b.generation
  topic
  payload

/-- What the sink is offered of an envelope. -/
def Envelope.delivery (e : Envelope) : Delivery where
  topic := e.topic
  payload := e.payload

/-- What the dispatcher is doing. -/
inductive Dispatcher
  /-- Ready for the next envelope. -/
  | ready
  /-- Holding an envelope, found current, for which the sink has no room yet. -/
  | holding (envelope : Envelope)
  /-- Gone for good. -/
  | stopped
  deriving BEq

/-- The publishing queue and what is known of the devices. -/
structure Publisher where
  /-- The most envelopes that wait. -/
  capacity : Nat
  /-- Whether a trouble is warned of once only while it lasts. -/
  suppressRepeats : Bool
  bindings : KeyMap Binding := []
  /-- The last payload of each bound device. -/
  lastKnown : KeyMap Json := []
  /-- Devices that have been warned about since they were last bound. -/
  warnedUnbound : List String := []
  /-- The number of the next binding. -/
  nextGeneration : Nat := 0
  /-- Whether the last envelope found no room. -/
  queueFull : Bool := false
  /-- Whether the last offer failed. -/
  sinkFailing : Bool := false
  /-- Envelopes lost for want of room. -/
  dropped : Nat := 0
  /-- Envelopes that wait, the oldest first. -/
  queue : List Envelope := []
  dispatcher : Dispatcher := .ready

namespace Publisher

/-- The most envelopes for which a queue can be made: an eighth of what a word can count. -/
def capacityLimit : Nat := 2305843009213693951

/-- A publisher without bindings; there is room for at least one envelope. -/
def new (capacity : Nat) (suppressRepeats : Bool) : Publisher where
  capacity := max capacity 1
  suppressRepeats

/-- A line about the queue. -/
def note (level : Log.Level) (text : String) : Log.Entry where
  level
  source := .publisher
  message := "Publisher: " ++ text

/-- There is room in the queue again. -/
def queueDrained : Log.Entry := note .info "queue drained"

/-- The warning that an envelope has found no room. -/
def fullWarning (e : Envelope) : Log.Entry :=
  note .warn s!"queue full, dropping payload for {e.topic}"

/-- Nobody takes envelopes out of the queue any more. -/
def stoppedError : Log.Entry := note .error "dispatcher has stopped"

/-- The warning that a device has no binding. -/
def unboundWarning (device : String) : Log.Entry :=
  note .warn s!"no topics bound for {device}, not publishing"

/-- The sink takes deliveries again. -/
def busAvailable : Log.Entry := note .info "bus available again"

/-- The warning that the sink has failed to take an envelope. -/
def failedWarning (e : Envelope) (error : Error) : Log.Entry :=
  note .warn s!"failed to publish to {e.topic}: {error.message}"

/-- Binds a device to topics, in the place of an earlier binding. -/
def bind (p : Publisher) (device : String) (topics : List String) : Publisher :=
  { p with
    bindings := p.bindings.insert device { topics, generation := p.nextGeneration }
    warnedUnbound := p.warnedUnbound.filter (· != device)
    nextGeneration := p.nextGeneration + 1 }

/-- Forgets a device.  Envelopes that wait for it will not be delivered. -/
def detach (p : Publisher) (device : String) : Publisher :=
  { p with bindings := p.bindings.erase device, lastKnown := p.lastKnown.erase device }

/-- Whether the dispatcher is gone, so that nobody takes envelopes out of the queue any more. -/
def isClosed (p : Publisher) : Bool :=
  match p.dispatcher with
  | .stopped => true
  | .ready | .holding _ => false

/-- Whether an envelope was published under the binding that its device has now. -/
def isCurrent (p : Publisher) (e : Envelope) : Bool :=
  match p.bindings.find? e.device with
  | some b => b.generation == e.generation
  | none => false

/-! ## Publishing -/

/-- A publisher after an operation, with the number of envelopes queued by it. -/
structure Published where
  publisher : Publisher
  queued : Nat
  logs : List Log.Entry

/-- Whether to warn of a trouble, if this is how it was marked before. -/
def warns (p : Publisher) (marked : Bool) : Bool := !marked || !p.suppressRepeats

/-- What becomes of an envelope that is to be queued. -/
inductive Fate
  | queued
  /-- Lost for want of room. -/
  | lost
  /-- Nobody takes envelopes out of the queue any more. -/
  | refused
  deriving DecidableEq, Repr

/-- What becomes of the next envelope. -/
def fate (p : Publisher) : Fate :=
  if p.isClosed then .refused
  else if p.queue.length < p.capacity then .queued
  else .lost

/-- Puts an envelope into the queue, which has room. -/
def put (p : Publisher) (e : Envelope) : Publisher := { p with queue := p.queue ++ [e] }

/-- Notes that there was room. -/
def clear (p : Publisher) : Publisher := { p with queueFull := false }

/-- What is told when it is noted that there was room. -/
def clearNews? (p : Publisher) : Option Log.Entry :=
  if p.queueFull then some queueDrained else none

/-- Counts an envelope that is lost. -/
def count (p : Publisher) : Publisher := { p with dropped := p.dropped + 1 }

/-- Notes that there was no room. -/
def raise (p : Publisher) : Publisher := { p with queueFull := true }

/-- What is told when it is noted that there was no room for an envelope. -/
def raiseNews? (p : Publisher) (e : Envelope) : Option Log.Entry :=
  if p.warns p.queueFull then some (fullWarning e) else none

/-- A publisher after it has tried to queue an envelope. -/
structure Attempt where
  publisher : Publisher
  fate : Fate
  logs : List Log.Entry

/-- Tries to queue an envelope. -/
def trySend (p : Publisher) (e : Envelope) : Attempt :=
  match p.fate with
  | .refused => { publisher := p, fate := .refused, logs := [stoppedError] }
  | .queued =>
      { publisher := (p.put e).clear, fate := .queued, logs := (p.put e).clearNews?.toList }
  | .lost => { publisher := p.count.raise, fate := .lost, logs := (p.count.raiseNews? e).toList }

/-- Queues an envelope for each topic, as far as there is room and anybody to take them. -/
def enqueue (p : Publisher) (envelope : String → Envelope) : List String → Published
  | [] => { publisher := p, queued := 0, logs := [] }
  | topic :: topics =>
      let sent := p.trySend (envelope topic)
      match sent.fate with
      | .refused => { publisher := sent.publisher, queued := 0, logs := sent.logs }
      | .queued =>
          let rest := sent.publisher.enqueue envelope topics
          { rest with queued := rest.queued + 1, logs := sent.logs ++ rest.logs }
      | .lost =>
          let rest := sent.publisher.enqueue envelope topics
          { rest with logs := sent.logs ++ rest.logs }

/-- Notes that a device without a binding has been warned about. -/
def noteUnbound (p : Publisher) (device : String) : Publisher :=
  { p with warnedUnbound := p.warnedUnbound.insert device }

/-- What is told of a device without a binding. -/
def unboundNews? (p : Publisher) (device : String) : Option Log.Entry :=
  if p.warnedUnbound.contains device then none else some (unboundWarning device)

/-- Warns about a device that has no binding. -/
def warnUnbound (p : Publisher) (device : String) : Published where
  publisher := p.noteUnbound device
  queued := 0
  logs := (p.unboundNews? device).toList

/-- Publishes a record to all topics of its device. -/
def publish (p : Publisher) (device : String) (record : Record) (now : Instant) : Published :=
  match p.bindings.find? device with
  | none => p.warnUnbound device
  | some b =>
      let payload := record.payload device now
      let p := { p with lastKnown := p.lastKnown.insert device payload }
      p.enqueue (b.envelope device payload) b.topics

/-! ## Dispatching -/

/-- A publisher and its sink after a step of the dispatcher. -/
structure Dispatched (σ : Type) where
  publisher : Publisher
  sink : σ
  logs : List Log.Entry

/-- What is told of an envelope, if this is how the sink receives it. -/
def offerNews? (p : Publisher) (e : Envelope) : Reception → Option Log.Entry
  | .accepted => if p.sinkFailing then some busAvailable else none
  | .failed error => if p.warns p.sinkFailing then some (failedWarning e error) else none
  | .blocked | .broken => none

/-- What becomes of an envelope that has been offered. -/
def settleOffer {σ : Type} (p : Publisher) (e : Envelope) (o : Offered σ) : Dispatched σ where
  publisher :=
    match o.reception with
    | .accepted => { p with dispatcher := .ready, sinkFailing := false }
    | .failed _ => { p with dispatcher := .ready, sinkFailing := true }
    | .blocked => { p with dispatcher := .holding e }
    | .broken => { p with dispatcher := .stopped, queue := [] }
  sink := o.sink
  logs := o.logs ++ (p.offerNews? e o.reception).toList

/-- One step of the dispatcher: it offers the envelope that it holds, or takes the next one and
offers it if it is current.  Nothing when there is nothing to do. -/
def step {σ : Type} [TopicSink σ] (p : Publisher) (sink : σ) : Option (Dispatched σ) :=
  match p.dispatcher with
  | .stopped => none
  | .holding e =>
      let o := TopicSink.offer sink e.delivery
      if o.reception = .blocked then none else some (p.settleOffer e o)
  | .ready =>
      match p.queue with
      | [] => none
      | e :: rest =>
          let p := { p with queue := rest }
          if p.isCurrent e then some (p.settleOffer e (TopicSink.offer sink e.delivery))
          else some { publisher := p, sink, logs := [] }

/-- At most so many steps of the dispatcher. -/
def stepMany {σ : Type} [TopicSink σ] (p : Publisher) (sink : σ) : Nat → Dispatched σ
  | 0 => { publisher := p, sink, logs := [] }
  | n + 1 =>
      match p.step sink with
      | none => { publisher := p, sink, logs := [] }
      | some d =>
          let later := d.publisher.stepMany d.sink n
          { later with logs := d.logs ++ later.logs }

/-- Lets the dispatcher go on until it can do no more: one step for an envelope that it holds, and
at most one for each that waits and one more to find that there is no room. -/
def settle {σ : Type} [TopicSink σ] (p : Publisher) (sink : σ) : Dispatched σ :=
  p.stepMany sink (p.queue.length + 2)

end Publisher

end SensorGateway
