import SensorGateway.Bus.Publisher

/-!
# Calls and the dispatcher side by side

Whoever holds a publisher may bind, detach and publish at any time, so several calls can be under way
at once, and the dispatcher works beside them.  A call is made of steps, and between two of them
anything else may happen.  A step does one thing: it takes one lock, draws one number, tries to queue
one envelope, counts one, moves one mark or logs one line.  An `Errand` is what a call has still to
do, with what it has found so far.  The dispatcher takes an envelope, looks whether it is current,
offers it to the sink, which may keep it waiting, and logs what there is to be told of it.  The mark
that says whether the last offer failed is its own, and is moved with the answer.

`Traffic` is a publisher in the middle of this.  Calls are numbered in the order in which they begin.
What takes effect is written down as it happens; nothing that is done depends on what is written.
-/

namespace SensorGateway

/-- What can be asked of a publisher. -/
inductive Request
  | bind (device : String) (topics : List String)
  | detach (device : String)
  | publish (device : String) (record : Record) (now : Instant)

/-- What a call that publishes has to queue. -/
structure Mailing where
  device : String
  /-- The binding that the call has found. -/
  binding : Binding
  payload : Json
  /-- The topics for which nothing has been tried yet. -/
  topics : List String
  /-- How many envelopes have been queued. -/
  queued : Nat := 0

/-- The envelope for a topic. -/
def Mailing.envelope (m : Mailing) (topic : String) : Envelope :=
  m.binding.envelope m.device m.payload topic

/-- What a call has still to do. -/
inductive Errand
  /-- Draw a number for a binding. -/
  | numbering (device : String) (topics : List String)
  | binding (device : String) (b : Binding)
  /-- Let the device be warned about again. -/
  | forgiving (device : String)
  | unbinding (device : String)
  /-- Forget the last payload of the device. -/
  | forgetting (device : String)
  /-- Look for the binding of the device. -/
  | looking (device : String) (record : Record) (now : Instant)
  /-- Note that the device, which has no binding, has been warned about. -/
  | warning (device : String)
  /-- Note the last payload of the device. -/
  | noting (device : String) (b : Binding) (payload : Json)
  /-- Try to queue the next envelope. -/
  | sending (m : Mailing)
  /-- Note that there was room for an envelope. -/
  | clearing (m : Mailing)
  /-- Count an envelope that is lost. -/
  | counting (m : Mailing) (e : Envelope)
  /-- Note that there was no room for an envelope. -/
  | raising (m : Mailing) (e : Envelope)
  /-- Log a line about the queue. -/
  | telling (m : Mailing) (line : Log.Entry)
  /-- Log a last line about a device, or about its payloads, and return this number. -/
  | parting (device : String) (line : Log.Entry) (answer : Nat)
  /-- The call has returned this number; nothing is made of it unless a record was published. -/
  | returned (answer : Nat)

/-- The errand that a call begins with. -/
def Request.errand : Request → Errand
  | bind device topics => .numbering device topics
  | detach device => .unbinding device
  | publish device record now => .looking device record now

/-- Something that takes effect. -/
inductive Incident
  | bound (device : String) (b : Binding)
  /-- A device may be warned about again. -/
  | forgiven (device : String)
  | unbound (device : String)
  /-- A call that publishes has found this binding of the device, and made this payload. -/
  | found (call : Nat) (device : String) (b : Binding) (payload : Json)
  /-- A call that publishes has found the device without a binding. -/
  | missed (call : Nat) (device : String)
  /-- It has noted that the device has been warned about, and has this to tell. -/
  | noted (call : Nat) (device : String) (news : Option Log.Entry)
  /-- A call has queued an envelope. -/
  | queued (call : Nat) (e : Envelope)
  /-- It has noted that there was room, and has this to tell. -/
  | cleared (call : Nat) (news : Option Log.Entry)
  /-- A call has lost an envelope for want of room. -/
  | lost (call : Nat) (e : Envelope)
  /-- It has noted that there was no room, and has this to tell. -/
  | raised (call : Nat) (e : Envelope) (news : Option Log.Entry)
  /-- A call has found that nobody takes envelopes out of the queue any more. -/
  | refused (call : Nat) (e : Envelope)
  /-- A call has logged a line about the queue, and goes on. -/
  | told (call : Nat) (line : Log.Entry)
  /-- A call has logged its last line. -/
  | parted (call : Nat) (line : Log.Entry)
  /-- The dispatcher has taken an envelope out of the queue. -/
  | taken (e : Envelope)
  /-- It has found the envelope current, and hands it to the sink. -/
  | handed (e : Envelope)
  /-- It has found that the envelope is not current. -/
  | discarded (e : Envelope)
  /-- The sink has been offered a delivery for an envelope.  It has received it so, and logged lines
  of its own; and this is what the dispatcher has to tell of it. -/
  | offered (e : Envelope) (d : Delivery) (r : Reception) (own : List Log.Entry)
      (news : Option Log.Entry)
  /-- The dispatcher has logged a line. -/
  | reported (line : Log.Entry)

/-- The lines that are logged. -/
def Incident.lines : Incident → List Log.Entry
  | told _ line | parted _ line | reported line => [line]
  | offered _ _ _ own _ => own
  | bound _ _ | forgiven _ | unbound _ | found _ _ _ _ | missed _ _ | noted _ _ _ | queued _ _
  | cleared _ _ | lost _ _ | raised _ _ _ | refused _ _ | taken _ | handed _ | discarded _ => []

/-- What has taken effect, in order. -/
abbrev History := List Incident

/-- What has been logged. -/
def History.lines (h : History) : List Log.Entry := h.flatMap Incident.lines

namespace Errand

/-- What a step of a call does. -/
structure Progress where
  publisher : Publisher
  /-- What is left to do. -/
  errand : Errand
  incident : Option Incident := none

/-- What a call does after it has moved a mark: it logs a line, if there is one. -/
def tellNews (m : Mailing) : Option Log.Entry → Errand
  | some line => telling m line
  | none => sending m

/-- What a call does at the end: it logs a line, if there is one, and returns a number. -/
def part (device : String) (answer : Nat) : Option Log.Entry → Errand
  | some line => parting device line answer
  | none => returned answer

/-- The next step of a call with a number; nothing if the call is over. -/
def advance (p : Publisher) (call : Nat) : Errand → Option Progress
  | numbering device topics =>
      some
        { publisher := { p with nextGeneration := p.nextGeneration + 1 }
          errand := .binding device { topics, generation := p.nextGeneration } }
  | binding device b =>
      some
        { publisher := { p with bindings := p.bindings.insert device b }
          errand := .forgiving device
          incident := some (.bound device b) }
  | forgiving device =>
      some
        { publisher := { p with warnedUnbound := p.warnedUnbound.filter (· != device) }
          errand := .returned 0
          incident := some (.forgiven device) }
  | unbinding device =>
      some
        { publisher := { p with bindings := p.bindings.erase device }
          errand := .forgetting device
          incident := some (.unbound device) }
  | forgetting device =>
      some { publisher := { p with lastKnown := p.lastKnown.erase device }, errand := .returned 0 }
  | looking device record now =>
      match p.bindings.find? device with
      | none =>
          some { publisher := p, errand := .warning device, incident := some (.missed call device) }
      | some b =>
          let payload := record.payload device now
          some
            { publisher := p
              errand := .noting device b payload
              incident := some (.found call device b payload) }
  | warning device =>
      let news := p.unboundNews? device
      some
        { publisher := p.noteUnbound device
          errand := part device 0 news
          incident := some (.noted call device news) }
  | noting device b payload =>
      some
        { publisher := { p with lastKnown := p.lastKnown.insert device payload }
          errand := .sending { device, binding := b, payload, topics := b.topics } }
  | sending m =>
      match m.topics with
      | [] => some { publisher := p, errand := .returned m.queued }
      | topic :: topics =>
          let e := m.envelope topic
          match p.fate with
          | .queued =>
              some
                { publisher := p.put e
                  errand := .clearing { m with topics, queued := m.queued + 1 }
                  incident := some (.queued call e) }
          | .lost =>
              some
                { publisher := p
                  errand := .counting { m with topics } e
                  incident := some (.lost call e) }
          | .refused =>
              some
                { publisher := p
                  errand := .parting m.device Publisher.stoppedError m.queued
                  incident := some (.refused call e) }
  | clearing m =>
      let news := p.clearNews?
      some
        { publisher := p.clear
          errand := tellNews m news
          incident := some (.cleared call news) }
  | counting m e => some { publisher := p.count, errand := .raising m e }
  | raising m e =>
      let news := p.raiseNews? e
      some
        { publisher := p.raise
          errand := tellNews m news
          incident := some (.raised call e news) }
  | telling m line =>
      some { publisher := p, errand := .sending m, incident := some (.told call line) }
  | parting _ line answer =>
      some { publisher := p, errand := .returned answer, incident := some (.parted call line) }
  | returned _ => none

/-- The device that the call is publishing for. -/
def publishesFor? : Errand → Option String
  | looking device _ _ | warning device | noting device _ _ | parting device _ _ => some device
  | sending m | clearing m | counting m _ | raising m _ | telling m _ => some m.device
  | numbering _ _ | binding _ _ | forgiving _ | unbinding _ | forgetting _ | returned _ => none

end Errand

/-- A publisher with the calls that have been made, and what has taken effect. -/
structure Traffic where
  publisher : Publisher
  /-- All calls ever begun, by number. -/
  errands : List Errand := []
  /-- An envelope that the dispatcher has taken, and not yet looked at. -/
  fresh : Option Envelope := none
  /-- A line that the dispatcher logs before it does anything else. -/
  due : Option Log.Entry := none
  history : History := []

namespace Traffic

/-- A publisher of which nothing has been asked. -/
def start (capacity : Nat) (suppressRepeats : Bool) : Traffic where
  publisher := .new capacity suppressRepeats

/-- What has been logged. -/
def logs (t : Traffic) : List Log.Entry := t.history.lines

/-- Whose turn it is. -/
inductive Turn
  /-- A call begins. -/
  | begin (r : Request)
  /-- The call with a number makes its next step. -/
  | proceed (call : Nat)
  /-- The dispatcher takes the next envelope. -/
  | take
  /-- The dispatcher looks whether the envelope that it has taken is current. -/
  | check
  /-- The dispatcher offers a sink the envelope that it is to have. -/
  | offer {σ : Type} [TopicSink σ] (sink : σ)
  /-- The dispatcher logs what there is to be told of the offer. -/
  | report

/-- What becomes of an envelope that the sink is offered in this form. -/
def settle {σ : Type} (t : Traffic) (e : Envelope) (d : Delivery) (o : Offered σ) : Traffic :=
  let news := t.publisher.offerNews? e o.reception
  { t with
    publisher := (t.publisher.settleOffer e o).publisher
    due := news
    history := t.history ++ [.offered e d o.reception o.logs news] }

/-- The traffic after a turn; nothing if there is nothing to be done in it. -/
def step? (t : Traffic) : Turn → Option Traffic
  | .begin r => some { t with errands := t.errands ++ [r.errand] }
  | .proceed call => do
      let errand ← t.errands[call]?
      let progress ← errand.advance t.publisher call
      some
        { t with
          publisher := progress.publisher
          errands := t.errands.set call progress.errand
          history := t.history ++ progress.incident.toList }
  | .take =>
      match t.due, t.publisher.dispatcher, t.fresh, t.publisher.queue with
      | none, .ready, none, e :: rest =>
          some
            { t with
              publisher := { t.publisher with queue := rest }
              fresh := some e
              history := t.history ++ [.taken e] }
      | _, _, _, _ => none
  | .check =>
      match t.due, t.fresh with
      | none, some e =>
          if t.publisher.isCurrent e then
            some
              { t with
                publisher := { t.publisher with dispatcher := .holding e }
                fresh := none
                history := t.history ++ [.handed e] }
          else some { t with fresh := none, history := t.history ++ [.discarded e] }
      | _, _ => none
  | @Turn.offer _ _ sink =>
      match t.due, t.publisher.dispatcher with
      | none, .holding e => some (t.settle e e.delivery (TopicSink.offer sink e.delivery))
      | _, _ => none
  | .report =>
      match t.due with
      | some line => some { t with due := none, history := t.history ++ [.reported line] }
      | none => none

/-- The traffic after several turns; nothing if there is nothing to be done in one of them. -/
def run? (t : Traffic) : List Turn → Option Traffic
  | [] => some t
  | turn :: turns => (t.step? turn).bind fun t' => t'.run? turns

end Traffic

end SensorGateway
