import SensorGateway.Proofs.Gateway.Journal

/-!
# The log of events

A log is kept of a run: which chunks tasks decode into which events, which events they emit, and
which ones the application receives.  Like the journals it is kept beside the gateway; no move looks
at it.  What it says of one task and what it says of one device are read off it.
-/

namespace SensorGateway

/-- An event that a task emits. -/
structure Emission where
  /-- The number of the task. -/
  number : Nat
  event : Event
  /-- Whether the task has not been silenced. -/
  live : Bool
  /-- How many events are waiting. -/
  waiting : Nat

/-- Whether there is room for it; otherwise it is lost. -/
def Emission.isQueued (e : Emission) : Bool := e.waiting < Gateway.eventCapacity

/-- Something that happens to events. -/
inductive Occurrence
  /-- A task decodes a chunk into events. -/
  | decoded (number : Nat) (handling : Handling)
  | emitted (emission : Emission)
  /-- The application receives events. -/
  | received (events : List Event)

namespace Occurrence

def handling? (n : Nat) : Occurrence → Option Handling
  | decoded number handling => if number = n then some handling else none
  | emitted _ | received _ => none

def emission? : Occurrence → Option Emission
  | emitted emission => some emission
  | decoded _ _ | received _ => none

/-- The events that are decoded. -/
def told : Occurrence → List Event
  | decoded _ handling => handling.events
  | emitted _ | received _ => []

/-- The events that are received. -/
def heard : Occurrence → List Event
  | received events => events
  | decoded _ _ | emitted _ => []

/-- What a task has handled. -/
def handlings (n : Nat) (log : List Occurrence) : List Handling := log.filterMap (handling? n)

/-- The events that a task has decoded. -/
def decodedBy (n : Nat) (log : List Occurrence) : List Event :=
  (handlings n log).flatMap Handling.events

def emissions (log : List Occurrence) : List Emission := log.filterMap emission?

/-- The events that a task has emitted. -/
def emittedBy (n : Nat) (log : List Occurrence) : List Event :=
  ((emissions log).filter (·.number = n)).map Emission.event

/-- The events that have been emitted and were not lost. -/
def queued (log : List Occurrence) : List Event :=
  ((emissions log).filter Emission.isQueued).map Emission.event

/-- The events of a device that have been decoded. -/
def decodedOf (id : String) (log : List Occurrence) : List Event :=
  (log.flatMap told).filter (·.device = id)

/-- The events of a device that have been emitted. -/
def emittedOf (id : String) (log : List Occurrence) : List Event :=
  ((emissions log).map Emission.event).filter (·.device = id)

/-- The events of all devices that have been received. -/
def receivedAll (log : List Occurrence) : List Event := log.flatMap heard

section append

variable (n : Nat) (id : String) (log more : List Occurrence)

/-- What a task handles later comes behind what it has handled before, -/
theorem handlings_append : handlings n (log ++ more) = handlings n log ++ handlings n more :=
  List.filterMap_append ..

/-- and so it is with what it decodes, -/
theorem decodedBy_append : decodedBy n (log ++ more) = decodedBy n log ++ decodedBy n more := by
  simp only [decodedBy, handlings_append, List.flatMap_append]

/-- with what is emitted, -/
theorem emissions_append : emissions (log ++ more) = emissions log ++ emissions more :=
  List.filterMap_append ..

/-- with what one task emits, -/
theorem emittedBy_append : emittedBy n (log ++ more) = emittedBy n log ++ emittedBy n more := by
  simp only [emittedBy, emissions_append, List.filter_append, List.map_append]

/-- with what is put into the queue of events, -/
theorem queued_append : queued (log ++ more) = queued log ++ queued more := by
  simp only [queued, emissions_append, List.filter_append, List.map_append]

/-- with what is decoded for a device, -/
theorem decodedOf_append : decodedOf id (log ++ more) = decodedOf id log ++ decodedOf id more := by
  simp only [decodedOf, List.flatMap_append, List.filter_append]

/-- with what is emitted for it, -/
theorem emittedOf_append : emittedOf id (log ++ more) = emittedOf id log ++ emittedOf id more := by
  simp only [emittedOf, emissions_append, List.map_append, List.filter_append]

/-- and with what is received. -/
theorem receivedAll_append : receivedAll (log ++ more) = receivedAll log ++ receivedAll more :=
  List.flatMap_append

end append

/-- One task has decoded a chunk, and no other. -/
theorem handlings_decoded (n k : Nat) (handling : Handling) :
    handlings n [decoded k handling] = if k = n then [handling] else [] := by
  by_cases hk : k = n <;> simp [handlings, handling?, hk]

/-- What a task decodes are the events of the chunk. -/
theorem decodedBy_decoded (n : Nat) (handling : Handling) :
    decodedBy n [decoded n handling] = handling.events := by
  rw [decodedBy, handlings_decoded, if_pos rfl, List.flatMap_singleton]

/-- What is emitted is emitted by one task. -/
theorem emittedBy_emitted (n : Nat) (e : Emission) :
    emittedBy n [emitted e] = if e.number = n then [e.event] else [] := by
  by_cases hnumber : e.number = n <;> simp [emittedBy, emissions, emission?, hnumber]

/-- What is decoded for a device are those events that are the device's. -/
theorem decodedOf_decoded (id : String) (n : Nat) (handling : Handling) :
    decodedOf id [decoded n handling] = handling.events.filter (·.device = id) := by
  rw [decodedOf, List.flatMap_singleton, told]

/-- What is emitted for a device is an event of the device. -/
theorem emittedOf_emitted (id : String) (e : Emission) :
    emittedOf id [emitted e] = if e.event.device = id then [e.event] else [] := by
  by_cases hid : e.event.device = id <;> simp [emittedOf, emissions, emission?, hid]

/-- An event that is emitted is put into the queue if there is room. -/
theorem queued_emitted (e : Emission) :
    queued [emitted e] = if e.isQueued then [e.event] else [] := by
  by_cases hqueued : e.isQueued = true <;> simp [queued, emissions, emission?, hqueued]

/-- What is taken out of the queue is received. -/
theorem receivedAll_received (events : List Event) : receivedAll [received events] = events :=
  List.flatMap_singleton ..

end Occurrence

/-- What the next step of a task is, when so many events are waiting. -/
def Task.occurrence? (t : Task) (n : Nat) (now : Instant) (waiting : Nat) : Option Occurrence :=
  match t.phase with
  | .decoding chunk =>
      some (.decoded n { chunk, time := now, events := (t.session.handle chunk now).events })
  | .emitting (event :: _) => some (.emitted { number := n, event, live := t.live, waiting })
  | .emitting [] | .waiting | .reporting _ | .publishing _ | .ended => none

/-- A step of a task handles what is written down of it. -/
theorem Task.handlings_occurrence? (t : Task) (n : Nat) (now : Instant) (waiting : Nat) :
    Occurrence.handlings n (t.occurrence? n now waiting).toList = (t.handling? now).toList := by
  unfold occurrence? handling?
  split
  next hphase =>
    rw [hphase, Option.toList_some, Occurrence.handlings_decoded, if_pos rfl]
    rfl
  all_goals
    next hphase =>
      rw [hphase]
      rfl

namespace Moment

def occurrence? (m : Moment) : Move → Option Occurrence
  | .task n now =>
      (m.gateway.task? n).bind fun t => t.occurrence? n now m.gateway.events.length
  | .receive count => some (.received (m.gateway.events.take count))
  | _ => none

/-- What happens to events in the moves. -/
def log (m : Moment) (moves : List Move) : List Occurrence := m.journal occurrence? moves

/-- What may happen to events in a move. -/
inductive Occurs (m : Moment) : Option Occurrence → Prop
  | nothing : Occurs m none
  | received (events : List Event) : Occurs m (some (.received events))
  | decoded {n : Nat} {t : Task} {chunk : Bytes} (now : Instant) : m.gateway.task? n = some t →
      t.phase = .decoding chunk →
      Occurs m (some (.decoded n
        { chunk, time := now, events := (t.session.handle chunk now).events }))
  | emitted {n : Nat} {t : Task} {event : Event} {rest : List Event} :
      m.gateway.task? n = some t → t.phase = .emitting (event :: rest) →
      Occurs m (some (.emitted
        { number := n, event, live := t.live, waiting := m.gateway.events.length }))

/-- What is written down of a move occurs in it. -/
theorem occurs (m : Moment) (move : Move) : m.Occurs (m.occurrence? move) := by
  unfold occurrence?
  split
  next n now =>
    cases ht : m.gateway.task? n with
    | none => exact .nothing
    | some t =>
        rw [Option.bind_some, Task.occurrence?]
        split
        next hphase => exact .decoded now ht hphase
        next hphase => exact .emitted ht hphase
        all_goals exact .nothing
  · exact .received _
  · exact .nothing

/-- What happens in a step of one task is none of another's. -/
theorem occurrence?_of_ne (m : Moment) (now : Instant) {n k : Nat} (hne : k ≠ n) :
    Occurrence.handlings n (m.occurrence? (.task k now)).toList = [] ∧
      Occurrence.emittedBy n (m.occurrence? (.task k now)).toList = [] := by
  rw [occurrence?]
  cases m.gateway.task? k with
  | none => exact ⟨rfl, rfl⟩
  | some t =>
      rw [Option.bind_some, Task.occurrence?]
      split
      · refine ⟨?_, rfl⟩
        rw [Option.toList_some, Occurrence.handlings_decoded, if_neg hne]
      · refine ⟨rfl, ?_⟩
        rw [Option.toList_some, Occurrence.emittedBy_emitted, if_neg hne]
      all_goals exact ⟨rfl, rfl⟩

/-- A task handles in a move what is written down of it. -/
theorem handlings_occurrence? (m : Moment) (n : Nat) (move : Move) :
    Occurrence.handlings n (m.occurrence? move).toList = (m.handling? n move).toList := by
  cases move with
  | task k now =>
      rw [handling?]
      by_cases hk : k = n
      · subst hk
        rw [if_pos rfl, occurrence?]
        cases m.gateway.task? k with
        | none => rfl
        | some t => exact t.handlings_occurrence? k now m.gateway.events.length
      · rw [if_neg hk]
        exact (m.occurrence?_of_ne now hk).1
  | call | access | linger | offer | dispatch | receive => rfl

/-- What a task handles is in the log. -/
theorem handlings_log (m : Moment) (n : Nat) (moves : List Move) :
    Occurrence.handlings n (m.log moves) = m.handled n moves := by
  induction moves generalizing m with
  | nil => rfl
  | cons move moves ih =>
      rw [log, handled, journal, journal, Occurrence.handlings_append, handlings_occurrence?]
      cases m.step? move with
      | none => rfl
      | some m' => exact congrArg _ (ih m')

end Moment

end SensorGateway
